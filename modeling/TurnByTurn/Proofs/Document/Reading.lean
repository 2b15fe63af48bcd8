import TurnByTurn.Proofs.Document.Grammar

/-!
Reading a trip document, event by event, gives the path that it describes. Whatever follows, the
events of an element do nothing but put its value into the draft.
-/

namespace TurnByTurn.Document

open Markup (Element Event)

namespace Draft

theorem run_cons {d : Draft} {event : Event} (h : d.isDone event = false)
    (ending : Option Failure) (rest : List Event) :
    run ending d (event :: rest) = (d.next event).bind fun d => run ending d rest := by
  rw [run, h]
  rfl

/-- The draft after all of the events, or else what the reading ends with among them. -/
def through : Draft → List Event → Except (Except Failure TripPath) Draft
  | d, [] => .ok d
  | d, event :: rest =>
    if d.isDone event then .error d.finish
    else
      match d.next event with
      | .ok d => d.through rest
      | .error failure => .error (.error failure)

theorem through_append (d : Draft) (before rest : List Event) :
    d.through (before ++ rest) = (d.through before).bind fun d => d.through rest := by
  induction before generalizing d with
  | nil => rfl
  | cons event before ih =>
    rw [List.cons_append, through, through]
    cases d.isDone event with
    | true => rfl
    | false =>
      cases d.next event with
      | error failure => rfl
      | ok d' => exact ih d'

theorem run_append (ending : Option Failure) (d : Draft) (before rest : List Event) :
    run ending d (before ++ rest) =
      match d.through before with
      | .ok d => run ending d rest
      | .error result => result := by
  induction before generalizing d with
  | nil => rfl
  | cons event before ih =>
    rw [List.cons_append, run, through]
    cases d.isDone event with
    | true => rfl
    | false =>
      cases d.next event with
      | error failure => rfl
      | ok d' => exact ih d'

end Draft

section Yields

variable {α β : Type} {P : β → Prop}

def Yields (P : β → Prop) (x : Except Failure β) : Prop :=
  ∀ v, x = .ok v → P v

theorem yields_pure {v : β} (h : P v) : Yields P (pure v) := by
  rintro w ⟨⟩
  exact h

theorem Yields.bind {Q : α → Prop} {x : Except Failure α} {f : α → Except Failure β}
    (hx : Yields Q x) (h : ∀ a, Q a → Yields P (f a)) : Yields P (x >>= f) := by
  cases x with
  | error failure =>
    intro v hv
    cases hv
  | ok a => exact h a (hx a rfl)

theorem yields_bind {x : Except Failure α} {f : α → Except Failure β} (h : ∀ a, Yields P (f a)) :
    Yields P (x >>= f) :=
  Yields.bind (fun _ _ => trivial) fun a _ => h a

theorem Yields.map {Q : α → Prop} {x : Except Failure α} {f : α → β} (hx : Yields Q x)
    (h : ∀ a, Q a → P (f a)) : Yields P (x.map f) := by
  cases x with
  | error failure =>
    intro v hv
    cases hv
  | ok a =>
    rintro v ⟨⟩
    exact h a (hx a rfl)

theorem yields_map {x : Except Failure α} {f : α → β} (h : ∀ a, P (f a)) : Yields P (x.map f) :=
  Yields.map (fun _ _ => trivial) fun a _ => h a

end Yields

open Draft (run)

section Trees

variable {name : String} {α β γ δ σ : Type}

section Tags

variable {read : Attributes → Except Failure γ} {childEvents : α → List Event}
  {childValue : α → Except Failure δ} {put : γ → δ → γ} {slot : γ → Draft} {d : Draft}
  {t : Tree name α}

end Tags

end Trees

section Slots

theorem yields_readNode (a : Attributes) :
    Yields (fun n => n.edge = none ∧ n.stop = none) (readNode a) := by
  unfold readNode
  repeat (refine yields_bind ?_; intro _)
  exact yields_pure ⟨rfl, rfl⟩

theorem yields_readTripPath (a : Attributes) :
    Yields (fun p => p.locations = [] ∧ p.nodes = []) (readTripPath a) := by
  unfold readTripPath
  repeat (refine yields_bind ?_; intro _)
  exact yields_pure ⟨rfl, rfl⟩

end Slots

end TurnByTurn.Document
