import TurnByTurn.Proofs.Document.Misplaced
import TurnByTurn.Proofs.Document.SingleTags

namespace TurnByTurn.Document

open Markup (Element Event)

def elementOf? : Event → Option Element
  | .opening e | .empty e => some e
  | _ => none

def endsPath : Event → Bool
  | .closing name => name == "trip_path"
  | _ => false

def elementsWithin (events : List Event) : List Element :=
  (events.takeWhile (!endsPath ·)).filterMap elementOf?

theorem elementsWithin_cons_of_endsPath {event : Event} (h : endsPath event = true)
    (rest : List Event) : elementsWithin (event :: rest) = [] := by
  simp [elementsWithin, h]

theorem elementsWithin_cons {event : Event} (h : endsPath event = false) (rest : List Event) :
    elementsWithin (event :: rest) = (elementOf? event).toList ++ elementsWithin rest := by
  cases hevent : elementOf? event <;> simp [elementsWithin, h, hevent]

/-- The second path is the first one with more locations and nodes. In a draft the latest of them
come first. -/
def Extends (p q : TripPath) : Prop :=
  ∃ locations nodes,
    q = { p with locations := locations ++ p.locations, nodes := nodes ++ p.nodes }

theorem extends_refl (p : TripPath) : Extends p p := ⟨[], [], rfl⟩

theorem extends_trans {p q r : TripPath} (h : Extends p q) (h' : Extends q r) : Extends p r := by
  obtain ⟨locations, nodes, rfl⟩ := h
  obtain ⟨locations', nodes', rfl⟩ := h'
  exact ⟨locations' ++ locations, nodes' ++ nodes, by simp⟩

namespace Draft

variable {d d' : Draft} {p : TripPath}

theorem isDone_of_path (h : d.path = some p) (event : Event) : d.isDone event = endsPath event := by
  cases event <;> simp [isDone, endsPath, h]

theorem finish_of_path (h : d.path = some p) :
    d.finish = .ok { p with locations := p.locations.reverse, nodes := p.nodes.reverse } := by
  rw [finish, h]

theorem failure?_next (d : Draft) (event : Event) :
    failure? (d.next event) = (elementOf? event).bind refusal? := by
  cases event with
  | opening e => exact failure?_opened d e
  | empty e => exact (failure?_map _ _).trans (failure?_opened d e)
  | _ => rfl

section Step

theorem path_opened {e : Element} (hpath : d.path = some p) (h : d.opened e = .ok d') :
    ∃ q, d'.path = some q ∧ (e.name ≠ "trip_path" → Extends p q) := by
  unfold opened at h
  split at h
  case h_8 =>
    rw [← Except.ok.inj h]
    exact ⟨p, hpath, fun _ => extends_refl p⟩
  all_goals obtain ⟨value, -, rfl⟩ := exists_of_map_eq_ok h
  case h_1 hname => exact ⟨value, rfl, fun hother => absurd hname hother⟩
  case h_2 =>
    refine ⟨{ p with locations := value :: p.locations }, ?_, fun _ => ⟨[value], [], rfl⟩⟩
    simp [addLocation, hpath]
  all_goals exact ⟨p, hpath, fun _ => extends_refl p⟩

theorem path_closed (hpath : d.path = some p) (name : String) :
    ∃ q, (d.closed name).path = some q ∧ Extends p q := by
  unfold closed
  split
  · refine ⟨p, ?_, extends_refl p⟩
    unfold closeEdge
    split <;> exact hpath
  · unfold closeNode
    rw [hpath]
    cases d.node with
    | none => exact ⟨p, rfl, extends_refl p⟩
    | some n => exact ⟨_, rfl, [], [n], rfl⟩
  · exact ⟨p, hpath, extends_refl p⟩

theorem path_next {event : Event} (hpath : d.path = some p) (h : d.next event = .ok d') :
    ∃ q, d'.path = some q ∧ ((∀ e ∈ elementOf? event, e.name ≠ "trip_path") → Extends p q) := by
  cases event with
  | opening e =>
    obtain ⟨q, hq, hextends⟩ := path_opened hpath h
    exact ⟨q, hq, fun hother => hextends (hother e rfl)⟩
  | empty e =>
    obtain ⟨d₁, hopened, rfl⟩ := exists_of_map_eq_ok h
    obtain ⟨q, hq, hextends⟩ := path_opened hpath hopened
    obtain ⟨r, hr, hextends'⟩ := path_closed hq e.name
    exact ⟨r, hr, fun hother => extends_trans (hextends (hother e rfl)) hextends'⟩
  | closing name =>
    obtain ⟨q, hq, hextends⟩ := path_closed hpath name
    rw [← Except.ok.inj h]
    exact ⟨q, hq, fun _ => hextends⟩
  | other =>
    rw [← Except.ok.inj h]
    exact ⟨p, hpath, fun _ => extends_refl p⟩

end Step

section Run

theorem failure?_run (hpath : d.path = some p) (events : List Event) :
    failure? (run none d events) = (elementsWithin events).findSome? refusal? := by
  induction events generalizing d p with
  | nil =>
    rw [run, finish_of_path hpath]
    rfl
  | cons event rest ih =>
    rw [run, isDone_of_path hpath]
    cases hends : endsPath event with
    | true =>
      rw [if_pos rfl, finish_of_path hpath, elementsWithin_cons_of_endsPath hends]
      rfl
    | false =>
      have hnext := d.failure?_next event
      rw [if_neg Bool.false_ne_true, elementsWithin_cons hends, List.findSome?_append]
      cases hd : d.next event with
      | error failure =>
        rw [hd] at hnext
        cases helement : elementOf? event with
        | none => simp [helement, failure?] at hnext
        | some e =>
          rw [helement] at hnext
          have hrefused : refusal? e = some failure := hnext.symm
          simp [Except.bind, failure?, hrefused]
      | ok d' =>
        rw [hd] at hnext
        obtain ⟨q, hq, -⟩ := path_next hpath hd
        have hrest : failure? (run none d' rest) = _ := ih hq
        cases helement : elementOf? event with
        | none => simpa [Except.bind, helement] using hrest
        | some e =>
          rw [helement] at hnext
          have haccepted : refusal? e = none := hnext.symm
          simpa [Except.bind, haccepted] using hrest

theorem path_through (hpath : d.path = some p) {events : List Event}
    (h : d.through events = .ok d') : ∃ q, d'.path = some q := by
  induction events generalizing d p with
  | nil =>
    rw [← Except.ok.inj h]
    exact ⟨p, hpath⟩
  | cons event rest ih =>
    rw [through] at h
    split at h
    · cases h
    · cases hd : d.next event with
      | error failure =>
        rw [hd] at h
        cases h
      | ok d₁ =>
        rw [hd] at h
        obtain ⟨q, hq, -⟩ := path_next hpath hd
        exact ih hq h

theorem run_eq_through (ending : Option Failure) (d : Draft) (events : List Event) :
    run ending d events =
      match d.through events with
      | .ok d => run ending d []
      | .error result => result := by
  have happend := run_append ending d events []
  rwa [List.append_nil] at happend

theorem run_append_closing (hpath : d.path = some p) (events : List Event)
    (ending : Option Failure) :
    run ending d (events ++ [.closing "trip_path"]) = run none d events := by
  rw [run_append, run_eq_through none]
  cases hthrough : d.through events with
  | error result => rfl
  | ok d' =>
    obtain ⟨q, hq⟩ := path_through hpath hthrough
    change run ending d' [.closing "trip_path"] = d'.finish
    rw [run, isDone_of_path hq]
    rfl

theorem extends_run (hpath : d.path = some p) {events : List Event} {ending : Option Failure}
    {q : TripPath} (hother : ∀ e ∈ elementsWithin events, e.name ≠ "trip_path")
    (h : run ending d events = .ok q) :
    ∃ r, Extends p r ∧ q = { r with locations := r.locations.reverse, nodes := r.nodes.reverse } := by
  induction events generalizing d p with
  | nil =>
    cases ending with
    | some failure => cases h
    | none =>
      rw [run, finish_of_path hpath] at h
      exact ⟨p, extends_refl p, (Except.ok.inj h).symm⟩
  | cons event rest ih =>
    rw [run, isDone_of_path hpath] at h
    cases hends : endsPath event with
    | true =>
      rw [hends, if_pos rfl, finish_of_path hpath] at h
      exact ⟨p, extends_refl p, (Except.ok.inj h).symm⟩
    | false =>
      rw [hends, if_neg Bool.false_ne_true] at h
      rw [elementsWithin_cons hends] at hother
      obtain ⟨d₁, hd, hrun⟩ := exists_of_bind_eq_ok h
      obtain ⟨p₁, hp₁, hextends⟩ := path_next hpath hd
      obtain ⟨r, hr, hq⟩ := ih hp₁ (fun e he => hother e (List.mem_append_right _ he)) hrun
      refine ⟨r, extends_trans (hextends fun e he => hother e ?_) hr, hq⟩
      exact List.mem_append_left _ (Option.mem_toList.mpr he)

theorem exists_take_of_run (hpath : d.path = some p) {events more : List Event}
    {ending : Option Failure} {q : TripPath}
    (hother : ∀ e ∈ elementsWithin more, e.name ≠ "trip_path")
    (h : run ending d (events ++ more) = .ok q) :
    ∃ i j, run none d events =
      .ok { q with locations := q.locations.take i, nodes := q.nodes.take j } := by
  rw [run_append] at h
  rw [run_eq_through]
  cases hthrough : d.through events with
  | error result =>
    rw [hthrough] at h
    refine ⟨q.locations.length, q.nodes.length, ?_⟩
    simpa using h
  | ok d' =>
    rw [hthrough] at h
    obtain ⟨p', hp'⟩ := path_through hpath hthrough
    obtain ⟨r, ⟨locations, nodes, rfl⟩, rfl⟩ := extends_run hp' hother h
    refine ⟨p'.locations.length, p'.nodes.length, ?_⟩
    change d'.finish = _
    rw [finish_of_path hp']
    simp [List.take_left']

end Run

end Draft

/-- A trip path that the events end inside of is read as if it ended with them. Nothing but invalid
attributes can fail the reading, and what is read is the beginning of what a longer document says, as
long as no other path begins in it. -/
theorem read_truncated {before : List Event} {e : Element} (hname : e.name = "trip_path")
    {d : Draft} (hreach : Draft.through {} before = .ok d) (inside : List Event) :
    failure? (read (before ++ .opening e :: inside) none) =
        (e :: elementsWithin inside).findSome? refusal? ∧
      (∀ ending, read (before ++ .opening e :: (inside ++ [.closing "trip_path"])) ending =
        read (before ++ .opening e :: inside) none) ∧
      ∀ more ending p, (∀ x ∈ elementsWithin more, x.name ≠ "trip_path") →
        read (before ++ .opening e :: (inside ++ more)) ending = .ok p →
          ∃ i j, read (before ++ .opening e :: inside) none =
            .ok { p with locations := p.locations.take i, nodes := p.nodes.take j } := by
  have hread : ∀ events ending, read (before ++ .opening e :: events) ending =
      (d.opened e).bind fun d => Draft.run ending d events := by
    intro events ending
    rw [read, Draft.run_append, hreach]
    exact Draft.run_cons rfl ending events
  simp only [hread]
  have hrefused := Draft.failure?_opened d e
  rw [Draft.opened_tripPath hname] at hrefused ⊢
  cases hattributes : attributesAs e readTripPath with
  | error failure =>
    rw [hattributes] at hrefused
    have hrefusal : refusal? e = some failure := hrefused.symm
    refine ⟨?_, fun ending => rfl, ?_⟩
    · rw [List.findSome?_cons, hrefusal]
      rfl
    · intro more ending p hother h
      cases h
  | ok path =>
    rw [hattributes] at hrefused
    have hrefusal : refusal? e = none := hrefused.symm
    have hpath : { d with path := some path }.path = some path := rfl
    refine ⟨?_, ?_, ?_⟩
    · rw [List.findSome?_cons, hrefusal]
      exact Draft.failure?_run hpath inside
    · intro ending
      exact Draft.run_append_closing hpath inside ending
    · intro more ending p hother h
      exact Draft.exists_take_of_run hpath hother h

def cutTrip : Element := ⟨"trip_path", .ok [("trip_id", "7")]⟩

def firstNode : List Event :=
  [.opening ⟨"node", .ok []⟩, .empty ⟨"edge", .ok [("length", "1")]⟩, .closing "node"]

def cutInNode : List Event :=
  firstNode ++ [.opening ⟨"node", .ok []⟩, .empty ⟨"edge", .ok [("length", "2")]⟩]

def behindCut : List Event := [.closing "node", .closing "trip_path"]

theorem read_truncated_cutInNode : cutTrip.name = "trip_path" ∧
    Draft.through {} [.other] = .ok {} ∧
    (∀ x ∈ elementsWithin behindCut, x.name ≠ "trip_path") ∧
    ∃ p, read (.other :: .opening cutTrip :: (cutInNode ++ behindCut)) none = .ok p ∧
      ∃ i j, read (.other :: .opening cutTrip :: cutInNode) none =
        .ok { p with locations := p.locations.take i, nodes := p.nodes.take j } := by
  have hother : ∀ x ∈ elementsWithin behindCut, x.name ≠ "trip_path" := by decide
  obtain ⟨p, hp⟩ : ∃ p, read ([.other] ++ .opening cutTrip :: (cutInNode ++ behindCut)) none = .ok p :=
    ⟨_, rfl⟩
  have hname : cutTrip.name = "trip_path" := rfl
  have hreach : Draft.through {} [.other] = .ok {} := rfl
  have hcut := read_truncated hname hreach cutInNode
  exact ⟨hname, hreach, hother, p, hp, hcut.2.2 behindCut none p hother hp⟩

theorem not_forall_read_truncated :
    ¬ ∀ (before inside : List Event) (e : Element), e.name = "trip_path" →
      .closing "trip_path" ∉ inside →
        ∃ failure, read (before ++ .opening e :: inside) none = .error failure := by
  intro h
  obtain ⟨failure, hfailure⟩ := h [] cutInNode cutTrip rfl (by simp [cutInNode, firstNode])
  have hread : (read ([] ++ .opening cutTrip :: cutInNode) none).toOption.isNone = true := by
    rw [hfailure]
    rfl
  revert hread
  decide +kernel

example : (read (.opening cutTrip :: cutInNode) none).toOption.map
    (fun p => (p.tripId, p.nodes.length)) = some (7, 1) := by
  decide +kernel

end TurnByTurn.Document
