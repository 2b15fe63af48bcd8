import TurnByTurn.Proofs.Document.Refusal

/-!
Elements that stand where they do not belong. They are read like all others, so leaving them out
changes nothing only where nothing is open that they could be put into or take the place of.
-/

namespace TurnByTurn.Document

open Markup (Element Event)

inductive Content where
  | nil
  | other (rest : Content)
  | single (e : Element) (rest : Content)
  | pair (e : Element) (content rest : Content)

def isMisplaced (around : List String) (name : String) : Bool :=
  match name with
  | "tag" | "transit_route" => around.head? != some "edge"
  | "edge" | "transit_stop" => around.head? != some "node"
  | _ => false

structure Ignorable (around : List String) (e : Element) : Prop where
  accepted : refusal? e = none
  notMem : e.name ∉ ["trip_path", "location", "node"]
  edge_notMem : e.name ∈ ["edge", "tag", "transit_route"] → "edge" ∉ around
  node_notMem : e.name ∈ ["edge", "transit_stop"] → "node" ∉ around

instance (around : List String) (e : Element) : Decidable (Ignorable around e) :=
  decidable_of_iff
    (refusal? e = none ∧ e.name ∉ ["trip_path", "location", "node"] ∧
      (e.name ∈ ["edge", "tag", "transit_route"] → "edge" ∉ around) ∧
      (e.name ∈ ["edge", "transit_stop"] → "node" ∉ around))
    ⟨fun ⟨haccepted, hname, hoff, hapart⟩ => ⟨haccepted, hname, hoff, hapart⟩,
      fun h => ⟨h.accepted, h.notMem, h.edge_notMem, h.node_notMem⟩⟩

namespace Content

def events : Content → List Event
  | nil => []
  | other rest => .other :: rest.events
  | single e rest => .empty e :: rest.events
  | pair e content rest => .opening e :: (content.events ++ .closing e.name :: rest.events)

def elements : Content → List Element
  | nil => []
  | other rest => rest.elements
  | single e rest => e :: rest.elements
  | pair e content rest => e :: (content.elements ++ rest.elements)

def pruned (around : List String) : Content → Content
  | nil => nil
  | other rest => other (rest.pruned around)
  | single e rest =>
    if isMisplaced around e.name then rest.pruned around else single e (rest.pruned around)
  | pair e content rest =>
    if isMisplaced around e.name then rest.pruned around
    else pair e (content.pruned (e.name :: around)) (rest.pruned around)

def Harmless (around : List String) : Content → Prop
  | nil => True
  | other rest => rest.Harmless around
  | single e rest =>
    (isMisplaced around e.name → Ignorable around e) ∧ rest.Harmless around
  | pair e content rest =>
    (if isMisplaced around e.name then ∀ x ∈ e :: content.elements, Ignorable around x
      else content.Harmless (e.name :: around)) ∧ rest.Harmless around

instance decidableHarmless : (around : List String) → (c : Content) → Decidable (c.Harmless around)
  | _, nil => inferInstanceAs (Decidable True)
  | around, other rest => decidableHarmless around rest
  | around, single e rest =>
    have := decidableHarmless around rest
    inferInstanceAs (Decidable ((isMisplaced around e.name → Ignorable around e) ∧ _))
  | around, pair e content rest =>
    have := decidableHarmless (e.name :: around) content
    have := decidableHarmless around rest
    inferInstanceAs (Decidable ((if isMisplaced around e.name then
      ∀ x ∈ e :: content.elements, Ignorable around x
        else content.Harmless (e.name :: around)) ∧ _))

theorem events_single (e : Element) (rest : Content) :
    (single e rest).events = (single e nil).events ++ rest.events :=
  rfl

theorem events_pair (e : Element) (content rest : Content) :
    (pair e content rest).events = (pair e content nil).events ++ rest.events := by
  simp [events]

end Content

section Results

variable {ε α β : Type}

theorem exists_of_bind_eq_ok {x : Except ε α} {f : α → Except ε β} {b : β}
    (h : x.bind f = .ok b) : ∃ a, x = .ok a ∧ f a = .ok b := by
  cases x with
  | error failure => cases h
  | ok a => exact ⟨a, rfl, h⟩

theorem exists_of_map_eq_ok {x : Except ε α} {f : α → β} {b : β} (h : x.map f = .ok b) :
    ∃ a, x = .ok a ∧ f a = b := by
  cases x with
  | error failure => cases h
  | ok a => exact ⟨a, rfl, Except.ok.inj h⟩

end Results

namespace Draft

variable {d d' : Draft} {e : Element} {around : List String}

def enter (d : Draft) (e : Element) : Except (Except Failure TripPath) Draft :=
  match d.opened e with
  | .ok d => .ok d
  | .error failure => .error (.error failure)

def leave (d : Draft) (name : String) : Except (Except Failure TripPath) Draft :=
  if d.isDone (.closing name) then .error d.finish else .ok (d.closed name)

theorem opened_of_enter (h : d.enter e = .ok d') : d.opened e = .ok d' := by
  unfold enter at h
  cases hopened : d.opened e with
  | error failure =>
    rw [hopened] at h
    cases h
  | ok d₁ =>
    rw [hopened] at h
    exact congrArg Except.ok (Except.ok.inj h)

theorem closed_of_leave {name : String} (h : d.leave name = .ok d') : d.closed name = d' := by
  unfold leave at h
  split at h
  · cases h
  · exact Except.ok.inj h

theorem through_single (d : Draft) (e : Element) (rest : Content) :
    d.through (Content.single e rest).events =
      (d.enter e).bind fun d => (d.closed e.name).through rest.events := by
  rw [Content.events, through, next, enter]
  cases d.opened e <;> rfl

theorem through_closing (d : Draft) (name : String) (rest : List Event) :
    d.through (.closing name :: rest) = (d.leave name).bind fun d => d.through rest := by
  rw [through, leave, next]
  cases d.isDone (.closing name) <;> rfl

theorem through_pair (d : Draft) (e : Element) (content rest : Content) :
    d.through (Content.pair e content rest).events =
      (d.enter e).bind fun d => (d.through content.events).bind fun d =>
        (d.leave e.name).bind fun d => d.through rest.events := by
  rw [Content.events, through, next, enter]
  cases d.opened e with
  | error failure => rfl
  | ok d' =>
    change d'.through (content.events ++ .closing e.name :: rest.events) = _
    rw [through_append]
    exact congrArg (Except.bind _) (funext fun d => through_closing d e.name rest.events)

theorem failure?_opened (d : Draft) (e : Element) : failure? (d.opened e) = refusal? e := by
  obtain ⟨name, attributes⟩ := e
  unfold opened refusal?
  dsimp only
  split
  case h_8 => simp_all [failure?]
  all_goals exact failure?_map _ _

theorem exists_opened (h : refusal? e = none) (d : Draft) : ∃ d', d.opened e = .ok d' := by
  rw [← failure?_opened d] at h
  cases hopened : d.opened e with
  | error failure =>
    rw [hopened] at h
    cases h
  | ok d' => exact ⟨d', rfl⟩

theorem edge_closeEdge (d : Draft) : d.closeEdge.edge = none := by
  unfold closeEdge
  split <;> rfl

theorem closeEdge_of_node_eq_none (h : d.node = none) : d.closeEdge = { d with edge := none } := by
  unfold closeEdge
  rw [h]

theorem node_closeNode (d : Draft) : d.closeNode.node = none := by
  unfold closeNode
  split <;> rfl

theorem edge_closeNode (d : Draft) : d.closeNode.edge = d.edge := by
  unfold closeNode
  split <;> rfl

/-- No node and no edge is being read but inside of elements of these names. -/
structure IsWithin (around : List String) (d : Draft) : Prop where
  edge : "edge" ∉ around → d.edge = none
  node : "node" ∉ around → d.node = none

theorem edge_opened (h : d.opened e = .ok d') (hname : "edge" ≠ e.name) (hedge : d.edge = none) :
    d'.edge = none := by
  unfold opened at h
  split at h
  case h_4 hedge => exact absurd hedge.symm hname
  case h_8 => rwa [← Except.ok.inj h]
  all_goals
    obtain ⟨value, -, rfl⟩ := exists_of_map_eq_ok h
    simp [addLocation, setTag, setLine, setStop, hedge]

theorem node_opened (h : d.opened e = .ok d') (hname : "node" ≠ e.name) (hnode : d.node = none) :
    d'.node = none := by
  unfold opened at h
  split at h
  case h_3 hnode => exact absurd hnode.symm hname
  case h_8 => rwa [← Except.ok.inj h]
  all_goals
    obtain ⟨value, -, rfl⟩ := exists_of_map_eq_ok h
    simp [addLocation, setTag, setLine, setStop, hnode]

namespace IsWithin

theorem opened (h : d.IsWithin around) (hok : d.opened e = .ok d') :
    d'.IsWithin (e.name :: around) := by
  constructor
  · intro hedge
    rw [List.mem_cons, not_or] at hedge
    exact edge_opened hok hedge.1 (h.edge hedge.2)
  · intro hnode
    rw [List.mem_cons, not_or] at hnode
    exact node_opened hok hnode.1 (h.node hnode.2)

theorem closed {name : String} (h : d.IsWithin (name :: around)) :
    (d.closed name).IsWithin around := by
  have hedge : "edge" ≠ name → "edge" ∉ around → d.edge = none := by
    intro hname haround
    exact h.edge (by simp [hname, haround])
  have hnode : "node" ≠ name → "node" ∉ around → d.node = none := by
    intro hname haround
    exact h.node (by simp [hname, haround])
  unfold Draft.closed
  split
  · refine ⟨fun _ => edge_closeEdge d, fun haround => ?_⟩
    have hnone := hnode (by decide) haround
    rw [closeEdge_of_node_eq_none hnone]
    exact hnone
  · refine ⟨fun haround => ?_, fun _ => node_closeNode d⟩
    rw [edge_closeNode]
    exact hedge (by decide) haround
  · next hother hother' => exact ⟨hedge (Ne.symm hother), hnode (Ne.symm hother')⟩

theorem through {c : Content} (h : d.IsWithin around) (hok : d.through c.events = .ok d') :
    d'.IsWithin around := by
  induction c generalizing around d d' with
  | nil => rwa [← Except.ok.inj hok]
  | other rest ih => exact ih h hok
  | single e rest ih =>
    rw [through_single] at hok
    obtain ⟨d₁, hopen, hrest⟩ := exists_of_bind_eq_ok hok
    exact ih (h.opened (opened_of_enter hopen)).closed hrest
  | pair e content rest ihcontent ihrest =>
    rw [through_pair] at hok
    obtain ⟨d₁, hopen, hok⟩ := exists_of_bind_eq_ok hok
    obtain ⟨d₂, hcontent, hok⟩ := exists_of_bind_eq_ok hok
    obtain ⟨d₃, hclose, hrest⟩ := exists_of_bind_eq_ok hok
    have hinside := ihcontent (h.opened (opened_of_enter hopen)) hcontent
    rw [← closed_of_leave hclose] at hrest
    exact ihrest hinside.closed hrest

end IsWithin

/-- The same but for an edge that nothing will keep. -/
structure Beside (around : List String) (d d' : Draft) : Prop where
  path : d'.path = d.path
  node : d'.node = d.node
  edge : "edge" ∈ around ∨ "node" ∈ around → d'.edge = d.edge

section Ignorable

variable {start : Draft} (h : start.IsWithin around) (hbeside : Beside around start d)

theorem Beside.eq (h : d.IsWithin around) (h' : d'.IsWithin around)
    (hbeside : Beside around d d') : d' = d := by
  have hedge : d'.edge = d.edge := by
    by_cases haround : "edge" ∈ around
    · exact hbeside.edge (.inl haround)
    · rw [h.edge haround, h'.edge haround]
  obtain ⟨hpath, hnode, -⟩ := hbeside
  cases d
  cases d'
  simp_all

include h hbeside

theorem exists_enter_of_ignorable (he : Ignorable around e) :
    ∃ d', d.enter e = .ok d' ∧ Beside around start d' := by
  obtain ⟨d', hopened⟩ := exists_opened he.accepted d
  refine ⟨d', by rw [enter, hopened], ?_⟩
  obtain ⟨hpath, hnode, hedge⟩ := hbeside
  have hunset : "edge" ∉ around → ∀ f : Edge → Edge, "edge" ∈ around ∨ "node" ∈ around →
      d.edge.map f = start.edge := by
    intro haround f hsome
    rw [hedge hsome, h.edge haround]
    rfl
  obtain ⟨name, attributes⟩ := e
  obtain ⟨-, hname, hoff, hapart⟩ := he
  unfold opened at hopened
  dsimp only at hopened hname hoff hapart
  split at hopened
  case h_8 =>
    rw [← Except.ok.inj hopened]
    exact ⟨hpath, hnode, hedge⟩
  all_goals obtain ⟨value, -, rfl⟩ := exists_of_map_eq_ok hopened
  case h_4 =>
    have hnone := not_or.mpr ⟨hoff (by decide), hapart (by decide)⟩
    exact ⟨hpath, hnode, fun hsome => absurd hsome hnone⟩
  case h_5 => exact ⟨hpath, hnode, hunset (hoff (by decide)) _⟩
  case h_6 => exact ⟨hpath, hnode, hunset (hoff (by decide)) _⟩
  case h_7 =>
    refine ⟨hpath, ?_, hedge⟩
    rw [setStop, hnode, h.node (hapart (by decide))]
    rfl
  all_goals exact absurd (by decide) hname

theorem exists_leave_of_ignorable (he : Ignorable around e) :
    d.leave e.name = .ok (d.closed e.name) ∧ Beside around start (d.closed e.name) := by
  obtain ⟨hpath, hnode, hedge⟩ := hbeside
  obtain ⟨name, attributes⟩ := e
  obtain ⟨-, hname, hoff, hapart⟩ := he
  dsimp only at hname hoff hapart ⊢
  constructor
  · have hother : name ≠ "trip_path" := by
      rintro rfl
      exact hname (by decide)
    simp [leave, isDone, hother]
  · unfold closed
    split
    · have hnone := not_or.mpr ⟨hoff (by decide), hapart (by decide)⟩
      rw [closeEdge_of_node_eq_none (hnode.trans (h.node (hapart (by decide))))]
      exact ⟨hpath, hnode, fun hsome => absurd hsome hnone⟩
    · exact absurd (by decide) hname
    · exact ⟨hpath, hnode, hedge⟩

theorem exists_through_of_ignorable {c : Content} (hc : ∀ e ∈ c.elements, Ignorable around e) :
    ∃ d', d.through c.events = .ok d' ∧ Beside around start d' := by
  induction c generalizing d with
  | nil => exact ⟨d, rfl, hbeside⟩
  | other rest ih => exact ih hbeside hc
  | single e rest ih =>
    rw [Content.elements, List.forall_mem_cons] at hc
    obtain ⟨d₁, hopen, hbeside₁⟩ := exists_enter_of_ignorable h hbeside hc.1
    obtain ⟨-, hbeside₂⟩ := exists_leave_of_ignorable h hbeside₁ hc.1
    rw [through_single, hopen]
    exact ih hbeside₂ hc.2
  | pair e content rest ihcontent ihrest =>
    rw [Content.elements, List.forall_mem_cons, List.forall_mem_append] at hc
    obtain ⟨he, hcontent, hrest⟩ := hc
    obtain ⟨d₁, hopen, hbeside₁⟩ := exists_enter_of_ignorable h hbeside he
    obtain ⟨d₂, hthrough, hbeside₂⟩ := ihcontent hbeside₁ hcontent
    obtain ⟨hclose, hbeside₃⟩ := exists_leave_of_ignorable h hbeside₂ he
    obtain ⟨d₃, hgoes, hbeside₄⟩ := ihrest hbeside₃ hrest
    refine ⟨d₃, ?_, hbeside₄⟩
    rw [through_pair, hopen]
    change (d₁.through content.events).bind _ = _
    rw [hthrough]
    change (d₂.leave e.name).bind _ = _
    rw [hclose]
    exact hgoes

end Ignorable

theorem through_of_ignorable (h : d.IsWithin around) {c : Content}
    (hc : ∀ e ∈ c.elements, Ignorable around e) : d.through c.events = .ok d := by
  have hbeside : Beside around d d := ⟨rfl, rfl, fun _ => rfl⟩
  obtain ⟨d', hthrough, hbeside'⟩ := exists_through_of_ignorable h hbeside hc
  rw [hthrough, Beside.eq h (h.through hthrough) hbeside']

theorem through_pruned (h : d.IsWithin around) {c : Content} (hc : c.Harmless around) :
    d.through c.events = d.through (c.pruned around).events := by
  -- nothing is open but what is around, so a misplaced element that is left out leaves no trace
  induction c generalizing around d with
  | nil => rfl
  | other rest ih => exact ih h hc
  | single e rest ih =>
    obtain ⟨he, hrest⟩ := hc
    rw [Content.pruned]
    split
    · next hmisplaced =>
      have hignored : d.through (Content.single e .nil).events = .ok d :=
        through_of_ignorable h (by simpa [Content.elements] using he hmisplaced)
      rw [Content.events_single, through_append, hignored]
      exact ih h hrest
    · rw [through_single, through_single]
      cases hopen : d.enter e with
      | error result => rfl
      | ok d₁ => exact ih (h.opened (opened_of_enter hopen)).closed hrest
  | pair e content rest ihcontent ihrest =>
    obtain ⟨he, hrest⟩ := hc
    rw [Content.pruned]
    split
    · next hmisplaced =>
      rw [if_pos hmisplaced] at he
      have hignored : d.through (Content.pair e content .nil).events = .ok d :=
        through_of_ignorable h (by simpa [Content.elements] using he)
      rw [Content.events_pair, through_append, hignored]
      exact ihrest h hrest
    · next hplaced =>
      rw [if_neg hplaced] at he
      rw [through_pair, through_pair]
      cases hopen : d.enter e with
      | error result => rfl
      | ok d₁ =>
        have hinside := h.opened (opened_of_enter hopen)
        change (d₁.through content.events).bind _ = (d₁.through _).bind _
        rw [← ihcontent hinside he]
        cases hthrough : d₁.through content.events with
        | error result => rfl
        | ok d₂ =>
          change (d₂.leave e.name).bind _ = (d₂.leave e.name).bind _
          cases hclose : d₂.leave e.name with
          | error result => rfl
          | ok d₃ =>
            have hbehind := (hinside.through hthrough).closed
            rw [closed_of_leave hclose] at hbehind
            exact ihrest hbehind hrest

end Draft

theorem read_pruned {doc : Content} (h : doc.Harmless []) (ending : Option Failure) :
    read doc.events ending = read (doc.pruned []).events ending := by
  have hstart : Draft.IsWithin [] {} := ⟨fun _ => rfl, fun _ => rfl⟩
  have hrun := fun events => Draft.run_append ending {} events []
  simp only [List.append_nil] at hrun
  unfold read
  rw [hrun, hrun, Draft.through_pruned hstart h]

def strayParts : Content :=
  .pair ⟨"trip_path", .ok []⟩
    (.single ⟨"tag", .ok [("k", "name"), ("v", "Elm Lane")]⟩
      (.pair ⟨"edge", .ok [("length", "9")]⟩
        (.single ⟨"tag", .ok [("k", "name"), ("v", "Broad Street")]⟩ .nil)
        (.pair ⟨"node", .ok []⟩
          (.pair ⟨"edge", .ok [("length", "1")]⟩
            (.single ⟨"tag", .ok [("k", "name"), ("v", "Main Street")]⟩ .nil) .nil) .nil)))
    .nil

theorem read_pruned_strayParts : strayParts.Harmless [] ∧
    read strayParts.events none = read (strayParts.pruned []).events none := by
  have hharmless : strayParts.Harmless [] := by decide +kernel
  exact ⟨hharmless, read_pruned hharmless none⟩

def edgeInEdge : Content :=
  .pair ⟨"trip_path", .ok []⟩
    (.pair ⟨"node", .ok []⟩
      (.pair ⟨"edge", .ok [("length", "1")]⟩ (.single ⟨"edge", .ok [("length", "2")]⟩ .nil) .nil)
      .nil)
    .nil

/-- An edge inside of another one takes its place. -/
theorem not_forall_read_pruned :
    ¬ ∀ doc : Content, (doc.elements.map (·.name)).count "trip_path" = 1 →
      read doc.events none = read (doc.pruned []).events none := by
  intro h
  have hlengths := congrArg (fun x => x.toOption.map fun p => p.nodes.map fun n =>
    n.edge.map (·.length)) (h edgeInEdge (by decide))
  revert hlengths
  decide +kernel

example : [edgeInEdge, edgeInEdge.pruned []].map (fun doc =>
    (read doc.events none).toOption.map fun p => p.nodes.map fun n => n.edge.map (·.length)) =
      [some [some 2], some [some 1]] := by
  decide +kernel

end TurnByTurn.Document
