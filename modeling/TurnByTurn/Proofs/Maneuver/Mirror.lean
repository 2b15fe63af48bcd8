import TurnByTurn.Proofs.Maneuver.Redirect

/-!
Maneuvers in a mirror. Left and right change places, except where there is no other side: straight
on, where an exit is told to be on the right, and exactly half around, which is told to be left.
-/

namespace TurnByTurn

def mirrorHeading (heading : Nat) : Nat := (360 - heading % 360) % 360

theorem mirrorHeading_mod (heading : Nat) :
    mirrorHeading (heading % 360) = mirrorHeading heading := by
  simp [mirrorHeading]

theorem turnDegree_mirrorHeading (a b : Nat) :
    turnDegree (mirrorHeading a) (mirrorHeading b) = mirrorHeading (turnDegree a b) := by
  unfold turnDegree mirrorHeading
  omega

theorem mirrorHeading_lt_iff {degree : Nat} (hpos : 0 < degree) (hlt : degree < 360)
    (hhalf : degree ≠ 180) : mirrorHeading degree < 180 ↔ 180 ≤ degree := by
  unfold mirrorHeading
  omega

namespace Compass

def mirrored : Compass → Compass
  | north => north
  | northEast => northWest
  | east => west
  | southEast => southWest
  | south => south
  | southWest => southEast
  | west => east
  | northWest => northEast

theorem ofHeading_mirrorHeading (heading : Nat) :
    ofHeading (mirrorHeading heading) = (ofHeading heading).mirrored := by
  have hcircle : ∀ h < 360, ofHeading (mirrorHeading h) = (ofHeading h).mirrored := by
    decide +kernel
  rw [← mirrorHeading_mod, ← ofHeading_mod heading]
  exact hcircle _ (Nat.mod_lt _ (by decide))

end Compass

namespace Turn

def mirrored : Turn → Turn
  | straight => straight
  | slightRight => slightLeft
  | right => left
  | sharpRight => sharpLeft
  | uTurn => uTurn
  | sharpLeft => sharpRight
  | left => right
  | slightLeft => slightRight

theorem ofDegree_mirrorHeading (degree : Nat) :
    ofDegree (mirrorHeading degree) = (ofDegree degree).mirrored := by
  have hcircle : ∀ d < 360, ofDegree (mirrorHeading d) = (ofDegree d).mirrored := by
    decide +kernel
  rw [← mirrorHeading_mod, ← ofDegree_mod degree]
  exact hcircle _ (Nat.mod_lt _ (by decide))

theorem between_mirrorHeading (a b : Nat) :
    between (mirrorHeading a) (mirrorHeading b) = (between a b).mirrored := by
  rw [between, turnDegree_mirrorHeading, ofDegree_mirrorHeading, between]

theorem isSlight_mirrored (turn : Turn) : turn.mirrored.isSlight = turn.isSlight := by
  cases turn <;> rfl

theorem goesRight_eq_not_goesLeft {turn : Turn} (h : turn ≠ straight) (degree : Nat) :
    turn.goesRight degree = !turn.goesLeft degree := by
  cases turn
  case straight => exact absurd rfl h
  case uTurn =>
    by_cases hdegree : degree < 180
    · simp [goesRight, goesLeft, isRight, isLeft, hdegree]
    · simp [goesRight, goesLeft, isRight, isLeft, hdegree, Nat.not_lt.mp hdegree]
  all_goals rfl

section Sides

variable {turn : Turn} {degree : Nat}

theorem goesLeft_mirrored (hpos : 0 < degree) (hlt : degree < 360) (hhalf : degree ≠ 180) :
    turn.mirrored.goesLeft (mirrorHeading degree) = turn.goesRight degree := by
  have hside : 180 ≤ mirrorHeading degree ↔ degree < 180 := by
    rw [← Nat.not_lt, mirrorHeading_lt_iff hpos hlt hhalf, Nat.not_le]
  cases turn
  case uTurn => simp [goesRight, goesLeft, mirrored, isRight, isLeft, hside]
  all_goals rfl

theorem goesRight_mirrored (hpos : 0 < degree) (hlt : degree < 360) (hhalf : degree ≠ 180) :
    turn.mirrored.goesRight (mirrorHeading degree) = turn.goesLeft degree := by
  have hside := mirrorHeading_lt_iff hpos hlt hhalf
  cases turn
  case uTurn => simp [goesRight, goesLeft, mirrored, isRight, isLeft, hside]
  all_goals rfl

end Sides

end Turn

namespace ManeuverKind

def mirrored : ManeuverKind → ManeuverKind
  | slightRight => slightLeft
  | right => left
  | sharpRight => sharpLeft
  | uturnRight => uturnLeft
  | uturnLeft => uturnRight
  | sharpLeft => sharpRight
  | left => right
  | slightLeft => slightRight
  | rampRight => rampLeft
  | rampLeft => rampRight
  | exitRight => exitLeft
  | exitLeft => exitRight
  | kind => kind

theorem mirrored_eq_roundaboutEnter_iff (kind : ManeuverKind) :
    kind.mirrored = roundaboutEnter ↔ kind = roundaboutEnter := by
  cases kind <;> simp [mirrored]

theorem ofTurn_mirrored {turn : Turn} {degree : Nat} (hpos : 0 < degree) (hlt : degree < 360)
    (hhalf : degree ≠ 180) :
    ofTurn turn.mirrored (mirrorHeading degree) = (ofTurn turn degree).mirrored := by
  have hside := mirrorHeading_lt_iff hpos hlt hhalf
  cases turn
  case uTurn =>
    simp only [Turn.mirrored, ofTurn, hside]
    by_cases h : degree < 180
    · rw [if_neg (by omega), if_pos h]
      rfl
    · rw [if_pos (by omega), if_neg h]
      rfl
  all_goals rfl

def bySides (prev e : Edge) (left right : Bool) (plain : ManeuverKind) : ManeuverKind :=
  if e.isTransit then if prev.isTransit then transitTransfer else transit
  else if e.roundabout && !prev.roundabout then roundaboutEnter
  else if prev.roundabout && !e.roundabout then roundaboutExit
  else if e.isFerry && !prev.isFerry then ferryEnter
  else if prev.isFerry && !e.isFerry then ferryExit
  else if e.isRamp && !prev.isRamp && prev.isHighway then if left then exitLeft else exitRight
  else if e.isRamp && !prev.isRamp then
    if left then rampLeft else if right then rampRight else rampStraight
  else if prev.isRamp && !e.isRamp && e.isHighway then merge
  else plain

theorem between_eq_bySides (prev e : Edge) :
    between prev e =
      bySides prev e ((prev.turnOnto e).goesLeft (turnDegree prev.endHeading e.beginHeading))
        ((prev.turnOnto e).goesRight (turnDegree prev.endHeading e.beginHeading))
        (ofTurn (prev.turnOnto e) (turnDegree prev.endHeading e.beginHeading)) := rfl

theorem mirrored_bySides (prev e : Edge) (left : Bool) (plain : ManeuverKind) :
    (bySides prev e left (!left) plain).mirrored = bySides prev e (!left) left plain.mirrored := by
  cases left <;> simp only [bySides, apply_ite mirrored, Bool.not_true, Bool.not_false,
    Bool.false_eq_true, if_true, if_false] <;> rfl

theorem bySides_redirect (f : Nat → Nat) (prev e : Edge) :
    bySides (prev.redirect f) (e.redirect f) = bySides prev e := rfl

def NoSide (turn : Turn) (degree : Nat) : Prop := turn = .straight ∨ degree = 180

theorem between_redirect_mirrorHeading (prev e : Edge) :
    between (prev.redirect mirrorHeading) (e.redirect mirrorHeading) =
      bySides prev e
        ((prev.turnOnto e).mirrored.goesLeft
          (mirrorHeading (turnDegree prev.endHeading e.beginHeading)))
        ((prev.turnOnto e).mirrored.goesRight
          (mirrorHeading (turnDegree prev.endHeading e.beginHeading)))
        (ofTurn (prev.turnOnto e).mirrored
          (mirrorHeading (turnDegree prev.endHeading e.beginHeading))) := by
  have hturn : (prev.redirect mirrorHeading).turnOnto (e.redirect mirrorHeading) =
      (prev.turnOnto e).mirrored := Turn.between_mirrorHeading _ _
  have hdegree : turnDegree (prev.redirect mirrorHeading).endHeading
      (e.redirect mirrorHeading).beginHeading =
        mirrorHeading (turnDegree prev.endHeading e.beginHeading) := turnDegree_mirrorHeading _ _
  rw [between_eq_bySides, bySides_redirect, hturn, hdegree]

theorem between_mirrored_of_noSide {prev e : Edge}
    (h : NoSide (prev.turnOnto e) (turnDegree prev.endHeading e.beginHeading)) :
    between (prev.redirect mirrorHeading) (e.redirect mirrorHeading) = between prev e := by
  rw [between_redirect_mirrorHeading, between_eq_bySides]
  rcases h with hstraight | hhalf
  · rw [hstraight]
    rfl
  · have haround : prev.turnOnto e = .uTurn := by
      rw [Edge.turnOnto, Turn.between, hhalf]
      rfl
    rw [haround, hhalf]
    rfl

theorem between_mirrored {prev e : Edge}
    (h : ¬ NoSide (prev.turnOnto e) (turnDegree prev.endHeading e.beginHeading)) :
    between (prev.redirect mirrorHeading) (e.redirect mirrorHeading) =
      (between prev e).mirrored := by
  obtain ⟨hstraight, hhalf⟩ := not_or.mp h
  have hlt : turnDegree prev.endHeading e.beginHeading < 360 := turnDegree_lt _ _
  -- At zero degrees the angle would be its own mirror image, but then the turn is straight.
  have hpos : 0 < turnDegree prev.endHeading e.beginHeading := by
    rw [Nat.pos_iff_ne_zero]
    intro hzero
    rw [Edge.turnOnto, Turn.between, hzero] at hstraight
    exact hstraight rfl
  rw [between_redirect_mirrorHeading, between_eq_bySides, Turn.goesLeft_mirrored hpos hlt hhalf,
    Turn.goesRight_mirrored hpos hlt hhalf, ofTurn_mirrored hpos hlt hhalf,
    Turn.goesRight_eq_not_goesLeft hstraight, mirrored_bySides]

end ManeuverKind

theorem keepsSlightTurns_mirrorHeading : KeepsSlightTurns mirrorHeading := by
  intro a b
  rw [Turn.between_mirrorHeading, Turn.isSlight_mirrored]

namespace TripPath

def edgeInto? (path : TripPath) (node : Nat) : Option Edge :=
  ((path.segments.filter (·.node < node)).getLast?).map (·.edge)

def turnDegreeAt? (path : TripPath) (node : Nat) : Option Nat :=
  match path.edgeInto? node, path.edgeAt node with
  | some prev, some e => some (turnDegree prev.endHeading e.beginHeading)
  | _, _ => none

theorem exists_segments_eq_of_consecutive {path : TripPath} {k : Nat} {b t : Stretch}
    (hb : path.stretches[k]? = some b) (ht : path.stretches[k + 1]? = some t) :
    ∃ before after, path.segments = (before ++ [b.last]) ++ (t.first :: after) := by
  obtain ⟨hk, hb⟩ := List.getElem?_eq_some_iff.mp hb
  obtain ⟨hk', ht⟩ := List.getElem?_eq_some_iff.mp ht
  obtain ⟨start, hstart⟩ := List.getLast?_eq_some_iff.mp b.getLast?_segments
  obtain ⟨ts, us, hsplit⟩ : ∃ ts us, path.stretches = ts ++ b :: t :: us := by
    refine ⟨path.stretches.take k, path.stretches.drop (k + 2), ?_⟩
    rw [← hb, ← ht, ← List.drop_eq_getElem_cons hk', ← List.drop_eq_getElem_cons hk,
      List.take_append_drop]
  refine ⟨ts.flatMap Stretch.segments ++ start, t.rest ++ us.flatMap Stretch.segments, ?_⟩
  rw [← flatMap_segments_stretches, hsplit, List.flatMap_append, List.flatMap_cons,
    List.flatMap_cons, hstart, Stretch.segments]
  simp only [List.append_assoc, List.cons_append]

theorem turnDegreeAt?_of_consecutive {path : TripPath} {k : Nat} {b t : Stretch}
    (hb : path.stretches[k]? = some b) (ht : path.stretches[k + 1]? = some t) :
    path.turnDegreeAt? t.first.node =
      some (turnDegree b.last.edge.endHeading t.first.edge.beginHeading) := by
  obtain ⟨before, after, hsegments⟩ := exists_segments_eq_of_consecutive hb ht
  -- Nodes grow along the path, so the edges before the node are those up to the stretch before.
  have hsorted := pairwise_node_segments path
  rw [hsegments, List.pairwise_append] at hsorted
  obtain ⟨-, hfrom, hbefore⟩ := hsorted
  have hkept : (before ++ [b.last]).filter (·.node < t.first.node) = before ++ [b.last] := by
    rw [List.filter_eq_self]
    intro s hs
    simpa using hbefore s hs t.first List.mem_cons_self
  have hdropped : (t.first :: after).filter (·.node < t.first.node) = [] := by
    rw [List.filter_eq_nil_iff]
    intro s hs
    rcases List.mem_cons.mp hs with rfl | hs
    · simp
    · have hlt := List.rel_of_pairwise_cons hfrom hs
      simp only [decide_eq_true_eq]
      omega
  have hinto : path.edgeInto? t.first.node = some b.last.edge := by
    rw [edgeInto?, hsegments, List.filter_append, hkept, hdropped]
    simp
  have hat : path.edgeAt t.first.node = some t.first.edge :=
    edgeAt_of_mem_segments (by simp [hsegments])
  rw [turnDegreeAt?, hinto, hat]

def mirrorImage (path : TripPath) (m : Maneuver) : Maneuver :=
  { m with
    kind :=
      if m.turn = .straight ∨ path.turnDegreeAt? m.beginNode = some 180 then m.kind
      else m.kind.mirrored
    turn := m.turn.mirrored
    beginHeading := mirrorHeading m.beginHeading
    direction := .ofHeading (mirrorHeading m.beginHeading) }

theorem summary_redirect_mirrorHeading {path : TripPath} {k : Nat} {t : Stretch}
    (ht : path.stretches[k]? = some t) :
    (t.redirect mirrorHeading).summary
        ((if k = 0 then none else path.stretches[k - 1]?).map (Stretch.redirect mirrorHeading)) =
      path.mirrorImage (t.summary (if k = 0 then none else path.stretches[k - 1]?)) := by
  have henter : ∀ (p : Prop) [Decidable p] (kind : ManeuverKind),
      (if p then kind else kind.mirrored) = .roundaboutEnter ↔ kind = .roundaboutEnter := by
    intro p _ kind
    by_cases hp : p <;> simp [hp, ManeuverKind.mirrored_eq_roundaboutEnter_iff]
  cases k with
  | zero =>
    apply Stretch.summary_redirect _ rfl (henter _ _)
    exact (if_pos (.inl rfl)).symm
  | succ k =>
    obtain ⟨b, hb⟩ : ∃ b, path.stretches[k]? = some b := by
      have hlt := (List.getElem?_eq_some_iff.mp ht).1
      exact ⟨path.stretches[k], List.getElem?_eq_getElem (by omega)⟩
    have hdegree := turnDegreeAt?_of_consecutive hb ht
    rw [if_neg k.succ_ne_zero, Nat.add_sub_cancel, hb]
    apply Stretch.summary_redirect _ _ (henter _ _)
    · simp only [Stretch.kind, Option.map_some, Stretch.last_redirect, Stretch.first_redirect,
        Stretch.beginNode_summary, hdegree, Option.some.injEq]
      by_cases hside : ManeuverKind.NoSide (b.last.edge.turnOnto t.first.edge)
          (turnDegree b.last.edge.endHeading t.first.edge.beginHeading)
      · exact (ManeuverKind.between_mirrored_of_noSide hside).trans (if_pos hside).symm
      · exact (ManeuverKind.between_mirrored hside).trans (if_neg hside).symm
    · simp only [Stretch.turn, Option.map_some, Stretch.last_redirect, Stretch.first_redirect]
      exact Turn.between_mirrorHeading _ _

theorem maneuvers?_redirect_mirrorHeading (path : TripPath) (hpos : 0 < path.edgeCount) :
    (path.redirect mirrorHeading).normalizeHeadings =
        path.normalizeHeadings.redirect mirrorHeading ∧
      ∃ ms, path.maneuvers? = .ok ms ∧
        (path.redirect mirrorHeading).maneuvers? = .ok (ms.map path.mirrorImage) ∧
        ∀ m ∈ ms, (path.mirrorImage m).direction = m.direction.mirrored := by
  have hne : path.segments ≠ [] := (segments_ne_nil_iff path).mpr hpos
  have harrival : path.arrival.redirect mirrorHeading = path.mirrorImage path.arrival := by
    have hkind : (if path.arrival.turn = .straight ∨
        path.turnDegreeAt? path.arrival.beginNode = some 180 then path.arrival.kind
          else path.arrival.kind.mirrored) = path.arrival.kind := if_pos (.inl rfl)
    rw [mirrorImage, hkind]
    rfl
  have hmirror := maneuvers?_redirect keepsSlightTurns_mirrorHeading hne
    (fun _ _ ht => summary_redirect_mirrorHeading ht) harrival
  refine ⟨normalizeHeadings_redirect mirrorHeading path, _, maneuvers?_eq_ok_of_segments hne,
    ?_, ?_⟩
  · rw [hmirror, maneuvers?_eq_ok_of_segments hne]
    rfl
  · intro m hm
    rw [← maneuvers_eq_summaries hpos] at hm
    rw [mirrorImage, direction_of_mem_maneuvers hm]
    exact Compass.ofHeading_mirrorHeading m.beginHeading

def offTheHighway : TripPath where
  nodes := [
    { edge := some {
        length := 5, beginHeading := 350, endHeading := 350, roadClass := .motorway
        names := { name := "Harbor Highway" } } },
    { crossings := 1, edge := some {
        length := 0.5, beginHeading := 715, endHeading := 40, usage := .ramp } },
    { crossings := 2, edge := some {
        length := 1, beginHeading := 100, endHeading := 100, names := { name := "Mill Road" } } },
    { crossings := 1, edge := some {
        length := 2, beginHeading := 280, endHeading := 280, names := { name := "Mill Road" } } },
    { crossings := 1, edge := some {
        length := 1, beginHeading := 110, endHeading := 110, names := { name := "Mill Road" } } },
    { edge := some {
        length := 1, beginHeading := 80, endHeading := 80, names := { name := "Quarry Lane" } } },
    {}]

theorem maneuvers?_redirect_mirrorHeading_offTheHighway :
    0 < offTheHighway.edgeCount ∧
      (offTheHighway.redirect mirrorHeading).normalizeHeadings =
        offTheHighway.normalizeHeadings.redirect mirrorHeading ∧
      ∃ ms, offTheHighway.maneuvers? = .ok ms ∧
        (offTheHighway.redirect mirrorHeading).maneuvers? =
          .ok (ms.map offTheHighway.mirrorImage) ∧
        ∀ m ∈ ms, (offTheHighway.mirrorImage m).direction = m.direction.mirrored :=
  ⟨by decide, maneuvers?_redirect_mirrorHeading offTheHighway (by decide)⟩

example : [offTheHighway, offTheHighway.redirect mirrorHeading].map (·.maneuvers.map (·.kind)) =
    [[.depart, .exitRight, .right, .uturnLeft, .uturnLeft, .slightLeft, .arrive],
      [.depart, .exitRight, .left, .uturnLeft, .uturnRight, .slightRight, .arrive]] := by
  decide +kernel

end TripPath

end TurnByTurn
