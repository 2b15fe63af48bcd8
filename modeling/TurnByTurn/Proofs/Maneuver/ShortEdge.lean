import TurnByTurn.Proofs.Maneuver.Junction
import TurnByTurn.Proofs.Path.Headings
import TurnByTurn.Proofs.Path.Insertion
import TurnByTurn.Proofs.Path.Segments

/-!
A short edge put between two trusted ones. Its repaired headings bridge the turn from one to the
other, so the junction is settled as if the second edge went straight on: a maneuver that begins
there for another reason stays, and one that is told by its turn loses it.
-/

namespace TurnByTurn

namespace ManeuverKind

def straightened : ManeuverKind → ManeuverKind
  | slightRight | right | sharpRight | uturnRight | uturnLeft | sharpLeft | left | slightLeft =>
    continueOn
  | rampRight | rampLeft => rampStraight
  | exitLeft => exitRight
  | kind => kind

theorem straightened_ofTurn (turn : Turn) (degree : Nat) :
    (ofTurn turn degree).straightened = continueOn := by
  unfold ofTurn
  cases turn
  case uTurn => dsimp only; split_ifs <;> rfl
  all_goals rfl

theorem ofTurn_ne_continueOn {turn : Turn} (h : turn.isSlight = false) (degree : Nat) :
    ofTurn turn degree ≠ continueOn := by
  unfold ofTurn
  cases turn
  case uTurn => dsimp only; split_ifs <;> simp
  all_goals simp [Turn.isSlight] at h ⊢

theorem between_of_plainRoad {prev e : Edge} (htransit : e.isTransit = false)
    (hround : prev.roundabout = e.roundabout) (hroad : prev.changesRoad e = false) :
    between prev e = ofTurn (prev.turnOnto e) (turnDegree prev.endHeading e.beginHeading) := by
  simp only [Edge.changesRoad, Bool.or_eq_false_iff, bne_eq_false_iff_eq] at hroad
  obtain ⟨⟨hferry, hramp⟩, hhighway⟩ := hroad
  simp [between, htransit, hround, hferry, hramp, hhighway, Edge.turnOnto, Turn.between]

theorem between_of_straight {prev e e' : Edge} (he : e'.SameRoad e)
    (hdegree : turnDegree prev.endHeading e'.beginHeading = 0) :
    between prev e' = (between prev e).straightened := by
  have hstraight : Turn.ofDegree 0 = .straight := by decide
  have hleft : Turn.straight.goesLeft 0 = false := by decide
  have hright : Turn.straight.goesRight 0 = false := by decide
  simp only [between, he.isTransit, he.roundabout, he.isFerry, he.isRamp, he.isHighway, hdegree,
    hstraight, hleft, hright, Bool.false_eq_true, if_false]
  generalize turnDegree prev.endHeading e.beginHeading = degree
  repeat' split
  all_goals first
    | exact (straightened_ofTurn _ _).symm
    | rfl

end ManeuverKind

def Segment.straightenedAfter (prev : Edge) (s : Segment) : Segment :=
  { s with edge := { s.edge with beginHeading := prev.endHeading } }

section Straightened

variable {prev : Edge} {s : Segment}

theorem sameRoad_straightenedAfter : (s.straightenedAfter prev).edge.SameRoad s.edge :=
  ⟨rfl, rfl, rfl, rfl, rfl, rfl, rfl⟩

theorem turnOnto_straightenedAfter : prev.turnOnto (s.straightenedAfter prev).edge = .straight :=
  Turn.between_self _

theorem turnDegree_straightenedAfter :
    turnDegree prev.endHeading (s.straightenedAfter prev).edge.beginHeading = 0 :=
  turnDegree_self _

theorem beginsManeuver_straightenedAfter_iff :
    (s.straightenedAfter prev).beginsManeuver prev = true ↔ prev.PartsFrom s.edge := by
  rw [Segment.beginsManeuver_iff_of_straight turnOnto_straightenedAfter]
  exact Edge.partsFrom_congr (.refl prev) sameRoad_straightenedAfter

theorem between_of_turnsOff (hparts : ¬ prev.PartsFrom s.edge) (h : s.TurnsOff prev) :
    ManeuverKind.between prev s.edge = .ofTurn (prev.turnOnto s.edge)
      (turnDegree prev.endHeading s.edge.beginHeading) := by
  have hround : prev.roundabout = s.edge.roundabout := by
    by_contra hne
    exact hparts (.roundabout h.road hne)
  have hroad : prev.changesRoad s.edge = false := by
    by_contra hchange
    exact hparts (.road h.road h.outside (eq_true_of_ne_false hchange))
  exact ManeuverKind.between_of_plainRoad h.road.2 hround hroad

theorem beginsManeuver_straightenedAfter (prev : Edge) (s : Segment) :
    (s.straightenedAfter prev).beginsManeuver prev = s.beginsManeuver prev ∨
      ((s.straightenedAfter prev).beginsManeuver prev = false ∧ s.beginsManeuver prev = true ∧
        ∃ turn degree, turn.isSlight = false ∧
          ManeuverKind.between prev s.edge = .ofTurn turn degree) := by
  by_cases hparts : prev.PartsFrom s.edge
  · left
    rw [beginsManeuver_straightenedAfter_iff.mpr hparts,
      Segment.beginsManeuver_iff.mpr (.inl hparts)]
  · have hstraight : (s.straightenedAfter prev).beginsManeuver prev = false :=
      Bool.eq_false_iff.mpr (mt beginsManeuver_straightenedAfter_iff.mp hparts)
    by_cases hturns : s.TurnsOff prev
    · exact .inr ⟨hstraight, Segment.beginsManeuver_iff.mpr (.inr hturns), _, _, hturns.turn,
        between_of_turnsOff hparts hturns⟩
    · left
      have hnone : s.beginsManeuver prev = false :=
        Bool.eq_false_iff.mpr (mt Segment.beginsManeuver_iff.mp (not_or.mpr ⟨hparts, hturns⟩))
      rw [hstraight, hnone]

theorem kindAfter?_straightenedAfter_eq_iff (prev : Edge) (s : Segment) :
    (s.straightenedAfter prev).kindAfter? prev = s.kindAfter? prev ↔
      ∀ kind, s.kindAfter? prev = some kind → kind.straightened = kind := by
  have hbetween : ManeuverKind.between prev (s.straightenedAfter prev).edge =
      (ManeuverKind.between prev s.edge).straightened :=
    ManeuverKind.between_of_straight sameRoad_straightenedAfter turnDegree_straightenedAfter
  unfold Segment.kindAfter?
  rw [hbetween]
  rcases beginsManeuver_straightenedAfter prev s with
    hsame | ⟨hstraight, hbegins, turn, degree, hturn, hkind⟩
  · rw [hsame]
    cases s.beginsManeuver prev <;> simp
  · have hne : ManeuverKind.continueOn ≠ .ofTurn turn degree :=
      (ManeuverKind.ofTurn_ne_continueOn hturn degree).symm
    simp [hstraight, hbegins, hkind, ManeuverKind.straightened_ofTurn, hne]

end Straightened

namespace Edge

theorem sameRoad_bridge (e f g : Edge) : (bridge e f g).SameRoad g :=
  ⟨rfl, rfl, rfl, rfl, rfl, rfl, rfl⟩

end Edge

/-- A bridge belongs to the road of either edge, so one of its ends is no junction at all and the
other one is the old junction without its turn. -/
theorem kinds_around_bridge {e g : Edge} {s m : Segment} (hm : m.edge = .bridge e s.edge g)
    (hcrossings : m.crossings = s.crossings) (hroad : g.SameRoad e ∨ g.SameRoad s.edge) :
    (m.kindAfter? e).toList ++ (s.kindAfter? m.edge).toList =
      ((s.straightenedAfter e).kindAfter? e).toList := by
  have hbridge : m.edge.SameRoad g := by
    rw [hm]
    exact Edge.sameRoad_bridge e s.edge g
  have hbegin : m.edge.beginHeading = e.endHeading := by rw [hm]; rfl
  have hend : m.edge.endHeading = s.edge.beginHeading := by rw [hm]; rfl
  have hinto : turnDegree e.endHeading m.edge.beginHeading = 0 := by rw [hbegin, turnDegree_self]
  have hout : turnDegree m.edge.endHeading s.edge.beginHeading = 0 := by rw [hend, turnDegree_self]
  rcases hroad with hroad | hroad
  · have hnone : m.kindAfter? e = none :=
      Segment.kindAfter?_of_sameRoad (hbridge.trans hroad).symm (congrArg Turn.ofDegree hinto)
    have hsame : s.kindAfter? m.edge = (s.straightenedAfter e).kindAfter? e :=
      Segment.kindAfter?_congr (hbridge.trans hroad) sameRoad_straightenedAfter.symm rfl
        (hout.trans turnDegree_straightenedAfter.symm)
    rw [hnone, hsame]
    rfl
  · have hnone : s.kindAfter? m.edge = none :=
      Segment.kindAfter?_of_sameRoad (hbridge.trans hroad) (congrArg Turn.ofDegree hout)
    have hsame : m.kindAfter? e = (s.straightenedAfter e).kindAfter? e :=
      Segment.kindAfter?_congr ⟨rfl, rfl, rfl, rfl, rfl, rfl, rfl⟩
        ((hbridge.trans hroad).trans sameRoad_straightenedAfter.symm) hcrossings
        (hinto.trans turnDegree_straightenedAfter.symm)
    rw [hnone, hsame]
    exact List.append_nil _

namespace TripPath

theorem exists_nodes_eq_append {path : TripPath} {index : Nat} {e : Edge} {s : Segment}
    (he : path.edgeAt index = some e) (hs : path.segmentAt? (index + 1) = some s) :
    ∃ before n n' after, before.length = index ∧ path.nodes = before ++ n :: n' :: after ∧
      n.edge = some e ∧ n'.edge = some s.edge ∧ n'.crossings = s.crossings := by
  obtain ⟨before, n, rest, rfl, hnodes, hn⟩ := exists_nodes_eq he
  simp only [segmentAt?, Option.bind_eq_some_iff, Option.map_eq_some_iff] at hs
  obtain ⟨n', hn', f, hf, rfl⟩ := hs
  rw [hnodes, List.getElem?_append_right (by omega), Nat.add_sub_cancel_left,
    List.getElem?_cons_succ] at hn'
  cases rest with
  | nil => cases hn'
  | cons m after =>
    obtain rfl := Option.some.inj hn'
    exact ⟨before, n, m, after, rfl, hnodes, hn, hf, rfl⟩

theorem exists_nodes_normalizeHeadings {path : TripPath} {index : Nat} {e g : Edge} {s : Segment}
    {mid : Node} (he : path.edgeAt index = some e) (hs : path.segmentAt? (index + 1) = some s)
    (hte : e.isTrusted = true) (hts : s.edge.isTrusted = true) (hmid : mid.edge = some g)
    (hg : g.isShort = true) :
    ∃ before n n' after, n.edge = some e ∧ n'.edge = some s.edge ∧ n'.crossings = s.crossings ∧
      path.normalizeHeadings.nodes = before ++ n :: n' :: after ∧
      (path.insertNode (index + 1) mid).normalizeHeadings.nodes =
        before ++ n :: { mid with edge := some (.bridge e s.edge g) } :: n' :: after := by
  obtain ⟨nodes, n, n', following, rfl, hnodes, hn, hn', hcross⟩ := exists_nodes_eq_append he hs
  obtain ⟨done, hdone⟩ := exists_repairedFrom_append none nodes hn hte
  have hbridge : mid.repaired (some e) (some s.edge) =
      { mid with edge := some (.bridge e s.edge g) } := by
    rw [Node.repaired, hmid, Option.map_some, Edge.repaired_of_isShort hg hte hts]
  refine ⟨done, n, n', repairedFrom (some s.edge) following, hn, hn', hcross, ?_, ?_⟩
  · rw [nodes_normalizeHeadings, hnodes, hdone, repairedFrom,
      Node.repaired_of_isTrusted hn' hts, hn']
  · rw [nodes_normalizeHeadings, insertNode_nodes hnodes, hdone, repairedFrom, repairedFrom,
      Node.repaired_of_isTrusted hn' hts, List.head?_cons, Option.bind_some, hn', hbridge]

theorem kinds_normalizeHeadings_insertNode {path : TripPath} {index : Nat} {e g : Edge}
    {s : Segment} {mid : Node} (he : path.edgeAt index = some e)
    (hs : path.segmentAt? (index + 1) = some s) (hte : e.isTrusted = true)
    (hts : s.edge.isTrusted = true) (hmid : mid.edge = some g) (hg : g.isShort = true)
    (hcrossings : mid.crossings = s.crossings) (hroad : g.SameRoad e ∨ g.SameRoad s.edge) :
    ∃ before after,
      path.normalizeHeadings.maneuvers.map (·.kind) =
        before ++ ((s.kindAfter? e).toList ++ after) ∧
      (path.insertNode (index + 1) mid).normalizeHeadings.maneuvers.map (·.kind) =
        before ++ (((s.straightenedAfter e).kindAfter? e).toList ++ after) := by
  obtain ⟨done, n, n', following, hn, hn', hcross, hold, hnew⟩ :=
    exists_nodes_normalizeHeadings he hs hte hts hmid hg
  let b : Segment := ⟨0, mid.crossings, .bridge e s.edge g, 0⟩
  have hsecond : n'.bareSegment? = some s.bare := by
    rw [Node.bareSegment?, hn', hcross]
    rfl
  have hbridge : Node.bareSegment? { mid with edge := some (.bridge e s.edge g) } = some b := rfl
  have hkinds : (b.kindAfter? e).toList ++ (s.kindAfter? b.edge).toList =
      ((s.straightenedAfter e).kindAfter? e).toList := kinds_around_bridge rfl hcrossings hroad
  rw [map_kind_maneuvers_of_nodes hold hn, map_kind_maneuvers_of_nodes hnew hn,
    List.filterMap_cons_some hbridge, List.filterMap_cons_some hsecond]
  refine ⟨.depart :: kindsWithin (done.filterMap Node.bareSegment? ++ [⟨0, n.crossings, e, 0⟩]),
    kindsAfter s.edge (following.filterMap Node.bareSegment?) ++ [.arrive], ?_, ?_⟩
  · rw [kindsAfter, List.append_assoc]
    rfl
  · rw [kindsAfter, kindsAfter, ← hkinds]
    simp only [List.append_assoc]
    rfl

theorem maneuvers?_normalizeHeadings {path : TripPath} (h : path.nodes ≠ []) :
    path.normalizeHeadings.maneuvers? = .ok path.normalizeHeadings.maneuvers := by
  have hlength := path.length_nodes_normalizeHeadings
  have hne : path.normalizeHeadings.nodes ≠ [] := by
    rwa [← List.length_pos_iff, hlength, List.length_pos_iff]
  unfold maneuvers?
  rw [if_neg (by simpa using hne)]

theorem nodes_ne_nil_of_edgeAt {path : TripPath} {index : Nat} {e : Edge}
    (h : path.edgeAt index = some e) : path.nodes ≠ [] := by
  intro hnil
  simp [edgeAt, hnil] at h

theorem map_kind_insertNode_eq_iff {path : TripPath} {index : Nat} {e g : Edge} {s : Segment}
    {mid : Node} (he : path.edgeAt index = some e) (hs : path.segmentAt? (index + 1) = some s)
    (hte : e.isTrusted = true) (hts : s.edge.isTrusted = true) (hmid : mid.edge = some g)
    (hg : g.isShort = true) (hcrossings : mid.crossings = s.crossings)
    (hroad : g.SameRoad e ∨ g.SameRoad s.edge) :
    ∃ ms ms', path.normalizeHeadings.maneuvers? = .ok ms ∧
      (path.insertNode (index + 1) mid).normalizeHeadings.maneuvers? = .ok ms' ∧
      (ms'.map (·.kind) = ms.map (·.kind) ↔
        ∀ kind, s.kindAfter? e = some kind → kind.straightened = kind) ∧
      ∃ before after,
        ms.map (·.kind) = before ++ ((s.kindAfter? e).toList ++ after) ∧
        ms'.map (·.kind) =
          before ++ (((s.straightenedAfter e).kindAfter? e).toList ++ after) := by
  obtain ⟨before, after, hold, hnew⟩ :=
    kinds_normalizeHeadings_insertNode he hs hte hts hmid hg hcrossings hroad
  refine ⟨_, _, maneuvers?_normalizeHeadings (nodes_ne_nil_of_edgeAt he),
    maneuvers?_normalizeHeadings ?_, ?_, before, after, hold, hnew⟩
  · simp [insertNode]
  · rw [← kindAfter?_straightenedAfter_eq_iff, hold, hnew, List.append_cancel_left_eq,
      List.append_cancel_right_eq]
    constructor
    · intro h
      have hhead := congrArg List.head? h
      rwa [Option.head?_toList, Option.head?_toList] at hhead
    · exact congrArg Option.toList

def leftExit : TripPath where
  nodes := [
    { edge := some { length := 1, roadClass := .motorway } },
    { crossings := 1, edge := some { length := 1, beginHeading := 340, usage := .ramp } },
    {}]

def cutExit : Node where
  crossings := 1
  edge := some { length := 0.001, beginHeading := 200, usage := .ramp }

theorem map_kind_insertNode_eq_iff_leftExit :
    ∃ e g s, leftExit.edgeAt 0 = some e ∧ leftExit.segmentAt? (0 + 1) = some s ∧
      e.isTrusted = true ∧ s.edge.isTrusted = true ∧ cutExit.edge = some g ∧ g.isShort = true ∧
      cutExit.crossings = s.crossings ∧ (g.SameRoad e ∨ g.SameRoad s.edge) ∧
      ∃ ms ms', leftExit.normalizeHeadings.maneuvers? = .ok ms ∧
        (leftExit.insertNode (0 + 1) cutExit).normalizeHeadings.maneuvers? = .ok ms' ∧
        (ms'.map (·.kind) = ms.map (·.kind) ↔
          ∀ kind, s.kindAfter? e = some kind → kind.straightened = kind) ∧
        ∃ before after,
          ms.map (·.kind) = before ++ ((s.kindAfter? e).toList ++ after) ∧
          ms'.map (·.kind) =
            before ++ (((s.straightenedAfter e).kindAfter? e).toList ++ after) := by
  let e := leftExit.nodes[0].edge.get rfl
  let g := cutExit.edge.get rfl
  let s : Segment := ⟨1, 1, leftExit.nodes[1].edge.get rfl, 0⟩
  have he : leftExit.edgeAt 0 = some e := rfl
  have hs : leftExit.segmentAt? (0 + 1) = some s := by decide +kernel
  have hte : e.isTrusted = true := by decide +kernel
  have hts : s.edge.isTrusted = true := by decide +kernel
  have hmid : cutExit.edge = some g := rfl
  have hg : g.isShort = true := by decide +kernel
  have hroad : g.SameRoad s.edge := by constructor <;> decide
  have hcrossings : cutExit.crossings = s.crossings := rfl
  exact ⟨e, g, s, he, hs, hte, hts, hmid, hg, hcrossings, .inr hroad,
    @map_kind_insertNode_eq_iff leftExit 0 e g s cutExit he hs hte hts hmid hg hcrossings
      (.inr hroad)⟩

def aroundCorner : TripPath where
  nodes := [
    { edge := some { length := 1, names := { name := "Main Street" } } },
    { crossings := 2
      edge := some {
        length := 1, beginHeading := 90, endHeading := 90, names := { name := "Main Street" } } },
    {}]

def cutCorner : Node where
  crossings := 2
  edge := some { length := 0.001, names := { name := "Main Street" } }

theorem not_forall_map_kind_insertNode :
    ¬ ∀ (path : TripPath) (index : Nat) (e g : Edge) (s : Segment) (mid : Node),
      path.edgeAt index = some e → path.segmentAt? (index + 1) = some s →
      minEdgeLength ≤ e.length → minEdgeLength ≤ s.edge.length →
      mid.edge = some g → g.length < minEdgeLength → mid.crossings = s.crossings →
      (g = { e with
          length := g.length, beginHeading := g.beginHeading, endHeading := g.endHeading } ∨
        g = { s.edge with
          length := g.length, beginHeading := g.beginHeading, endHeading := g.endHeading }) →
      e.roundabout = false → s.edge.roundabout = false →
      ∀ ms ms', path.normalizeHeadings.maneuvers? = .ok ms →
        (path.insertNode (index + 1) mid).normalizeHeadings.maneuvers? = .ok ms' →
        ms'.map (·.kind) = ms.map (·.kind) := by
  intro h
  have hkinds := h aroundCorner 0 (aroundCorner.nodes[0].edge.get rfl) (cutCorner.edge.get rfl)
    ⟨1, 2, aroundCorner.nodes[1].edge.get rfl, 0⟩ cutCorner rfl (by decide +kernel)
    (by decide +kernel) (by decide +kernel) rfl (by decide +kernel) rfl (.inl rfl) rfl rfl
    _ _ rfl rfl
  revert hkinds
  decide +kernel

end TripPath

end TurnByTurn
