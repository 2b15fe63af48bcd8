import TurnByTurn.Proofs.Maneuver.Beginning
import TurnByTurn.Proofs.Maneuver.ShortEdge
import TurnByTurn.Proofs.Path.InPlace

/-!
Where a short edge meets a trusted one. Once headings are repaired the path goes straight on there,
so no maneuver begins for its turn, and none that begins for another reason is told by a turn.
-/

namespace TurnByTurn

namespace ManeuverKind

def turns : List ManeuverKind :=
  [slightRight, right, sharpRight, uturnRight, uturnLeft, sharpLeft, left, slightLeft, rampRight,
    rampLeft, exitLeft]

theorem straightened_notMem_turns (kind : ManeuverKind) : kind.straightened ∉ turns := by
  cases kind <;> decide

theorem between_notMem_turns {prev e : Edge}
    (h : turnDegree prev.endHeading e.beginHeading = 0) : between prev e ∉ turns := by
  rw [between_of_straight (.refl e) h]
  exact straightened_notMem_turns _

end ManeuverKind

namespace TripPath

section Straight

variable {path : TripPath} {node : Nat} {e : Edge} {s : Segment}

theorem exists_segmentAt?_of_edgeAt (h : path.edgeAt node = some e) :
    ∃ s, path.segmentAt? node = some s ∧ s.edge = e := by
  have hedge := path.map_edge_segmentAt? node
  rwa [h, Option.map_eq_some_iff] at hedge

theorem exists_mem_maneuvers_iff_of_straight (he : path.edgeAt node = some e)
    (hs : path.segmentAt? (node + 1) = some s)
    (hstraight : e.turnOnto s.edge = .straight) :
    (∃ m ∈ path.maneuvers, m.beginNode = node + 1 ∧ m.kind ≠ .arrive) ↔ e.PartsFrom s.edge := by
  rw [← Segment.beginsManeuver_iff_of_straight hstraight]
  constructor
  · rintro ⟨m, hm, hbegin, hkind⟩
    exact (begins_of_mem_maneuvers he hs hm hkind hbegin).1
  · exact exists_mem_maneuvers_of_begins he hs

theorem kind_notMem_turns_of_straight (he : path.edgeAt node = some e)
    (hs : path.segmentAt? (node + 1) = some s)
    (hdegree : turnDegree e.endHeading s.edge.beginHeading = 0) {m : Maneuver}
    (hm : m ∈ path.maneuvers) (hbegin : m.beginNode = node + 1) :
    m.kind ∉ ManeuverKind.turns := by
  by_cases hkind : m.kind = .arrive
  · rw [hkind]
    decide
  · obtain ⟨-, hbetween, -⟩ := begins_of_mem_maneuvers he hs hm hkind hbegin
    rw [hbetween]
    exact ManeuverKind.between_notMem_turns hdegree

end Straight

section Repaired

variable {path : TripPath} {node : Nat} {e f : Edge}

theorem sameRoad_repairedEdge : (path.repairedEdge node e).SameRoad e := by
  unfold repairedEdge
  split <;> constructor <;> rfl

theorem endHeading_repairedEdge (he : e.isShort = true) (hf : path.edgeAt (node + 1) = some f)
    (htrusted : f.isTrusted = true) : (path.repairedEdge node e).endHeading = f.beginHeading := by
  rw [repairedEdge, if_pos he, edgeAfter, hf, Option.filter_some, if_pos htrusted]
  rfl

theorem beginHeading_repairedEdge (he : path.edgeAt node = some e) (htrusted : e.isTrusted = true)
    (hf : f.isShort = true) : (path.repairedEdge (node + 1) f).beginHeading = e.endHeading := by
  rw [repairedEdge, if_pos hf, edgeBefore, he, Option.filter_some, if_pos htrusted]
  rfl

theorem endHeading_eq_beginHeading_repairedEdge (he : path.edgeAt node = some e)
    (hf : path.edgeAt (node + 1) = some f)
    (h : e.isShort = true ∧ f.isTrusted = true ∨ e.isTrusted = true ∧ f.isShort = true) :
    (path.repairedEdge node e).endHeading = (path.repairedEdge (node + 1) f).beginHeading := by
  rcases h with ⟨hshort, htrusted⟩ | ⟨htrusted, hshort⟩
  · rw [repairedEdge_of_isTrusted path htrusted]
    exact endHeading_repairedEdge hshort hf htrusted
  · rw [repairedEdge_of_isTrusted path htrusted]
    exact (beginHeading_repairedEdge he htrusted hshort).symm

theorem straight_beside_short (he : path.edgeAt node = some e)
    (hf : path.edgeAt (node + 1) = some f)
    (h : e.isShort = true ∧ f.isTrusted = true ∨ e.isTrusted = true ∧ f.isShort = true) :
    ∃ e' f' ms, path.normalizeHeadings.edgeAt node = some e' ∧
      path.normalizeHeadings.edgeAt (node + 1) = some f' ∧
      e'.turnOnto f' = .straight ∧
      path.normalizeHeadings.maneuvers? = .ok ms ∧
      ((∃ m ∈ ms, m.beginNode = node + 1 ∧ m.kind ≠ .arrive) ↔ e.PartsFrom f) ∧
      ∀ m ∈ ms, m.beginNode = node + 1 → m.kind ∉ ManeuverKind.turns := by
  have he' : path.normalizeHeadings.edgeAt node = some (path.repairedEdge node e) := by
    rw [edgeAt_normalizeHeadings, he, Option.map_some]
  have hf' : path.normalizeHeadings.edgeAt (node + 1) = some (path.repairedEdge (node + 1) f) := by
    rw [edgeAt_normalizeHeadings, hf, Option.map_some]
  obtain ⟨s, hs, hedge⟩ := exists_segmentAt?_of_edgeAt hf'
  have hdegree : turnDegree (path.repairedEdge node e).endHeading s.edge.beginHeading = 0 := by
    rw [hedge, endHeading_eq_beginHeading_repairedEdge he hf h, turnDegree_self]
  have hstraight : (path.repairedEdge node e).turnOnto s.edge = .straight :=
    congrArg Turn.ofDegree hdegree
  have hreasons : (path.repairedEdge node e).PartsFrom s.edge ↔ e.PartsFrom f := by
    rw [hedge]
    exact Edge.partsFrom_congr sameRoad_repairedEdge sameRoad_repairedEdge
  refine ⟨_, _, _, he', hf', hedge ▸ hstraight,
    maneuvers?_normalizeHeadings (nodes_ne_nil_of_edgeAt he), ?_, ?_⟩
  · rw [exists_mem_maneuvers_iff_of_straight he' hs hstraight, hreasons]
  · intro m hm hbegin
    exact kind_notMem_turns_of_straight he' hs hdegree hm hbegin

def offAcrossPiece : TripPath where
  nodes := [
    { edge := some { length := 1, roadClass := .motorway } },
    { crossings := 1, edge := some { length := 0.001, beginHeading := 200, usage := .ramp } },
    {}]

theorem straight_beside_short_offAcrossPiece :
    ∃ e f, offAcrossPiece.edgeAt 0 = some e ∧ offAcrossPiece.edgeAt (0 + 1) = some f ∧
      (e.isShort = true ∧ f.isTrusted = true ∨ e.isTrusted = true ∧ f.isShort = true) ∧
      ∃ e' f' ms, offAcrossPiece.normalizeHeadings.edgeAt 0 = some e' ∧
        offAcrossPiece.normalizeHeadings.edgeAt (0 + 1) = some f' ∧
        e'.turnOnto f' = .straight ∧
        offAcrossPiece.normalizeHeadings.maneuvers? = .ok ms ∧
        ((∃ m ∈ ms, m.beginNode = 0 + 1 ∧ m.kind ≠ .arrive) ↔ e.PartsFrom f) ∧
        ∀ m ∈ ms, m.beginNode = 0 + 1 → m.kind ∉ ManeuverKind.turns := by
  let e := offAcrossPiece.nodes[0].edge.get rfl
  let f := offAcrossPiece.nodes[1].edge.get rfl
  have he : offAcrossPiece.edgeAt 0 = some e := rfl
  have hf : offAcrossPiece.edgeAt (0 + 1) = some f := rfl
  have htrusted : e.isTrusted = true := by decide +kernel
  have hshort : f.isShort = true := by decide +kernel
  exact ⟨e, f, he, hf, .inr ⟨htrusted, hshort⟩,
    straight_beside_short he hf (.inr ⟨htrusted, hshort⟩)⟩

end Repaired

end TripPath

end TurnByTurn
