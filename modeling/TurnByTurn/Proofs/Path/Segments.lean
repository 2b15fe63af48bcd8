import Mathlib.Data.List.Chain
import Mathlib.Data.List.Range
import TurnByTurn.Path.Segments

namespace TurnByTurn

namespace TripPath

def segmentAt? (path : TripPath) (node : Nat) : Option Segment :=
  path.nodes[node]?.bind fun n => n.edge.map fun e => ⟨node, n.crossings, e, path.edgeTime node⟩

theorem map_edge_segmentAt? (path : TripPath) (node : Nat) :
    (path.segmentAt? node).map (·.edge) = path.edgeAt node := by
  unfold segmentAt? edgeAt
  cases path.nodes[node]? with
  | none => rfl
  | some n =>
    simp only [Option.bind_some]
    cases n.edge <;> rfl

theorem isSome_segmentAt? (path : TripPath) (node : Nat) :
    (path.segmentAt? node).isSome = (path.edgeAt node).isSome := by
  rw [← map_edge_segmentAt?, Option.isSome_map]

theorem node_of_segmentAt? {path : TripPath} {node : Nat} {s : Segment}
    (h : path.segmentAt? node = some s) : s.node = node := by
  simp only [segmentAt?, Option.bind_eq_some_iff, Option.map_eq_some_iff] at h
  obtain ⟨n, -, e, -, rfl⟩ := h
  rfl

theorem timeToFirst_drop (path : TripPath) {node : Nat} (h : node < path.nodes.length) :
    path.nodes[node].timeToFirst (path.nodes.drop (node + 1)) = path.edgeTime node := by
  have here : path.nodes[node]? = some path.nodes[node] := List.getElem?_eq_getElem h
  unfold edgeTime
  rw [here]
  by_cases hnext : node + 1 < path.nodes.length
  · rw [List.drop_eq_getElem_cons hnext, List.getElem?_eq_getElem hnext]
    rfl
  · rw [List.drop_eq_nil_of_le (by omega), List.getElem?_eq_none (by omega)]
    rfl

theorem segment?_drop (path : TripPath) {node : Nat} (h : node < path.nodes.length) :
    path.nodes[node].segment? node (path.nodes.drop (node + 1)) = path.segmentAt? node := by
  unfold Node.segment? segmentAt?
  rw [timeToFirst_drop path h, List.getElem?_eq_getElem h, Option.bind_some]

theorem segmentsFrom_drop (path : TripPath) (node : Nat) :
    segmentsFrom node (path.nodes.drop node) =
      (List.range' node (path.nodes.length - node)).filterMap path.segmentAt? := by
  -- on how many nodes are left, since the tails of the list of nodes get shorter with them
  induction hn : path.nodes.length - node generalizing node with
  | zero => simp [List.drop_eq_nil_of_le (show path.nodes.length ≤ node by omega), segmentsFrom]
  | succ n ih =>
    have h : node < path.nodes.length := by omega
    rw [List.drop_eq_getElem_cons h, segmentsFrom, segment?_drop path h, ih (node + 1) (by omega),
      List.range'_succ, List.filterMap_cons]
    cases path.segmentAt? node <;> rfl

theorem segments_eq_filterMap (path : TripPath) :
    path.segments = (List.range path.nodes.length).filterMap path.segmentAt? := by
  have h := segmentsFrom_drop path 0
  rwa [List.drop_zero, Nat.sub_zero, ← List.range_eq_range'] at h

theorem mem_segments_iff {path : TripPath} {s : Segment} :
    s ∈ path.segments ↔ path.segmentAt? s.node = some s := by
  rw [segments_eq_filterMap, List.mem_filterMap]
  constructor
  · rintro ⟨node, -, h⟩
    rwa [node_of_segmentAt? h]
  · intro h
    refine ⟨s.node, ?_, h⟩
    by_contra hlt
    rw [List.mem_range, Nat.not_lt] at hlt
    simp [segmentAt?, List.getElem?_eq_none hlt] at h

theorem node_lt_of_mem_segments {path : TripPath} {s : Segment} (h : s ∈ path.segments) :
    s.node < path.nodes.length := by
  rw [segments_eq_filterMap, List.mem_filterMap] at h
  obtain ⟨node, hnode, hs⟩ := h
  rw [node_of_segmentAt? hs]
  exact List.mem_range.mp hnode

theorem edgeAt_of_mem_segments {path : TripPath} {s : Segment} (h : s ∈ path.segments) :
    path.edgeAt s.node = some s.edge := by
  rw [← map_edge_segmentAt?, mem_segments_iff.mp h]
  rfl

theorem exists_mem_segments_of_edgeAt {path : TripPath} {node : Nat} {e : Edge}
    (h : path.edgeAt node = some e) : ∃ s ∈ path.segments, s.node = node ∧ s.edge = e := by
  rw [← map_edge_segmentAt?, Option.map_eq_some_iff] at h
  obtain ⟨s, hs, he⟩ := h
  have hnode := node_of_segmentAt? hs
  exact ⟨s, mem_segments_iff.mpr (hnode ▸ hs), hnode, he⟩

theorem exists_node_of_mem_segments {path : TripPath} {s : Segment} (h : s ∈ path.segments) :
    ∃ n, path.nodes[s.node]? = some n ∧ n.crossings = s.crossings := by
  have hat := mem_segments_iff.mp h
  simp only [segmentAt?, Option.bind_eq_some_iff, Option.map_eq_some_iff] at hat
  obtain ⟨n, hn, e, -, hs⟩ := hat
  exact ⟨n, hn, congrArg Segment.crossings hs⟩

theorem pairwise_node_segments (path : TripPath) :
    path.segments.Pairwise fun s t => s.node < t.node := by
  rw [segments_eq_filterMap, List.pairwise_filterMap]
  refine List.pairwise_lt_range.imp ?_
  intro i j hij s hs t ht
  rwa [node_of_segmentAt? hs, node_of_segmentAt? ht]

theorem segments_ne_nil_iff (path : TripPath) : path.segments ≠ [] ↔ 0 < path.edgeCount := by
  rw [← length_segments, List.length_pos_iff]

structure IsUnbroken (path : TripPath) : Prop where
  edge_isSome : ∀ node < path.lastNode, (path.edgeAt node).isSome
  edgeAt_lastNode : path.edgeAt path.lastNode = none

theorem lt_lastNode_of_edgeAt {path : TripPath} (h : path.IsUnbroken) {node : Nat} {e : Edge}
    (he : path.edgeAt node = some e) : node < path.lastNode := by
  obtain ⟨s, hs, rfl, -⟩ := exists_mem_segments_of_edgeAt he
  have hlt := node_lt_of_mem_segments hs
  have hne : s.node ≠ path.lastNode := by
    intro heq
    rw [heq, h.edgeAt_lastNode] at he
    cases he
  unfold lastNode at hne ⊢
  omega

theorem lastNode_pos {path : TripPath} (h : path.IsUnbroken) (hpos : 0 < path.edgeCount) :
    0 < path.lastNode := by
  obtain ⟨s, hs⟩ := List.exists_mem_of_ne_nil _ ((segments_ne_nil_iff path).mpr hpos)
  exact Nat.zero_lt_of_lt (lt_lastNode_of_edgeAt h (edgeAt_of_mem_segments hs))

theorem map_node_segments {path : TripPath} (h : path.IsUnbroken) (hpos : 0 < path.edgeCount) :
    path.segments.map (·.node) = List.range path.lastNode := by
  have hlast := lastNode_pos h hpos
  have hlen : path.nodes.length = path.lastNode + 1 := by
    unfold lastNode at hlast ⊢
    omega
  have hnone : path.segmentAt? path.lastNode = none := by
    rw [← Option.isNone_iff_eq_none, ← Option.not_isSome, isSome_segmentAt?, h.edgeAt_lastNode]
    rfl
  rw [segments_eq_filterMap, hlen, List.range_succ, List.filterMap_append]
  simp only [List.filterMap_cons, hnone, List.filterMap_nil, List.append_nil, List.map_filterMap]
  rw [List.filterMap_eq_map_iff_forall_eq_some.mpr, List.map_id']
  intro node hnode
  have hsome := h.edge_isSome node (List.mem_range.mp hnode)
  rw [← isSome_segmentAt?, Option.isSome_iff_exists] at hsome
  obtain ⟨s, hs⟩ := hsome
  simp [hs, node_of_segmentAt? hs]

theorem isChain_node_segments {path : TripPath} (h : path.IsUnbroken) (hpos : 0 < path.edgeCount) :
    path.segments.IsChain fun s t => s.node + 1 = t.node := by
  have hchain : (path.segments.map (·.node)).IsChain fun i j => i + 1 = j := by
    rw [map_node_segments h hpos, List.isChain_range]
    exact fun _ _ => rfl
  rwa [List.isChain_map] at hchain

theorem exists_head?_segments {path : TripPath} (h : path.IsUnbroken) (hpos : 0 < path.edgeCount) :
    ∃ s, path.segments.head? = some s ∧ s.node = 0 := by
  have hhead := congrArg List.head? (map_node_segments h hpos)
  have hne : path.lastNode ≠ 0 := Nat.ne_of_gt (lastNode_pos h hpos)
  rwa [List.head?_map, List.head?_range, if_neg hne, Option.map_eq_some_iff] at hhead

theorem exists_getLast?_segments {path : TripPath} (h : path.IsUnbroken)
    (hpos : 0 < path.edgeCount) :
    ∃ s, path.segments.getLast? = some s ∧ s.node = path.lastNode - 1 := by
  have hlast := congrArg List.getLast? (map_node_segments h hpos)
  have hne : path.lastNode ≠ 0 := Nat.ne_of_gt (lastNode_pos h hpos)
  rwa [List.getLast?_map, List.getLast?_range, if_neg hne, Option.map_eq_some_iff] at hlast

end TripPath

end TurnByTurn
