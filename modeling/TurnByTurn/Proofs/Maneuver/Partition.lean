import Mathlib.Tactic.SplitIfs
import TurnByTurn.Proofs.Maneuver.Summary
import TurnByTurn.Proofs.Path.Ranges

namespace TurnByTurn

namespace ManeuverKind

theorem ofTurn_ne_depart_arrive (turn : Turn) (degree : Nat) :
    ofTurn turn degree ≠ depart ∧ ofTurn turn degree ≠ arrive := by
  unfold ofTurn
  cases turn <;> dsimp only
  case uTurn => split_ifs <;> simp
  all_goals simp

theorem between_ne_depart_arrive (prev e : Edge) :
    between prev e ≠ depart ∧ between prev e ≠ arrive := by
  unfold between
  dsimp only
  split_ifs
  all_goals simp [ofTurn_ne_depart_arrive]

end ManeuverKind

namespace Maneuver

def nodeRange (m : Maneuver) : Nat × Nat := (m.beginNode, m.endNode)

def shapeRange (m : Maneuver) : Nat × Nat := (m.beginShape, m.endShape)

end Maneuver

namespace Stretch

theorem getElem?_summaries (before : Option Stretch) (ts : List Stretch) (k : Nat) :
    (summaries before ts)[k]? =
      ts[k]?.map fun t => t.summary (if k = 0 then before else ts[k - 1]?) := by
  induction ts generalizing before k with
  | nil => rfl
  | cons t ts ih =>
    rw [summaries]
    cases k with
    | zero => rfl
    | succ k =>
      rw [List.getElem?_cons_succ, List.getElem?_cons_succ, ih]
      cases k <;> rfl

theorem kind_of_getElem?_summaries {ts : List Stretch} {k : Nat} {m : Maneuver}
    (h : (summaries none ts)[k]? = some m) : (m.kind = .depart ↔ k = 0) ∧ m.kind ≠ .arrive := by
  rw [getElem?_summaries, Option.map_eq_some_iff] at h
  obtain ⟨t, ht, rfl⟩ := h
  cases k with
  | zero => exact ⟨⟨fun _ => rfl, fun _ => rfl⟩, by simp [summary, kind]⟩
  | succ k =>
    have hlt : k < ts.length := by
      have hk := (List.getElem?_eq_some_iff.mp ht).1
      omega
    have hkind := ManeuverKind.between_ne_depart_arrive ts[k].last.edge t.first.edge
    rw [if_neg k.succ_ne_zero, Nat.add_sub_cancel, List.getElem?_eq_getElem hlt]
    exact ⟨⟨fun hdepart => absurd hdepart hkind.1, fun hzero => absurd hzero k.succ_ne_zero⟩,
      hkind.2⟩

theorem leadsTo_cut (start stop : Segment → Nat) (t : Stretch) (following : List Segment)
    (h : (t.last :: following).IsChain fun a b => stop a = start b) :
    LeadsTo (start t.first) ((t.cut following).map fun u => (start u.first, stop u.last))
      (stop (following.getLastD t.last)) := by
  induction following generalizing t with
  | nil => exact ⟨rfl, rfl⟩
  | cons s following ih =>
    have hmeet : stop t.last = start s := h.rel
    rw [cut, List.getLastD_cons]
    by_cases hs : joins t.last s
    · have hrest := ih (t.snoc s) (by rw [last_snoc]; exact h.tail)
      rw [last_snoc, first_snoc] at hrest
      rw [if_pos hs]
      exact hrest
    · have hrest := ih ⟨s, []⟩ h.tail
      rw [if_neg hs, List.map_cons]
      exact ⟨rfl, hmeet ▸ hrest⟩

end Stretch

namespace TripPath

theorem leadsTo_stretches (start stop : Segment → Nat) {path : TripPath} {s t : Segment}
    (hs : path.segments.head? = some s) (ht : path.segments.getLast? = some t)
    (h : path.segments.IsChain fun a b => stop a = start b) :
    LeadsTo (start s) (path.stretches.map fun u => (start u.first, stop u.last)) (stop t) := by
  unfold stretches
  cases hp : path.segments with
  | nil => rw [hp] at hs; cases hs
  | cons a following =>
    rw [hp] at hs ht h
    rw [List.getLast?_cons, ← List.getLastD_eq_getLast?] at ht
    obtain rfl := Option.some.inj hs
    obtain rfl := Option.some.inj ht
    exact Stretch.leadsTo_cut start stop ⟨a, []⟩ following h

theorem map_nodeRange_summaries (ts : List Stretch) :
    (Stretch.summaries none ts).map Maneuver.nodeRange =
      ts.map fun t => (t.first.node, t.last.node + 1) :=
  Stretch.map_summaries (fun _ _ => rfl) none ts

theorem map_shapeRange_summaries (ts : List Stretch) :
    (Stretch.summaries none ts).map Maneuver.shapeRange =
      ts.map fun t => (t.first.edge.beginShape, t.last.edge.endShape) :=
  Stretch.map_summaries (fun _ _ => rfl) none ts

theorem beginNode_lt_endNode {path : TripPath} {m : Maneuver}
    (h : m ∈ Stretch.summaries none path.stretches) : m.beginNode < m.endNode := by
  obtain ⟨t, ht, b, rfl⟩ := Stretch.exists_of_mem_summaries h
  exact Nat.lt_succ_of_le (node_first_le ht t.last_mem)

theorem leadsTo_nodeRanges {path : TripPath} (h : path.IsUnbroken) (hpos : 0 < path.edgeCount) :
    LeadsTo 0 ((Stretch.summaries none path.stretches).map Maneuver.nodeRange) path.lastNode := by
  obtain ⟨s, hs, hfirst⟩ := exists_head?_segments h hpos
  obtain ⟨t, ht, hlast⟩ := exists_getLast?_segments h hpos
  have hleads := leadsTo_stretches (·.node) (·.node + 1) hs ht (isChain_node_segments h hpos)
  have hend : t.node + 1 = path.lastNode := by
    have hlastNode := lastNode_pos h hpos
    omega
  rw [map_nodeRange_summaries]
  rwa [hfirst, hend] at hleads

def ShapesMeet (path : TripPath) : Prop :=
  ∀ node e f, path.edgeAt node = some e → path.edgeAt (node + 1) = some f →
    e.endShape = f.beginShape

theorem isChain_shape_segments {path : TripPath} (h : path.IsUnbroken) (hpos : 0 < path.edgeCount)
    (hshape : path.ShapesMeet) :
    path.segments.IsChain fun s t => s.edge.endShape = t.edge.beginShape := by
  refine (isChain_node_segments h hpos).imp_of_mem_imp ?_
  intro s t hs ht hst
  exact hshape s.node _ _ (edgeAt_of_mem_segments hs) (hst ▸ edgeAt_of_mem_segments ht)

structure Partition (path : TripPath) (travel : List Maneuver) (arrival : Maneuver) : Prop where
  depart_iff : ∀ k m, (travel ++ [arrival])[k]? = some m → (m.kind = .depart ↔ k = 0)
  arrive_iff : ∀ k m, (travel ++ [arrival])[k]? = some m → (m.kind = .arrive ↔ k = travel.length)
  beginNode_lt_endNode : ∀ m ∈ travel, m.beginNode < m.endNode
  leadsTo : LeadsTo 0 (travel.map Maneuver.nodeRange) path.lastNode
  nodeRange_arrival : arrival.nodeRange = (path.lastNode, path.lastNode)
  existsUnique : ∀ node, (path.edgeAt node).isSome →
    ∃! k : Nat, ∃ m, (travel ++ [arrival])[k]? = some m ∧ m.beginNode ≤ node ∧ node < m.endNode
  sum_edgeCount : ((travel ++ [arrival]).map Maneuver.edgeCount).sum = path.edgeCount

theorem nodeRange_le {ms : List Maneuver} (hle : ∀ m ∈ ms, m.beginNode ≤ m.endNode) :
    ∀ r ∈ ms.map Maneuver.nodeRange, r.1 ≤ r.2 := by
  rw [List.forall_mem_map]
  exact hle

theorem existsUnique_maneuver {ms : List Maneuver} {first last node : Nat}
    (h : LeadsTo first (ms.map Maneuver.nodeRange) last) (hle : ∀ m ∈ ms, m.beginNode ≤ m.endNode)
    (hfirst : first ≤ node) (hlast : node < last) :
    ∃! k : Nat, ∃ m, ms[k]? = some m ∧ m.beginNode ≤ node ∧ node < m.endNode := by
  have hunique := h.existsUnique_mem (nodeRange_le hle) hfirst hlast
  simpa only [List.getElem?_map, Option.map_eq_some_iff, Maneuver.nodeRange,
    exists_exists_and_eq_and] using hunique

theorem sum_edgeCount_maneuvers {ms : List Maneuver} {first last : Nat}
    (h : LeadsTo first (ms.map Maneuver.nodeRange) last)
    (hle : ∀ m ∈ ms, m.beginNode ≤ m.endNode) :
    (ms.map Maneuver.edgeCount).sum = last - first := by
  rw [← h.sum_lengths (nodeRange_le hle), List.map_map]
  rfl

theorem edgeCount_eq_lastNode {path : TripPath} (h : path.IsUnbroken) (hpos : 0 < path.edgeCount) :
    path.edgeCount = path.lastNode := by
  rw [← length_segments, ← List.length_map (·.node), map_node_segments h hpos, List.length_range]

theorem getElem?_append_arrival {travel : List Maneuver} {arrival m : Maneuver} {k : Nat}
    (h : (travel ++ [arrival])[k]? = some m) :
    k < travel.length ∧ travel[k]? = some m ∨ k = travel.length ∧ m = arrival := by
  rcases Nat.lt_or_ge k travel.length with hk | hk
  · rw [List.getElem?_append_left hk] at h
    exact .inl ⟨hk, h⟩
  · rw [List.getElem?_append_right hk, List.getElem?_singleton] at h
    split at h
    · exact .inr ⟨by omega, (Option.some.inj h).symm⟩
    · cases h

theorem length_summaries_pos {path : TripPath} (hpos : 0 < path.edgeCount) :
    0 < (Stretch.summaries none path.stretches).length := by
  rw [Stretch.length_summaries, List.length_pos_iff]
  exact fun hnil => (stretches_eq_nil_iff path).mp hnil hpos

theorem kind_of_getElem? {path : TripPath} (hpos : 0 < path.edgeCount) {k : Nat} {m : Maneuver}
    (h : (Stretch.summaries none path.stretches ++ [path.arrival])[k]? = some m) :
    (m.kind = .depart ↔ k = 0) ∧
      (m.kind = .arrive ↔ k = (Stretch.summaries none path.stretches).length) := by
  have hlength := length_summaries_pos hpos
  rcases getElem?_append_arrival h with ⟨hlt, hk⟩ | ⟨rfl, rfl⟩
  · obtain ⟨hdepart, harrive⟩ := Stretch.kind_of_getElem?_summaries hk
    exact ⟨hdepart, fun hm => absurd hm harrive, fun hm => absurd hm (Nat.ne_of_lt hlt)⟩
  · have hkind : path.arrival.kind = .arrive := rfl
    rw [hkind]
    constructor
    · constructor
      · intro hm
        cases hm
      · intro hm
        omega
    · simp

theorem partition_summaries {path : TripPath} (h : path.IsUnbroken) (hpos : 0 < path.edgeCount) :
    Partition path (Stretch.summaries none path.stretches) path.arrival := by
  have hleads : LeadsTo 0 ((Stretch.summaries none path.stretches ++ [path.arrival]).map
      Maneuver.nodeRange) path.lastNode := by
    rw [List.map_append]
    exact (leadsTo_nodeRanges h hpos).concat path.lastNode
  have hle : ∀ m ∈ Stretch.summaries none path.stretches ++ [path.arrival],
      m.beginNode ≤ m.endNode := by
    intro m hm
    rcases List.mem_append.mp hm with hm | hm
    · exact Nat.le_of_lt (beginNode_lt_endNode hm)
    · rw [List.mem_singleton.mp hm]
      exact Nat.le_refl _
  refine ⟨fun k m hm => (kind_of_getElem? hpos hm).1, fun k m hm => (kind_of_getElem? hpos hm).2,
    fun m hm => beginNode_lt_endNode hm, leadsTo_nodeRanges h hpos, rfl, ?_, ?_⟩
  · intro node hnode
    obtain ⟨e, he⟩ := Option.isSome_iff_exists.mp hnode
    obtain ⟨s, hs, rfl, -⟩ := exists_mem_segments_of_edgeAt he
    have hmem : s.node ∈ path.segments.map (·.node) := List.mem_map_of_mem hs
    rw [map_node_segments h hpos, List.mem_range] at hmem
    exact existsUnique_maneuver hleads hle (Nat.zero_le _) hmem
  · rw [sum_edgeCount_maneuvers hleads hle, edgeCount_eq_lastNode h hpos, Nat.sub_zero]

structure ShapePartition (path : TripPath) (travel : List Maneuver) (arrival : Maneuver)
    (first last : Edge) : Prop where
  edgeAt_first : path.edgeAt 0 = some first
  edgeAt_last : path.edgeAt (path.lastNode - 1) = some last
  leadsTo : LeadsTo first.beginShape (travel.map Maneuver.shapeRange) last.endShape
  shapeRange_arrival : arrival.shapeRange = (last.endShape, last.endShape)

theorem shapePartition_summaries {path : TripPath} (h : path.IsUnbroken)
    (hpos : 0 < path.edgeCount) (hshape : path.ShapesMeet) :
    ∃ first last, ShapePartition path (Stretch.summaries none path.stretches) path.arrival
      first last := by
  obtain ⟨s, hs, hfirst⟩ := exists_head?_segments h hpos
  obtain ⟨t, ht, hlast⟩ := exists_getLast?_segments h hpos
  have hleads := leadsTo_stretches (·.edge.beginShape) (·.edge.endShape) hs ht
    (isChain_shape_segments h hpos hshape)
  refine ⟨s.edge, t.edge, ?_, ?_, ?_, ?_⟩
  · rw [← hfirst]
    exact edgeAt_of_mem_segments (List.mem_of_head? hs)
  · rw [← hlast]
    exact edgeAt_of_mem_segments (List.mem_of_getLast? ht)
  · rwa [map_shapeRange_summaries]
  · unfold arrival
    rw [ht]
    rfl

theorem maneuvers?_partition (path : TripPath) (h : path.IsUnbroken) (hpos : 0 < path.edgeCount) :
    ∃ travel arrival, path.maneuvers? = .ok (travel ++ [arrival]) ∧
      Partition path travel arrival ∧
      (path.ShapesMeet → ∃ first last, ShapePartition path travel arrival first last) := by
  refine ⟨_, _, ?_, partition_summaries h hpos, shapePartition_summaries h hpos⟩
  rw [maneuvers?, nodes_ne_nil_of_edgeCount_pos hpos, maneuvers_eq_summaries hpos]
  rfl

theorem isUnbroken_overFerry : overFerry.IsUnbroken := ⟨by decide, rfl⟩

theorem shapesMeet_overFerry : overFerry.ShapesMeet := by
  have hall : ∀ node < 3, (overFerry.edgeAt node).map (·.endShape) =
      (overFerry.edgeAt (node + 1)).map (·.beginShape) := by decide
  intro node e f he hf
  have hlt : node + 1 < 4 := lt_lastNode_of_edgeAt isUnbroken_overFerry hf
  have hmeet := hall node (by omega)
  rw [he, hf] at hmeet
  exact Option.some.inj hmeet

theorem maneuvers?_partition_overFerry :
    ∃ travel arrival first last, overFerry.maneuvers? = .ok (travel ++ [arrival]) ∧
      Partition overFerry travel arrival ∧ ShapePartition overFerry travel arrival first last := by
  obtain ⟨travel, arrival, hok, hnodes, hshapes⟩ :=
    maneuvers?_partition overFerry isUnbroken_overFerry (by decide)
  obtain ⟨first, last, hpartition⟩ := hshapes shapesMeet_overFerry
  exact ⟨travel, arrival, first, last, hok, hnodes, hpartition⟩

end TripPath

end TurnByTurn
