import TurnByTurn.Proofs.Maneuver.Homogeneous
import TurnByTurn.Proofs.Maneuver.Partition

namespace TurnByTurn

namespace TripPath

section Stretches

variable {path : TripPath} {t b : Stretch} {s a : Segment} {k : Nat}

theorem eq_of_node_eq (ha : a ∈ path.segments) (hs : s ∈ path.segments) (h : a.node = s.node) :
    a = s := by
  have hat := mem_segments_iff.mp ha
  rw [h, mem_segments_iff.mp hs] at hat
  exact (Option.some.inj hat).symm

theorem node_lt_of_getElem?_lt {j : Nat} (hb : path.stretches[j]? = some b)
    (ht : path.stretches[k]? = some t) (hlt : j < k) (ha : a ∈ b.segments) (hs : s ∈ t.segments) :
    a.node < s.node := by
  obtain ⟨hj, rfl⟩ := List.getElem?_eq_some_iff.mp hb
  obtain ⟨hk, rfl⟩ := List.getElem?_eq_some_iff.mp ht
  exact List.pairwise_iff_getElem.mp (pairwise_stretches path) j k hj hk hlt a ha s hs

theorem joins_previous (hb : path.stretches[k]? = some b) (ht : path.stretches[k + 1]? = some t) :
    Stretch.joins b.last t.first = false := by
  obtain ⟨-, rfl⟩ := List.getElem?_eq_some_iff.mp hb
  obtain ⟨hk, rfl⟩ := List.getElem?_eq_some_iff.mp ht
  exact List.isChain_iff_getElem.mp (isChain_stretches path) k hk

theorem exists_previous_of_node (ht : path.stretches[k]? = some t) (ha : a ∈ path.segments)
    (hnode : a.node + 1 = t.first.node) :
    ∃ j b, k = j + 1 ∧ path.stretches[j]? = some b ∧ b.last = a := by
  obtain ⟨u, hu, hau⟩ := exists_mem_stretches ha
  obtain ⟨i, hi⟩ := List.mem_iff_getElem?.mp hu
  have hik : i < k := by
    by_contra hle
    rcases Nat.lt_or_eq_of_le (Nat.le_of_not_lt hle) with hlt | rfl
    · have hnodes := node_lt_of_getElem?_lt ht hi hlt t.first_mem hau
      omega
    · obtain rfl := Option.some.inj (ht.symm.trans hi)
      have hnodes := node_first_le hu hau
      omega
  obtain ⟨j, rfl⟩ : ∃ j, k = j + 1 := ⟨k - 1, by omega⟩
  have hj : j < path.stretches.length := by
    have hlength := (List.getElem?_eq_some_iff.mp ht).1
    omega
  have hb : path.stretches[j]? = some path.stretches[j] := List.getElem?_eq_getElem hj
  have hbmem : path.stretches[j] ∈ path.stretches := List.getElem_mem hj
  have hbefore := node_lt_of_getElem?_lt hb ht j.lt_succ_self (Stretch.last_mem _) t.first_mem
  have hafter : a.node ≤ path.stretches[j].last.node := by
    rcases Nat.lt_or_eq_of_le (Nat.le_of_lt_succ hik) with hlt | rfl
    · exact Nat.le_of_lt (node_lt_of_getElem?_lt hi hb hlt hau (Stretch.last_mem _))
    · obtain rfl := Option.some.inj (hi.symm.trans hb)
      exact node_le_last hbmem hau
  refine ⟨j, path.stretches[j], rfl, hb, eq_of_node_eq ?_ ha (by omega)⟩
  exact mem_segments_of_mem_stretches hbmem (Stretch.last_mem _)

theorem exists_segments_eq_append (ha : a ∈ path.segments) (hs : s ∈ path.segments)
    (hnode : a.node + 1 = s.node) :
    ∃ before after, path.segments = before ++ a :: s :: after := by
  obtain ⟨before, rest, hsplit⟩ := List.append_of_mem ha
  have hpairs := pairwise_node_segments path
  rw [hsplit, List.pairwise_append] at hpairs
  have hrest : s ∈ rest := by
    rw [hsplit] at hs
    rcases List.mem_append.mp hs with hs | hs
    · have hnodes := hpairs.2.2 s hs a List.mem_cons_self
      omega
    · rcases List.mem_cons.mp hs with rfl | hs
      · omega
      · exact hs
  cases rest with
  | nil => cases hrest
  | cons u after =>
    refine ⟨before, after, ?_⟩
    rcases List.mem_cons.mp hrest with rfl | hafter
    · exact hsplit
    · -- an edge between the two would leave a node between neighbouring ones
      have hau : a.node < u.node := List.rel_of_pairwise_cons hpairs.2.1 List.mem_cons_self
      have hus := List.rel_of_pairwise_cons hpairs.2.1.of_cons hafter
      omega

theorem exists_stretch_of_not_joins (ha : a ∈ path.segments) (hs : s ∈ path.segments)
    (hnode : a.node + 1 = s.node) (h : Stretch.joins a s = false) :
    ∃ t ∈ path.stretches, t.first = s := by
  obtain ⟨before, after, hsplit⟩ := exists_segments_eq_append ha hs hnode
  have hboundary : ∀ x ∈ (before ++ [a]).getLast?, Stretch.joins x s = false := by
    intro x hx
    rw [List.getLast?_concat, Option.mem_some_iff] at hx
    rwa [← hx]
  have hcut := path.map_segments_stretches
  rw [hsplit, List.append_cons, List.splitBy_append_cons after hboundary] at hcut
  have hne : s :: after ≠ [] := List.cons_ne_nil s after
  have hhead := List.head_head_splitBy Stretch.joins hne
  have hrun := List.head_mem (List.splitBy_ne_nil (r := Stretch.joins).mpr hne)
  have hmem := List.mem_append_right ((before ++ [a]).splitBy Stretch.joins) hrun
  rw [← hcut, List.mem_map] at hmem
  obtain ⟨t, ht, hsegments⟩ := hmem
  simp only [← hsegments] at hhead
  exact ⟨t, ht, hhead⟩

end Stretches

section Neighbours

variable {path : TripPath} {node : Nat} {e : Edge} {s : Segment}

theorem mem_segments_of_segmentAt? (h : path.segmentAt? node = some s) : s ∈ path.segments := by
  rw [mem_segments_iff, node_of_segmentAt? h]
  exact h

theorem begins_of_mem_maneuvers (he : path.edgeAt node = some e)
    (hs : path.segmentAt? (node + 1) = some s) {m : Maneuver} (hm : m ∈ path.maneuvers)
    (hkind : m.kind ≠ .arrive) (hbegin : m.beginNode = node + 1) :
    s.beginsManeuver e = true ∧ m.kind = .between e s.edge ∧ m.turn = e.turnOnto s.edge := by
  obtain ⟨a, ha, rfl, rfl⟩ := exists_mem_segments_of_edgeAt he
  have hpos := (segments_ne_nil_iff path).mp (List.ne_nil_of_mem ha)
  rw [maneuvers_eq_summaries hpos] at hm
  obtain ⟨k, hk⟩ := List.mem_iff_getElem?.mp hm
  rcases getElem?_append_arrival hk with ⟨-, hk⟩ | ⟨-, rfl⟩
  · rw [Stretch.getElem?_summaries, Option.map_eq_some_iff] at hk
    obtain ⟨t, ht, rfl⟩ := hk
    obtain ⟨j, b, rfl, hb, rfl⟩ := exists_previous_of_node ht ha hbegin.symm
    have hfirst : t.first = s := by
      have hmem := mem_segments_of_mem_stretches (List.mem_of_getElem? ht) t.first_mem
      exact eq_of_node_eq hmem (mem_segments_of_segmentAt? hs)
        (hbegin.trans (node_of_segmentAt? hs).symm)
    have hjoins := joins_previous hb ht
    rw [hfirst, Stretch.joins, Bool.not_eq_false'] at hjoins
    rw [if_neg j.succ_ne_zero, Nat.add_sub_cancel, hb, ← hfirst]
    exact ⟨hfirst ▸ hjoins, rfl, rfl⟩
  · exact absurd rfl hkind

theorem exists_mem_maneuvers_of_begins (he : path.edgeAt node = some e)
    (hs : path.segmentAt? (node + 1) = some s) (h : s.beginsManeuver e = true) :
    ∃ m ∈ path.maneuvers, m.beginNode = node + 1 ∧ m.kind ≠ .arrive := by
  obtain ⟨a, ha, rfl, rfl⟩ := exists_mem_segments_of_edgeAt he
  have hnode := node_of_segmentAt? hs
  have hjoins : Stretch.joins a s = false := by rw [Stretch.joins, h]; rfl
  obtain ⟨t, ht, rfl⟩ :=
    exists_stretch_of_not_joins ha (mem_segments_of_segmentAt? hs) hnode.symm hjoins
  obtain ⟨b, hb⟩ := exists_summary_mem_maneuvers ht
  refine ⟨t.summary b, hb, hnode, ?_⟩
  cases b with
  | none =>
    intro harrive
    cases harrive
  | some b => exact (ManeuverKind.between_ne_depart_arrive _ _).2

end Neighbours

end TripPath

end TurnByTurn
