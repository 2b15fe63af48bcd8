import Mathlib.Data.List.SplitBy
import TurnByTurn.Maneuver.Boundary
import TurnByTurn.Proofs.Path.Segments

namespace TurnByTurn

structure Stretch where
  first : Segment
  rest : List Segment

namespace Stretch

def segments (t : Stretch) : List Segment := t.first :: t.rest

def last (t : Stretch) : Segment := t.rest.getLastD t.first

def snoc (t : Stretch) (s : Segment) : Stretch := ⟨t.first, t.rest ++ [s]⟩

@[simp]
theorem first_snoc (t : Stretch) (s : Segment) : (t.snoc s).first = t.first := rfl

@[simp]
theorem last_snoc (t : Stretch) (s : Segment) : (t.snoc s).last = s :=
  List.getLastD_concat

@[simp]
theorem last_single (s : Segment) : (Stretch.mk s []).last = s := rfl

@[simp]
theorem segments_snoc (t : Stretch) (s : Segment) : (t.snoc s).segments = t.segments ++ [s] := rfl

theorem segments_ne_nil (t : Stretch) : t.segments ≠ [] := List.cons_ne_nil _ _

theorem getLast?_segments (t : Stretch) : t.segments.getLast? = some t.last := by
  unfold segments last
  rw [List.getLast?_cons, List.getLastD_eq_getLast?]

theorem getLast_segments (t : Stretch) : t.segments.getLast t.segments_ne_nil = t.last := by
  have h := t.getLast?_segments
  rwa [List.getLast?_eq_some_getLast t.segments_ne_nil, Option.some.injEq] at h

theorem first_mem (t : Stretch) : t.first ∈ t.segments := List.mem_cons_self

theorem last_mem (t : Stretch) : t.last ∈ t.segments :=
  List.mem_of_getLast? t.getLast?_segments

def joins (prev s : Segment) : Bool := !s.beginsManeuver prev.edge

def cut (t : Stretch) : List Segment → List Stretch
  | [] => [t]
  | s :: following =>
    if joins t.last s then cut (t.snoc s) following else t :: cut ⟨s, []⟩ following

theorem isChain_snoc {t : Stretch} {s : Segment} (ht : t.segments.IsChain fun a b => joins a b)
    (hs : joins t.last s) : (t.snoc s).segments.IsChain fun a b => joins a b := by
  rw [segments_snoc]
  refine ht.append (.singleton s) ?_
  intro a ha b hb
  rw [getLast?_segments, Option.mem_some_iff] at ha
  rw [List.head?_singleton, Option.mem_some_iff] at hb
  rwa [← ha, ← hb]

theorem map_segments_cut {t : Stretch} (following : List Segment)
    (ht : t.segments.IsChain fun a b => joins a b) :
    (t.cut following).map segments = (t.segments ++ following).splitBy joins := by
  -- the stretch under way is a chain all the time, so `splitBy` does not cut inside it
  induction following generalizing t with
  | nil => rw [cut, List.append_nil, List.splitBy_of_isChain t.segments_ne_nil ht]; rfl
  | cons s following ih =>
    by_cases hs : joins t.last s
    · rw [cut, if_pos hs, ih (isChain_snoc ht hs), segments_snoc, List.append_assoc]
      rfl
    · have hboundary : ∀ a ∈ t.segments.getLast?, joins a s = false := by
        intro a ha
        rw [getLast?_segments, Option.mem_some_iff] at ha
        rw [← ha]
        exact Bool.eq_false_iff.mpr hs
      have hsingle := ih (t := ⟨s, []⟩) (.singleton s)
      rw [cut, if_neg hs, List.map_cons, hsingle, List.splitBy_append_cons following hboundary,
        List.splitBy_of_isChain t.segments_ne_nil ht]
      rfl

end Stretch

namespace TripPath

def stretches (path : TripPath) : List Stretch :=
  match path.segments with
  | [] => []
  | s :: following => Stretch.cut ⟨s, []⟩ following

theorem map_segments_stretches (path : TripPath) :
    path.stretches.map Stretch.segments = path.segments.splitBy Stretch.joins := by
  unfold stretches
  split
  · next h => rw [h]; rfl
  · next s following h => rw [h, Stretch.map_segments_cut following (.singleton s)]; rfl

theorem flatMap_segments_stretches (path : TripPath) :
    path.stretches.flatMap Stretch.segments = path.segments := by
  rw [List.flatMap_def, map_segments_stretches, List.flatten_splitBy]

theorem segments_mem_splitBy {path : TripPath} {t : Stretch} (h : t ∈ path.stretches) :
    t.segments ∈ path.segments.splitBy Stretch.joins := by
  rw [← map_segments_stretches]
  exact List.mem_map_of_mem h

theorem isChain_of_mem_stretches {path : TripPath} {t : Stretch} (h : t ∈ path.stretches) :
    t.segments.IsChain fun a b => Stretch.joins a b :=
  List.isChain_of_mem_splitBy (segments_mem_splitBy h)

theorem isChain_stretches (path : TripPath) :
    path.stretches.IsChain fun t u => Stretch.joins t.last u.first = false := by
  have h := List.isChain_getLast_head_splitBy Stretch.joins path.segments
  rw [← map_segments_stretches, List.isChain_map] at h
  refine h.imp ?_
  rintro t u ⟨_, _, htu⟩
  rwa [Stretch.getLast_segments] at htu

theorem segments_sublist {path : TripPath} {t : Stretch} (h : t ∈ path.stretches) :
    t.segments.Sublist path.segments := by
  rw [← flatMap_segments_stretches, List.flatMap_def]
  exact List.sublist_flatten_of_mem (List.mem_map_of_mem h)

theorem mem_segments_of_mem_stretches {path : TripPath} {t : Stretch} {s : Segment}
    (ht : t ∈ path.stretches) (hs : s ∈ t.segments) : s ∈ path.segments :=
  (segments_sublist ht).subset hs

theorem exists_mem_stretches {path : TripPath} {s : Segment} (h : s ∈ path.segments) :
    ∃ t ∈ path.stretches, s ∈ t.segments := by
  rwa [← flatMap_segments_stretches, List.mem_flatMap] at h

theorem eq_first_of_mem_stretches {α : Type} {f : Segment → α}
    (hf : ∀ a b, Stretch.joins a b → f a = f b) {path : TripPath} {t : Stretch}
    (ht : t ∈ path.stretches) {s : Segment} (hs : s ∈ t.segments) : f s = f t.first := by
  have hchain := (isChain_of_mem_stretches ht).imp hf
  have htrans : IsTrans Segment fun a b => f a = f b := ⟨fun _ _ _ hab hbc => hab.trans hbc⟩
  rcases List.mem_cons.mp hs with rfl | hs
  · rfl
  · exact (hchain.rel_cons hs).symm

theorem node_first_le {path : TripPath} {t : Stretch} (ht : t ∈ path.stretches) {s : Segment}
    (hs : s ∈ t.segments) : t.first.node ≤ s.node := by
  have hpairs := (pairwise_node_segments path).sublist (segments_sublist ht)
  rcases List.mem_cons.mp hs with rfl | hs
  · exact Nat.le_refl _
  · exact Nat.le_of_lt (List.rel_of_pairwise_cons hpairs hs)

theorem node_le_last {path : TripPath} {t : Stretch} (ht : t ∈ path.stretches) {s : Segment}
    (hs : s ∈ t.segments) : s.node ≤ t.last.node := by
  have hpairs := (pairwise_node_segments path).sublist (segments_sublist ht)
  obtain ⟨before, hsplit⟩ := List.getLast?_eq_some_iff.mp t.getLast?_segments
  rw [hsplit] at hs hpairs
  rcases List.mem_append.mp hs with hs | hs
  · exact Nat.le_of_lt ((List.pairwise_append.mp hpairs).2.2 s hs _ (List.mem_singleton_self _))
  · rw [List.mem_singleton.mp hs]

theorem pairwise_stretches (path : TripPath) :
    path.stretches.Pairwise fun t u => ∀ s ∈ t.segments, ∀ s' ∈ u.segments, s.node < s'.node := by
  have h := pairwise_node_segments path
  rw [← flatMap_segments_stretches, List.pairwise_flatMap] at h
  exact h.2

theorem stretches_eq_nil_iff (path : TripPath) :
    path.stretches = [] ↔ ¬ 0 < path.edgeCount := by
  rw [← segments_ne_nil_iff, not_not]
  constructor
  · intro hnil
    rw [← flatMap_segments_stretches, hnil]
    rfl
  · intro hnil
    refine List.eq_nil_iff_forall_not_mem.mpr ?_
    intro t ht
    have hmem := mem_segments_of_mem_stretches ht t.first_mem
    rw [hnil] at hmem
    cases hmem

end TripPath

end TurnByTurn
