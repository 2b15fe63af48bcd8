import TurnByTurn.Proofs.Maneuver.Junction
import TurnByTurn.Proofs.Maneuver.Summary

/-!
A path whose edges are cut into pieces. Nothing is told between the pieces of an edge, so the cut
path has the same stretches in more pieces, and the same is told of each.
-/

namespace TurnByTurn

namespace Stretch

structure Along (t : Stretch) (u : Segment) : Prop where
  sameRoad : ∀ s ∈ t.segments, s.edge.SameRoad u.edge
  toll : ∀ s ∈ t.segments, s.edge.toll = u.edge.toll
  unpaved : ∀ s ∈ t.segments, s.edge.unpaved = u.edge.unpaved
  straight : t.segments.IsChain fun a b => a.edge.endHeading = b.edge.beginHeading
  crossings : t.first.crossings = u.crossings
  beginHeading : t.first.edge.beginHeading = u.edge.beginHeading
  endHeading : t.last.edge.endHeading = u.edge.endHeading
  beginShape : t.first.edge.beginShape = u.edge.beginShape
  endShape : t.last.edge.endShape = u.edge.endShape

section Along

variable {t u : Stretch} {a b : Segment}

theorem Along.isChain_joins (h : t.Along a) : t.segments.IsChain fun p q => joins p q := by
  refine h.straight.imp_of_mem_imp ?_
  intro p q hp hq hheading
  have hroad : p.edge.SameRoad q.edge := (h.sameRoad p hp).trans (h.sameRoad q hq).symm
  have hstraight : p.edge.turnOnto q.edge = .straight := by
    rw [Edge.turnOnto, hheading]
    exact Turn.between_self _
  rw [joins, Segment.beginsManeuver_of_sameRoad hroad hstraight]
  rfl

theorem joins_of_along (ht : t.Along a) (hu : u.Along b) : joins t.last u.first = joins a b := by
  have hturn : (t.last.edge.turnOnto u.first.edge).isSlight =
      (a.edge.turnOnto b.edge).isSlight := by
    rw [Edge.turnOnto, Edge.turnOnto, ht.endHeading, hu.beginHeading]
  rw [joins, joins, Segment.beginsManeuver_congr (ht.sameRoad _ t.last_mem)
    (hu.sameRoad _ u.first_mem) hu.crossings hturn]

end Along

def expand (f : Segment → Stretch) (t : Stretch) : Stretch :=
  ⟨(f t.first).first, (f t.first).rest ++ t.rest.flatMap fun s => (f s).segments⟩

section Expand

variable (f : Segment → Stretch) (t : Stretch)

@[simp]
theorem first_expand : (t.expand f).first = (f t.first).first := rfl

theorem segments_expand : (t.expand f).segments = t.segments.flatMap fun s => (f s).segments := rfl

@[simp]
theorem last_expand : (t.expand f).last = (f t.last).last := by
  obtain ⟨before, hsplit⟩ := List.getLast?_eq_some_iff.mp t.getLast?_segments
  have hlast := (t.expand f).getLast?_segments
  rw [segments_expand, hsplit, List.flatMap_append, List.flatMap_singleton,
    List.getLast?_append_of_ne_nil _ (f t.last).segments_ne_nil, getLast?_segments,
    Option.some.injEq] at hlast
  exact hlast.symm

theorem expand_snoc (s : Segment) :
    (t.snoc s).expand f = ⟨(t.expand f).first, (t.expand f).rest ++ (f s).segments⟩ := by
  simp [expand, snoc]

theorem expand_single (s : Segment) : (Stretch.mk s []).expand f = f s := by
  simp [expand]

end Expand

theorem cut_append_of_isChain {t : Stretch} {more : List Segment}
    (h : (t.last :: more).IsChain fun p q => joins p q) (following : List Segment) :
    t.cut (more ++ following) = cut ⟨t.first, t.rest ++ more⟩ following := by
  induction more generalizing t with
  | nil => rw [List.nil_append, List.append_nil]
  | cons s more ih =>
    have hs : joins t.last s := h.rel
    have hrest := ih (t := t.snoc s) (by rw [last_snoc]; exact h.tail)
    rw [List.cons_append, cut, if_pos hs, hrest]
    simp [snoc]

theorem cut_first_append {t : Stretch} (h : t.segments.IsChain fun p q => joins p q)
    (following : List Segment) : cut ⟨t.first, []⟩ (t.rest ++ following) = t.cut following :=
  cut_append_of_isChain (t := ⟨t.first, []⟩) h following

theorem cut_expand {f : Segment → Stretch} {t : Stretch} {following : List Segment}
    (ht : (f t.last).Along t.last) (hf : ∀ u ∈ following, (f u).Along u) :
    (t.expand f).cut (following.flatMap fun u => (f u).segments) =
      (t.cut following).map (expand f) := by
  -- whatever has been read, what is under way is `t` in pieces
  induction following generalizing t with
  | nil => rfl
  | cons s following ih =>
    have hs : (f s).Along s := hf s List.mem_cons_self
    have hrest : ∀ u ∈ following, (f u).Along u := fun u hu => hf u (List.mem_cons_of_mem s hu)
    have hjoins : joins (t.expand f).last (f s).first = joins t.last s := by
      rw [last_expand]
      exact joins_of_along ht hs
    rw [List.flatMap_cons, cut]
    by_cases hgoesOn : joins t.last s
    · have hchain : ((t.expand f).last :: (f s).segments).IsChain fun p q => joins p q :=
        hs.isChain_joins.cons_cons (hjoins.trans hgoesOn)
      have hsnoc : (f (t.snoc s).last).Along (t.snoc s).last := by rwa [last_snoc]
      rw [if_pos hgoesOn, cut_append_of_isChain hchain, ← expand_snoc, ih hsnoc hrest]
    · have hsingle := ih (t := ⟨s, []⟩) hs hrest
      rw [expand_single] at hsingle
      rw [if_neg hgoesOn, List.map_cons, ← hsingle, segments, List.cons_append, cut, hjoins,
        if_neg hgoesOn, cut_first_append hs.isChain_joins]

end Stretch

theorem TripPath.stretches_expand {path path' : TripPath} {f : Segment → Stretch}
    (hf : ∀ u ∈ path.segments, (f u).Along u)
    (h : path'.segments = path.segments.flatMap fun u => (f u).segments) :
    path'.stretches = path.stretches.map (Stretch.expand f) := by
  unfold stretches
  rw [h]
  cases hs : path.segments with
  | nil => rfl
  | cons s following =>
    rw [hs] at hf
    have halong : (f s).Along s := hf s List.mem_cons_self
    have hcut := Stretch.cut_expand (t := ⟨s, []⟩) halong
      fun u hu => hf u (List.mem_cons_of_mem s hu)
    rw [Stretch.expand_single] at hcut
    rw [← hcut, List.flatMap_cons, Stretch.segments, List.cons_append]
    exact Stretch.cut_first_append halong.isChain_joins _

/-- Alike in all that is told of the way, but for lengths, times and where it is on the path. -/
structure Maneuver.SameGuidance (m n : Maneuver) : Prop where
  kind : n.kind = m.kind
  turn : n.turn = m.turn
  beginHeading : n.beginHeading = m.beginHeading
  direction : n.direction = m.direction
  beginShape : n.beginShape = m.beginShape
  endShape : n.endShape = m.endShape
  streetNames : n.streetNames = m.streetNames
  beginStreetNames : n.beginStreetNames = m.beginStreetNames
  toll : n.toll = m.toll
  unpaved : n.unpaved = m.unpaved

namespace Stretch

theorem Along.distinctNames {t : Stretch} {u s : Segment} (h : t.Along u) (hs : s ∈ t.segments) :
    s.edge.distinctNames = u.edge.distinctNames := by
  unfold Edge.distinctNames
  rw [(h.sameRoad s hs).streetNames]

section Summary

variable {f : Segment → Stretch} {before : Option Stretch} {t : Stretch}

theorem any_expand {p : Edge → Bool}
    (h : ∀ u ∈ t.segments, ∀ s ∈ (f u).segments, p s.edge = p u.edge) :
    (t.expand f).segments.any (p ·.edge) = t.segments.any (p ·.edge) := by
  rw [segments_expand, Bool.eq_iff_iff, List.any_eq_true, List.any_eq_true]
  constructor
  · rintro ⟨s, hs, hp⟩
    obtain ⟨u, hu, hsu⟩ := List.mem_flatMap.mp hs
    exact ⟨u, hu, (h u hu s hsu).symm.trans hp⟩
  · rintro ⟨u, hu, hp⟩
    exact ⟨(f u).first, List.mem_flatMap.mpr ⟨u, hu, (f u).first_mem⟩,
      (h u hu _ (f u).first_mem).trans hp⟩

variable (ht : ∀ u ∈ t.segments, (f u).Along u) (hbefore : ∀ b ∈ before, (f b.last).Along b.last)

include ht hbefore

theorem kind_expand : (t.expand f).kind (before.map (expand f)) = t.kind before := by
  have hfirst := ht t.first t.first_mem
  cases before with
  | none => rfl
  | some b =>
    have hlast := hbefore b rfl
    simp only [kind, Option.map_some, last_expand, first_expand]
    apply ManeuverKind.between_congr (hlast.sameRoad _ (f b.last).last_mem)
      (hfirst.sameRoad _ (f t.first).first_mem)
    rw [hlast.endHeading, hfirst.beginHeading]

theorem turn_expand : (t.expand f).turn (before.map (expand f)) = t.turn before := by
  have hfirst := ht t.first t.first_mem
  cases before with
  | none => rfl
  | some b =>
    have hlast := hbefore b rfl
    simp only [turn, Option.map_some, last_expand, first_expand, Edge.turnOnto]
    rw [hlast.endHeading, hfirst.beginHeading]

theorem newNames_expand : (t.expand f).newNames (before.map (expand f)) = t.newNames before := by
  have hfirst := ht t.first t.first_mem
  cases before with
  | none => rfl
  | some b =>
    have hlast := hbefore b rfl
    simp only [newNames, Option.map_some, last_expand, first_expand]
    rw [hlast.distinctNames (f b.last).last_mem, hfirst.distinctNames (f t.first).first_mem]

theorem sameGuidance_expand :
    (t.summary before).SameGuidance ((t.expand f).summary (before.map (expand f))) := by
  have hfirst := ht t.first t.first_mem
  have hlast := ht t.last t.last_mem
  have hnames : (t.expand f).last.edge.distinctNames = t.last.edge.distinctNames := by
    rw [last_expand]
    exact hlast.distinctNames (f t.last).last_mem
  constructor
  case kind => exact kind_expand ht hbefore
  case turn => exact turn_expand ht hbefore
  case beginHeading => exact hfirst.beginHeading
  case direction => exact congrArg Compass.ofHeading hfirst.beginHeading
  case beginShape => exact hfirst.beginShape
  case endShape =>
    simp only [summary, last_expand]
    exact hlast.endShape
  case streetNames => exact hnames
  case beginStreetNames =>
    simp only [summary]
    rw [newNames_expand ht hbefore, hnames]
  case toll => exact any_expand (p := Edge.toll) fun u hu => (ht u hu).toll
  case unpaved => exact any_expand (p := Edge.unpaved) fun u hu => (ht u hu).unpaved

end Summary

end Stretch

end TurnByTurn
