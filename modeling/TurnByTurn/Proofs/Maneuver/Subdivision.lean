import TurnByTurn.Proofs.Maneuver.Pieces
import TurnByTurn.Proofs.Maneuver.Roundabout
import TurnByTurn.Proofs.Path.Insertion

/-!
An edge cut in two by a new node. The maneuvers stay as they are: only nodes after the cut count one
more, and so do the exits of a roundabout if the edge is taken on the way in.
-/

namespace TurnByTurn

structure Edge.Halves (e first second : Edge) : Prop where
  sameRoad_first : first.SameRoad e
  sameRoad_second : second.SameRoad e
  toll_first : first.toll = e.toll
  toll_second : second.toll = e.toll
  unpaved_first : first.unpaved = e.unpaved
  unpaved_second : second.unpaved = e.unpaved
  heading_between : first.endHeading = second.beginHeading
  beginHeading : first.beginHeading = e.beginHeading
  endHeading : second.endHeading = e.endHeading
  beginShape : first.beginShape = e.beginShape
  endShape : second.endShape = e.endShape

namespace Segment

def oneNodeOn (s : Segment) : Segment := { s with node := s.node + 1 }

def halved (index : Nat) (first second s : Segment) : Stretch :=
  if s.node < index then ⟨s, []⟩
  else if s.node = index then ⟨first, [second]⟩
  else ⟨s.oneNodeOn, []⟩

section Halved

variable {index : Nat} {first second s : Segment}

theorem halved_of_lt (h : s.node < index) : halved index first second s = ⟨s, []⟩ :=
  if_pos h

theorem halved_of_eq (h : s.node = index) : halved index first second s = ⟨first, [second]⟩ := by
  rw [halved, if_neg (by omega), if_pos h]

theorem halved_of_gt (h : index < s.node) :
    halved index first second s = ⟨s.oneNodeOn, []⟩ := by
  rw [halved, if_neg (by omega), if_neg (by omega)]

theorem node_first_halved (h : first.node = index) :
    (halved index first second s).first.node = s.node + if index < s.node then 1 else 0 := by
  rcases Nat.lt_trichotomy s.node index with hlt | heq | hgt
  · rw [halved_of_lt hlt, if_neg (by omega)]
    rfl
  · rw [halved_of_eq heq, if_neg (by omega), Nat.add_zero, heq]
    exact h
  · rw [halved_of_gt hgt, if_pos hgt]
    rfl

theorem node_last_halved (h : second.node = index + 1) :
    (halved index first second s).last.node + 1 =
      s.node + 1 + if index < s.node + 1 then 1 else 0 := by
  rcases Nat.lt_trichotomy s.node index with hlt | heq | hgt
  · rw [halved_of_lt hlt, if_neg (by omega)]
    rfl
  · have hlast : (Stretch.mk first [second]).last = second := rfl
    rw [halved_of_eq heq, hlast, if_pos (by omega), h, heq]
  · rw [halved_of_gt hgt, if_pos (by omega)]
    rfl

theorem length_halved :
    (halved index first second s).segments.length = 1 + if s.node = index then 1 else 0 := by
  rcases Nat.lt_trichotomy s.node index with hlt | heq | hgt
  · rw [halved_of_lt hlt, if_neg (by omega)]
    rfl
  · rw [halved_of_eq heq, if_pos heq]
    rfl
  · rw [halved_of_gt hgt, if_neg (by omega)]
    rfl

theorem length_flatMap_halved (segments : List Segment) :
    (segments.flatMap fun s => (halved index first second s).segments).length =
      segments.length + (segments.map (·.node)).count index := by
  induction segments with
  | nil => rfl
  | cons s segments ih =>
    rw [List.flatMap_cons, List.length_append, length_halved, ih, List.length_cons, List.map_cons,
      List.count_cons]
    simp only [beq_iff_eq]
    omega

end Halved

end Segment

theorem le_node_of_mem_segmentsFrom {index : Nat} {nodes : List Node} {s : Segment}
    (h : s ∈ segmentsFrom index nodes) : index ≤ s.node := by
  induction nodes generalizing index with
  | nil => cases h
  | cons n nodes ih =>
    rw [segmentsFrom, List.mem_append] at h
    rcases h with h | h
    · obtain ⟨e, -, rfl⟩ := Option.map_eq_some_iff.mp (Option.mem_toList.mp h)
      exact Nat.le_refl index
    · exact Nat.le_of_succ_le (ih h)

theorem segmentsFrom_succ (index : Nat) (nodes : List Node) :
    segmentsFrom (index + 1) nodes = (segmentsFrom index nodes).map Segment.oneNodeOn := by
  induction nodes generalizing index with
  | nil => rfl
  | cons n nodes ih =>
    rw [segmentsFrom, segmentsFrom, List.map_append, ih]
    unfold Node.segment?
    cases n.edge <;> rfl

theorem segmentsFrom_succ_eq_flatMap {index : Nat} (first second : Segment) (nodes : List Node) :
    segmentsFrom (index + 2) nodes = (segmentsFrom (index + 1) nodes).flatMap
      fun s => (Segment.halved index first second s).segments := by
  rw [segmentsFrom_succ, List.map_eq_flatMap]
  apply List.flatMap_congr
  intro s hs
  rw [Segment.halved_of_gt (le_node_of_mem_segmentsFrom hs)]
  rfl

theorem segmentsFrom_subdivided {index start : Nat} {before after : List Node} {n mid : Node}
    {e f g : Edge} (hindex : index = start + before.length) (hn : n.edge = some e)
    (hmid : mid.edge = some g) :
    segmentsFrom start (before ++ { n with edge := some f } :: mid :: after) =
      (segmentsFrom start (before ++ n :: after)).flatMap fun s =>
        (Segment.halved index ⟨index, n.crossings, f, n.timeTo mid⟩
          ⟨index + 1, mid.crossings, g, mid.timeToFirst after⟩ s).segments := by
  induction before generalizing start with
  | nil =>
    obtain rfl : index = start := hindex
    have hhere : Segment.halved index ⟨index, n.crossings, f, n.timeTo mid⟩
        ⟨index + 1, mid.crossings, g, mid.timeToFirst after⟩
        ⟨index, n.crossings, e, n.timeToFirst after⟩ =
          ⟨⟨index, n.crossings, f, n.timeTo mid⟩,
            [⟨index + 1, mid.crossings, g, mid.timeToFirst after⟩]⟩ :=
      Segment.halved_of_eq rfl
    simp only [List.nil_append, segmentsFrom, Node.segment?, hn, hmid, Option.map_some,
      Option.toList_some, List.flatMap_append, List.flatMap_singleton, hhere]
    rw [segmentsFrom_succ_eq_flatMap ⟨index, n.crossings, f, n.timeTo mid⟩
      ⟨index + 1, mid.crossings, g, mid.timeToFirst after⟩]
    rfl
  | cons a before ih =>
    have hstart : index = start + 1 + before.length := by
      rw [hindex, List.length_cons]
      omega
    have htime : a.timeToFirst (before ++ { n with edge := some f } :: mid :: after) =
        a.timeToFirst (before ++ n :: after) := by
      cases before <;> rfl
    rw [List.cons_append, List.cons_append, segmentsFrom, segmentsFrom, List.flatMap_append,
      ih hstart]
    congr 1
    unfold Node.segment?
    rw [htime]
    cases a.edge with
    | none => rfl
    | some edge =>
      have hlt : start < index := by omega
      simp only [Option.map_some, Option.toList_some, List.flatMap_singleton]
      rw [Segment.halved_of_lt hlt]
      rfl

namespace TripPath

variable {path : TripPath} {index : Nat} {e f g : Edge} {mid : Node}

theorem along_of_halves {first second s : Segment} (h : s.edge.Halves first.edge second.edge)
    (hcrossings : first.crossings = s.crossings) : (Stretch.mk first [second]).Along s where
  sameRoad := by
    simp only [Stretch.segments, List.mem_cons, List.not_mem_nil, or_false, forall_eq_or_imp,
      forall_eq]
    exact ⟨h.sameRoad_first, h.sameRoad_second⟩
  toll := by
    simp only [Stretch.segments, List.mem_cons, List.not_mem_nil, or_false, forall_eq_or_imp,
      forall_eq]
    exact ⟨h.toll_first, h.toll_second⟩
  unpaved := by
    simp only [Stretch.segments, List.mem_cons, List.not_mem_nil, or_false, forall_eq_or_imp,
      forall_eq]
    exact ⟨h.unpaved_first, h.unpaved_second⟩
  straight := (List.IsChain.singleton second).cons_cons h.heading_between
  crossings := hcrossings
  beginHeading := h.beginHeading
  endHeading := h.endHeading
  beginShape := h.beginShape
  endShape := h.endShape

theorem along_single {s u : Segment} (hedge : u.edge = s.edge)
    (hcrossings : u.crossings = s.crossings) : (Stretch.mk u []).Along s := by
  have hlast : (Stretch.mk u []).last = u := rfl
  have hroad : s.edge.SameRoad s.edge := .refl s.edge
  constructor
  case straight => exact .singleton u
  all_goals simp [Stretch.segments, hlast, hroad, hedge, hcrossings]

theorem exists_segments_subdivide (he : path.edgeAt index = some e) (hmid : mid.edge = some g)
    (h : e.Halves f g) :
    ∃ first second : Segment, first.node = index ∧ second.node = index + 1 ∧
      (path.subdivide index f mid).segments =
        path.segments.flatMap (fun s => (Segment.halved index first second s).segments) ∧
      ∀ s ∈ path.segments, (Segment.halved index first second s).Along s := by
  obtain ⟨before, n, after, hindex, hnodes, hn⟩ := exists_nodes_eq he
  let first : Segment := ⟨index, n.crossings, f, n.timeTo mid⟩
  let second : Segment := ⟨index + 1, mid.crossings, g, mid.timeToFirst after⟩
  refine ⟨first, second, rfl, rfl, ?_, ?_⟩
  · rw [segments, segments, ← hindex, subdivide_nodes hnodes, hnodes, hindex]
    exact segmentsFrom_subdivided (by omega) hn hmid
  · intro s hs
    rcases Nat.lt_trichotomy s.node index with hlt | heq | hgt
    · rw [Segment.halved_of_lt hlt]
      exact along_single rfl rfl
    · have hedge : s.edge = e := by
        have hat := edgeAt_of_mem_segments hs
        rw [heq, he] at hat
        exact (Option.some.inj hat).symm
      have hcrossings : n.crossings = s.crossings := by
        obtain ⟨n', hn', hcrossings⟩ := exists_node_of_mem_segments hs
        rw [heq, hnodes, ← hindex, List.getElem?_append_right (Nat.le_refl _), Nat.sub_self] at hn'
        rw [Option.some.inj hn']
        exact hcrossings
      rw [Segment.halved_of_eq heq]
      exact along_of_halves (hedge ▸ h) hcrossings
    · rw [Segment.halved_of_gt hgt]
      exact along_single rfl rfl

end TripPath

/-- The same guidance where an edge is cut: nodes after the cut count one more. The arrival is at
the last node, so it always does. -/
structure Maneuver.Subdivided (index : Nat) (m n : Maneuver) : Prop extends
    Maneuver.SameGuidance m n where
  beginNode : n.beginNode =
    m.beginNode + if m.kind = .arrive ∨ index < m.beginNode then 1 else 0
  endNode : n.endNode = m.endNode + if m.kind = .arrive ∨ index < m.endNode then 1 else 0
  roundaboutExits : n.roundaboutExits = m.roundaboutExits +
    if m.kind = .roundaboutEnter ∧ m.beginNode ≤ index ∧ index < m.endNode then 1 else 0

theorem Stretch.forall₂_summaries {R : Maneuver → Maneuver → Prop} {Q : Stretch → Prop}
    {f : Stretch → Stretch}
    (hR : ∀ t before, Q t → (∀ b ∈ before, Q b) →
      R (t.summary before) ((f t).summary (before.map f)))
    {ts : List Stretch} (hts : ∀ t ∈ ts, Q t) {before : Option Stretch}
    (hbefore : ∀ b ∈ before, Q b) :
    List.Forall₂ R (summaries before ts) (summaries (before.map f) (ts.map f)) := by
  induction ts generalizing before with
  | nil => exact .nil
  | cons t ts ih =>
    have ht : Q t := hts t List.mem_cons_self
    have hnext : ∀ b ∈ some t, Q b := fun b hb => Option.some.inj hb ▸ ht
    exact .cons (hR t before ht hbefore) (ih (fun u hu => hts u (List.mem_cons_of_mem t hu)) hnext)

namespace TripPath

variable {path : TripPath} {index : Nat} {e f g : Edge} {mid : Node}

theorem kind_summary_ne_arrive (t : Stretch) (before : Option Stretch) :
    (t.summary before).kind ≠ .arrive := by
  cases before with
  | none => simp [Stretch.summary, Stretch.kind]
  | some b => exact (ManeuverKind.between_ne_depart_arrive _ _).2

theorem count_node_segments (he : path.edgeAt index = some e) {t : Stretch}
    (ht : t ∈ path.stretches) :
    (t.segments.map (·.node)).count index =
      if t.first.node ≤ index ∧ index < t.last.node + 1 then 1 else 0 := by
  have hnodup : (t.segments.map (·.node)).Nodup := by
    have hsorted := (pairwise_node_segments path).sublist (segments_sublist ht)
    exact List.pairwise_map.mpr (hsorted.imp fun hlt => Nat.ne_of_lt hlt)
  have hmem : index ∈ t.segments.map (·.node) ↔
      t.first.node ≤ index ∧ index < t.last.node + 1 := by
    rw [List.mem_map]
    constructor
    · rintro ⟨s, hs, rfl⟩
      exact ⟨node_first_le ht hs, Nat.lt_succ_of_le (node_le_last ht hs)⟩
    · rintro ⟨hfirst, hlast⟩
      obtain ⟨s, hs, rfl, -⟩ := exists_mem_segments_of_edgeAt he
      exact ⟨s, mem_segments_of_node_between ht hs hfirst (Nat.le_of_lt_succ hlast), rfl⟩
  rw [hnodup.count, if_congr hmem rfl rfl]

section Cut

variable {first second : Segment} (he : path.edgeAt index = some e) (hfirst : first.node = index)
  (hsecond : second.node = index + 1)
  (halong : ∀ s ∈ path.segments, (Segment.halved index first second s).Along s)

include he hfirst hsecond halong

omit hfirst hsecond in
theorem roundaboutExits_expand {t : Stretch} (ht : t ∈ path.stretches) {before : Option Stretch}
    (hkind : t.kind before = .roundaboutEnter) :
    (t.expand (Segment.halved index first second)).segments.countP (·.edge.roundabout) =
      t.segments.countP (·.edge.roundabout) +
        if t.first.node ≤ index ∧ index < t.last.node + 1 then 1 else 0 := by
  have hround : ∀ s ∈ t.segments, s.edge.roundabout = true :=
    fun s hs => roundabout_of_enter ht hkind hs
  have hpieces : ∀ p ∈ (t.expand (Segment.halved index first second)).segments,
      p.edge.roundabout = true := by
    intro p hp
    rw [Stretch.segments_expand, List.mem_flatMap] at hp
    obtain ⟨s, hs, hps⟩ := hp
    have hroad := (halong s (mem_segments_of_mem_stretches ht hs)).sameRoad p hps
    exact hroad.roundabout.trans (hround s hs)
  -- nothing but roundabout on either side, so it is enough to count the pieces
  rw [List.countP_eq_length.mpr hround, List.countP_eq_length.mpr hpieces,
    Stretch.segments_expand, Segment.length_flatMap_halved, count_node_segments he ht]

theorem subdivided_summary {t : Stretch} (ht : t ∈ path.stretches) {before : Option Stretch}
    (hbefore : ∀ b ∈ before, b ∈ path.stretches) :
    (t.summary before).Subdivided index
      ((t.expand (Segment.halved index first second)).summary
        (before.map (Stretch.expand (Segment.halved index first second)))) := by
  have halongBefore : ∀ b ∈ before, (Segment.halved index first second b.last).Along b.last :=
    fun b hb => halong _ (mem_segments_of_mem_stretches (hbefore b hb) b.last_mem)
  have halongHere : ∀ s ∈ t.segments, (Segment.halved index first second s).Along s :=
    fun s hs => halong s (mem_segments_of_mem_stretches ht hs)
  have hsame := Stretch.sameGuidance_expand halongHere halongBefore
  have harrive : (t.summary before).kind ≠ .arrive := kind_summary_ne_arrive t before
  refine ⟨hsame, ?_, ?_, ?_⟩
  · simp only [harrive, false_or, Stretch.beginNode_summary, Stretch.first_expand]
    exact Segment.node_first_halved hfirst
  · simp only [harrive, false_or, Stretch.endNode_summary, Stretch.last_expand]
    exact Segment.node_last_halved hsecond
  · have hkind : (t.expand (Segment.halved index first second)).kind
        (before.map (Stretch.expand (Segment.halved index first second))) = t.kind before :=
      hsame.kind
    unfold Stretch.summary
    dsimp only
    rw [hkind]
    by_cases henter : t.kind before = .roundaboutEnter
    · simp only [henter, if_true, true_and]
      exact roundaboutExits_expand he halong ht henter
    · simp only [henter, if_false, false_and]

end Cut

theorem sameGuidance_arrival {path' : TripPath} {f : Segment → Stretch} (hne : path.segments ≠ [])
    (halong : ∀ s ∈ path.segments, (f s).Along s)
    (hsegments : path'.segments = path.segments.flatMap fun s => (f s).segments) :
    path.arrival.SameGuidance path'.arrival := by
  obtain ⟨before, last, hsplit⟩ := List.eq_nil_or_concat' path.segments |>.resolve_left hne
  have hlast := halong last (by simp [hsplit])
  have hgetLast : path.segments.getLast? = some last := by simp [hsplit]
  have hgetLast' : path'.segments.getLast? = some (f last).last := by
    rw [hsegments, hsplit, List.flatMap_append, List.flatMap_singleton,
      List.getLast?_append_of_ne_nil _ (f last).segments_ne_nil, Stretch.getLast?_segments]
  have hnames := hlast.distinctNames (f last).last_mem
  unfold arrival Maneuver.arriveAt Maneuver.start
  rw [hgetLast, hgetLast']
  constructor <;> simp [hlast.endHeading, hlast.endShape, hnames]

theorem lastNode_subdivide (he : path.edgeAt index = some e) :
    (path.subdivide index f mid).lastNode = path.lastNode + 1 := by
  obtain ⟨before, n, after, rfl, hnodes, -⟩ := exists_nodes_eq he
  rw [lastNode, lastNode, subdivide_nodes hnodes, hnodes]
  simp only [List.length_append, List.length_cons]
  omega

theorem forall₂_subdivided_maneuvers (he : path.edgeAt index = some e) (hmid : mid.edge = some g)
    (h : e.Halves f g) :
    ∃ ms ms', path.maneuvers? = .ok ms ∧ (path.subdivide index f mid).maneuvers? = .ok ms' ∧
      List.Forall₂ (Maneuver.Subdivided index) ms ms' := by
  obtain ⟨first, second, hfirst, hsecond, hsegments, halong⟩ :=
    exists_segments_subdivide he hmid h
  have hne : path.segments ≠ [] := by
    obtain ⟨s, hs, -⟩ := exists_mem_segments_of_edgeAt he
    exact List.ne_nil_of_mem hs
  have hstretches := stretches_expand halong hsegments
  have hne' : (path.subdivide index f mid).segments ≠ [] := by
    obtain ⟨s, hs⟩ := List.exists_mem_of_ne_nil _ hne
    rw [hsegments]
    exact List.ne_nil_of_mem
      (List.mem_flatMap.mpr ⟨s, hs, (Segment.halved index first second s).first_mem⟩)
  have htravel : List.Forall₂ (Maneuver.Subdivided index) (Stretch.summaries none path.stretches)
      (Stretch.summaries none (path.subdivide index f mid).stretches) := by
    rw [hstretches]
    exact Stretch.forall₂_summaries
      (fun t before ht hbefore => subdivided_summary he hfirst hsecond halong ht hbefore)
      (fun t ht => ht) (by simp)
  have harrival : path.arrival.Subdivided index (path.subdivide index f mid).arrival := by
    have hkind : path.arrival.kind = .arrive := rfl
    refine ⟨sameGuidance_arrival hne halong hsegments, ?_, ?_, ?_⟩
    · rw [if_pos (.inl hkind)]
      exact lastNode_subdivide he
    · rw [if_pos (.inl hkind)]
      exact lastNode_subdivide he
    · rw [if_neg (by simp [hkind])]
      rfl
  exact ⟨_, _, maneuvers?_eq_ok_of_segments hne, maneuvers?_eq_ok_of_segments hne',
    List.rel_append htravel (.cons harrival .nil)⟩

def throughRoundabout : TripPath where
  nodes := [
    { edge := some { length := 1, endShape := 2, names := { name := "Main Street" } } },
    { crossings := 1
      edge := some {
        length := 0.1, beginHeading := 90, endHeading := 270, beginShape := 2, endShape := 9,
        roundabout := true } },
    { crossings := 1
      edge := some {
        length := 2, beginShape := 9, endShape := 12, toll := true,
        names := { name := "Elm Lane" } } },
    {}]

def halfAround : Edge :=
  { length := 0.04, beginHeading := 90, endHeading := 0, beginShape := 2, endShape := 5,
    roundabout := true }

def passedExit : Node where
  crossings := 3
  edge := some {
    length := 0.06, beginHeading := 0, endHeading := 270, beginShape := 5, endShape := 9,
    roundabout := true }

theorem forall₂_subdivided_maneuvers_throughRoundabout :
    ∃ e g, throughRoundabout.edgeAt 1 = some e ∧ passedExit.edge = some g ∧
      e.Halves halfAround g ∧
      ∃ ms ms', throughRoundabout.maneuvers? = .ok ms ∧
        (throughRoundabout.subdivide 1 halfAround passedExit).maneuvers? = .ok ms' ∧
        List.Forall₂ (Maneuver.Subdivided 1) ms ms' := by
  let e := throughRoundabout.nodes[1].edge.get rfl
  let g := passedExit.edge.get rfl
  have he : throughRoundabout.edgeAt 1 = some e := rfl
  have hmid : passedExit.edge = some g := rfl
  have hhalves : e.Halves halfAround g := by
    constructor
    case sameRoad_first => constructor <;> decide
    case sameRoad_second => constructor <;> decide
    all_goals decide
  exact ⟨e, g, he, hmid, hhalves, forall₂_subdivided_maneuvers he hmid hhalves⟩

example : (throughRoundabout.subdivide 1 halfAround passedExit).maneuvers.map
    (fun m => (m.kind, m.beginNode, m.endNode, m.roundaboutExits)) =
      [(.depart, 0, 1, 0), (.roundaboutEnter, 1, 3, 2), (.roundaboutExit, 3, 4, 0),
        (.arrive, 4, 4, 0)] := by
  decide +kernel

end TripPath

end TurnByTurn
