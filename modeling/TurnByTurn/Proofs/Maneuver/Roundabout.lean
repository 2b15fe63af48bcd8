import Mathlib.Data.List.Sort
import TurnByTurn.Proofs.Maneuver.Homogeneous
import TurnByTurn.Proofs.Maneuver.Partition

namespace TurnByTurn

namespace ManeuverKind

theorem isRoundabout_ofTurn (turn : Turn) (degree : Nat) :
    (ofTurn turn degree).isRoundabout = false := by
  unfold ofTurn
  cases turn
  case uTurn => dsimp only; split_ifs <;> rfl
  all_goals rfl

section Between

variable {prev e : Edge}

theorem between_of_entering (htransit : e.isTransit = false) (hprev : prev.roundabout = false)
    (he : e.roundabout = true) : between prev e = roundaboutEnter := by
  simp [between, htransit, hprev, he]

theorem between_of_leaving (htransit : e.isTransit = false) (hprev : prev.roundabout = true)
    (he : e.roundabout = false) : between prev e = roundaboutExit := by
  simp [between, htransit, hprev, he]

theorem isRoundabout_between_of_outside (htransit : e.isTransit = false)
    (hprev : prev.roundabout = false) (he : e.roundabout = false) :
    (between prev e).isRoundabout = false := by
  unfold between
  simp only [htransit, hprev, he, Bool.false_eq_true, if_false, Bool.not_false, Bool.false_and]
  split_ifs
  all_goals first
    | exact isRoundabout_ofTurn _ _
    | rfl

theorem roundabout_of_between (h : between prev e = roundaboutEnter) : e.roundabout = true := by
  have hdescribed := describes_between prev e
  rwa [h] at hdescribed

end Between

end ManeuverKind

namespace TripPath

def segmentsOf (path : TripPath) (m : Maneuver) : List Segment :=
  (List.range' m.beginNode m.edgeCount).filterMap path.segmentAt?

theorem mem_segmentsOf_iff {path : TripPath} {m : Maneuver} {s : Segment} :
    s ∈ path.segmentsOf m ↔ s ∈ path.segments ∧ m.beginNode ≤ s.node ∧ s.node < m.endNode := by
  simp only [segmentsOf, List.mem_filterMap, List.mem_range'_1, Maneuver.edgeCount]
  constructor
  · rintro ⟨node, ⟨hbegin, hend⟩, hs⟩
    obtain rfl := node_of_segmentAt? hs
    exact ⟨mem_segments_iff.mpr hs, hbegin, by omega⟩
  · rintro ⟨hs, hbegin, hend⟩
    exact ⟨s.node, ⟨hbegin, by omega⟩, mem_segments_iff.mp hs⟩

theorem pairwise_node_segmentsOf (path : TripPath) (m : Maneuver) :
    (path.segmentsOf m).Pairwise fun s t => s.node < t.node := by
  have hrange : (List.range' m.beginNode m.edgeCount).Pairwise (· < ·) := List.pairwise_lt_range'
  unfold segmentsOf
  rw [List.pairwise_filterMap]
  refine hrange.imp ?_
  intro i j hij s hs t ht
  rwa [node_of_segmentAt? hs, node_of_segmentAt? ht]

theorem segmentsOf_summary {path : TripPath} {t : Stretch} (ht : t ∈ path.stretches)
    (before : Option Stretch) : path.segmentsOf (t.summary before) = t.segments := by
  have hirrefl : Std.Irrefl fun s u : Segment => s.node < u.node := ⟨fun _ => Nat.lt_irrefl _⟩
  have hasymm : Std.Asymm fun s u : Segment => s.node < u.node := ⟨fun _ _ => Nat.lt_asymm⟩
  have hsorted := (pairwise_node_segments path).sublist (segments_sublist ht)
  refine (pairwise_node_segmentsOf path _).eq_of_mem_iff hsorted ?_
  intro s
  rw [mem_segmentsOf_iff, Stretch.beginNode_summary, Stretch.endNode_summary]
  constructor
  · rintro ⟨hs, hfirst, hlast⟩
    exact mem_segments_of_node_between ht hs hfirst (Nat.le_of_lt_succ hlast)
  · intro hs
    exact ⟨mem_segments_of_mem_stretches ht hs, node_first_le ht hs,
      Nat.lt_succ_of_le (node_le_last ht hs)⟩

def CountsExits (path : TripPath) (m : Maneuver) : Prop :=
  if m.kind = .roundaboutEnter then
    m.roundaboutExits = (path.segmentsOf m).length ∧
      ∀ s ∈ path.segmentsOf m, s.edge.roundabout = true
  else m.roundaboutExits = 0

theorem roundabout_of_enter {path : TripPath} {t : Stretch} (ht : t ∈ path.stretches)
    {before : Option Stretch} (hkind : t.kind before = .roundaboutEnter) {s : Segment}
    (hs : s ∈ t.segments) : s.edge.roundabout = true := by
  have hround : (t.kind before).isRoundabout = true := by rw [hkind]; rfl
  have hdescribed := describes_kind ht before (.inr (.inl hround)) hs
  rwa [hkind] at hdescribed

theorem countsExits_summary {path : TripPath} {t : Stretch} (ht : t ∈ path.stretches)
    (before : Option Stretch) : path.CountsExits (t.summary before) := by
  have hkind : (t.summary before).kind = t.kind before := rfl
  unfold CountsExits
  rw [segmentsOf_summary ht, hkind]
  split_ifs with henter
  · have hround : ∀ s ∈ t.segments, s.edge.roundabout = true :=
      fun s hs => roundabout_of_enter ht henter hs
    refine ⟨?_, hround⟩
    rw [Stretch.summary, if_pos henter]
    exact List.countP_eq_length.mpr hround
  · exact if_neg henter

theorem countsExits_of_mem_maneuvers {path : TripPath} {m : Maneuver} (hm : m ∈ path.maneuvers) :
    path.CountsExits m := by
  rcases summary_or_standstill_of_mem_maneuvers hm with ⟨t, ht, b, rfl⟩ | ⟨-, hstill, hexits, -⟩
  · exact countsExits_summary ht b
  · have hnone : path.segmentsOf m = [] := by
      simp [segmentsOf, Maneuver.edgeCount, hstill]
    unfold CountsExits
    rw [hnone, hexits]
    split_ifs
    · exact ⟨rfl, by simp⟩
    · rfl

def HasSingleMode (path : TripPath) : Prop :=
  ∃ mode, mode ≠ .transit ∧ ∀ node e, path.edgeAt node = some e → e.mode = mode

section SingleMode

variable {path : TripPath} (h : path.HasSingleMode)

include h

theorem isTransit_eq_false {s : Segment} (hs : s ∈ path.segments) : s.edge.isTransit = false := by
  obtain ⟨mode, hmode, hall⟩ := h
  have hs := hall s.node s.edge (edgeAt_of_mem_segments hs)
  simpa [Edge.isTransit, hs] using hmode

theorem joins_of_roundabout {s u : Segment} (hs : s ∈ path.segments) (hu : u ∈ path.segments)
    (hsround : s.edge.roundabout = true) (huround : u.edge.roundabout = true) :
    Stretch.joins s u = true := by
  have hstransit := isTransit_eq_false h hs
  have hutransit := isTransit_eq_false h hu
  obtain ⟨mode, -, hall⟩ := h
  have hmodes : s.edge.mode = u.edge.mode :=
    (hall _ _ (edgeAt_of_mem_segments hs)).trans (hall _ _ (edgeAt_of_mem_segments hu)).symm
  simp [Stretch.joins, Segment.beginsManeuver, hmodes, hstransit, hutransit, hsround, huround]

end SingleMode

end TripPath

namespace Stretch

def isRound (t : Stretch) : Bool := t.first.edge.roundabout

def NotBothRound (t u : Stretch) : Prop := t.isRound = true → u.isRound = false

theorem NotBothRound.before {t u : Stretch} (h : t.NotBothRound u) (hu : u.isRound = true) :
    t.isRound = false := by
  by_contra ht
  rw [h (by simpa using ht)] at hu
  cases hu

end Stretch

namespace TripPath

section SingleMode

variable {path : TripPath} (h : path.HasSingleMode)

include h

theorem roundabout_eq_isRound {t : Stretch} (ht : t ∈ path.stretches) {s : Segment}
    (hs : s ∈ t.segments) : s.edge.roundabout = t.isRound := by
  have hfirst := isTransit_eq_false h (mem_segments_of_mem_stretches ht t.first_mem)
  exact ((alike_first ht hs).roundabout hfirst).symm

theorem isChain_notBothRound : path.stretches.IsChain Stretch.NotBothRound := by
  refine (isChain_stretches path).imp_of_mem_imp ?_
  intro t u ht hu hjoins hround
  by_contra huround
  have hlast : t.last.edge.roundabout = true :=
    (roundabout_eq_isRound h ht t.last_mem).trans hround
  have hjoined := joins_of_roundabout h (mem_segments_of_mem_stretches ht t.last_mem)
    (mem_segments_of_mem_stretches hu u.first_mem) hlast (by simpa [Stretch.isRound] using huround)
  rw [hjoins] at hjoined
  cases hjoined

section Neighbours

variable {t u : Stretch} (ht : t ∈ path.stretches) (hu : u ∈ path.stretches)

include ht hu

theorem kind_of_entering (hnot : t.NotBothRound u) (hround : u.isRound = true) :
    u.kind (some t) = .roundaboutEnter := by
  refine ManeuverKind.between_of_entering ?_ ?_ hround
  · exact isTransit_eq_false h (mem_segments_of_mem_stretches hu u.first_mem)
  · exact (roundabout_eq_isRound h ht t.last_mem).trans (hnot.before hround)

theorem kind_of_leaving (hnot : t.NotBothRound u) (hround : t.isRound = true) :
    u.kind (some t) = .roundaboutExit := by
  refine ManeuverKind.between_of_leaving ?_ ?_ (hnot hround)
  · exact isTransit_eq_false h (mem_segments_of_mem_stretches hu u.first_mem)
  · exact (roundabout_eq_isRound h ht t.last_mem).trans hround

theorem isRoundabout_kind_of_outside (htround : t.isRound = false) (huround : u.isRound = false) :
    (u.kind (some t)).isRoundabout = false := by
  refine ManeuverKind.isRoundabout_between_of_outside ?_ ?_ huround
  · exact isTransit_eq_false h (mem_segments_of_mem_stretches hu u.first_mem)
  · exact (roundabout_eq_isRound h ht t.last_mem).trans htround

theorem kind_eq_enter_iff (hnot : t.NotBothRound u) :
    u.kind (some t) = .roundaboutEnter ↔ u.isRound = true := by
  constructor
  · exact ManeuverKind.roundabout_of_between
  · exact kind_of_entering h ht hu hnot

end Neighbours

theorem filter_enter_summaries {t : Stretch} {ts : List Stretch}
    (hmem : ∀ u ∈ t :: ts, u ∈ path.stretches)
    (hchain : (t :: ts).IsChain Stretch.NotBothRound) :
    ((Stretch.summaries (some t) ts).filter (·.kind = .roundaboutEnter)).map
        (fun m => (path.segmentsOf m, m.roundaboutExits)) =
      (ts.filter (·.isRound)).map fun u => (u.segments, u.segments.length) := by
  induction ts generalizing t with
  | nil => rfl
  | cons u ts ih =>
    have hu : u ∈ path.stretches := hmem u (by simp)
    have hkind := kind_eq_enter_iff h (hmem t List.mem_cons_self) hu hchain.rel
    have hrest := ih (fun v hv => hmem v (List.mem_cons_of_mem t hv)) hchain.tail
    have hcounts := countsExits_summary hu (some t)
    rw [Stretch.summaries, List.filter_cons, List.filter_cons]
    by_cases hround : u.isRound = true
    · have henter : (u.summary (some t)).kind = .roundaboutEnter := hkind.mpr hround
      rw [CountsExits, if_pos henter, segmentsOf_summary hu] at hcounts
      rw [if_pos (by simpa using henter), if_pos hround, List.map_cons, List.map_cons, hrest,
        segmentsOf_summary hu, hcounts.1]
    · have hother : (u.summary (some t)).kind ≠ .roundaboutEnter :=
        fun henter => hround (hkind.mp henter)
      rw [if_neg (by simpa using hother), if_neg hround, hrest]

theorem isChain_roundabout_kinds {t : Stretch} {ts : List Stretch}
    (hmem : ∀ u ∈ t :: ts, u ∈ path.stretches)
    (hchain : (t :: ts).IsChain Stretch.NotBothRound) :
    ((if t.isRound then .roundaboutEnter else .roundaboutExit) ::
      ((Stretch.summaries (some t) ts).map (·.kind)).filter ManeuverKind.isRoundabout).IsChain
        (· ≠ ·) := by
  -- whether the stretch before is in a roundabout tells what was done last
  induction ts generalizing t with
  | nil => exact .singleton _
  | cons u ts ih =>
    have ht : t ∈ path.stretches := hmem t List.mem_cons_self
    have hu : u ∈ path.stretches := hmem u (by simp)
    have hnot : t.NotBothRound u := hchain.rel
    have hrest := ih (fun v hv => hmem v (List.mem_cons_of_mem t hv)) hchain.tail
    have hkind : (u.summary (some t)).kind = u.kind (some t) := rfl
    rw [Stretch.summaries, List.map_cons, hkind]
    cases huround : u.isRound with
    | true =>
      have htround := hnot.before huround
      rw [kind_of_entering h ht hu hnot huround, List.filter_cons_of_pos rfl, htround]
      rw [huround] at hrest
      exact hrest.cons_cons (by decide)
    | false =>
      rw [huround] at hrest
      cases htround : t.isRound with
      | true =>
        rw [kind_of_leaving h ht hu hnot htround, List.filter_cons_of_pos rfl]
        exact hrest.cons_cons (by decide)
      | false =>
        have hother := isRoundabout_kind_of_outside h ht hu htround huround
        rw [List.filter_cons_of_neg (by simp [hother])]
        exact hrest

end SingleMode

end TripPath

end TurnByTurn
