import TurnByTurn.Maneuver.Build
import TurnByTurn.Proofs.Maneuver.Stretch

/-!
Each maneuver sums up one stretch of the path. Taking the edges one by one gives the same maneuvers
as cutting them into stretches first and summing up each stretch as a whole.
-/

namespace TurnByTurn

namespace Stretch

def kind (before : Option Stretch) (t : Stretch) : ManeuverKind :=
  match before with
  | none => .depart
  | some b => .between b.last.edge t.first.edge

def turn (before : Option Stretch) (t : Stretch) : Turn :=
  match before with
  | none => .straight
  | some b => b.last.edge.turnOnto t.first.edge

def newNames (before : Option Stretch) (t : Stretch) : List String :=
  match before with
  | none => []
  | some b =>
    if t.first.edge.distinctNames = b.last.edge.distinctNames then []
    else t.first.edge.distinctNames

def summary (before : Option Stretch) (t : Stretch) : Maneuver where
  kind := t.kind before
  turn := t.turn before
  beginNode := t.first.node
  endNode := t.last.node + 1
  beginShape := t.first.edge.beginShape
  endShape := t.last.edge.endShape
  length := (t.segments.map (·.edge.length)).foldl (· + ·) 0
  time := (t.segments.map (·.time)).foldl (· + ·) 0
  beginHeading := t.first.edge.beginHeading
  direction := .ofHeading t.first.edge.beginHeading
  streetNames := t.last.edge.distinctNames
  beginStreetNames :=
    if t.newNames before = t.last.edge.distinctNames then [] else t.newNames before
  toll := t.segments.any (·.edge.toll)
  unpaved := t.segments.any (·.edge.unpaved)
  roundaboutExits :=
    if t.kind before = .roundaboutEnter then t.segments.countP (·.edge.roundabout) else 0

@[simp]
theorem beginNode_summary (before : Option Stretch) (t : Stretch) :
    (t.summary before).beginNode = t.first.node := rfl

@[simp]
theorem endNode_summary (before : Option Stretch) (t : Stretch) :
    (t.summary before).endNode = t.last.node + 1 := rfl

def summaries : Option Stretch → List Stretch → List Maneuver
  | _, [] => []
  | before, t :: following => t.summary before :: summaries (some t) following

theorem length_summaries (before : Option Stretch) (ts : List Stretch) :
    (summaries before ts).length = ts.length := by
  induction ts generalizing before with
  | nil => rfl
  | cons t ts ih => rw [summaries, List.length_cons, ih, List.length_cons]

theorem map_summaries {α : Type} {f : Maneuver → α} {g : Stretch → α}
    (h : ∀ before t, f (summary before t) = g t) (before : Option Stretch) (ts : List Stretch) :
    (summaries before ts).map f = ts.map g := by
  induction ts generalizing before with
  | nil => rfl
  | cons t ts ih => rw [summaries, List.map_cons, List.map_cons, h, ih]

theorem exists_of_mem_summaries {m : Maneuver} {before : Option Stretch} {ts : List Stretch}
    (h : m ∈ summaries before ts) : ∃ t ∈ ts, ∃ b, m = t.summary b := by
  induction ts generalizing before with
  | nil => simp [summaries] at h
  | cons t ts ih =>
    rcases List.mem_cons.mp h with rfl | h
    · exact ⟨t, List.mem_cons_self, before, rfl⟩
    · obtain ⟨u, hu, b, hm⟩ := ih h
      exact ⟨u, List.mem_cons_of_mem t hu, b, hm⟩

theorem exists_summary_mem {t : Stretch} {ts : List Stretch} (before : Option Stretch)
    (h : t ∈ ts) : ∃ b, t.summary b ∈ summaries before ts := by
  induction ts generalizing before with
  | nil => cases h
  | cons u ts ih =>
    rcases List.mem_cons.mp h with rfl | h
    · exact ⟨before, List.mem_cons_self⟩
    · obtain ⟨b, hb⟩ := ih (some u) h
      exact ⟨b, List.mem_cons_of_mem _ hb⟩

def outline (before : Option Stretch) (t : Stretch) : Maneuver :=
  { t.summary before with beginStreetNames := t.newNames before }

theorem finish_outline (before : Option Stretch) (t : Stretch) :
    (t.outline before).finish = t.summary before := by
  unfold Maneuver.finish outline
  by_cases h : t.newNames before = t.last.edge.distinctNames <;> simp [summary, h]

theorem extend_outline (before : Option Stretch) (t : Stretch) (s : Segment) :
    (t.outline before).extend s = (t.snoc s).outline before := by
  have hkind : (t.snoc s).kind before = t.kind before := by cases before <;> rfl
  have hturn : (t.snoc s).turn before = t.turn before := by cases before <;> rfl
  have hnames : (t.snoc s).newNames before = t.newNames before := by cases before <;> rfl
  unfold outline Maneuver.extend summary
  rw [hkind, hturn, hnames, segments_snoc, last_snoc, first_snoc]
  simp only [List.map_append, List.map_cons, List.map_nil, List.foldl_append, List.foldl_cons,
    List.foldl_nil, List.any_append, List.any_cons, List.any_nil, Bool.or_false,
    List.countP_append, List.countP_singleton]
  by_cases h : t.kind before = .roundaboutEnter <;> simp [h]

theorem extend_departAt (s : Segment) :
    (Maneuver.departAt s).extend s = (Stretch.mk s []).outline none := by
  simp [Maneuver.departAt, Maneuver.start, Maneuver.extend, outline, summary, kind, turn, newNames,
    segments]

theorem extend_next (t : Stretch) (s : Segment) :
    (Maneuver.next t.last.edge.distinctNames t.last.edge s).extend s =
      (Stretch.mk s []).outline (some t) := by
  by_cases h : ManeuverKind.between t.last.edge s.edge = .roundaboutEnter <;>
    simp [Maneuver.next, Maneuver.start, Maneuver.extend, outline, summary, kind, turn, newNames,
      segments, List.countP_singleton, h]

def itinerary (done : List Maneuver) (before : Option Stretch) (t : Stretch) : Itinerary :=
  ⟨done, t.outline before, t.last.edge⟩

theorem advance_of_joins {t : Stretch} {s : Segment} (h : joins t.last s) (done : List Maneuver)
    (before : Option Stretch) :
    (t.itinerary done before).advance s = (t.snoc s).itinerary done before := by
  have hs : s.beginsManeuver t.last.edge = false := by simpa [joins] using h
  unfold itinerary Itinerary.advance
  rw [if_neg (by simp [hs]), extend_outline, last_snoc]

theorem advance_of_not_joins {t : Stretch} {s : Segment} (h : ¬ joins t.last s)
    (done : List Maneuver) (before : Option Stretch) :
    (t.itinerary done before).advance s =
      (Stretch.mk s []).itinerary (t.summary before :: done) (some t) := by
  have hs : s.beginsManeuver t.last.edge = true := by simpa [joins] using h
  unfold itinerary Itinerary.advance
  rw [if_pos hs, finish_outline, ← extend_next, last_single]
  rfl

def arrivalAfter (node : Nat) (s : Segment) : Maneuver :=
  .arriveAt node (some s.edge) s.edge.distinctNames

theorem arrive_itinerary (done : List Maneuver) (before : Option Stretch) (t : Stretch)
    (node : Nat) :
    (t.itinerary done before).arrive node =
      done.reverse ++ [t.summary before, arrivalAfter node t.last] := by
  unfold itinerary Itinerary.arrive
  rw [finish_outline, List.reverse_cons, List.reverse_cons, List.append_assoc]
  rfl

theorem arrive_foldl_advance (done : List Maneuver) (before : Option Stretch) (t : Stretch)
    (following : List Segment) (node : Nat) :
    (following.foldl Itinerary.advance (t.itinerary done before)).arrive node =
      done.reverse ++ (summaries before (t.cut following) ++
        [arrivalAfter node (following.getLastD t.last)]) := by
  -- whatever has been read, the itinerary is that of the stretch it is on and of those before
  induction following generalizing done before t with
  | nil => exact arrive_itinerary done before t node
  | cons s following ih =>
    rw [List.foldl_cons, cut, List.getLastD_cons]
    by_cases h : joins t.last s
    · rw [advance_of_joins h, ih, if_pos h, last_snoc]
    · rw [advance_of_not_joins h, ih, if_neg h, summaries, List.reverse_cons, last_single]
      simp only [List.append_assoc, List.cons_append, List.nil_append]

end Stretch

namespace TripPath

def arrival (path : TripPath) : Maneuver :=
  .arriveAt path.lastNode (path.segments.getLast?.map (·.edge))
    ((path.segments.getLast?.map (·.edge.distinctNames)).getD [])

theorem maneuvers_eq_summaries {path : TripPath} (h : 0 < path.edgeCount) :
    path.maneuvers = Stretch.summaries none path.stretches ++ [path.arrival] := by
  unfold maneuvers stretches arrival
  have hne := (segments_ne_nil_iff path).mpr h
  cases hs : path.segments with
  | nil => exact absurd hs hne
  | cons s following =>
    have hfold := Stretch.arrive_foldl_advance [] none ⟨s, []⟩ following path.lastNode
    rw [Stretch.itinerary, ← Stretch.extend_departAt] at hfold
    rw [List.getLast?_cons, ← List.getLastD_eq_getLast?]
    exact hfold

theorem exists_summary_mem_maneuvers {path : TripPath} {t : Stretch} (h : t ∈ path.stretches) :
    ∃ b, t.summary b ∈ path.maneuvers := by
  have hmem := mem_segments_of_mem_stretches h t.first_mem
  have hpos := (segments_ne_nil_iff path).mp (List.ne_nil_of_mem hmem)
  obtain ⟨b, hb⟩ := Stretch.exists_summary_mem none h
  rw [maneuvers_eq_summaries hpos]
  exact ⟨b, List.mem_append_left _ hb⟩

theorem segments_of_edgeCount_not_pos {path : TripPath} (h : ¬ 0 < path.edgeCount) :
    path.segments = [] := by
  by_contra hne
  exact h ((segments_ne_nil_iff path).mp hne)

theorem maneuvers_of_edgeCount_not_pos {path : TripPath} (h : ¬ 0 < path.edgeCount) :
    path.maneuvers = [.start .depart 0 0 0, .arriveAt path.lastNode none []] := by
  rw [maneuvers, segments_of_edgeCount_not_pos h]

theorem maneuvers_of_stretches {path : TripPath} {t : Stretch} {ts : List Stretch}
    (h : path.stretches = t :: ts) :
    path.maneuvers = t.summary none :: (Stretch.summaries (some t) ts ++ [path.arrival]) := by
  have hpos : 0 < path.edgeCount := by
    by_contra hpos
    rw [(stretches_eq_nil_iff path).mpr hpos] at h
    cases h
  rw [maneuvers_eq_summaries hpos, h]
  rfl

theorem summary_or_end_of_mem_maneuvers {path : TripPath} {m : Maneuver} (h : m ∈ path.maneuvers) :
    (∃ t ∈ path.stretches, ∃ b, m = t.summary b) ∨ m = .start .depart 0 0 0 ∨ m = path.arrival := by
  by_cases hpos : 0 < path.edgeCount
  · rw [maneuvers_eq_summaries hpos] at h
    rcases List.mem_append.mp h with h | h
    · exact .inl (Stretch.exists_of_mem_summaries h)
    · exact .inr (.inr (List.mem_singleton.mp h))
  · have harrival : path.arrival = .arriveAt path.lastNode none [] := by
      rw [arrival, segments_of_edgeCount_not_pos hpos]
      rfl
    rw [maneuvers_of_edgeCount_not_pos hpos, ← harrival] at h
    simp only [List.mem_cons, List.not_mem_nil, or_false] at h
    exact .inr h

theorem bare_of_mem_maneuvers {path : TripPath} {m : Maneuver} (h : m ∈ path.maneuvers) :
    m.signs = none ∧ m.route = none ∧ m.texts = {} := by
  obtain ⟨t, -, b, rfl⟩ | rfl | rfl := summary_or_end_of_mem_maneuvers h
  all_goals exact ⟨rfl, rfl, rfl⟩

theorem direction_of_mem_maneuvers {path : TripPath} {m : Maneuver} (h : m ∈ path.maneuvers) :
    m.direction = .ofHeading m.beginHeading := by
  obtain ⟨t, -, b, rfl⟩ | rfl | rfl := summary_or_end_of_mem_maneuvers h
  all_goals rfl

theorem summary_or_standstill_of_mem_maneuvers {path : TripPath} {m : Maneuver}
    (h : m ∈ path.maneuvers) :
    (∃ t ∈ path.stretches, ∃ b, m = t.summary b) ∨
      (m.beginNode ≤ path.lastNode ∧ m.endNode = m.beginNode ∧ m.roundaboutExits = 0 ∧
        m.signs = none) := by
  obtain hsummary | rfl | rfl := summary_or_end_of_mem_maneuvers h
  · exact .inl hsummary
  · exact .inr ⟨Nat.zero_le _, rfl, rfl, rfl⟩
  · exact .inr ⟨Nat.le_refl _, rfl, rfl, rfl⟩

theorem nodes_ne_nil_of_edgeCount_pos {path : TripPath} (h : 0 < path.edgeCount) :
    path.nodes.isEmpty = false := by
  unfold edgeCount at h
  cases hn : path.nodes with
  | nil => simp [hn] at h
  | cons n ns => rfl

theorem maneuvers?_eq_ok_of_segments {path : TripPath} (h : path.segments ≠ []) :
    path.maneuvers? = .ok (Stretch.summaries none path.stretches ++ [path.arrival]) := by
  have hpos := (segments_ne_nil_iff path).mp h
  rw [maneuvers?, nodes_ne_nil_of_edgeCount_pos hpos, maneuvers_eq_summaries hpos]
  rfl

def overFerry : TripPath where
  nodes := [
    { edge := some { length := 1, endShape := 2, names := { name := "Main Street" } } },
    { edge := some { length := 3, beginShape := 2, endShape := 3, usage := .ferry } },
    { edge := some {
        length := 1, beginShape := 3, endShape := 5, names := { name := "Elm Lane" } } },
    { edge := some {
        length := 2, beginShape := 5, endShape := 6, names := { name := "Broad Street" } } },
    {}]

end TripPath

end TurnByTurn
