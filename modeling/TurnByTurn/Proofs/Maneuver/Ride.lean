import TurnByTurn.Maneuver.Attach
import TurnByTurn.Proofs.Maneuver.Summary

namespace TurnByTurn

namespace Edge

def ridesLine (e : Edge) : Bool := e.isTransit && e.line.isSome

theorem ridesLine_iff {e : Edge} :
    e.ridesLine = true ↔ e.isTransit = true ∧ ∃ line, e.line = some line := by
  rw [ridesLine, Bool.and_eq_true, Option.isSome_iff_exists]

theorem isSome_line_eq_of_sameLine {prev e : Edge} (h : prev.sameLine e = true) :
    prev.line.isSome = e.line.isSome := by
  unfold sameLine at h
  split at h
  · next hprev he => rw [hprev, he]; rfl
  · next hprev he => rw [hprev, he]
  · cases h

end Edge

theorem Stretch.ridesLine_eq_of_joins {prev s : Segment} (h : joins prev s = true) :
    prev.edge.ridesLine = s.edge.ridesLine := by
  rw [joins, Bool.not_eq_true'] at h
  unfold Segment.beginsManeuver at h
  by_cases hmode : prev.edge.mode = s.edge.mode
  · have htransit : prev.edge.isTransit = s.edge.isTransit := by
      unfold Edge.isTransit
      rw [hmode]
    unfold Edge.ridesLine
    rw [htransit]
    cases ht : s.edge.isTransit with
    | false => rfl
    | true =>
      simp [hmode, htransit, ht] at h
      rw [Edge.isSome_line_eq_of_sameLine h]
  · simp [hmode] at h

namespace TripPath

theorem ridesLine_eq_of_mem_stretches {path : TripPath} {t : Stretch} (ht : t ∈ path.stretches)
    {s : Segment} (hs : s ∈ t.segments) : s.edge.ridesLine = t.first.edge.ridesLine :=
  eq_first_of_mem_stretches (f := fun s => s.edge.ridesLine)
    (fun _ _ => Stretch.ridesLine_eq_of_joins) ht hs

def RidesBeyond (path : TripPath) (m : Maneuver) : Prop :=
  (path.lineOf m).isSome ∧ path.nodes.length ≤ m.endNode

def RidesOffEnd (path : TripPath) : Prop :=
  ∃ e line, path.edgeAt path.lastNode = some e ∧ e.isTransit = true ∧ e.line = some line

theorem lineOf_withSigns (path : TripPath) (m : Maneuver) :
    path.lineOf (path.withSigns m) = path.lineOf m := by
  unfold withSigns
  split <;> rfl

theorem endNode_withSigns (path : TripPath) (m : Maneuver) :
    (path.withSigns m).endNode = m.endNode := by
  unfold withSigns
  split <;> rfl

theorem ridesBeyond_withSigns (path : TripPath) (m : Maneuver) :
    path.RidesBeyond (path.withSigns m) ↔ path.RidesBeyond m := by
  unfold RidesBeyond
  rw [lineOf_withSigns, endNode_withSigns]

theorem withTransit_cases (path : TripPath) (m : Maneuver) :
    (∃ m', path.withTransit m = .ok m') ∧ ¬ path.RidesBeyond m ∨
      path.withTransit m = .error .transitBeyondPath ∧ path.RidesBeyond m := by
  unfold withTransit RidesBeyond
  cases hline : path.lineOf m with
  | none => exact .inl ⟨⟨_, rfl⟩, by simp⟩
  | some line =>
    by_cases hend : m.endNode < path.nodes.length
    · have hstops : path.stopsBetween? m.beginNode m.endNode ≠ none := by simp [stopsBetween?, hend]
      obtain ⟨stops, hstops⟩ := Option.ne_none_iff_exists'.mp hstops
      rw [hstops]
      exact .inl ⟨⟨_, rfl⟩, fun hbeyond => by omega⟩
    · have hstops : path.stopsBetween? m.beginNode m.endNode = none := by simp [stopsBetween?, hend]
      rw [hstops]
      exact .inr ⟨rfl, rfl, Nat.not_lt.mp hend⟩

theorem attachTransit_cases (path : TripPath) (ms : List Maneuver) :
    (∃ ms', path.attachTransit ms = .ok ms') ∧ (∀ m ∈ ms, ¬ path.RidesBeyond m) ∨
      path.attachTransit ms = .error .transitBeyondPath ∧ ∃ m ∈ ms, path.RidesBeyond m := by
  unfold attachTransit
  induction ms with
  | nil => exact .inl ⟨⟨[], rfl⟩, by simp⟩
  | cons m ms ih =>
    rw [List.mapM_cons]
    rcases path.withTransit_cases m with ⟨⟨m', hm⟩, hinside⟩ | ⟨hm, hbeyond⟩
    · rw [hm]
      rcases ih with ⟨⟨ms', hms⟩, hall⟩ | ⟨hms, n, hn, hbeyond⟩
      · rw [hms]
        exact .inl ⟨⟨m' :: ms', rfl⟩, List.forall_mem_cons.mpr ⟨hinside, hall⟩⟩
      · rw [hms]
        exact .inr ⟨rfl, n, List.mem_cons_of_mem m hn, hbeyond⟩
    · rw [hm]
      exact .inr ⟨rfl, m, List.mem_cons_self, hbeyond⟩

theorem lineOf_of_standstill {path : TripPath} {m : Maneuver} (h : m.endNode = m.beginNode) :
    path.lineOf m = none := by
  have hcount : m.edgeCount = 0 := by
    unfold Maneuver.edgeCount
    omega
  unfold lineOf
  cases path.edgeAt m.beginNode <;> simp [hcount]

theorem isSome_lineOf_summary {path : TripPath} {t : Stretch} (ht : t ∈ path.stretches)
    (before : Option Stretch) :
    (path.lineOf (t.summary before)).isSome = t.first.edge.ridesLine := by
  have hfirst := edgeAt_of_mem_segments (mem_segments_of_mem_stretches ht t.first_mem)
  have hcount : 0 < (t.summary before).edgeCount :=
    Nat.sub_pos_of_lt (Nat.lt_succ_of_le (node_first_le ht t.last_mem))
  unfold lineOf Edge.ridesLine
  rw [Stretch.beginNode_summary, hfirst]
  cases htransit : t.first.edge.isTransit <;> simp [htransit, hcount]

theorem exists_ridesBeyond_iff (path : TripPath) :
    (∃ m ∈ path.maneuvers, path.RidesBeyond m) ↔ path.RidesOffEnd := by
  constructor
  · rintro ⟨m, hm, hline, hend⟩
    rcases summary_or_standstill_of_mem_maneuvers hm with ⟨t, ht, b, rfl⟩ | ⟨-, hstill, -⟩
    · have hlast := mem_segments_of_mem_stretches ht t.last_mem
      have hlt := node_lt_of_mem_segments hlast
      have hnode : t.last.node = path.lastNode := by
        rw [Stretch.endNode_summary] at hend
        unfold lastNode
        omega
      rw [isSome_lineOf_summary ht, ← ridesLine_eq_of_mem_stretches ht t.last_mem,
        Edge.ridesLine_iff] at hline
      obtain ⟨htransit, line, hline⟩ := hline
      exact ⟨t.last.edge, line, hnode ▸ edgeAt_of_mem_segments hlast, htransit, hline⟩
    · rw [lineOf_of_standstill hstill] at hline
      cases hline
  · rintro ⟨e, line, he, htransit, hline⟩
    obtain ⟨s, hs, hnode, rfl⟩ := exists_mem_segments_of_edgeAt he
    obtain ⟨t, ht, hst⟩ := exists_mem_stretches hs
    obtain ⟨b, hb⟩ := exists_summary_mem_maneuvers ht
    refine ⟨_, hb, ?_, ?_⟩
    · rw [isSome_lineOf_summary ht, ← ridesLine_eq_of_mem_stretches ht hst, Edge.ridesLine_iff]
      exact ⟨htransit, line, hline⟩
    · -- only the last edge of a stretch can leave the last node
      have hle := node_le_last ht hst
      rw [Stretch.endNode_summary]
      unfold lastNode at hnode
      omega

end TripPath

end TurnByTurn
