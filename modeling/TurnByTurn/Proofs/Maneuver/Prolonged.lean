import TurnByTurn.Proofs.Maneuver.Summary
import TurnByTurn.Proofs.Path.Insertion

/-!
A path that goes on beyond its last node. Only the stretch that ended there can get longer, so the
maneuvers before it stay as they are, and the one on it begins as before.
-/

namespace TurnByTurn

/-- A node without an edge adds no segment, but the time to it counts for the edge before. -/
theorem segmentsFrom_prolonged (start : Nat) (before more : List Node) {n : Node}
    (hn : n.edge = none) (e : Edge) :
    segmentsFrom start (before ++ { n with edge := some e } :: more) =
      segmentsFrom start (before ++ [n]) ++
        segmentsFrom (start + before.length) ({ n with edge := some e } :: more) := by
  induction before generalizing start with
  | nil => simp [segmentsFrom, Node.segment?, hn]
  | cons a before ih =>
    have htime : a.timeToFirst (before ++ { n with edge := some e } :: more) =
        a.timeToFirst (before ++ [n]) := by
      cases before <;> rfl
    have hstart : start + 1 + before.length = start + (a :: before).length := by
      simp only [List.length_cons]
      omega
    rw [List.cons_append, List.cons_append, segmentsFrom, segmentsFrom, ih, hstart,
      List.append_assoc]
    unfold Node.segment?
    rw [htime]

namespace Stretch

theorem exists_cut_append (t : Stretch) (following : List Segment) :
    ∃ done u, t.cut following = done ++ [u] ∧
      ∀ more, t.cut (following ++ more) = done ++ u.cut more := by
  -- The stretch under way grows with the edges that join it, so it has to be general.
  induction following generalizing t with
  | nil => exact ⟨[], t, rfl, fun _ => rfl⟩
  | cons s following ih =>
    by_cases hs : joins t.last s
    · obtain ⟨done, u, hcut, hmore⟩ := ih (t.snoc s)
      refine ⟨done, u, ?_, ?_⟩
      · rw [cut, if_pos hs, hcut]
      · intro more
        rw [List.cons_append, cut, if_pos hs, hmore]
    · obtain ⟨done, u, hcut, hmore⟩ := ih ⟨s, []⟩
      refine ⟨t :: done, u, ?_, ?_⟩
      · rw [cut, if_neg hs, hcut, List.cons_append]
      · intro more
        rw [List.cons_append, cut, if_neg hs, hmore, List.cons_append]

theorem exists_cut_eq_cons (t : Stretch) (following : List Segment) :
    ∃ u later, t.cut following = u :: later ∧ u.first = t.first := by
  induction following generalizing t with
  | nil => exact ⟨t, [], rfl, rfl⟩
  | cons s following ih =>
    by_cases hs : joins t.last s
    · obtain ⟨u, later, hcut, hfirst⟩ := ih (t.snoc s)
      refine ⟨u, later, ?_, hfirst⟩
      rw [cut, if_pos hs, hcut]
    · refine ⟨t, cut ⟨s, []⟩ following, ?_, rfl⟩
      rw [cut, if_neg hs]

theorem summaries_append (before : Option Stretch) (ts us : List Stretch) :
    summaries before (ts ++ us) = summaries before ts ++ summaries (ts.getLast?.or before) us := by
  induction ts generalizing before with
  | nil => rfl
  | cons t ts ih =>
    rw [List.cons_append, summaries, summaries, ih, List.cons_append, List.getLast?_cons]
    cases ts.getLast? <;> rfl

end Stretch

structure Maneuver.BeginsAs (m n : Maneuver) : Prop where
  kind : n.kind = m.kind
  turn : n.turn = m.turn
  beginNode : n.beginNode = m.beginNode
  beginShape : n.beginShape = m.beginShape
  beginHeading : n.beginHeading = m.beginHeading
  direction : n.direction = m.direction

theorem Stretch.beginsAs_summary {t u : Stretch} (h : u.first = t.first)
    (before : Option Stretch) : (t.summary before).BeginsAs (u.summary before) := by
  unfold summary
  constructor
  case kind => cases before <;> simp [kind, h]
  case turn => cases before <;> simp [turn, h]
  all_goals simp [h]

namespace TripPath

def prolong (path : TripPath) (e : Edge) (more : List Node) : TripPath :=
  { path with nodes := (path.setEdge path.lastNode e).nodes ++ more }

variable {path : TripPath}

theorem exists_segments_prolong (hpos : 0 < path.edgeCount)
    (hlast : path.edgeAt path.lastNode = none) (e : Edge) (more : List Node) :
    ∃ following, (path.prolong e more).segments = path.segments ++ following := by
  obtain ⟨before, n, hnodes⟩ : ∃ before n, path.nodes = before ++ [n] := by
    rcases List.eq_nil_or_concat' path.nodes with hnil | hsplit
    · have hempty := nodes_ne_nil_of_edgeCount_pos hpos
      simp [hnil] at hempty
    · exact hsplit
  have hlength : before.length = path.lastNode := by simp [lastNode, hnodes]
  have hn : n.edge = none := by
    rw [edgeAt, ← hlength, hnodes] at hlast
    simpa using hlast
  have hset : (path.setEdge path.lastNode e).nodes = before ++ [{ n with edge := some e }] := by
    rw [← hlength]
    exact setEdge_nodes hnodes
  refine ⟨segmentsFrom before.length ({ n with edge := some e } :: more), ?_⟩
  have hsegments := segmentsFrom_prolonged 0 before more hn e
  rw [Nat.zero_add] at hsegments
  rw [segments, segments, prolong, hset, hnodes, List.append_assoc]
  exact hsegments

theorem exists_stretches_prolong (hpos : 0 < path.edgeCount)
    (hlast : path.edgeAt path.lastNode = none) (e : Edge) (more : List Node) :
    ∃ done t u later, path.stretches = done ++ [t] ∧
      (path.prolong e more).stretches = done ++ u :: later ∧ u.first = t.first := by
  obtain ⟨following, hfollowing⟩ := exists_segments_prolong hpos hlast e more
  cases hs : path.segments with
  | nil => exact absurd hs ((segments_ne_nil_iff path).mpr hpos)
  | cons s rest =>
    obtain ⟨done, t, hcut, hmore⟩ := Stretch.exists_cut_append ⟨s, []⟩ rest
    obtain ⟨u, later, hu, hfirst⟩ := t.exists_cut_eq_cons following
    refine ⟨done, t, u, later, ?_, ?_, hfirst⟩
    · rw [stretches, hs]
      exact hcut
    · rw [stretches, hfollowing, hs, ← hu]
      exact hmore following

theorem maneuvers?_prolong (hpos : 0 < path.edgeCount) (hlast : path.edgeAt path.lastNode = none)
    (e : Edge) (more : List Node) :
    ∃ announced last arrival next later,
      path.maneuvers? = .ok (announced ++ [last, arrival]) ∧ arrival.kind = .arrive ∧
      (path.prolong e more).maneuvers? = .ok (announced ++ next :: later) ∧
      last.BeginsAs next := by
  obtain ⟨done, t, u, later, hstretches, hprolonged, hfirst⟩ :=
    exists_stretches_prolong hpos hlast e more
  obtain ⟨following, hfollowing⟩ := exists_segments_prolong hpos hlast e more
  have hne : path.segments ≠ [] := (segments_ne_nil_iff path).mpr hpos
  have hne' : (path.prolong e more).segments ≠ [] := by
    rw [hfollowing]
    exact List.append_ne_nil_of_left_ne_nil hne following
  refine ⟨Stretch.summaries none done, t.summary done.getLast?, path.arrival,
    u.summary done.getLast?, Stretch.summaries (some u) later ++ [(path.prolong e more).arrival],
    ?_, rfl, ?_, Stretch.beginsAs_summary hfirst done.getLast?⟩
  · rw [maneuvers?_eq_ok_of_segments hne, hstretches, Stretch.summaries_append]
    simp [Stretch.summaries]
  · rw [maneuvers?_eq_ok_of_segments hne', hprolonged, Stretch.summaries_append]
    simp [Stretch.summaries]

def alongBroadStreet : Edge where
  length := 0.5
  beginShape := 6
  endShape := 8
  names := { name := "Broad Street", altName := "Hill Road" }

def ontoHillRoad : List Node :=
  [{ elapsed := 90, crossings := 1, edge := some {
      length := 1, beginHeading := 90, endHeading := 90, beginShape := 8, endShape := 9
      names := { name := "Hill Road" } } },
    { elapsed := 200 }]

theorem maneuvers?_prolong_overFerry :
    0 < overFerry.edgeCount ∧ overFerry.edgeAt overFerry.lastNode = none ∧
    ∃ announced last arrival next later,
      overFerry.maneuvers? = .ok (announced ++ [last, arrival]) ∧ arrival.kind = .arrive ∧
      (overFerry.prolong alongBroadStreet ontoHillRoad).maneuvers? =
        .ok (announced ++ next :: later) ∧
      last.BeginsAs next :=
  ⟨by decide, rfl, maneuvers?_prolong (by decide) rfl alongBroadStreet ontoHillRoad⟩

example : (overFerry.prolong alongBroadStreet ontoHillRoad).maneuvers.map
    (fun m => (m.kind, m.beginNode, m.endNode, m.streetNames)) =
      [(.depart, 0, 1, ["Main Street"]), (.ferryEnter, 1, 2, []), (.ferryExit, 2, 3, ["Elm Lane"]),
        (.continueOn, 3, 5, ["Broad Street", "Hill Road"]), (.right, 5, 6, ["Hill Road"]),
        (.arrive, 6, 6, ["Hill Road"])] := by
  decide +kernel

end TripPath

end TurnByTurn
