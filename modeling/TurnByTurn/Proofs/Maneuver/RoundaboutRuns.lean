import Mathlib.Data.List.TakeWhile
import TurnByTurn.Proofs.Maneuver.Roundabout

/-!
On a path that is travelled in one way, each roundabout after its first edge is entered once and
left once: the maneuvers into a roundabout are the runs of edges in one.
-/

namespace TurnByTurn

def Segment.sameRoundabout (s u : Segment) : Bool := s.edge.roundabout == u.edge.roundabout

section Runs

variable {before rest : List Segment}

theorem filter_splitBy_of_outside (h : ∀ s ∈ before, s.edge.roundabout = false) :
    (before.splitBy Segment.sameRoundabout).filter (·.all (·.edge.roundabout)) = [] := by
  rw [List.filter_eq_nil_iff]
  intro run hrun hall
  obtain ⟨s, hs⟩ := List.exists_mem_of_ne_nil run (List.ne_nil_of_mem_splitBy hrun)
  have hmem : s ∈ before := by
    rw [← List.flatten_splitBy Segment.sameRoundabout before]
    exact List.mem_flatten_of_mem hrun hs
  have hround := List.all_eq_true.mp hall s hs
  rw [h s hmem] at hround
  cases hround

theorem filter_splitBy_append_of_head (h : ∀ s ∈ before, s.edge.roundabout = false)
    (hrest : ∀ s ∈ rest.head?, s.edge.roundabout = true) :
    ((before ++ rest).splitBy Segment.sameRoundabout).filter (·.all (·.edge.roundabout)) =
      (rest.splitBy Segment.sameRoundabout).filter (·.all (·.edge.roundabout)) := by
  cases rest with
  | nil =>
    rw [List.append_nil, filter_splitBy_of_outside h]
    rfl
  | cons s rest =>
    have hs : s.edge.roundabout = true := hrest s rfl
    have hboundary : ∀ a ∈ before.getLast?, Segment.sameRoundabout a s = false := by
      intro a ha
      simp [Segment.sameRoundabout, h a (List.mem_of_getLast? ha), hs]
    rw [List.splitBy_append_cons rest hboundary, List.filter_append, filter_splitBy_of_outside h,
      List.nil_append]

theorem filter_tail_splitBy {s : Segment} (hs : s.edge.roundabout = false) (rest : List Segment) :
    ((s :: rest).splitBy Segment.sameRoundabout).tail.filter (·.all (·.edge.roundabout)) =
      ((s :: rest).splitBy Segment.sameRoundabout).filter (·.all (·.edge.roundabout)) := by
  have hne : s :: rest ≠ [] := List.cons_ne_nil s rest
  obtain ⟨run, runs, hruns⟩ := List.exists_cons_of_ne_nil
    (List.splitBy_ne_nil (r := Segment.sameRoundabout).mpr hne)
  have hhead := List.head_head_splitBy Segment.sameRoundabout hne
  simp only [hruns, List.head_cons] at hhead
  have hrun : run.all (·.edge.roundabout) = false := by
    rw [List.all_eq_false]
    exact ⟨s, hhead ▸ List.head_mem _, by simp [hs]⟩
  rw [hruns, List.tail_cons, List.filter_cons_of_neg (by simp [hrun])]

theorem filter_splitBy_append (h : ∀ s ∈ before, s.edge.roundabout = false) :
    ((before ++ rest).splitBy Segment.sameRoundabout).filter (·.all (·.edge.roundabout)) =
      (rest.splitBy Segment.sameRoundabout).filter (·.all (·.edge.roundabout)) := by
  -- the rest may begin outside as well, in one run with the last edges before it
  let outside := rest.takeWhile (!·.edge.roundabout)
  let onwards := rest.dropWhile (!·.edge.roundabout)
  have hsplit : rest = outside ++ onwards := List.takeWhile_append_dropWhile.symm
  have houtside : ∀ s ∈ outside, s.edge.roundabout = false := by
    intro s hs
    simpa using List.mem_takeWhile_imp hs
  have hboth : ∀ s ∈ before ++ outside, s.edge.roundabout = false := by
    intro s hs
    exact (List.mem_append.mp hs).elim (h s) (houtside s)
  have honwards : ∀ s ∈ onwards.head?, s.edge.roundabout = true := by
    intro s hs
    have hhead := List.head?_dropWhile_not (!·.edge.roundabout) rest
    rw [Option.mem_def.mp hs] at hhead
    simpa using hhead
  rw [hsplit, ← List.append_assoc, filter_splitBy_append_of_head hboth honwards,
    filter_splitBy_append_of_head houtside honwards]

end Runs

namespace TripPath

/-- The longest runs of edges in a roundabout, but for one that the path begins with. -/
def roundaboutRuns (path : TripPath) : List (List Segment) :=
  (path.segments.splitBy Segment.sameRoundabout).tail.filter (·.all (·.edge.roundabout))

section SingleMode

variable {path : TripPath} (h : path.HasSingleMode)

include h

theorem splitBy_segments {t : Stretch} (ht : t ∈ path.stretches) :
    t.segments.splitBy Segment.sameRoundabout = [t.segments] := by
  apply List.splitBy_of_isChain t.segments_ne_nil
  refine (isChain_of_mem_stretches ht).imp_of_mem_imp ?_
  intro s u hs hu _
  simp [Segment.sameRoundabout, roundabout_eq_isRound h ht hs, roundabout_eq_isRound h ht hu]

theorem all_roundabout_segments {t : Stretch} (ht : t ∈ path.stretches) :
    t.segments.all (·.edge.roundabout) = t.isRound := by
  cases hround : t.isRound with
  | true =>
    rw [List.all_eq_true]
    exact fun s hs => (roundabout_eq_isRound h ht hs).trans hround
  | false =>
    rw [List.all_eq_false]
    exact ⟨t.first, t.first_mem, by simpa [Stretch.isRound] using hround⟩

theorem splitBy_of_isRound {t : Stretch} {ts : List Stretch}
    (hmem : ∀ u ∈ t :: ts, u ∈ path.stretches)
    (hchain : (t :: ts).IsChain Stretch.NotBothRound) (hround : t.isRound = true) :
    ((t :: ts).flatMap Stretch.segments).splitBy Segment.sameRoundabout =
      t.segments :: (ts.flatMap Stretch.segments).splitBy Segment.sameRoundabout := by
  have ht : t ∈ path.stretches := hmem t List.mem_cons_self
  cases ts with
  | nil => simpa using splitBy_segments h ht
  | cons u ts =>
    have huround : u.isRound = false := hchain.rel hround
    have hboundary : ∀ s ∈ t.segments.getLast?, Segment.sameRoundabout s u.first = false := by
      intro s hs
      have hsround := roundabout_eq_isRound h ht (List.mem_of_getLast? hs)
      have hfirst : u.first.edge.roundabout = false := huround
      simp [Segment.sameRoundabout, hsround, hround, hfirst]
    have hsplit := List.splitBy_append_cons (u.rest ++ ts.flatMap Stretch.segments) hboundary
    rw [splitBy_segments h ht] at hsplit
    exact hsplit

theorem filter_runs {ts : List Stretch} (hmem : ∀ u ∈ ts, u ∈ path.stretches)
    (hchain : ts.IsChain Stretch.NotBothRound) :
    ((ts.flatMap Stretch.segments).splitBy Segment.sameRoundabout).filter
        (·.all (·.edge.roundabout)) = (ts.filter (·.isRound)).map Stretch.segments := by
  induction ts with
  | nil => rfl
  | cons t ts ih =>
    have ht : t ∈ path.stretches := hmem t List.mem_cons_self
    have hall := all_roundabout_segments h ht
    have hrest := ih (fun u hu => hmem u (List.mem_cons_of_mem t hu)) hchain.tail
    cases hround : t.isRound with
    | true =>
      rw [splitBy_of_isRound h hmem hchain hround, List.filter_cons_of_pos (by rw [hall, hround]),
        List.filter_cons_of_pos hround, List.map_cons, hrest]
    | false =>
      have houtside : ∀ s ∈ t.segments, s.edge.roundabout = false :=
        fun s hs => (roundabout_eq_isRound h ht hs).trans hround
      rw [List.flatMap_cons, filter_splitBy_append houtside, hrest,
        List.filter_cons_of_neg (by simp [hround])]

theorem roundaboutRuns_eq : path.roundaboutRuns =
    (path.stretches.tail.filter (·.isRound)).map Stretch.segments := by
  have hchain := isChain_notBothRound h
  unfold roundaboutRuns
  rw [← flatMap_segments_stretches]
  generalize hts : path.stretches = ts at hchain
  cases ts with
  | nil => rfl
  | cons t ts =>
    have hmem : ∀ u ∈ t :: ts, u ∈ path.stretches := fun u hu => hts ▸ hu
    have ht : t ∈ path.stretches := hmem t List.mem_cons_self
    rw [List.tail_cons]
    cases hround : t.isRound with
    | true =>
      rw [splitBy_of_isRound h hmem hchain hround, List.tail_cons,
        filter_runs h (fun u hu => hmem u (List.mem_cons_of_mem t hu)) hchain.tail]
    | false =>
      -- the first run is outside of roundabouts, so it does not matter that it is left out
      have hruns := filter_runs h hmem hchain
      rw [List.filter_cons_of_neg (by simp [hround])] at hruns
      rw [← hruns]
      exact filter_tail_splitBy hround (t.rest ++ ts.flatMap Stretch.segments)

end SingleMode

def GoesOnAfter (path : TripPath) (m : Maneuver) : Prop :=
  ∃ node, m.endNode ≤ node ∧ (path.edgeAt node).isSome = true

theorem goesOnAfter_summary_iff {path : TripPath} {k : Nat} {t : Stretch}
    (ht : path.stretches[k]? = some t) (before : Option Stretch) :
    path.GoesOnAfter (t.summary before) ↔ k + 1 < path.stretches.length := by
  obtain ⟨hk, rfl⟩ := List.getElem?_eq_some_iff.mp ht
  have hpairs := List.pairwise_iff_getElem.mp (pairwise_stretches path)
  constructor
  · rintro ⟨node, hend, hedge⟩
    obtain ⟨e, he⟩ := Option.isSome_iff_exists.mp hedge
    obtain ⟨s, hs, rfl, -⟩ := exists_mem_segments_of_edgeAt he
    obtain ⟨u, hu, hsu⟩ := exists_mem_stretches hs
    obtain ⟨j, hj, rfl⟩ := List.getElem_of_mem hu
    rw [Stretch.endNode_summary] at hend
    have hjk : ¬ j ≤ k := by
      intro hjk
      rcases Nat.lt_or_eq_of_le hjk with hlt | rfl
      · have hnode := hpairs j k hj hk hlt s hsu _ (Stretch.last_mem _)
        omega
      · have hnode := node_le_last hu hsu
        omega
    omega
  · intro hlt
    have hnode := hpairs k (k + 1) hk hlt (Nat.lt_succ_self k) _ (Stretch.last_mem _) _
      (Stretch.first_mem _)
    refine ⟨path.stretches[k + 1].first.node, hnode, ?_⟩
    rw [edgeAt_of_mem_segments (mem_segments_of_mem_stretches (List.getElem_mem hlt)
      (Stretch.first_mem _))]
    rfl

structure PassesRoundabouts (path : TripPath) (ms : List Maneuver) : Prop where
  runs : (ms.filter (·.kind = .roundaboutEnter)).map
      (fun m => (path.segmentsOf m, m.roundaboutExits)) =
    path.roundaboutRuns.map fun run => (run, run.length)
  next : ∀ k m, ms[k]? = some m → m.kind = .roundaboutEnter → ∃ n, ms[k + 1]? = some n ∧
    (n.kind = .roundaboutExit ∧ path.GoesOnAfter m ∨ n.kind = .arrive ∧ ¬ path.GoesOnAfter m)
  alternate : ((ms.map (·.kind)).filter ManeuverKind.isRoundabout).IsChain (· ≠ ·)

section SingleMode

variable {path : TripPath} (h : path.HasSingleMode)

include h

theorem runs_maneuvers :
    (path.maneuvers.filter (·.kind = .roundaboutEnter)).map
        (fun m => (path.segmentsOf m, m.roundaboutExits)) =
      path.roundaboutRuns.map fun run => (run, run.length) := by
  rw [roundaboutRuns_eq h, List.map_map]
  have hchain := isChain_notBothRound h
  cases hts : path.stretches with
  | nil =>
    rw [maneuvers_of_edgeCount_not_pos ((stretches_eq_nil_iff path).mp hts)]
    rfl
  | cons t ts =>
    have hmem : ∀ u ∈ t :: ts, u ∈ path.stretches := fun u hu => hts ▸ hu
    have hdepart : (t.summary none).kind ≠ .roundaboutEnter := by simp [Stretch.summary, Stretch.kind]
    have harrival : path.arrival.kind ≠ .roundaboutEnter := by
      simp [arrival, Maneuver.arriveAt, Maneuver.start]
    rw [maneuvers_of_stretches hts, List.filter_cons_of_neg (by simpa using hdepart),
      List.filter_append, List.filter_cons_of_neg (by simpa using harrival), List.filter_nil,
      List.append_nil, filter_enter_summaries h hmem (hts ▸ hchain)]
    rfl

theorem next_of_enter {k : Nat} {m : Maneuver} (hm : path.maneuvers[k]? = some m)
    (hkind : m.kind = .roundaboutEnter) :
    ∃ n, path.maneuvers[k + 1]? = some n ∧
      (n.kind = .roundaboutExit ∧ path.GoesOnAfter m ∨
        n.kind = .arrive ∧ ¬ path.GoesOnAfter m) := by
  by_cases hpos : 0 < path.edgeCount
  · rw [maneuvers_eq_summaries hpos] at hm ⊢
    rcases getElem?_append_arrival hm with ⟨-, hk⟩ | ⟨-, rfl⟩
    · rw [Stretch.getElem?_summaries, Option.map_eq_some_iff] at hk
      obtain ⟨t, ht, rfl⟩ := hk
      have hmem := List.mem_of_getElem? ht
      have hround : t.first.edge.roundabout = true := roundabout_of_enter hmem hkind t.first_mem
      have hgoesOn := goesOnAfter_summary_iff ht (if k = 0 then none else path.stretches[k - 1]?)
      have hlength : (Stretch.summaries none path.stretches).length = path.stretches.length :=
        Stretch.length_summaries none path.stretches
      by_cases hlast : k + 1 < path.stretches.length
      · have hnext : path.stretches[k + 1]? = some path.stretches[k + 1] :=
          List.getElem?_eq_getElem hlast
        obtain ⟨hlt, hget⟩ := List.getElem?_eq_some_iff.mp ht
        have hnot := List.isChain_iff_getElem.mp (isChain_notBothRound h) k hlast
        rw [hget] at hnot
        -- two stretches in a roundabout would be one, so the next one is outside
        refine ⟨path.stretches[k + 1].summary (some t), ?_, .inl ⟨?_, hgoesOn.mpr hlast⟩⟩
        · rw [List.getElem?_append_left (by omega), Stretch.getElem?_summaries, hnext,
            if_neg k.succ_ne_zero, Nat.add_sub_cancel, ht]
          rfl
        · exact kind_of_leaving h hmem (List.getElem_mem hlast) hnot hround
      · have hk := (List.getElem?_eq_some_iff.mp ht).1
        refine ⟨path.arrival, ?_, .inr ⟨rfl, fun hafter => hlast (hgoesOn.mp hafter)⟩⟩
        rw [List.getElem?_append_right (by omega), List.getElem?_singleton, if_pos (by omega)]
    · cases hkind
  · have hkinds : ∀ n ∈ path.maneuvers, n.kind ≠ .roundaboutEnter := by
      rw [maneuvers_of_edgeCount_not_pos hpos]
      simp [Maneuver.start, Maneuver.arriveAt]
    exact absurd hkind (hkinds m (List.mem_of_getElem? hm))

theorem alternate_maneuvers :
    ((path.maneuvers.map (·.kind)).filter ManeuverKind.isRoundabout).IsChain (· ≠ ·) := by
  have hchain := isChain_notBothRound h
  cases hts : path.stretches with
  | nil =>
    rw [maneuvers_of_edgeCount_not_pos ((stretches_eq_nil_iff path).mp hts)]
    exact .nil
  | cons t ts =>
    have hmem : ∀ u ∈ t :: ts, u ∈ path.stretches := fun u hu => hts ▸ hu
    have hdepart : (t.summary none).kind = .depart := rfl
    have harrival : path.arrival.kind = .arrive := rfl
    rw [maneuvers_of_stretches hts, List.map_cons, List.map_append, List.map_singleton, hdepart,
      harrival, List.filter_cons_of_neg (by decide), List.filter_append,
      List.filter_cons_of_neg (by decide), List.filter_nil, List.append_nil]
    exact (isChain_roundabout_kinds h hmem (hts ▸ hchain)).tail

end SingleMode

theorem countsExits_and_passesRoundabouts {path : TripPath} {ms : List Maneuver}
    (hms : path.maneuvers? = .ok ms) :
    (∀ m ∈ ms, path.CountsExits m) ∧ (path.HasSingleMode → path.PassesRoundabouts ms) := by
  rw [eq_maneuvers_of_maneuvers? hms]
  refine ⟨fun m => countsExits_of_mem_maneuvers, ?_⟩
  intro hmode
  exact ⟨runs_maneuvers hmode, fun k m => next_of_enter hmode, alternate_maneuvers hmode⟩

def roundabouts : TripPath where
  nodes := [
    { edge := some { length := 1, roundabout := true } },
    { edge := some { length := 2, names := { name := "Main Street" } } },
    { edge := some { length := 1, roundabout := true } },
    { crossings := 1, edge := some { length := 1, beginHeading := 270, roundabout := true } },
    { edge := some { length := 2, names := { name := "Elm Lane" } } },
    { edge := some { length := 1, roundabout := true } },
    {}]

theorem countsExits_and_passesRoundabouts_roundabouts :
    ∃ ms, roundabouts.maneuvers? = .ok ms ∧
      ms.map (·.kind) = [.depart, .roundaboutExit, .roundaboutEnter, .roundaboutExit,
        .roundaboutEnter, .arrive] ∧
      (∀ m ∈ ms, roundabouts.CountsExits m) ∧ roundabouts.HasSingleMode ∧
      roundabouts.PassesRoundabouts ms := by
  have hms : roundabouts.maneuvers? = .ok roundabouts.maneuvers := rfl
  have hmode : roundabouts.HasSingleMode := by
    refine ⟨.drive, by decide, ?_⟩
    intro node e he
    obtain ⟨n, hn, hne⟩ := Option.bind_eq_some_iff.mp he
    have hall : ∀ n ∈ roundabouts.nodes, n.edge.all (·.mode = .drive) = true := by decide +kernel
    have hnode := hall n (List.mem_of_getElem? hn)
    rw [hne] at hnode
    simpa using hnode
  obtain ⟨hcounts, hpasses⟩ := countsExits_and_passesRoundabouts hms
  exact ⟨_, hms, by decide +kernel, hcounts, hmode, hpasses hmode⟩

end TripPath

end TurnByTurn
