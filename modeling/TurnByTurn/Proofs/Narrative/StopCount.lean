import TurnByTurn.Proofs.Directions.Guided
import TurnByTurn.Proofs.Maneuver.Subdivision
import TurnByTurn.Proofs.Narrative.Templates

/-!
How many stops a passenger is told to travel. One is taken off the stops that a ride calls at, which
is the stop where it is boarded only if there is one.
-/

namespace TurnByTurn

namespace Dictionary

def stopPhrase (d : Dictionary) : Nat → Option String
  | 0 => none
  | 1 => some d.stopCountOne
  | n => some (fill d.stopCount [(.count, toString n)])

variable {d : Dictionary}

theorem exists_hasSlot_stopCount (hd : d ∈ all) :
    ∃ before after, HasSlot d.stopCount .count before after ∧
      d.stopCountOne.length ≤ before.length + after.length := by
  simp only [all, List.mem_cons, List.not_mem_nil, or_false] at hd
  rcases hd with rfl | rfl
  · exact ⟨"Travel ".toList, " stops.".toList, ⟨by decide, by decide, by decide +kernel⟩, by decide⟩
  · exact ⟨"Fahren Sie ".toList, " Haltestellen.".toList,
      ⟨by decide, by decide, by decide +kernel⟩, by decide⟩

theorem stopCountOne_ne_fill (hd : d ∈ all) (n : Nat) :
    d.stopCountOne ≠ fill d.stopCount [(.count, n.repr)] := by
  obtain ⟨before, after, hslot, hshort⟩ := exists_hasSlot_stopCount hd
  intro heq
  have hlength := congrArg (fun s => s.toList.length) heq
  have hdigits : 0 < n.repr.length := Nat.length_repr_pos
  simp only [hslot.toList_fill, List.length_append, String.length_toList] at hlength
  omega

theorem fill_stopCount_inj (hd : d ∈ all) {i j : Nat} :
    fill d.stopCount [(.count, i.repr)] = fill d.stopCount [(.count, j.repr)] ↔ i = j := by
  obtain ⟨before, after, hslot, -⟩ := exists_hasSlot_stopCount hd
  rw [hslot.fill_inj]
  constructor
  · intro heq
    rw [Nat.repr_eq_ofList_toDigits, Nat.repr_eq_ofList_toDigits, String.ofList_inj] at heq
    rw [← @Nat.ofDigitChars_ten_toDigits i, heq, Nat.ofDigitChars_ten_toDigits]
  · exact congrArg _

theorem stopPhrase_inj (hd : d ∈ all) {i j : Nat} : d.stopPhrase i = d.stopPhrase j ↔ i = j := by
  have hone := stopCountOne_ne_fill hd
  rcases i with - | - | i <;> rcases j with - | - | j
  all_goals simp [stopPhrase, hone, (hone _).symm, fill_stopCount_inj hd]

end Dictionary

namespace TripPath

variable {path : TripPath} {m : Maneuver}

def stopsAfterBoarding (path : TripPath) (m : Maneuver) : Nat :=
  (List.range' (m.beginNode + 1) (m.endNode - m.beginNode)).countP fun node =>
    (path.stopAt? node).isSome

theorem length_stopsOf (h : m.beginNode ≤ m.endNode) :
    (path.stopsOf m).length =
      path.stopsAfterBoarding m + if (path.stopAt? m.beginNode).isSome then 1 else 0 := by
  have hcount : m.endNode + 1 - m.beginNode = m.endNode - m.beginNode + 1 := by omega
  rw [stopsOf, List.length_map, List.length_filterMap_eq_countP, hcount, List.range'_succ,
    List.countP_cons]
  rfl

theorem stopsAhead_eq {route : TransitRoute} (h : m.beginNode ≤ m.endNode)
    (hroute : route.stops = path.stopsOf m) :
    route.stopsAhead = if (path.stopAt? m.beginNode).isSome then path.stopsAfterBoarding m
      else path.stopsAfterBoarding m - 1 := by
  rw [TransitRoute.stopsAhead, hroute, length_stopsOf h]
  by_cases hstop : (path.stopAt? m.beginNode).isSome
  · rw [if_pos hstop, if_pos hstop, Nat.add_sub_cancel]
  · rw [if_neg hstop, if_neg hstop, Nat.add_zero]

end TripPath

namespace Options

variable {o : Options} {path : TripPath} {m : Maneuver}

theorem postText_of_route {route : TransitRoute} (h : m.route = some route) :
    o.postText m = o.dictionary.stopPhrase route.stopsAhead := by
  unfold postText
  rw [h]
  rfl

theorem post_narrateOne (o : Options) (path : TripPath) (hkind : m.kind ≠ .arrive) :
    (o.narrateOne path m).texts.post = o.postText m := by
  unfold narrateOne departTexts turnTexts
  dsimp only
  split
  · rfl
  · contradiction
  · rfl

theorem post_of_mem_narrate {ms : List Maneuver} (h : path.guidedManeuvers = .ok ms)
    (hm : m ∈ o.narrate path ms) (hroute : m.route.isSome = true) :
    m.texts.post = o.dictionary.stopPhrase
      (if (path.stopAt? m.beginNode).isSome then path.stopsAfterBoarding m
        else path.stopsAfterBoarding m - 1) := by
  obtain ⟨n, hn, pre, rfl⟩ := exists_of_mem_narrate hm
  rw [TripPath.guidedManeuvers_eq_map h] at hn
  obtain ⟨k, hk, rfl⟩ := List.mem_map.mp hn
  obtain ⟨route, hsome⟩ := Option.isSome_iff_exists.mp hroute
  have hline : (path.guided k).route = some route := hsome
  obtain ⟨t, ht, b, rfl⟩ := TripPath.exists_summary_of_route hk hroute
  have hkind : (path.guided (t.summary b)).kind ≠ .arrive := by
    rw [TripPath.kind_guided]
    exact TripPath.kind_summary_ne_arrive t b
  have hnodes : (path.guided (t.summary b)).beginNode ≤ (path.guided (t.summary b)).endNode := by
    rw [TripPath.beginNode_guided, TripPath.endNode_guided]
    exact Nat.le_succ_of_le (TripPath.node_first_le ht t.last_mem)
  have hpost := post_narrateOne o path hkind
  rw [postText_of_route hline, TripPath.stopsAhead_eq hnodes (TripPath.stops_guided hline)] at hpost
  exact hpost

theorem post_of_ride {ms : List Maneuver} (h : path.guidedManeuvers = .ok ms)
    (hm : m ∈ o.narrate path ms) (hroute : m.route.isSome = true) :
    ((path.stopAt? m.beginNode).isSome = true →
        m.texts.post = o.dictionary.stopPhrase (path.stopsAfterBoarding m)) ∧
      ((path.stopAt? m.beginNode).isSome = false →
        m.texts.post = o.dictionary.stopPhrase (path.stopsAfterBoarding m - 1)) ∧
      (o.dictionary ∈ Dictionary.all →
        (m.texts.post = o.dictionary.stopPhrase (path.stopsAfterBoarding m) ↔
          (path.stopAt? m.beginNode).isSome = true ∨ path.stopsAfterBoarding m = 0)) := by
  rw [post_of_mem_narrate h hm hroute]
  by_cases hstop : (path.stopAt? m.beginNode).isSome = true
  · rw [if_pos hstop]
    simp [hstop]
  · rw [if_neg hstop]
    refine ⟨fun hsome => absurd hsome hstop, fun _ => rfl, ?_⟩
    intro ho
    rw [Dictionary.stopPhrase_inj ho]
    constructor
    · intro heq
      right
      omega
    · rintro (hsome | hzero)
      · exact absurd hsome hstop
      · omega

theorem exists_ride {first last : Nat}
    (h : (path.guidedManeuvers.toOption.bind fun ms => (o.narrate path ms)[1]?.map fun m =>
      (m.route.isSome, m.beginNode, m.endNode)) = some (true, first, last)) :
    ∃ ms m, path.guidedManeuvers = .ok ms ∧ m ∈ o.narrate path ms ∧ m.route.isSome = true ∧
      m.beginNode = first ∧ m.endNode = last := by
  obtain ⟨ms, hms, hride⟩ := Option.bind_eq_some_iff.mp h
  obtain ⟨m, hm, hnodes⟩ := Option.map_eq_some_iff.mp hride
  simp only [Prod.mk.injEq] at hnodes
  exact ⟨ms, m, eq_ok_of_toOption hms, List.mem_of_getElem? hm, hnodes⟩

theorem post_of_ride_tramAndBus :
    ∃ ms m, TripPath.tramAndBus.guidedManeuvers = .ok ms ∧
      m ∈ (ofRequest "metric" "en-US").narrate TripPath.tramAndBus ms ∧ m.route.isSome = true ∧
      (TripPath.tramAndBus.stopAt? m.beginNode).isSome = true ∧
      m.texts.post = some "Travel 2 stops." := by
  have hride : (TripPath.tramAndBus.guidedManeuvers.toOption.bind fun ms =>
      ((ofRequest "metric" "en-US").narrate TripPath.tramAndBus ms)[1]?.map fun m =>
        (m.route.isSome, m.beginNode, m.endNode)) = some (true, 1, 3) := by decide +kernel
  obtain ⟨ms, m, hms, hm, hroute, hbegin, hend⟩ := exists_ride hride
  have hstop : (TripPath.tramAndBus.stopAt? m.beginNode).isSome = true := by
    rw [hbegin]
    rfl
  have hpost := (post_of_ride hms hm hroute).1 hstop
  rw [TripPath.stopsAfterBoarding, hbegin, hend] at hpost
  refine ⟨ms, m, hms, hm, hroute, hstop, hpost.trans ?_⟩
  decide +kernel

def toHarbor : TripPath where
  nodes := [
    { edge := some { length := 1, mode := .pedestrian } },
    { edge := some { length := 10, mode := .transit, usage := .rail, line := some {
        id := "r-1", shortName := "T1" } } },
    { stop := some { name := "Harbor" } }]

theorem not_forall_post_eq_stopPhrase :
    ¬ ∀ (path : TripPath) (o : Options) (ms : List Maneuver) (m : Maneuver), path.IsUnbroken →
      o.dictionary ∈ Dictionary.all → path.guidedManeuvers = .ok ms → m ∈ o.narrate path ms →
        m.route.isSome = true →
          m.texts.post = o.dictionary.stopPhrase (path.stopsAfterBoarding m) := by
  intro hall
  have ho : (ofRequest "metric" "en-US").dictionary ∈ Dictionary.all :=
    Dictionary.forLanguage_mem_all "en-US"
  have hride : (toHarbor.guidedManeuvers.toOption.bind fun ms =>
      ((ofRequest "metric" "en-US").narrate toHarbor ms)[1]?.map fun m =>
        (m.route.isSome, m.beginNode, m.endNode)) = some (true, 1, 2) := by decide +kernel
  obtain ⟨ms, m, hms, hm, hroute, hbegin, hend⟩ := exists_ride hride
  have hcount : toHarbor.stopsAfterBoarding m = 1 := by
    rw [TripPath.stopsAfterBoarding, hbegin, hend]
    rfl
  have htold := hall toHarbor _ ms m ⟨by decide, rfl⟩ ho hms hm hroute
  rw [post_of_mem_narrate hms hm hroute, Dictionary.stopPhrase_inj ho, hcount, hbegin] at htold
  revert htold
  decide

end Options

end TurnByTurn
