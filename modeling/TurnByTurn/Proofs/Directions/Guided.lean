import TurnByTurn.Proofs.Maneuver.Stops
import TurnByTurn.Proofs.Directions.Outcome
import TurnByTurn.Proofs.Narrative.Texts

namespace TurnByTurn

theorem eq_ok_of_toOption {ε α : Type} {x : Except ε α} {a : α} (h : x.toOption = some a) :
    x = .ok a := by
  cases x with
  | error failure => cases h
  | ok b => exact congrArg Except.ok (Option.some.inj h)

namespace TripPath

def guided (path : TripPath) (m : Maneuver) : Maneuver :=
  path.attached (path.withSigns m)

theorem kind_guided (path : TripPath) (m : Maneuver) : (path.guided m).kind = m.kind := by
  unfold guided attached withSigns
  split <;> rfl

theorem beginNode_guided (path : TripPath) (m : Maneuver) :
    (path.guided m).beginNode = m.beginNode := by
  unfold guided attached withSigns
  split <;> rfl

theorem endNode_guided (path : TripPath) (m : Maneuver) :
    (path.guided m).endNode = m.endNode := by
  unfold guided attached
  exact path.endNode_withSigns m

theorem streetNames_guided (path : TripPath) (m : Maneuver) :
    (path.guided m).streetNames = m.streetNames := by
  unfold guided attached withSigns
  split <;> rfl

theorem beginStreetNames_guided (path : TripPath) (m : Maneuver) :
    (path.guided m).beginStreetNames = m.beginStreetNames := by
  unfold guided attached withSigns
  split <;> rfl

theorem stops_guided {path : TripPath} {m : Maneuver} {route : TransitRoute}
    (h : (path.guided m).route = some route) : route.stops = path.stopsOf (path.guided m) := by
  obtain ⟨line, -, rfl⟩ := Option.map_eq_some_iff.mp h
  rfl

theorem exists_summary_of_route {path : TripPath} {m : Maneuver} (hm : m ∈ path.maneuvers)
    (hroute : (path.guided m).route.isSome = true) :
    ∃ t ∈ path.stretches, ∃ b, m = t.summary b := by
  rcases summary_or_standstill_of_mem_maneuvers hm with hsummary | ⟨-, hstill, -⟩
  · exact hsummary
  · rw [guided, attached, lineOf_withSigns, lineOf_of_standstill hstill] at hroute
    cases hroute

theorem guidedManeuvers_eq_map {path : TripPath} {ms : List Maneuver}
    (h : path.guidedManeuvers = .ok ms) : ms = path.maneuvers.map path.guided := by
  unfold guidedManeuvers maneuvers? at h
  split at h
  · cases h
  · have htransit : path.attachTransit (path.attachSigns path.maneuvers) = .ok ms := h
    rcases path.attachTransit_cases (path.attachSigns path.maneuvers) with ⟨-, hall⟩ | ⟨herror, -⟩
    · rw [attachTransit_eq_map hall, Except.ok.injEq, attachSigns, List.map_map] at htransit
      exact htransit.symm
    · rw [herror] at htransit
      cases htransit

theorem exists_mem_maneuvers_of_kind (path : TripPath) {kind : ManeuverKind}
    (h : kind = .depart ∨ kind = .arrive) : ∃ m ∈ path.maneuvers, m.kind = kind := by
  by_cases hpos : 0 < path.edgeCount
  · cases hts : path.stretches with
    | nil => exact absurd hpos ((stretches_eq_nil_iff path).mp hts)
    | cons t ts =>
      rw [maneuvers_of_stretches hts]
      rcases h with rfl | rfl
      · exact ⟨t.summary none, List.mem_cons_self, rfl⟩
      · exact ⟨path.arrival, by simp, rfl⟩
  · rw [maneuvers_of_edgeCount_not_pos hpos]
    rcases h with rfl | rfl
    · exact ⟨.start .depart 0 0 0, by simp, rfl⟩
    · exact ⟨.arriveAt path.lastNode none [], by simp, rfl⟩

end TripPath

namespace Options

theorem exists_of_mem_narrate {o : Options} {path : TripPath} {ms : List Maneuver} {m : Maneuver}
    (h : m ∈ o.narrate path ms) : ∃ n ∈ ms, ∃ pre,
      m = { o.narrateOne path n with texts := { (o.narrateOne path n).texts with pre := pre } } := by
  obtain ⟨i, hi⟩ := List.mem_iff_getElem?.mp h
  rw [getElem?_narrate, Option.map_eq_some_iff] at hi
  obtain ⟨n, hn, rfl⟩ := hi
  exact ⟨n, List.mem_of_getElem? hn, o.dictionary.exists_cued_eq _ _⟩

theorem exists_mem_narrate {ms : List Maneuver} {n : Maneuver} (h : n ∈ ms) (o : Options)
    (path : TripPath) : ∃ m ∈ o.narrate path ms, m.untold = n.untold := by
  have hmem : n.untold ∈ (o.narrate path ms).map Maneuver.untold := by
    rw [map_untold_narrate]
    exact List.mem_map_of_mem h
  exact List.mem_map.mp hmem

end Options

end TurnByTurn
