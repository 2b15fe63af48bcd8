import TurnByTurn.Proofs.Directions.Guided
import TurnByTurn.Proofs.Narrative.Templates

namespace TurnByTurn

theorem present_inj {s t : String} : present (some s) = present (some t) ↔ s = t := by
  constructor
  · intro h
    simp only [present, Option.bind_some, nonEmpty] at h
    split at h <;> split at h <;> simp_all
  · rintro rfl
    rfl

theorem present_ne_empty (s : Option String) : present s ≠ some "" := by
  cases s <;> simp [present, nonEmpty_eq_some_iff]

theorem present_eq_self {s : Option String} (h : s ≠ some "") : present s = s := by
  cases s with
  | none => rfl
  | some s =>
    rw [present, Option.bind_some, nonEmpty_eq_some_iff]
    exact ⟨rfl, fun hs => h (congrArg some hs)⟩

namespace Dictionary

def atTime (time : Option String) (plain timed : String) : String :=
  match time with
  | some time => fill timed [(.time, time)]
  | none => plain

def atPlace (d : Dictionary) (label : Option String) (side : Option StreetSide) : String :=
  (match label with
    | some place => fill d.arrivedAtPlace [(.place, place)]
    | none => d.arrived) ++ ((d.sideText? side).map (" " ++ ·)).getD ""

variable {d : Dictionary}

theorem arrivedText_eq_atPlace (destination : Option Location) :
    d.arrivedText destination =
      d.atPlace (destination.bind (·.placeName)) (destination.bind (·.side)) := by
  rw [arrivedText_eq_append]
  unfold atPlace
  cases destination.bind (·.placeName) <;> rfl

theorem ne_empty_of_atTime_eq {plain timed : String} (h : fill timed [(.time, "")] ≠ plain)
    {time : Option String}
    (heq : atTime time plain timed = atTime (present time) plain timed) : time ≠ some "" := by
  rintro rfl
  exact h heq

theorem fill_departAt_ne (hd : d ∈ all) : fill d.departAt [(.time, "")] ≠ d.depart := by
  revert d
  decide +kernel

theorem fill_arriveAt_ne (hd : d ∈ all) : fill d.arriveAt [(.time, "")] ≠ d.arrive := by
  revert d
  decide +kernel

theorem fill_arrivedAtPlace_ne (hd : d ∈ all) :
    fill d.arrivedAtPlace [(.place, "")] ≠ d.arrived := by
  revert d
  decide +kernel

theorem exists_hasSlot_arrivedAtPlace (hd : d ∈ all) :
    ∃ before after, HasSlot d.arrivedAtPlace .place before after := by
  simp only [all, List.mem_cons, List.not_mem_nil, or_false] at hd
  rcases hd with rfl | rfl
  · exact ⟨"You have arrived at ".toList, ['.'], by decide, by decide, by decide +kernel⟩
  · exact ⟨"Sie haben ".toList, " erreicht.".toList, by decide, by decide, by decide +kernel⟩

theorem atPlace_empty_ne (hd : d ∈ all) {label : Option String} (hlabel : label ≠ some "")
    (side : Option StreetSide) : d.atPlace (some "") side ≠ d.atPlace label side := by
  unfold atPlace
  rw [Ne, ← String.toList_inj, String.toList_append, String.toList_append,
    List.append_cancel_right_eq, String.toList_inj]
  cases label with
  | none => exact fill_arrivedAtPlace_ne hd
  | some place =>
    obtain ⟨before, after, hslot⟩ := exists_hasSlot_arrivedAtPlace hd
    dsimp only
    rw [hslot.fill_inj]
    rintro rfl
    exact hlabel rfl

end Dictionary

namespace Directions

def Place.label (p : Place) : Option String :=
  p.name.or p.street

theorem Place.label_ofLocation_ne_empty (l : Location) : (ofLocation l).label ≠ some "" := by
  have hname := present_ne_empty l.name
  have hstreet := present_ne_empty l.street
  unfold label ofLocation
  dsimp only
  cases hpresent : present l.name with
  | none => rwa [Option.none_or]
  | some name => rwa [hpresent] at hname

theorem Place.label_ofLocation {l : Location} (h : l.placeName ≠ some "") :
    (ofLocation l).label = l.placeName := by
  unfold Location.placeName at h ⊢
  unfold label ofLocation
  dsimp only
  cases hname : l.name with
  | none =>
    rw [hname, Option.none_or] at h
    rw [Option.none_or, present_eq_self h]
    rfl
  | some name =>
    rw [hname, Option.some_or] at h
    rw [present_eq_self h]
    rfl

section Tells

variable (d : Directions) (o : Options)

def TellsDeparture (time : Option String) : Prop :=
  ∀ s ∈ d.steps, s.kind = .depart →
    s.depart = present (some (Dictionary.atTime time o.dictionary.depart o.dictionary.departAt)) ∧
      s.verbalDepart = s.depart

def TellsArrival (time : Option String) : Prop :=
  ∀ s ∈ d.steps, s.kind = .arrive →
    s.arrive = present (some (Dictionary.atTime time o.dictionary.arrive o.dictionary.arriveAt)) ∧
      s.verbalArrive = s.arrive

def TellsDestination (label : Option String) (side : Option StreetSide) : Prop :=
  ∀ s ∈ d.steps, s.kind = .arrive → s.instruction = present (some (o.dictionary.atPlace label side))

end Tells

end Directions

namespace TripPath

variable {path : TripPath} {o : Options} {d : Directions}

theorem exists_guided_of_directions (h : path.directions o = .ok d) :
    ∃ ms, path.normalizeHeadings.guidedManeuvers = .ok ms ∧
      d = .assemble path.normalizeHeadings (o.narrate path.normalizeHeadings ms) o.units := by
  rw [directions_eq_map] at h
  cases hms : path.normalizeHeadings.guidedManeuvers with
  | error failure =>
    rw [hms] at h
    cases h
  | ok ms =>
    rw [hms] at h
    exact ⟨ms, rfl, (Except.ok.inj h).symm⟩

theorem locations_directions (h : path.directions o = .ok d) :
    d.locations = path.locations.map Directions.Place.ofLocation := by
  obtain ⟨ms, -, rfl⟩ := exists_guided_of_directions h
  rfl

theorem exists_of_mem_steps (h : path.directions o = .ok d) {s : Directions.Step}
    (hs : s ∈ d.steps) : ∃ m pre, s = .ofManeuver o.units
      { o.narrateOne path m with texts := { (o.narrateOne path m).texts with pre := pre } } := by
  obtain ⟨ms, -, rfl⟩ := exists_guided_of_directions h
  obtain ⟨m, hm, rfl⟩ := List.mem_map.mp hs
  obtain ⟨n, -, pre, rfl⟩ := Options.exists_of_mem_narrate hm
  exact ⟨n, pre, rfl⟩

theorem exists_mem_steps_of_kind (h : path.directions o = .ok d) {kind : ManeuverKind}
    (hkind : kind = .depart ∨ kind = .arrive) : ∃ s ∈ d.steps, s.kind = kind := by
  obtain ⟨ms, hms, rfl⟩ := exists_guided_of_directions h
  obtain ⟨m, hm, rfl⟩ := exists_mem_maneuvers_of_kind path.normalizeHeadings hkind
  have hguided : path.normalizeHeadings.guided m ∈ ms := by
    rw [guidedManeuvers_eq_map hms]
    exact List.mem_map_of_mem hm
  obtain ⟨n, hn, huntold⟩ := Options.exists_mem_narrate hguided o path.normalizeHeadings
  refine ⟨_, List.mem_map_of_mem hn, ?_⟩
  have hkinds : n.untold.kind = (path.normalizeHeadings.guided m).untold.kind :=
    congrArg Maneuver.kind huntold
  rw [← path.normalizeHeadings.kind_guided m]
  exact hkinds

theorem tellsDeparture (h : path.directions o = .ok d) :
    d.TellsDeparture o (path.locations.head?.bind (·.dateTime)) := by
  intro s hs hkind
  obtain ⟨m, pre, rfl⟩ := exists_of_mem_steps h hs
  have hm : m.kind = .depart := hkind
  simp only [Directions.Step.ofManeuver, Options.narrateOne, hm, Options.departTexts]
  exact ⟨rfl, trivial⟩

theorem tellsArrival (h : path.directions o = .ok d) :
    d.TellsArrival o (path.locations.getLast?.bind (·.dateTime)) := by
  intro s hs hkind
  obtain ⟨m, pre, rfl⟩ := exists_of_mem_steps h hs
  have hm : m.kind = .arrive := hkind
  simp only [Directions.Step.ofManeuver, Options.narrateOne, hm, Options.arriveTexts]
  exact ⟨rfl, trivial⟩

theorem tellsDestination (h : path.directions o = .ok d) :
    d.TellsDestination o (path.locations.getLast?.bind (·.placeName))
      (path.locations.getLast?.bind (·.side)) := by
  intro s hs hkind
  obtain ⟨m, pre, rfl⟩ := exists_of_mem_steps h hs
  have hm : m.kind = .arrive := hkind
  have htext : o.dictionary.instruction path.locations.getLast? m =
      o.dictionary.arrivedText path.locations.getLast? := by
    rw [Dictionary.instruction, hm]
  rw [← Dictionary.arrivedText_eq_atPlace, ← htext]
  rfl

theorem bind_dateTime_ofLocation (l : Option Location) :
    (l.map Directions.Place.ofLocation).bind (·.dateTime) = present (l.bind (·.dateTime)) := by
  cases l <;> rfl

theorem bind_side_ofLocation (l : Option Location) :
    (l.map Directions.Place.ofLocation).bind (·.side) = l.bind (·.side) := by
  cases l <;> rfl

theorem bind_label_ofLocation {l : Option Location} (h : l.bind (·.placeName) ≠ some "") :
    (l.map Directions.Place.ofLocation).bind (·.label) = l.bind (·.placeName) := by
  cases l with
  | none => rfl
  | some l => exact Directions.Place.label_ofLocation h

theorem bind_label_ofLocation_ne_empty (l : Option Location) :
    (l.map Directions.Place.ofLocation).bind (·.label) ≠ some "" := by
  cases l with
  | none => simp
  | some l => exact Directions.Place.label_ofLocation_ne_empty l

section BuiltIn

variable (h : path.directions o = .ok d) (ho : o.dictionary ∈ Dictionary.all)
include h ho

theorem dateTime_ne_empty_of_tellsDeparture
    (hlisted : d.TellsDeparture o (present (path.locations.head?.bind (·.dateTime)))) :
    path.locations.head?.bind (·.dateTime) ≠ some "" := by
  obtain ⟨s, hs, hkind⟩ := exists_mem_steps_of_kind h (.inl rfl)
  have htexts := (tellsDeparture h s hs hkind).1.symm.trans (hlisted s hs hkind).1
  apply Dictionary.ne_empty_of_atTime_eq (Dictionary.fill_departAt_ne ho)
  exact present_inj.mp htexts

theorem dateTime_ne_empty_of_tellsArrival
    (hlisted : d.TellsArrival o (present (path.locations.getLast?.bind (·.dateTime)))) :
    path.locations.getLast?.bind (·.dateTime) ≠ some "" := by
  obtain ⟨s, hs, hkind⟩ := exists_mem_steps_of_kind h (.inr rfl)
  have htexts := (tellsArrival h s hs hkind).1.symm.trans (hlisted s hs hkind).1
  apply Dictionary.ne_empty_of_atTime_eq (Dictionary.fill_arriveAt_ne ho)
  exact present_inj.mp htexts

theorem placeName_ne_empty_of_tellsDestination {label : Option String} (hlabel : label ≠ some "")
    (hlisted : d.TellsDestination o label (path.locations.getLast?.bind (·.side))) :
    path.locations.getLast?.bind (·.placeName) ≠ some "" := by
  intro hempty
  obtain ⟨s, hs, hkind⟩ := exists_mem_steps_of_kind h (.inr rfl)
  have htexts := (tellsDestination h s hs hkind).symm.trans (hlisted s hs hkind)
  rw [hempty] at htexts
  exact Dictionary.atPlace_empty_ne ho hlabel _ (present_inj.mp htexts)

end BuiltIn

/-- The directions tell of the first and the last place what they list of them, unless a text is to
be told that is empty; in the built-in languages they never do then. -/
theorem directions_tells_places (h : path.directions o = .ok d) :
    (path.locations.head?.bind (·.dateTime) ≠ some "" →
        d.TellsDeparture o (d.locations.head?.bind (·.dateTime))) ∧
      (path.locations.getLast?.bind (·.dateTime) ≠ some "" →
        d.TellsArrival o (d.locations.getLast?.bind (·.dateTime))) ∧
      (path.locations.getLast?.bind (·.placeName) ≠ some "" →
        d.TellsDestination o (d.locations.getLast?.bind (·.label))
          (d.locations.getLast?.bind (·.side))) ∧
      (o.dictionary ∈ Dictionary.all →
        (d.TellsDeparture o (d.locations.head?.bind (·.dateTime)) →
            path.locations.head?.bind (·.dateTime) ≠ some "") ∧
          (d.TellsArrival o (d.locations.getLast?.bind (·.dateTime)) →
            path.locations.getLast?.bind (·.dateTime) ≠ some "") ∧
          (d.TellsDestination o (d.locations.getLast?.bind (·.label))
              (d.locations.getLast?.bind (·.side)) →
            path.locations.getLast?.bind (·.placeName) ≠ some "")) := by
  rw [locations_directions h, List.head?_map, List.getLast?_map, bind_dateTime_ofLocation,
    bind_dateTime_ofLocation, bind_side_ofLocation]
  refine ⟨?_, ?_, ?_, fun ho => ⟨?_, ?_, ?_⟩⟩
  · intro htime
    rw [present_eq_self htime]
    exact tellsDeparture h
  · intro htime
    rw [present_eq_self htime]
    exact tellsArrival h
  · intro hplace
    rw [bind_label_ofLocation hplace]
    exact tellsDestination h
  · exact dateTime_ne_empty_of_tellsDeparture h ho
  · exact dateTime_ne_empty_of_tellsArrival h ho
  · exact placeName_ne_empty_of_tellsDestination h ho (bind_label_ofLocation_ne_empty _)

def toElmLane (name : Option String) : TripPath where
  locations := [
    { name := some "Home", dateTime := some "2024-05-01T08:00" },
    { name := name, street := some "Elm Lane", side := some .left }]
  nodes := [{ edge := some { length := 1, names := { name := "Main Street" } } }, {}]

theorem directions_tells_places_toElmLane :
    ∃ d, (toElmLane none).directions (.ofRequest "metric" "en-US") = .ok d ∧
      d.locations.map (·.label) = [some "Home", some "Elm Lane"] ∧
      d.TellsDeparture (.ofRequest "metric" "en-US") (d.locations.head?.bind (·.dateTime)) ∧
      d.TellsArrival (.ofRequest "metric" "en-US") (d.locations.getLast?.bind (·.dateTime)) ∧
      d.TellsDestination (.ofRequest "metric" "en-US") (d.locations.getLast?.bind (·.label))
        (d.locations.getLast?.bind (·.side)) ∧
      (toElmLane none).locations.getLast?.bind (·.placeName) ≠ some "" := by
  have hsome :
      ((toElmLane none).directions (.ofRequest "metric" "en-US")).toOption.isSome = true := by
    decide +kernel
  obtain ⟨d, hsome⟩ := Option.isSome_iff_exists.mp hsome
  have hd := eq_ok_of_toOption hsome
  obtain ⟨hdeparture, harrival, hdestination, hbuiltIn⟩ := directions_tells_places hd
  have htold := hdestination (by decide)
  have hplace := (hbuiltIn (Dictionary.forLanguage_mem_all _)).2.2 htold
  refine ⟨d, hd, ?_, hdeparture (by decide), harrival (by decide), htold, hplace⟩
  rw [locations_directions hd]
  decide

theorem not_forall_tells_places :
    ¬ ∀ (path : TripPath) (o : Options) (d : Directions), o.dictionary ∈ Dictionary.all →
      path.directions o = .ok d →
        d.TellsDeparture o (d.locations.head?.bind (·.dateTime)) ∧
          d.TellsArrival o (d.locations.getLast?.bind (·.dateTime)) ∧
          d.TellsDestination o (d.locations.getLast?.bind (·.label))
            (d.locations.getLast?.bind (·.side)) := by
  intro hall
  have ho := Dictionary.forLanguage_mem_all "en-US"
  have hsome :
      ((toElmLane (some "")).directions (.ofRequest "metric" "en-US")).toOption.isSome = true := by
    decide +kernel
  obtain ⟨d, hsome⟩ := Option.isSome_iff_exists.mp hsome
  have hd := eq_ok_of_toOption hsome
  obtain ⟨-, -, htold⟩ := hall _ _ d ho hd
  rw [locations_directions hd] at htold
  exact placeName_ne_empty_of_tellsDestination hd ho (by decide) htold rfl

example : ((toElmLane (some "")).directions (.ofRequest "metric" "en-US")).toOption.map
    (fun d => (d.locations.map (·.label), d.steps.map (·.instruction))) =
      some ([some "Home", some "Elm Lane"], [some "Head north on Main Street.",
        some "You have arrived at . Your destination is on the left."]) := by
  decide +kernel

end TripPath

end TurnByTurn
