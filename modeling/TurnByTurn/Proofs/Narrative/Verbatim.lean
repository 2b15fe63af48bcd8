import TurnByTurn.Proofs.Narrative.Templates
import TurnByTurn.Proofs.Narrative.Texts

namespace TurnByTurn

namespace Options

def postData (o : Options) (m : Maneuver) : Placeholder → String
  | .length => o.dictionary.lengthPhrase o.units m.length
  | .street => joinNames m.streetNames
  | .count => (m.route.map fun route => toString route.stopsAhead).getD ""
  | _ => ""

def postTemplate? (o : Options) (m : Maneuver) : Option String :=
  match m.route with
  | some route =>
    match route.stopsAhead with
    | 0 => none
    | 1 => some o.dictionary.stopCountOne
    | _ => some o.dictionary.stopCount
  | none => some (if m.streetNames.isEmpty then o.dictionary.post else o.dictionary.postNamed)

variable {o : Options}

theorem postText_eq_map_fillAtOnce (ho : o.dictionary ∈ Dictionary.all) (m : Maneuver) :
    o.postText m = (o.postTemplate? m).map (fillAtOnce (o.postData m)) := by
  have hone : (o.dictionary.stopCountOne, []) ∈ o.dictionary.phrases := by
    simp [Dictionary.phrases]
  have hcount : (o.dictionary.stopCount, [.count]) ∈ o.dictionary.phrases := by
    simp [Dictionary.phrases]
  have hpost : (o.dictionary.post, [.length]) ∈ o.dictionary.phrases := by
    simp [Dictionary.phrases]
  have hnamed : (o.dictionary.postNamed, [.length, .street]) ∈ o.dictionary.phrases := by
    simp [Dictionary.phrases]
  unfold postText postTemplate?
  dsimp only
  cases hroute : m.route with
  | some route =>
    dsimp only
    generalize hstops : route.stopsAhead = stops
    rcases stops with _ | _ | stops
    · rfl
    · exact congrArg some (Dictionary.plain_eq_fillAtOnce ho hone _)
    · exact congrArg some (Dictionary.fill_single_eq_fillAtOnce ho hcount
        (by simp [postData, hroute, hstops]))
  | none =>
    dsimp only
    split
    · exact congrArg some (Dictionary.fill_single_eq_fillAtOnce ho hpost rfl)
    · exact congrArg some (Dictionary.fill_pair_eq_fillAtOnce ho hnamed
        (Dictionary.unbraced_lengthPhrase ho _ _).opening_notMem rfl rfl)

theorem departText_eq_fillAtOnce (ho : o.dictionary ∈ Dictionary.all) (origin : Option Location) :
    Dictionary.timedText origin o.dictionary.depart o.dictionary.departAt =
      fillAtOnce (Dictionary.timeData origin)
        (Dictionary.timedTemplate origin o.dictionary.depart o.dictionary.departAt) :=
  Dictionary.timedText_eq_fillAtOnce ho origin (by simp [Dictionary.phrases])
    (by simp [Dictionary.phrases])

theorem arriveText_eq_fillAtOnce (ho : o.dictionary ∈ Dictionary.all)
    (destination : Option Location) :
    Dictionary.timedText destination o.dictionary.arrive o.dictionary.arriveAt =
      fillAtOnce (Dictionary.timeData destination)
        (Dictionary.timedTemplate destination o.dictionary.arrive o.dictionary.arriveAt) :=
  Dictionary.timedText_eq_fillAtOnce ho destination (by simp [Dictionary.phrases])
    (by simp [Dictionary.phrases])

/-- The texts of a maneuver are its phrases with all placeholders filled at once. The instruction is
exempt exactly if it is to take a line whose name is misread. -/
structure FilledAtOnce (o : Options) (path : TripPath) (m : Maneuver) (texts : Narration) :
    Prop where
  instruction_iff :
    texts.instruction = some (fillAtOnce
        (o.dictionary.instructionData path.locations.getLast? m)
        (o.dictionary.instructionTemplate path.locations.getLast? m)) ↔
      ¬ (m.kind.isTransit = true ∧ o.dictionary.MisreadsLine m)
  alert : m.isAnnounced = true → texts.alert = texts.instruction
  post : m.kind ≠ .arrive → texts.post = (o.postTemplate? m).map (fillAtOnce (o.postData m))
  depart : m.kind = .depart →
    texts.depart = some (fillAtOnce (Dictionary.timeData path.locations.head?)
      (Dictionary.timedTemplate path.locations.head? o.dictionary.depart o.dictionary.departAt))
  verbalDepart : m.kind = .depart → texts.verbalDepart = texts.depart
  arrive : m.kind = .arrive →
    texts.arrive = some (fillAtOnce (Dictionary.timeData path.locations.getLast?)
      (Dictionary.timedTemplate path.locations.getLast? o.dictionary.arrive
        o.dictionary.arriveAt))
  verbalArrive : m.kind = .arrive → texts.verbalArrive = texts.arrive

theorem filledAtOnce_narrateOne (ho : o.dictionary ∈ Dictionary.all) (path : TripPath)
    (m : Maneuver) : FilledAtOnce o path m (o.narrateOne path m).texts := by
  have hpost := postText_eq_map_fillAtOnce ho m
  have hinstruction : (o.narrateOne path m).texts.instruction =
      some (o.dictionary.instruction path.locations.getLast? m) := rfl
  constructor
  case instruction_iff =>
    rw [hinstruction, Option.some.injEq]
    exact Dictionary.instruction_eq_fillAtOnce_iff ho path.locations.getLast? m
  all_goals
    intro hkind
    simp only [narrateOne]
  case alert =>
    split
    · next hdepart => simp [Maneuver.isAnnounced, hdepart] at hkind
    · next harrive => simp [Maneuver.isAnnounced, harrive] at hkind
    · rfl
  case post =>
    split
    · exact hpost
    · next harrive => exact absurd harrive hkind
    · exact hpost
  case depart =>
    simp [hkind, departTexts, departText_eq_fillAtOnce ho]
  case arrive =>
    simp [hkind, arriveTexts, arriveText_eq_fillAtOnce ho]
  all_goals simp [hkind, departTexts, arriveTexts]

theorem filledAtOnce_narrate (ho : o.dictionary ∈ Dictionary.all) (path : TripPath)
    (ms : List Maneuver) {i : Nat} {m n : Maneuver} (hm : ms[i]? = some m)
    (hn : (o.narrate path ms)[i]? = some n) : FilledAtOnce o path m n.texts := by
  rw [getElem?_narrate, hm, Option.map_some, Option.some.injEq] at hn
  obtain ⟨pre, hpre⟩ := o.dictionary.exists_cued_eq (o.narrateOne path m)
    (ms[i + 1]?.map (o.narrateOne path))
  obtain ⟨hinstruction, halert, hpost, hdepart, hverbalDepart, harrive, hverbalArrive⟩ :=
    filledAtOnce_narrateOne ho path m
  rw [← hn, hpre]
  exact ⟨hinstruction, halert, hpost, hdepart, hverbalDepart, harrive, hverbalArrive⟩

def harborTrip : TripPath where
  nodes := [
    { edge := some { length := 1, mode := .pedestrian } },
    { edge := some { length := 10, mode := .transit, usage := .rail, line := some {
        id := "r-1", shortName := "Line \x7bheadsign\x7d", headsign := "Harbor" } } },
    {}]

theorem filledAtOnce_narrate_harborTrip :
    english ∈ Dictionary.all ∧
      ∃ ms m n, harborTrip.guidedManeuvers = .ok ms ∧ ms[1]? = some m ∧
        (narrate ⟨.kilometers, english⟩ harborTrip ms)[1]? = some n ∧ m.kind = .transit ∧
        FilledAtOnce ⟨.kilometers, english⟩ harborTrip m n.texts := by
  have hall : english ∈ Dictionary.all := by simp [Dictionary.all]
  have hkind : harborTrip.guidedManeuvers.toOption.bind (fun ms => ms[1]?.map (·.kind)) =
      some .transit := by decide +kernel
  cases hms : harborTrip.guidedManeuvers with
  | error failure =>
    rw [hms] at hkind
    cases hkind
  | ok ms =>
    rw [hms] at hkind
    obtain ⟨m, hm, hkind⟩ := Option.map_eq_some_iff.mp hkind
    have hn : (narrate ⟨.kilometers, english⟩ harborTrip ms)[1]?.isSome = true := by
      rw [getElem?_narrate, hm]
      rfl
    obtain ⟨n, hn⟩ := Option.isSome_iff_exists.mp hn
    exact ⟨hall, ms, m, n, rfl, hm, hn, hkind,
      filledAtOnce_narrate (o := ⟨.kilometers, english⟩) hall harborTrip ms hm hn⟩

theorem not_forall_instruction_eq_fillAtOnce :
    ¬ ∀ (d : Dictionary) (path : TripPath) (ms : List Maneuver) (m : Maneuver), d ∈ Dictionary.all →
      path.guidedManeuvers = .ok ms → m ∈ ms →
        d.instruction path.locations.getLast? m =
          fillAtOnce (d.instructionData path.locations.getLast? m)
            (d.instructionTemplate path.locations.getLast? m) := by
  intro h
  have hall : english ∈ Dictionary.all := by simp [Dictionary.all]
  have hmisread : harborTrip.guidedManeuvers.toOption.bind (fun ms => ms[1]?.map fun m =>
      decide (english.instruction none m =
        fillAtOnce (english.instructionData none m)
          (english.instructionTemplate none m))) = some false := by
    decide +kernel
  cases hms : harborTrip.guidedManeuvers with
  | error failure =>
    rw [hms] at hmisread
    cases hmisread
  | ok ms =>
    rw [hms] at hmisread
    obtain ⟨m, hm, hmisread⟩ := Option.map_eq_some_iff.mp hmisread
    exact of_decide_eq_false hmisread
      (h english harborTrip ms m hall hms (List.mem_of_getElem? hm))

example : harborTrip.guidedManeuvers.toOption.bind
    (fun ms => ms[1]?.map (english.instruction none)) =
      some "Take the Line Harbor toward Harbor." := by
  decide +kernel

end Options

end TurnByTurn
