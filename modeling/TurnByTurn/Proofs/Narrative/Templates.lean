import TurnByTurn.Narrative.Instruction
import TurnByTurn.Proofs.Narrative.Phrases

/-!
The texts of a maneuver as phrases of the dictionary with all placeholders filled at once. The name
of a transit line is the only data that is searched again: a headsign takes the place of its own
mark there too.
-/

namespace TurnByTurn

namespace Dictionary

variable {d : Dictionary}

def instructionData (d : Dictionary) (destination : Option Location) (m : Maneuver) :
    Placeholder → String
  | .street => d.streetText m
  | .cardinal => d.direction m.direction
  | .number => m.signText .exitNumber
  | .toward => m.destinationText
  | .ordinal => (d.ordinal? m.roundaboutExits).getD ""
  | .route => d.lineText m.route
  | .headsign => (m.route.bind (·.headsign)).getD ""
  | .place => (destination.bind (·.placeName)).getD ""
  | .length | .n | .count | .time => ""

def exitTemplate (m : Maneuver) (plain numbered : String) : String :=
  if (m.signText .exitNumber).isEmpty then plain else numbered

def destinationTemplate (d : Dictionary) (m : Maneuver) (start : String) : String :=
  (if m.destinationText.isEmpty then start else start ++ d.toward) ++ "."

def roundaboutTemplate (d : Dictionary) (m : Maneuver) : String :=
  if (d.ordinal? m.roundaboutExits).isSome then d.roundaboutEnterOrdinal else d.roundaboutEnter

def transitTemplate (m : Maneuver) (plain toward : String) : String :=
  if (m.route.bind (·.headsign)).isSome then toward else plain

def placeTemplate (d : Dictionary) (destination : Option Location) : String :=
  if (destination.bind (·.placeName)).isSome then d.arrivedAtPlace else d.arrived

def sideWords (d : Dictionary) (destination : Option Location) : String :=
  ((d.sideText? (destination.bind (·.side))).map (" " ++ ·)).getD ""

def instructionTemplate (d : Dictionary) (destination : Option Location) (m : Maneuver) : String :=
  match m.kind with
  | .depart => d.start
  | .continueOn => d.continueOn
  | .slightRight => d.slightRight
  | .right => d.right
  | .sharpRight => d.sharpRight
  | .uturnRight => d.uturnRight
  | .uturnLeft => d.uturnLeft
  | .sharpLeft => d.sharpLeft
  | .left => d.left
  | .slightLeft => d.slightLeft
  | .rampStraight => d.destinationTemplate m d.rampStraight
  | .rampRight => d.destinationTemplate m d.rampRight
  | .rampLeft => d.destinationTemplate m d.rampLeft
  | .exitRight => d.destinationTemplate m (exitTemplate m d.exitRight d.exitNumberRight)
  | .exitLeft => d.destinationTemplate m (exitTemplate m d.exitLeft d.exitNumberLeft)
  | .merge => d.merge
  | .roundaboutEnter => d.roundaboutTemplate m
  | .roundaboutExit => d.roundaboutExit
  | .ferryEnter => d.ferryEnter
  | .ferryExit => d.ferryExit
  | .transit => transitTemplate m d.transit d.transitToward
  | .transitTransfer => transitTemplate m d.transitTransfer d.transitTransferToward
  | .arrive => d.placeTemplate destination ++ d.sideWords destination

/-- The name of the line holds the mark of the headsign, which reads otherwise. -/
def MisreadsLine (d : Dictionary) (m : Maneuver) : Prop :=
  ∃ headsign, m.route.bind (·.headsign) = some headsign ∧ headsign ≠ Placeholder.headsign.mark ∧
    Placeholder.headsign.mark.toList <:+: (d.lineText m.route).toList

section Instruction

variable (hd : d ∈ all) (destination : Option Location) (m : Maneuver)

include hd

theorem plain_eq_fillAtOnce {phrase : String} (h : (phrase, []) ∈ d.phrases)
    (data : Placeholder → String) : phrase = fillAtOnce data phrase :=
  (fillAtOnce_eq_self (isTemplate_of_mem_phrases hd h)).symm

theorem fill_single_eq_fillAtOnce {phrase value : String} {p : Placeholder}
    (h : (phrase, [p]) ∈ d.phrases) {data : Placeholder → String} (hdata : data p = value) :
    fill phrase [(p, value)] = fillAtOnce data phrase :=
  fill_eq_fillAtOnce (isTemplate_of_mem_phrases hd h) (by simp [hdata]) (by simp)

theorem fill_pair_eq_fillAtOnce {phrase first second : String} {p q : Placeholder}
    (h : (phrase, [p, q]) ∈ d.phrases) (hplain : '\x7b' ∉ first.toList)
    {data : Placeholder → String} (hp : data p = first) (hq : data q = second) :
    fill phrase [(p, first), (q, second)] = fillAtOnce data phrase :=
  fill_eq_fillAtOnce (isTemplate_of_mem_phrases hd h) (by simp [hp, hq]) (by simp [hplain])

theorem onStreet_eq_fillAtOnce {phrase : String} (h : (phrase, [.street]) ∈ d.phrases) :
    d.onStreet m phrase = fillAtOnce (d.instructionData destination m) phrase :=
  fill_single_eq_fillAtOnce hd h rfl

theorem startText_eq_fillAtOnce :
    d.startText m = fillAtOnce (d.instructionData destination m) d.start :=
  fill_pair_eq_fillAtOnce hd (by simp [phrases]) (unbraced_direction hd _).opening_notMem rfl rfl

theorem exitText_eq_fillAtOnce {plain numbered : String} (hplain : (plain, []) ∈ d.phrases)
    (hnumbered : (numbered, [.number]) ∈ d.phrases) :
    exitText m plain numbered =
      fillAtOnce (d.instructionData destination m) (exitTemplate m plain numbered) := by
  unfold exitText exitTemplate
  split
  · exact plain_eq_fillAtOnce hd hplain _
  · exact fill_single_eq_fillAtOnce hd hnumbered rfl

theorem isTemplate_exitTemplate {plain numbered : String} (hplain : (plain, []) ∈ d.phrases)
    (hnumbered : (numbered, [.number]) ∈ d.phrases) :
    IsTemplate [.number] (exitTemplate m plain numbered).toList := by
  unfold exitTemplate
  split
  · exact (isTemplate_of_mem_phrases hd hplain).mono (List.nil_subset _)
  · exact isTemplate_of_mem_phrases hd hnumbered

theorem withDestination_eq_fillAtOnce {text start : String} {slots : List Placeholder}
    (hstart : IsTemplate slots start.toList)
    (htext : text = fillAtOnce (d.instructionData destination m) start) :
    d.withDestination m text =
      fillAtOnce (d.instructionData destination m) (d.destinationTemplate m start) := by
  have htoward : (d.toward, [.toward]) ∈ d.phrases := by simp [phrases]
  have hdot : fillAtOnce (d.instructionData destination m) "." = "." :=
    fillAtOnce_eq_self (.of_brace_notMem (by decide))
  unfold withDestination destinationTemplate
  split
  · rw [fillAtOnce_append hstart, hdot, ← htext]
  · have hboth : IsTemplate (slots ++ [.toward]) (start ++ d.toward).toList := by
      rw [String.toList_append]
      exact (hstart.mono (List.subset_append_left _ _)).append
        ((isTemplate_of_mem_phrases hd htoward).mono (List.subset_append_right _ _))
    have hfill : fill d.toward [(.toward, m.destinationText)] =
        fillAtOnce (d.instructionData destination m) d.toward :=
      fill_single_eq_fillAtOnce hd htoward rfl
    rw [fillAtOnce_append hboth, fillAtOnce_append hstart, hdot, ← htext, hfill]

theorem rampText_eq_fillAtOnce {start : String} (h : (start, []) ∈ d.phrases) :
    d.withDestination m start =
      fillAtOnce (d.instructionData destination m) (d.destinationTemplate m start) :=
  withDestination_eq_fillAtOnce hd destination m (isTemplate_of_mem_phrases hd h)
    (plain_eq_fillAtOnce hd h _)

theorem roundaboutText_eq_fillAtOnce :
    d.roundaboutText m =
      fillAtOnce (d.instructionData destination m) (d.roundaboutTemplate m) := by
  unfold roundaboutText roundaboutTemplate
  cases hordinal : d.ordinal? m.roundaboutExits with
  | none => exact plain_eq_fillAtOnce hd (by simp [phrases]) _
  | some ordinal =>
    exact fill_single_eq_fillAtOnce hd (by simp [phrases]) (by simp [instructionData, hordinal])

theorem unbraced_sideWords : Unbraced (d.sideWords destination).toList := by
  have hafterBlank : ∀ {phrase : String}, (phrase, []) ∈ d.phrases →
      Unbraced (" " ++ phrase).toList := by
    intro phrase hphrase
    rw [String.toList_append, unbraced_append]
    exact ⟨by decide, unbraced_of_mem_phrases hd hphrase⟩
  have hleft : Unbraced (" " ++ d.destinationOnLeft).toList := hafterBlank (by simp [phrases])
  have hright : Unbraced (" " ++ d.destinationOnRight).toList := hafterBlank (by simp [phrases])
  unfold sideWords
  cases destination.bind (·.side) with
  | none => exact unbraced_nil
  | some side =>
    cases side with
    | left => exact hleft
    | right => exact hright
    | neither => exact unbraced_nil

omit hd in
theorem arrivedText_eq_append :
    d.arrivedText destination =
      ((destination.bind (·.placeName)).map fun place =>
        fill d.arrivedAtPlace [(.place, place)]).getD d.arrived ++ d.sideWords destination := by
  unfold arrivedText sideWords
  cases destination.bind (·.placeName) <;> cases d.sideText? (destination.bind (·.side)) <;>
    simp [String.append_assoc]

theorem arrivedText_eq_fillAtOnce :
    d.arrivedText destination = fillAtOnce (d.instructionData destination m)
      (d.placeTemplate destination ++ d.sideWords destination) := by
  have hside : fillAtOnce (d.instructionData destination m) (d.sideWords destination) =
      d.sideWords destination :=
    fillAtOnce_eq_self (.of_brace_notMem (unbraced_sideWords hd destination).opening_notMem)
  have harrived : (d.arrived, []) ∈ d.phrases := by simp [phrases]
  have hplace : (d.arrivedAtPlace, [.place]) ∈ d.phrases := by simp [phrases]
  unfold placeTemplate
  rw [arrivedText_eq_append]
  cases h : destination.bind (·.placeName) with
  | none =>
    rw [Option.isSome_none, if_neg Bool.false_ne_true,
      fillAtOnce_append (isTemplate_of_mem_phrases hd harrived), hside,
      ← plain_eq_fillAtOnce hd harrived]
    rfl
  | some place =>
    have hfill : fill d.arrivedAtPlace [(.place, place)] =
        fillAtOnce (d.instructionData destination m) d.arrivedAtPlace :=
      fill_single_eq_fillAtOnce hd hplace (by simp [instructionData, h])
    rw [Option.isSome_some, if_pos rfl,
      fillAtOnce_append (isTemplate_of_mem_phrases hd hplace), hside, ← hfill]
    rfl

theorem exists_toward_eq {phrase : String}
    (h : phrase = d.transitToward ∨ phrase = d.transitTransferToward) :
    ∃ before between after, '\x7b' ∉ before ∧ '\x7b' ∉ between ∧ '\x7b' ∉ after ∧
      phrase.toList = before ++ (Placeholder.route.mark.toList ++ ' ' :: (between ++
        (Placeholder.headsign.mark.toList ++ after))) := by
  simp only [all, List.mem_cons, List.not_mem_nil, or_false] at hd
  rcases hd with rfl | rfl
  · rcases h with rfl | rfl
    · exact ⟨"Take the ".toList, "toward ".toList, ['.'], by decide, by decide, by decide,
        by decide +kernel⟩
    · exact ⟨"Transfer to the ".toList, "toward ".toList, ['.'], by decide, by decide, by decide,
        by decide +kernel⟩
  · rcases h with rfl | rfl
    · exact ⟨"Nehmen Sie die ".toList, "Richtung ".toList, ['.'], by decide, by decide, by decide,
        by decide +kernel⟩
    · exact ⟨"Steigen Sie um in die ".toList, "Richtung ".toList, ['.'], by decide, by decide,
        by decide, by decide +kernel⟩

theorem fill_toward_eq_fillAtOnce_iff {phrase line headsign : String}
    (h : phrase = d.transitToward ∨ phrase = d.transitTransferToward)
    {data : Placeholder → String} (hline : data .route = line)
    (hheadsign : data .headsign = headsign) :
    fill phrase [(.route, line), (.headsign, headsign)] = fillAtOnce data phrase ↔
      headsign = Placeholder.headsign.mark ∨
        ¬ Placeholder.headsign.mark.toList <:+: line.toList := by
  obtain ⟨before, between, after, hbefore, hbetween, hafter, hphrase⟩ := exists_toward_eq hd h
  have hne : Placeholder.route ≠ Placeholder.headsign := by decide
  have hbrace : ' ' ≠ '\x7b' := by decide
  have hmark := Placeholder.headsign.mark_ne_nil
  have hblank : ' ' ∉ Placeholder.headsign.mark.toList := by decide
  -- no mark reaches over the blank, so marks in the name of the line are there or nowhere
  have hafterwards : fillChars phrase.toList [(.route, line), (.headsign, headsign)] =
      before ++ (replaceAll Placeholder.headsign.mark.toList headsign.toList line.toList ++
        ' ' :: (between ++ (headsign.toList ++ after))) := by
    rw [fillChars, List.foldl_cons, List.foldl_cons, List.foldl_nil]
    dsimp only
    rw [hphrase, replaceAll_mark_append_of_notMem hbefore,
      replaceAll_pattern_append Placeholder.route.mark_ne_nil,
      replaceAll_cons (Placeholder.route.not_mark_isPrefix_cons hbrace _),
      replaceAll_mark_append_of_notMem hbetween, replaceAll_mark_append_of_ne hne,
      replaceAll_mark_of_notMem hafter, replaceAll_mark_append_of_notMem hbefore,
      replaceAll_append_cons hmark hblank, replaceAll_mark_append_of_notMem hbetween,
      replaceAll_pattern_append hmark, replaceAll_mark_of_notMem hafter]
  have hatOnce : fillFrom (fun p => (data p).toList) 0 phrase.toList =
      before ++ (line.toList ++ ' ' :: (between ++ (headsign.toList ++ after))) := by
    rw [hphrase, fillFrom_append_of_notMem hbefore, fillFrom_mark_append, fillFrom_cons hbrace,
      fillFrom_append_of_notMem hbetween, fillFrom_mark_append, fillFrom_of_notMem hafter, hline,
      hheadsign]
  rw [← String.toList_inj, toList_fill, fillAtOnce, String.toList_ofList, hafterwards, hatOnce,
    List.append_cancel_left_eq, List.append_cancel_right_eq, replaceAll_eq_self_iff hmark,
    String.toList_inj]

theorem transitText_eq_fillAtOnce_iff {plain toward : String} (hplain : (plain, [.route]) ∈ d.phrases)
    (htoward : toward = d.transitToward ∨ toward = d.transitTransferToward) :
    d.transitText m plain toward =
        fillAtOnce (d.instructionData destination m) (transitTemplate m plain toward) ↔
      ¬ d.MisreadsLine m := by
  unfold transitText transitTemplate MisreadsLine
  cases h : m.route.bind (·.headsign) with
  | none =>
    have hfill : fill plain [(.route, d.lineText m.route)] =
        fillAtOnce (d.instructionData destination m) plain :=
      fill_single_eq_fillAtOnce hd hplain rfl
    simp [hfill]
  | some headsign =>
    have hdata : d.instructionData destination m .headsign = headsign := by
      simp [instructionData, h]
    have hline : d.instructionData destination m .route = d.lineText m.route := rfl
    simp [fill_toward_eq_fillAtOnce_iff hd htoward hline hdata, or_iff_not_imp_left]

theorem instruction_eq_fillAtOnce_iff :
    d.instruction destination m =
        fillAtOnce (d.instructionData destination m) (d.instructionTemplate destination m) ↔
      ¬ (m.kind.isTransit = true ∧ d.MisreadsLine m) := by
  have hstreet : ∀ {phrase : String}, (phrase, [.street]) ∈ d.phrases →
      d.onStreet m phrase = fillAtOnce (d.instructionData destination m) phrase :=
    onStreet_eq_fillAtOnce hd destination m
  have hexit : ∀ {plain numbered : String}, (plain, []) ∈ d.phrases →
      (numbered, [.number]) ∈ d.phrases →
      d.withDestination m (exitText m plain numbered) = fillAtOnce (d.instructionData destination m)
        (d.destinationTemplate m (exitTemplate m plain numbered)) := by
    intro plain numbered hplain hnumbered
    exact withDestination_eq_fillAtOnce hd destination m
      (isTemplate_exitTemplate hd m hplain hnumbered)
      (exitText_eq_fillAtOnce hd destination m hplain hnumbered)
  unfold instruction instructionTemplate
  cases hkind : m.kind
  all_goals dsimp only
  case transit =>
    simpa [ManeuverKind.isTransit] using
      transitText_eq_fillAtOnce_iff hd destination m (by simp [phrases]) (.inl rfl)
  case transitTransfer =>
    simpa [ManeuverKind.isTransit] using
      transitText_eq_fillAtOnce_iff hd destination m (by simp [phrases]) (.inr rfl)
  all_goals refine iff_of_true ?_ (by simp [ManeuverKind.isTransit])
  case depart => exact startText_eq_fillAtOnce hd destination m
  case rampStraight | rampRight | rampLeft =>
    exact rampText_eq_fillAtOnce hd destination m (by simp [phrases])
  case exitRight | exitLeft => exact hexit (by simp [phrases]) (by simp [phrases])
  case roundaboutEnter => exact roundaboutText_eq_fillAtOnce hd destination m
  case ferryEnter => exact plain_eq_fillAtOnce hd (by simp [phrases]) _
  case arrive => exact arrivedText_eq_fillAtOnce hd destination m
  all_goals exact hstreet (by simp [phrases])

end Instruction

def timeData (location : Option Location) : Placeholder → String :=
  fun _ => (location.bind (·.dateTime)).getD ""

def timedTemplate (location : Option Location) (plain timed : String) : String :=
  if (location.bind (·.dateTime)).isSome then timed else plain

theorem timedText_eq_fillAtOnce (hd : d ∈ all) (location : Option Location) {plain timed : String}
    (hplain : (plain, []) ∈ d.phrases) (htimed : (timed, [.time]) ∈ d.phrases) :
    timedText location plain timed =
      fillAtOnce (timeData location) (timedTemplate location plain timed) := by
  unfold timedText timedTemplate
  cases h : location.bind (·.dateTime) with
  | none => exact plain_eq_fillAtOnce hd hplain _
  | some time => exact fill_single_eq_fillAtOnce hd htimed (by simp [timeData, h])

end Dictionary

end TurnByTurn
