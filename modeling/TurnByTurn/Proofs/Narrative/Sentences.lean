import TurnByTurn.Proofs.Directions.Carried
import TurnByTurn.Proofs.Narrative.Verbatim

namespace TurnByTurn

structure IsSentence (text : String) : Prop where
  unbraced : Unbraced text.toList
  stop : text.toList.getLast? = some '.'

structure IsComplete (template : String) : Prop where
  isPhrase : IsPhrase Placeholder.all template.toList
  stop : template.toList.getLast? = some '.'

theorem IsTemplate.getLast?_fillFrom {slots : List Placeholder} {text : List Char}
    (h : IsTemplate slots text) {data : Placeholder → List Char}
    (hstop : text.getLast? = some '.') : (fillFrom data 0 text).getLast? = some '.' := by
  induction h with
  | nil => cases hstop
  | @char c rest hc _ ih =>
    rw [fillFrom_cons hc]
    cases rest with
    | nil => exact hstop
    | cons d rest =>
      rw [List.getLast?_cons_cons] at hstop
      rw [List.getLast?_cons, ih hstop]
      rfl
  | @slot p rest _ _ ih =>
    rw [fillFrom_mark_append, List.getLast?_append]
    rw [List.getLast?_append] at hstop
    cases hrest : rest.getLast? with
    | none =>
      rw [hrest, Option.none_or, p.toList_mark, ← List.cons_append, List.getLast?_concat] at hstop
      cases hstop
    | some d =>
      rw [hrest, Option.some_or] at hstop
      rw [ih (hrest.trans hstop), Option.some_or]

namespace IsComplete

variable {template : String}

theorem isSentence_fillAtOnce (h : IsComplete template) {data : Placeholder → String}
    (hdata : ∀ p, Unbraced (data p).toList) : IsSentence (fillAtOnce data template) := by
  constructor
  · rw [fillAtOnce, String.toList_ofList]
    exact h.isPhrase.unbraced_fillFrom fun p _ => hdata p
  · rw [fillAtOnce, String.toList_ofList]
    exact h.isPhrase.isTemplate.getLast?_fillFrom h.stop

theorem append {start : String} (hstart : IsPhrase Placeholder.all start.toList)
    (h : IsComplete template) : IsComplete (start ++ template) := by
  constructor
  · rw [String.toList_append]
    exact hstart.append h.isPhrase
  · rw [String.toList_append, List.getLast?_append, h.stop, Option.some_or]

end IsComplete

theorem isSentence_append {start text : String} (hstart : Unbraced start.toList)
    (h : IsSentence text) : IsSentence (start ++ text) := by
  constructor
  · rw [String.toList_append, unbraced_append]
    exact ⟨hstart, h.unbraced⟩
  · rw [String.toList_append, List.getLast?_append, h.stop, Option.some_or]

namespace Text

theorem lower?_bounds {run : CapitalRun} {code small : Nat} (h : run.lower? code = some small) :
    run.small ≤ small ∧ small ≤ run.small + (run.last - run.first) := by
  unfold CapitalRun.lower? at h
  split at h
  · next hcode =>
    simp only [Bool.and_eq_true, decide_eq_true_eq] at hcode
    cases h
    omega
  · cases h

theorem beside_braces_of_mem_capitalRuns {run : CapitalRun} (h : run ∈ capitalRuns) :
    0x7d < run.small ∨ run.small + (run.last - run.first) < 0x7b := by
  revert run
  decide +kernel

theorem unbraced_lowercase {c : Char} (hc : c ≠ '\x7b' ∧ c ≠ '\x7d') :
    Unbraced (lowercase c) := by
  unfold lowercase
  split
  · decide
  · refine unbraced_cons.mpr ⟨?_, unbraced_nil⟩
    cases hlower : capitalRuns.findSome? (·.lower? c.toNat) with
    | none => exact hc
    | some small =>
      obtain ⟨run, hrun, hsmall⟩ := List.exists_of_findSome?_eq_some hlower
      have hbounds := lower?_bounds hsmall
      have hbeside := beside_braces_of_mem_capitalRuns hrun
      have hcode : (Char.ofNat small).toNat = small ∨ (Char.ofNat small).toNat = 0 := by
        by_cases hvalid : small.isValidChar
        · rw [Char.ofNat, dif_pos hvalid]
          exact .inl rfl
        · rw [Char.ofNat, dif_neg hvalid]
          exact .inr rfl
      have hne : (Char.ofNat small).toNat ≠ 0x7b ∧ (Char.ofNat small).toNat ≠ 0x7d := by omega
      exact ⟨fun h => hne.1 (congrArg Char.toNat h), fun h => hne.2 (congrArg Char.toNat h)⟩

theorem isSentence_lowercaseFirst {text : String} (h : IsSentence text) :
    IsSentence (lowercaseFirst text) := by
  obtain ⟨hunbraced, hstop⟩ := h
  unfold lowercaseFirst
  cases htext : text.toList with
  | nil =>
    rw [htext] at hstop
    cases hstop
  | cons c rest =>
    rw [htext, unbraced_cons] at hunbraced
    rw [htext] at hstop
    constructor
    · rw [String.toList_ofList, unbraced_append]
      exact ⟨unbraced_lowercase hunbraced.1, hunbraced.2⟩
    · rw [String.toList_ofList]
      cases rest with
      | nil =>
        cases hstop
        decide
      | cons d rest =>
        rw [List.getLast?_cons_cons] at hstop
        rw [List.getLast?_append, hstop, Option.some_or]

end Text

namespace Dictionary

variable {d : Dictionary}

def words (d : Dictionary) : List String :=
  [d.unnamedRoad, d.andThen, d.transitGeneric] ++ d.ordinals

theorem unbraced_of_mem_words (hd : d ∈ all) {word : String} (h : word ∈ d.words) :
    Unbraced word.toList := by
  have hall : ∀ d ∈ all, ∀ word ∈ d.words, Unbraced word.toList := by decide +kernel
  exact hall d hd word h

theorem isComplete_of_mem_sentences (hd : d ∈ all) {phrase : String}
    (h : phrase ∈ d.sentences.map (·.1)) : IsComplete phrase := by
  obtain ⟨p, hp, rfl⟩ := List.mem_map.mp h
  have hfits := fits_of_mem_sentences hd hp
  exact ⟨(isPhrase_of_fitsFrom hfits.1).mono fun q _ => q.mem_all, hfits.2⟩

theorem isPhrase_of_mem_fragments (hd : d ∈ all) {phrase : String}
    (h : phrase ∈ d.fragments.map (·.1)) : IsPhrase Placeholder.all phrase.toList := by
  obtain ⟨p, hp, rfl⟩ := List.mem_map.mp h
  exact (isPhrase_of_fitsFrom (fits_of_mem_fragments hd hp)).mono fun q _ => q.mem_all

section Templates

variable (hd : d ∈ all)
include hd

theorem isComplete_destinationTemplate (m : Maneuver) {start : String}
    (h : IsPhrase Placeholder.all start.toList) : IsComplete (d.destinationTemplate m start) := by
  have htoward : IsPhrase Placeholder.all d.toward.toList := isPhrase_of_mem_fragments hd (by simp)
  have hdot : IsComplete "." := ⟨.of_unbraced (by decide), by decide⟩
  unfold destinationTemplate
  split
  · exact .append h hdot
  · refine .append ?_ hdot
    rw [String.toList_append]
    exact h.append htoward

theorem isPhrase_exitTemplate (m : Maneuver) {plain numbered : String}
    (hplain : plain ∈ d.fragments.map (·.1)) (hnumbered : numbered ∈ d.fragments.map (·.1)) :
    IsPhrase Placeholder.all (exitTemplate m plain numbered).toList := by
  unfold exitTemplate
  split
  · exact isPhrase_of_mem_fragments hd hplain
  · exact isPhrase_of_mem_fragments hd hnumbered

theorem isComplete_append_sideWords (destination : Option Location) {template : String}
    (h : IsComplete template) : IsComplete (template ++ d.sideWords destination) := by
  have hafterBlank : ∀ {phrase : String}, phrase ∈ d.sentences.map (·.1) →
      IsComplete (template ++ (" " ++ phrase)) := by
    intro phrase hphrase
    have hblank : IsPhrase Placeholder.all " ".toList := .of_unbraced (by decide)
    exact .append h.isPhrase (.append hblank (isComplete_of_mem_sentences hd hphrase))
  have hnothing : IsComplete (template ++ "") := by rwa [String.append_empty]
  unfold sideWords
  cases destination.bind (·.side) with
  | none => exact hnothing
  | some side =>
    cases side with
    | left => exact hafterBlank (by simp)
    | right => exact hafterBlank (by simp)
    | neither => exact hnothing

theorem isComplete_instructionTemplate (destination : Option Location) (m : Maneuver) :
    IsComplete (d.instructionTemplate destination m) := by
  unfold instructionTemplate
  cases m.kind
  all_goals dsimp only
  case rampStraight | rampRight | rampLeft =>
    exact isComplete_destinationTemplate hd m (isPhrase_of_mem_fragments hd (by simp))
  case exitRight | exitLeft =>
    exact isComplete_destinationTemplate hd m (isPhrase_exitTemplate hd m (by simp) (by simp))
  case roundaboutEnter =>
    unfold roundaboutTemplate
    split <;> exact isComplete_of_mem_sentences hd (by simp)
  case transit | transitTransfer =>
    unfold transitTemplate
    split <;> exact isComplete_of_mem_sentences hd (by simp)
  case arrive =>
    apply isComplete_append_sideWords hd
    unfold placeTemplate
    split <;> exact isComplete_of_mem_sentences hd (by simp)
  all_goals exact isComplete_of_mem_sentences hd (by simp)

theorem isComplete_timedTemplate (location : Option Location) {plain timed : String}
    (hplain : plain ∈ d.sentences.map (·.1)) (htimed : timed ∈ d.sentences.map (·.1)) :
    IsComplete (timedTemplate location plain timed) := by
  unfold timedTemplate
  split
  · exact isComplete_of_mem_sentences hd htimed
  · exact isComplete_of_mem_sentences hd hplain

end Templates

end Dictionary

theorem Options.isComplete_of_postTemplate? {o : Options} (ho : o.dictionary ∈ Dictionary.all)
    {m : Maneuver} {template : String} (h : o.postTemplate? m = some template) :
    IsComplete template := by
  unfold postTemplate? at h
  split at h
  · split at h
    · cases h
    · cases h
      exact Dictionary.isComplete_of_mem_sentences ho (by simp)
    · cases h
      exact Dictionary.isComplete_of_mem_sentences ho (by simp)
  · cases h
    split <;> exact Dictionary.isComplete_of_mem_sentences ho (by simp)

def Location.IsUnbraced (l : Location) : Prop :=
  ∀ text, some text ∈ l.texts → Unbraced text.toList

def Narration.texts (n : Narration) : List (Option String) :=
  [n.instruction, n.alert, n.pre, n.post, n.depart, n.verbalDepart, n.arrive, n.verbalArrive]

theorem unbraced_intercalate {separator : String} (hseparator : Unbraced separator.toList)
    {parts : List String} (h : ∀ part ∈ parts, Unbraced part.toList) :
    Unbraced (separator.intercalate parts).toList := by
  induction parts with
  | nil =>
    rw [String.intercalate_nil]
    exact unbraced_nil
  | cons part parts ih =>
    rw [List.forall_mem_cons] at h
    cases parts with
    | nil =>
      rw [String.intercalate_singleton]
      exact h.1
    | cons next parts =>
      rw [String.intercalate_cons_cons, String.toList_append, String.toList_append,
        unbraced_append, unbraced_append]
      exact ⟨⟨h.1, hseparator⟩, ih h.2⟩

theorem unbraced_joinNames {names : List String} (h : ∀ name ∈ names, Unbraced name.toList) :
    Unbraced (joinNames names).toList :=
  unbraced_intercalate (by decide) h

section Data

variable {m : Maneuver} (hm : m.Carries (Unbraced ·.toList))
include hm

theorem unbraced_signText (kind : SignKind) : Unbraced (m.signText kind).toList := by
  unfold Maneuver.signText
  cases hsigns : m.signs with
  | none => exact unbraced_nil
  | some signs =>
    apply unbraced_intercalate (by decide)
    intro text htext
    obtain ⟨e, he, rfl⟩ := List.mem_map.mp htext
    exact hm.signs signs hsigns kind e he

theorem unbraced_destinationText : Unbraced m.destinationText.toList := by
  unfold Maneuver.destinationText
  split
  · exact unbraced_signText hm _
  · exact unbraced_signText hm _

theorem unbraced_streetText {d : Dictionary} (hd : d ∈ Dictionary.all) :
    Unbraced (d.streetText m).toList := by
  unfold Dictionary.streetText
  split
  · exact Dictionary.unbraced_of_mem_words hd (by simp [Dictionary.words])
  · apply unbraced_joinNames
    unfold Maneuver.shownNames
    split
    · exact hm.streetNames
    · exact hm.beginStreetNames

theorem unbraced_lineText {d : Dictionary} (hd : d ∈ Dictionary.all) :
    Unbraced (d.lineText m.route).toList := by
  unfold Dictionary.lineText
  cases hline : m.route.bind fun r => r.shortName.or r.longName with
  | none => exact Dictionary.unbraced_of_mem_words hd (by simp [Dictionary.words])
  | some line =>
    obtain ⟨route, hroute, hname⟩ := Option.bind_eq_some_iff.mp hline
    apply hm.route route hroute
    rcases Option.or_eq_some_iff.mp hname with hname | ⟨-, hname⟩ <;>
      simp [TransitRoute.texts, hname]

theorem unbraced_headsign {headsign : String} (h : m.route.bind (·.headsign) = some headsign) :
    Unbraced headsign.toList := by
  obtain ⟨route, hroute, hheadsign⟩ := Option.bind_eq_some_iff.mp h
  apply hm.route route hroute
  simp [TransitRoute.texts, hheadsign]

end Data

section Places

variable {l : Option Location} (hl : ∀ x, l = some x → x.IsUnbraced)
include hl

theorem unbraced_placeName : Unbraced ((l.bind (·.placeName)).getD "").toList := by
  cases hplace : l.bind (·.placeName) with
  | none => exact unbraced_nil
  | some place =>
    obtain ⟨x, hx, hname⟩ := Option.bind_eq_some_iff.mp hplace
    refine hl x hx place ?_
    rcases Option.or_eq_some_iff.mp hname with hname | ⟨-, hname⟩ <;> simp [Location.texts, hname]

theorem unbraced_dateTime : Unbraced ((l.bind (·.dateTime)).getD "").toList := by
  cases htime : l.bind (·.dateTime) with
  | none => exact unbraced_nil
  | some time =>
    obtain ⟨x, hx, hdateTime⟩ := Option.bind_eq_some_iff.mp htime
    exact hl x hx time (by simp [Location.texts, hdateTime])

end Places

namespace Dictionary

variable {d : Dictionary} (hd : d ∈ all)
include hd

theorem unbraced_ordinal (n : Nat) : Unbraced ((d.ordinal? n).getD "").toList := by
  cases hordinal : d.ordinal? n with
  | none => exact unbraced_nil
  | some ordinal =>
    apply unbraced_of_mem_words hd
    cases n with
    | zero => cases hordinal
    | succ n => exact List.mem_append_right _ (List.mem_of_getElem? hordinal)

section Instruction

variable {m : Maneuver} (hm : m.Carries (Unbraced ·.toList)) {destination : Option Location}
  (hdestination : ∀ l, destination = some l → l.IsUnbraced)
include hm

theorem not_misreadsLine : ¬ d.MisreadsLine m := by
  rintro ⟨headsign, -, -, hmark⟩
  have hunbraced : Unbraced Placeholder.headsign.mark.toList :=
    (unbraced_lineText hm hd).of_subset hmark.subset
  revert hunbraced
  decide

include hdestination

theorem unbraced_instructionData (p : Placeholder) :
    Unbraced (d.instructionData destination m p).toList := by
  cases p with
  | street => exact unbraced_streetText hm hd
  | cardinal => exact unbraced_direction hd _
  | number => exact unbraced_signText hm _
  | toward => exact unbraced_destinationText hm
  | ordinal => exact unbraced_ordinal hd _
  | route => exact unbraced_lineText hm hd
  | headsign =>
    change Unbraced ((m.route.bind (·.headsign)).getD "").toList
    cases hheadsign : m.route.bind (·.headsign) with
    | none => exact unbraced_nil
    | some headsign => exact unbraced_headsign hm hheadsign
  | place => exact unbraced_placeName hdestination
  | length | n | count | time => exact unbraced_nil

theorem isSentence_instruction : IsSentence (d.instruction destination m) := by
  have hfilled := (instruction_eq_fillAtOnce_iff hd destination m).mpr
    fun h => not_misreadsLine hd hm h.2
  rw [hfilled]
  exact (isComplete_instructionTemplate hd destination m).isSentence_fillAtOnce
    (unbraced_instructionData hd hm hdestination)

end Instruction

theorem isSentence_timedText {l : Option Location} (hl : ∀ x, l = some x → x.IsUnbraced)
    {plain timed : String} (hplain : (plain, []) ∈ d.sentences)
    (htimed : (timed, [.time]) ∈ d.sentences) : IsSentence (timedText l plain timed) := by
  have hcomplete : IsComplete (timedTemplate l plain timed) :=
    isComplete_timedTemplate hd l (List.mem_map_of_mem hplain) (List.mem_map_of_mem htimed)
  rw [timedText_eq_fillAtOnce hd l (List.mem_append_left _ hplain) (List.mem_append_left _ htimed)]
  exact hcomplete.isSentence_fillAtOnce fun _ => unbraced_dateTime hl

end Dictionary

end TurnByTurn
