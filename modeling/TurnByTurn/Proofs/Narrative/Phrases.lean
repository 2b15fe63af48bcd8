import TurnByTurn.Narrative.Instruction
import TurnByTurn.Proofs.Narrative.Filling

namespace TurnByTurn

theorem unbraced_toDigits (n : Nat) : Unbraced (Nat.toDigits 10 n) := by
  intro c hc
  have hdigit := Nat.isDigit_of_mem_toDigits (by decide) (by decide) hc
  constructor <;> rintro rfl <;> revert hdigit <;> decide

theorem unbraced_toString (n : Nat) : Unbraced (toString n).toList := by
  simpa using unbraced_toDigits n

theorem unbraced_oneDecimal (x : Float32) : Unbraced (Decimal.oneDecimal x).toList := by
  have hsign : ∀ negative, Unbraced (Decimal.signText negative).toList := by decide
  have hinfinite : Unbraced "inf".toList := by decide
  have hpoint : Unbraced ".".toList := by decide
  have htenths : ∀ tenths, Unbraced (Decimal.tenthsText tenths).toList := by
    intro tenths
    rw [Decimal.tenthsText, String.toList_append, String.toList_append, unbraced_append,
      unbraced_append]
    exact ⟨⟨unbraced_toString _, hpoint⟩, unbraced_toString _⟩
  unfold Decimal.oneDecimal Decimal.Binary.oneDecimal
  split
  · rw [String.toList_append, unbraced_append]
    exact ⟨hsign _, htenths _⟩
  · rw [String.toList_append, unbraced_append]
    exact ⟨hsign _, hinfinite⟩
  · decide

namespace Dictionary

@[simp]
def sentences (d : Dictionary) : List (String × List Placeholder) :=
  [(d.start, [.cardinal, .street]), (d.continueOn, [.street]), (d.slightRight, [.street]),
    (d.right, [.street]), (d.sharpRight, [.street]), (d.uturnRight, [.street]),
    (d.uturnLeft, [.street]), (d.sharpLeft, [.street]), (d.left, [.street]),
    (d.slightLeft, [.street]), (d.merge, [.street]), (d.roundaboutEnter, []),
    (d.roundaboutEnterOrdinal, [.ordinal]), (d.roundaboutExit, [.street]), (d.ferryEnter, []),
    (d.ferryExit, [.street]), (d.transit, [.route]), (d.transitToward, [.route, .headsign]),
    (d.transitTransfer, [.route]), (d.transitTransferToward, [.route, .headsign]),
    (d.stopCountOne, []), (d.stopCount, [.count]), (d.post, [.length]),
    (d.postNamed, [.length, .street]), (d.depart, []), (d.departAt, [.time]), (d.arrive, []),
    (d.arriveAt, [.time]), (d.arrived, []), (d.arrivedAtPlace, [.place]),
    (d.destinationOnLeft, []), (d.destinationOnRight, [])]

@[simp]
def fragments (d : Dictionary) : List (String × List Placeholder) :=
  [(d.rampStraight, []), (d.rampRight, []), (d.rampLeft, []), (d.exitRight, []), (d.exitLeft, []),
    (d.exitNumberRight, [.number]), (d.exitNumberLeft, [.number]), (d.toward, [.toward]),
    (d.meters, [.n]), (d.kilometer, []), (d.kilometers, [.n]), (d.feet, [.n]), (d.mile, []),
    (d.miles, [.n])] ++
  Compass.all.map fun c => (d.direction c, [])

def phrases (d : Dictionary) : List (String × List Placeholder) :=
  d.sentences ++ d.fragments

variable {d : Dictionary}

theorem forLanguage_mem_all (language : String) : forLanguage language ∈ all := by
  unfold forLanguage resolve resolveTag
  split
  · next hfind => exact List.mem_of_find?_eq_some hfind
  · next hfind => exact List.mem_of_find?_eq_some hfind
  · exact List.mem_cons_self

theorem fits_of_mem_sentences (hd : d ∈ all) {p : String × List Placeholder}
    (h : p ∈ d.sentences) :
    fitsFrom p.2 0 p.1.toList = true ∧ p.1.toList.getLast? = some '.' := by
  have hall : ∀ d ∈ all, ∀ p ∈ d.sentences,
      fitsFrom p.2 0 p.1.toList = true ∧ p.1.toList.getLast? = some '.' := by decide +kernel
  exact hall d hd p h

theorem fits_of_mem_fragments (hd : d ∈ all) {p : String × List Placeholder}
    (h : p ∈ d.fragments) : fitsFrom p.2 0 p.1.toList = true := by
  have hall : ∀ d ∈ all, ∀ p ∈ d.fragments, fitsFrom p.2 0 p.1.toList = true := by decide +kernel
  exact hall d hd p h

theorem isPhrase_of_mem_phrases (hd : d ∈ all) {phrase : String} {slots : List Placeholder}
    (h : (phrase, slots) ∈ d.phrases) : IsPhrase slots phrase.toList := by
  rcases List.mem_append.mp h with h | h
  · exact isPhrase_of_fitsFrom (fits_of_mem_sentences hd h).1
  · exact isPhrase_of_fitsFrom (fits_of_mem_fragments hd h)

theorem isTemplate_of_mem_phrases (hd : d ∈ all) {phrase : String} {slots : List Placeholder}
    (h : (phrase, slots) ∈ d.phrases) : IsTemplate slots phrase.toList :=
  (isPhrase_of_mem_phrases hd h).isTemplate

theorem unbraced_of_mem_phrases (hd : d ∈ all) {phrase : String} (h : (phrase, []) ∈ d.phrases) :
    Unbraced phrase.toList := by
  obtain ⟨htemplate, hwords⟩ := isPhrase_of_mem_phrases hd h
  rwa [wordsOf, htemplate.fillFrom_eq_self] at hwords

theorem unbraced_fill (hd : d ∈ all) {phrase value : String} {p : Placeholder}
    (h : (phrase, [p]) ∈ d.phrases) (hvalue : Unbraced value.toList) :
    Unbraced (fill phrase [(p, value)]).toList := by
  have hphrase := isPhrase_of_mem_phrases hd h
  have hfill : fill phrase [(p, value)] = fillAtOnce (fun _ => value) phrase :=
    fill_eq_fillAtOnce hphrase.isTemplate (by simp) (by simp)
  rw [hfill, fillAtOnce, String.toList_ofList]
  exact hphrase.unbraced_fillFrom fun _ _ => hvalue

theorem unbraced_direction (hd : d ∈ all) (c : Compass) : Unbraced (d.direction c).toList := by
  apply unbraced_of_mem_phrases hd
  exact List.mem_append_right _ (List.mem_append_right _ (List.mem_map_of_mem c.mem_all))

theorem unbraced_numeralPhrase (hd : d ∈ all) {numeral : List Char} (h : Unbraced numeral)
    {singular plural : String} (hsingular : (singular, []) ∈ d.phrases)
    (hplural : (plural, [.n]) ∈ d.phrases) :
    Unbraced (d.numeralPhrase numeral singular plural).toList := by
  have hseparator : d.decimalSeparator ≠ '\x7b' ∧ d.decimalSeparator ≠ '\x7d' := by
    have hall : ∀ d ∈ all, d.decimalSeparator ≠ '\x7b' ∧ d.decimalSeparator ≠ '\x7d' := by decide
    exact hall d hd
  have hshort : Unbraced (dropZeroFraction numeral) := by
    unfold dropZeroFraction
    split
    · exact h.of_subset (List.take_subset _ _)
    · exact h
  unfold numeralPhrase
  dsimp only
  split
  · exact unbraced_of_mem_phrases hd hsingular
  · apply unbraced_fill hd hplural
    rw [String.toList_ofList, withSeparator]
    intro c hc
    obtain ⟨b, hb, rfl⟩ := List.mem_map.mp hc
    split
    · exact hseparator
    · exact hshort b hb

theorem unbraced_lengthPhrase (hd : d ∈ all) (units : Units) (km : Float32) :
    Unbraced (d.lengthPhrase units km).toList := by
  have htens : ∀ x, Unbraced (tensText x).toList := fun x => unbraced_toString _
  unfold lengthPhrase
  cases units with
  | kilometers =>
    dsimp only
    split
    · exact unbraced_fill hd (by simp [phrases]) (htens _)
    · exact unbraced_numeralPhrase hd (unbraced_oneDecimal _) (by simp [phrases])
        (by simp [phrases])
  | miles =>
    dsimp only
    split
    · exact unbraced_fill hd (by simp [phrases]) (htens _)
    · exact unbraced_numeralPhrase hd (unbraced_oneDecimal _) (by simp [phrases])
        (by simp [phrases])

end Dictionary

end TurnByTurn
