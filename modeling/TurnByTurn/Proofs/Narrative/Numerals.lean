import TurnByTurn.Narrative.German
import TurnByTurn.Narrative.Length

namespace TurnByTurn

structure Tenths where
  negative : Bool
  whole : List Char
  tenth : Char
  whole_ne_nil : whole ≠ []
  isDigit_of_mem_whole : ∀ c ∈ whole, c.isDigit = true
  isDigit_tenth : tenth.isDigit = true

namespace Tenths

variable (t : Tenths)

def front : List Char :=
  (if t.negative then ['-'] else []) ++ t.whole

def written : List Char :=
  t.front ++ ['.', t.tenth]

def told (separator : Char) : List Char :=
  t.front ++ if t.tenth = '0' then [] else [separator, t.tenth]

theorem ne_point_of_isDigit {c : Char} (h : c.isDigit = true) : c ≠ '.' := by
  rintro rfl
  revert h
  decide

theorem point_notMem_front : '.' ∉ t.front := by
  intro hmem
  rcases List.mem_append.mp hmem with hsign | hwhole
  · revert hsign
    cases t.negative <;> decide
  · exact ne_point_of_isDigit (t.isDigit_of_mem_whole _ hwhole) rfl

theorem eq_point_of_mem_told {separator : Char} (h : '.' ∈ t.told separator) : separator = '.' := by
  rcases List.mem_append.mp h with hfront | hplace
  · exact absurd hfront t.point_notMem_front
  · have htenth : '.' ≠ t.tenth := (ne_point_of_isDigit t.isDigit_tenth).symm
    split at hplace
    · cases hplace
    · simpa [htenth, eq_comm] using hplace

theorem zero_isSuffix_written_iff : ['.', '0'] <:+ t.written ↔ t.tenth = '0' := by
  have h : [] ++ ['.', '0'] <:+ t.front ++ ['.', t.tenth] ↔
      [] <:+ t.front ∧ ['.', '0'] = ['.', t.tenth] :=
    List.suffix_append_inj_of_length_eq rfl
  rw [written]
  simpa [eq_comm] using h

theorem dropZeroFraction_written : dropZeroFraction t.written = t.told '.' := by
  unfold dropZeroFraction
  simp only [List.isSuffixOf_iff_suffix, t.zero_isSuffix_written_iff, told]
  by_cases htenth : t.tenth = '0'
  · rw [if_pos htenth, if_pos htenth, List.append_nil, written, List.length_append]
    exact List.take_left
  · rw [if_neg htenth, if_neg htenth, written]

theorem withSeparator_told (separator : Char) :
    withSeparator separator (t.told '.') = t.told separator := by
  have hfront : withSeparator separator t.front = t.front := by
    conv => rhs; rw [← List.map_id t.front]
    apply List.map_congr_left
    intro c hc
    exact if_neg (by rintro rfl; exact t.point_notMem_front hc)
  have hplace : withSeparator separator ['.', t.tenth] = [separator, t.tenth] := by
    simp [withSeparator, ne_point_of_isDigit t.isDigit_tenth]
  rw [told, withSeparator, List.map_append, ← withSeparator, hfront, told]
  by_cases htenth : t.tenth = '0'
  · rw [if_pos htenth, if_pos htenth]
    rfl
  · rw [if_neg htenth, if_neg htenth]
    exact congrArg (t.front ++ ·) hplace

theorem told_eq_one_iff : t.told '.' = ['1'] ↔ t.written = ['1', '.', '0'] := by
  constructor
  · intro h
    by_cases htenth : t.tenth = '0'
    · rw [told, if_pos htenth, List.append_nil] at h
      rw [written, h, htenth]
      rfl
    · have hlength := congrArg List.length h
      rw [told, if_neg htenth, List.length_append] at hlength
      simp at hlength
  · intro h
    have happend : t.front ++ ['.', t.tenth] = ['1'] ++ ['.', '0'] := h
    obtain ⟨hfront, hplace⟩ := List.append_inj' happend rfl
    have htenth : t.tenth = '0' := by simpa using hplace
    rw [told, if_pos htenth, List.append_nil, hfront]

end Tenths

namespace Decimal

open Float.Model

def tenthsOf (negative : Bool) (tenths : Nat) : Tenths where
  negative := negative
  whole := Nat.toDigits 10 (tenths / 10)
  tenth := (tenths % 10).digitChar
  whole_ne_nil := Nat.toDigits_ne_nil
  isDigit_of_mem_whole := by
    intro c
    exact Nat.isDigit_of_mem_toDigits (by decide) (by decide)
  isDigit_tenth := by
    have hmem : (tenths % 10).digitChar ∈ Nat.toDigits 10 (tenths % 10) := by
      rw [Nat.toDigits_of_lt_base (Nat.mod_lt _ (by decide))]
      exact List.mem_singleton_self _
    exact Nat.isDigit_of_mem_toDigits (by decide) (by decide) hmem

theorem toList_signText_append_tenthsText (negative : Bool) (tenths : Nat) :
    (signText negative ++ tenthsText tenths).toList = (tenthsOf negative tenths).written := by
  have htenth : Nat.toDigits 10 (tenths % 10) = [(tenths % 10).digitChar] :=
    Nat.toDigits_of_lt_base (Nat.mod_lt _ (by decide))
  cases negative <;>
    simp [signText, tenthsText, htenth, tenthsOf, Tenths.written, Tenths.front]

theorem ofSingle_of_isFinite {x : Float32} (h : x.isFinite = true) :
    ∃ negative m, Binary.ofSingle x = .finite negative m := by
  have hfield : x.toBits.toNat / Nat.pow 2 23 % Nat.pow 2 8 ≠ Nat.pow 2 8 - 1 := by
    intro hfield
    have hexponent :
        @UnpackedFloat.unpackExponent Format.binary32 x.toBits.toBitVec = -1#8 := by
      apply BitVec.eq_of_toNat_eq
      rw [UnpackedFloat.unpackExponent, BitVec.toNat_cast, BitVec.extractLsb_toNat,
        Nat.shiftRight_eq_div_pow]
      exact hfield
    have hinfinite : x.isFinite = false := by
      change (UnpackedFloat.unpack Format.binary32 x.toBits.toBitVec).isFinite = false
      delta UnpackedFloat.unpack
      dsimp only
      rw [if_pos hexponent]
      split <;> rfl
    rw [hinfinite] at h
    cases h
  unfold Binary.ofSingle Binary.ofFields
  dsimp only
  rw [if_neg hfield]
  split
  · exact ⟨_, _, rfl⟩
  · exact ⟨_, _, rfl⟩

theorem exists_written_oneDecimal {x : Float32} (h : x.isFinite = true) :
    ∃ t : Tenths, (oneDecimal x).toList = t.written := by
  obtain ⟨negative, m, hx⟩ := ofSingle_of_isFinite h
  rw [oneDecimal, hx]
  exact ⟨_, toList_signText_append_tenthsText negative _⟩

end Decimal

namespace Dictionary

theorem numeralPhrase_written (d : Dictionary) (t : Tenths) (singular plural : String) :
    d.numeralPhrase t.written singular plural =
      if t.written = ['1', '.', '0'] then singular
      else fill plural [(.n, String.ofList (t.told d.decimalSeparator))] := by
  unfold numeralPhrase
  dsimp only
  rw [t.dropZeroFraction_written, t.withSeparator_told]
  simp only [t.told_eq_one_iff]

/-- A finite number is written with digits, a point and one more digit, and what is written decides:
`1.0`, and nothing else, is told in the singular. Any other numeral goes into the plural without a
zero behind the point, or else with the separator, and then it has a point only if that is one. -/
theorem decimalPhrase_of_isFinite (d : Dictionary) (singular plural : String) {x : Float32}
    (h : x.isFinite = true) :
    ∃ t : Tenths, (Decimal.oneDecimal x).toList = t.written ∧
      d.decimalPhrase x singular plural =
        (if Decimal.oneDecimal x = "1.0" then singular
        else fill plural [(.n, String.ofList (t.told d.decimalSeparator))]) ∧
      ('.' ∈ t.told d.decimalSeparator → d.decimalSeparator = '.') := by
  obtain ⟨t, ht⟩ := Decimal.exists_written_oneDecimal h
  have hone : Decimal.oneDecimal x = "1.0" ↔ t.written = ['1', '.', '0'] := by
    rw [← String.toList_inj, ht]
    rfl
  refine ⟨t, ht, ?_, t.eq_point_of_mem_told⟩
  rw [decimalPhrase, ht, d.numeralPhrase_written]
  simp only [hone]

theorem decimalPhrase_of_isFinite_halfAfterTwelve :
    (12.46 : Float32).isFinite = true ∧ Decimal.oneDecimal 12.46 = "12.5" ∧
    ∃ t : Tenths, (Decimal.oneDecimal 12.46).toList = t.written ∧
      german.decimalPhrase 12.46 german.kilometer german.kilometers =
        (if Decimal.oneDecimal 12.46 = "1.0" then german.kilometer
        else fill german.kilometers [(.n, String.ofList (t.told german.decimalSeparator))]) ∧
      ('.' ∈ t.told german.decimalSeparator → german.decimalSeparator = '.') := by
  have hfinite : (12.46 : Float32).isFinite = true := by decide +kernel
  have hwritten : Decimal.oneDecimal 12.46 = "12.5" := by decide +kernel
  exact ⟨hfinite, hwritten, decimalPhrase_of_isFinite german _ _ hfinite⟩

example : german.decimalPhrase 9.96 german.kilometer german.kilometers = "10 Kilometer" := by
  decide +kernel

end Dictionary

end TurnByTurn
