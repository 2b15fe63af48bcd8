import TurnByTurn.Document.Attributes
import TurnByTurn.Proofs.Decimal.Digits

namespace TurnByTurn.Document

open Decimal (Denotes not_denotes_cons)

def IsColor (text : List Char) (n : Nat) : Prop :=
  ∃ digits, (text = digits ∨ text = '#' :: digits) ∧ digits.length = 6 ∧ Denotes 16 digits n

def IsSignedColor (text : List Char) (n : Nat) : Prop :=
  ∃ digits, (text = '+' :: digits ∨ text = '#' :: '+' :: digits) ∧ digits.length = 5 ∧
    Denotes 16 digits n

variable {text digits : List Char} {n : Nat}

theorem byteLength_cons (c : Char) (cs : List Char) :
    Markup.byteLength (c :: cs) = c.utf8Size + Markup.byteLength cs := rfl

theorem byteLength_of_denotes {radix : Nat} (h : Denotes radix digits n) :
    Markup.byteLength digits = digits.length := by
  obtain ⟨ds, hds, -⟩ := h
  induction hds with
  | nil => rfl
  | cons hd _ ih => rw [byteLength_cons, hd.utf8Size_eq_one, ih, List.length_cons, Nat.add_comm]

theorem lt_size_of_denotes (h : Denotes 16 digits n) (hlength : digits.length ≤ 6) :
    n < UInt32.size :=
  calc n
    _ < Nat.pow 16 digits.length := h.lt_pow (by decide)
    _ ≤ Nat.pow 16 6 := Nat.pow_le_pow_right (by decide) hlength
    _ ≤ UInt32.size := by decide

theorem sixPlaces_iff {hex : List Char} :
    (Markup.byteLength hex = 6 ∧ Decimal.natural? 16 UInt32.size hex = some n) ↔
      (hex.length = 6 ∧ Denotes 16 hex n) ∨
        ∃ digits, hex = '+' :: digits ∧ digits.length = 5 ∧ Denotes 16 digits n := by
  rw [Decimal.natural?_eq_some_iff (by decide) (by decide)]
  constructor
  · rintro ⟨hbytes, digits, rfl | rfl, -, hdenotes, -⟩
    · rw [byteLength_of_denotes hdenotes] at hbytes
      exact .inl ⟨hbytes, hdenotes⟩
    · rw [byteLength_cons, byteLength_of_denotes hdenotes] at hbytes
      exact .inr ⟨digits, rfl, Nat.add_left_cancel (n := 1) hbytes, hdenotes⟩
  · rintro (⟨hlength, hdenotes⟩ | ⟨digits, rfl, hlength, hdenotes⟩)
    · have hne : hex ≠ [] := List.ne_nil_of_length_eq_add_one hlength
      exact ⟨(byteLength_of_denotes hdenotes).trans hlength, hex, .inl rfl, hne, hdenotes,
        lt_size_of_denotes hdenotes (Nat.le_of_eq hlength)⟩
    · have hne : digits ≠ [] := List.ne_nil_of_length_eq_add_one hlength
      refine ⟨?_, digits, .inr rfl, hne, hdenotes, lt_size_of_denotes hdenotes (by omega)⟩
      rw [byteLength_cons, byteLength_of_denotes hdenotes, hlength]
      rfl

theorem dropNumberSign_iff {P : List Char → Prop} (hP : ∀ rest, ¬ P ('#' :: rest)) :
    P (dropNumberSign text) ↔ ∃ hex, (text = hex ∨ text = '#' :: hex) ∧ P hex := by
  constructor
  · intro h
    unfold dropNumberSign at h
    split at h
    · next rest => exact ⟨rest, .inr rfl, h⟩
    · exact ⟨text, .inl rfl, h⟩
  · rintro ⟨hex, rfl | rfl, h⟩
    · unfold dropNumberSign
      split
      · exact absurd h (hP _)
      · exact h
    · exact h

theorem color?_eq_some_iff_byteLength :
    color? text = some n ↔ Markup.byteLength (dropNumberSign text) = 6 ∧
      Decimal.natural? 16 UInt32.size (dropNumberSign text) = some n := by
  unfold color?
  dsimp only
  split <;> simp [*]

theorem color?_eq_some_iff_isColor_or :
    color? text = some n ↔ IsColor text n ∨ IsSignedColor text n := by
  rw [color?_eq_some_iff_byteLength, sixPlaces_iff, IsColor, IsSignedColor]
  apply or_congr
  · apply dropNumberSign_iff (P := fun hex => hex.length = 6 ∧ Denotes 16 hex n)
    rintro rest ⟨-, hdenotes⟩
    exact not_denotes_cons (by decide) (by decide) hdenotes
  · rw [dropNumberSign_iff
      (P := fun hex => ∃ digits, hex = '+' :: digits ∧ digits.length = 5 ∧ Denotes 16 digits n)]
    · constructor
      · rintro ⟨hex, htext, digits, rfl, hdigits⟩
        exact ⟨digits, htext, hdigits⟩
      · rintro ⟨digits, htext, hdigits⟩
        exact ⟨'+' :: digits, htext, digits, rfl, hdigits⟩
    · rintro rest ⟨digits, hrest, -⟩
      cases hrest

theorem not_isColor_of_isSignedColor {m : Nat} (h : IsSignedColor text n) : ¬ IsColor text m := by
  rintro ⟨digits, htext, -, hdenotes⟩
  obtain ⟨signed, rfl | rfl, -, -⟩ := h
  · rcases htext with rfl | htext
    · exact not_denotes_cons (by decide) (by decide) hdenotes
    · cases htext
  · rcases htext with rfl | htext
    · exact not_denotes_cons (by decide) (by decide) hdenotes
    · cases htext
      exact not_denotes_cons (by decide) (by decide) hdenotes

/-- Just the colors are read, and the texts with a plus sign in the place of the first digit. Those
are no colors, so where there is such a sign, and only there, more is read than colors. -/
theorem color?_eq_some_iff (text : List Char) :
    (∀ n, color? text = some n ↔ IsColor text n ∨ IsSignedColor text n) ∧
      ((∀ n, color? text = some n ↔ IsColor text n) ↔ ∀ n, ¬ IsSignedColor text n) := by
  refine ⟨fun n => color?_eq_some_iff_isColor_or, ?_⟩
  simp only [color?_eq_some_iff_isColor_or, or_iff_left_iff_imp]
  constructor
  · intro h n hsigned
    exact not_isColor_of_isSignedColor hsigned (h n hsigned)
  · intro h n hsigned
    exact absurd hsigned (h n)

theorem not_forall_color?_eq_some_iff :
    ¬ ∀ (text : List Char) (n : Nat), color? text = some n ↔ IsColor text n := by
  intro h
  have hread : color? ['+', '1', '2', '3', '4', '5'] = some 0x12345 := by decide
  obtain ⟨digits, rfl | htext, -, hdenotes⟩ := (h _ _).mp hread
  · exact not_denotes_cons (by decide) (by decide) hdenotes
  · cases htext

end TurnByTurn.Document
