import Mathlib.Data.List.Forall2
import Mathlib.Data.Nat.Digits.Defs
import TurnByTurn.Decimal.Natural

namespace TurnByTurn.Decimal

def smallNumerals : List Char := "0123456789abcdef".toList

def capitalNumerals : List Char := "0123456789ABCDEF".toList

def IsDigit (c : Char) (d : Nat) : Prop :=
  smallNumerals[d]? = some c ∨ capitalNumerals[d]? = some c

def Denotes (radix : Nat) (text : List Char) (n : Nat) : Prop :=
  ∃ ds, List.Forall₂ IsDigit text ds ∧ (∀ d ∈ ds, d < radix) ∧ n = Nat.ofDigits radix ds.reverse

section Digit

variable {radix d : Nat} {c : Char}

theorem IsDigit.forall_of {P : Char → Nat → Prop}
    (hsmall : ∀ place ∈ smallNumerals.zipIdx, P place.1 place.2)
    (hcapital : ∀ place ∈ capitalNumerals.zipIdx, P place.1 place.2) (h : IsDigit c d) : P c d := by
  rcases h with h | h
  · exact hsmall (c, d) (List.mk_mem_zipIdx_iff_getElem?.mpr h)
  · exact hcapital (c, d) (List.mk_mem_zipIdx_iff_getElem?.mpr h)

theorem IsDigit.utf8Size_eq_one (h : IsDigit c d) : c.utf8Size = 1 :=
  h.forall_of (P := fun c _ => c.utf8Size = 1) (by decide) (by decide)

theorem IsDigit.mem_numerals (h : IsDigit c d) : c ∈ smallNumerals ∨ c ∈ capitalNumerals :=
  h.imp List.mem_of_getElem? List.mem_of_getElem?

theorem forall_char_between {P : Char → Prop} (low count : Nat)
    (h : ∀ n < count, P (Char.ofNat (low + n))) {c : Char} (hlow : low ≤ c.toNat)
    (hhigh : c.toNat < low + count) : P c := by
  have hc := h (c.toNat - low) (by omega)
  rwa [Nat.add_sub_cancel' hlow, Char.ofNat_toNat] at hc

theorem isDigit_of_digitValue? (h : digitValue? radix c = some d) : IsDigit c d := by
  obtain ⟨hvalue, -⟩ := Option.filter_eq_some_iff.mp h
  split at hvalue
  · next hc =>
    simp only [Char.isDigit, Bool.and_eq_true, decide_eq_true_eq] at hc
    obtain rfl := Option.some.inj hvalue
    exact .inl (forall_char_between (P := fun c => smallNumerals[c.toNat - 48]? = some c)
      48 10 (by decide) hc.1 (Nat.lt_succ_of_le hc.2))
  · split at hvalue
    · next hc =>
      simp only [Bool.and_eq_true, decide_eq_true_eq] at hc
      obtain rfl := Option.some.inj hvalue
      exact .inl (forall_char_between (P := fun c => smallNumerals[c.toNat - 97 + 10]? = some c)
        97 6 (by decide) hc.1 (Nat.lt_succ_of_le hc.2))
    · split at hvalue
      · next hc =>
        simp only [Bool.and_eq_true, decide_eq_true_eq] at hc
        obtain rfl := Option.some.inj hvalue
        exact .inr (forall_char_between (P := fun c => capitalNumerals[c.toNat - 65 + 10]? = some c)
          65 6 (by decide) hc.1 (Nat.lt_succ_of_le hc.2))
      · cases hvalue

theorem digitValue?_of_isDigit (h : IsDigit c d) (hradix : d < radix) :
    digitValue? radix c = some d := by
  have hsixteen : digitValue? 16 c = some d :=
    h.forall_of (P := fun c d => digitValue? 16 c = some d) (by decide) (by decide)
  obtain ⟨hvalue, -⟩ := Option.filter_eq_some_iff.mp hsixteen
  exact Option.filter_eq_some_iff.mpr ⟨hvalue, decide_eq_true hradix⟩

end Digit

section Number

variable {radix bound acc n : Nat} {cs : List Char}

theorem Denotes.lt_pow (hradix : 1 < radix) (h : Denotes radix cs n) :
    n < Nat.pow radix cs.length := by
  obtain ⟨ds, hds, hlt, rfl⟩ := h
  rw [hds.length_eq, ← List.length_reverse]
  apply Nat.ofDigits_lt_base_pow_length hradix
  intro d hd
  exact hlt d (List.mem_reverse.mp hd)

theorem not_denotes_cons {c : Char} (hsmall : c ∉ smallNumerals) (hcapital : c ∉ capitalNumerals) :
    ¬ Denotes radix (c :: cs) n := by
  rintro ⟨ds, hds, -⟩
  obtain ⟨d, -, hd, -⟩ := List.forall₂_cons_left_iff.mp hds
  exact hd.mem_numerals.elim hsmall hcapital

theorem le_foldl_digits (hradix : 0 < radix) (acc : Nat) (ds : List Nat) :
    acc ≤ ds.foldl (fun n d => radix * n + d) acc := by
  induction ds generalizing acc with
  | nil => exact Nat.le_refl acc
  | cons d ds ih =>
    have hgrows : acc ≤ radix * acc + d :=
      Nat.le_trans (Nat.le_mul_of_pos_left acc hradix) (Nat.le_add_right _ d)
    exact Nat.le_trans hgrows (ih (radix * acc + d))

theorem ofDigits_reverse_eq_foldl (radix : Nat) (ds : List Nat) :
    Nat.ofDigits radix ds.reverse = ds.foldl (fun n d => radix * n + d) 0 := by
  rw [Nat.ofDigits_eq_foldr, List.foldr_reverse]
  simp only [Nat.cast_id, Nat.add_comm]

/-- The number grows with each digit, so it is below the bound all the time if it is at the end. -/
theorem readDigits_eq_ok_iff (hradix : 0 < radix) (hacc : acc < bound) :
    readDigits radix bound acc cs = .ok n ↔
      ∃ ds, List.Forall₂ IsDigit cs ds ∧ (∀ d ∈ ds, d < radix) ∧
        n = ds.foldl (fun n d => radix * n + d) acc ∧ n < bound := by
  induction cs generalizing acc with
  | nil =>
    rw [readDigits]
    constructor
    · rintro ⟨⟩
      exact ⟨[], .nil, List.forall_mem_nil _, rfl, hacc⟩
    · rintro ⟨ds, hds, -, rfl, -⟩
      rw [List.forall₂_nil_left_iff.mp hds]
      rfl
  | cons c rest ih =>
    rw [readDigits]
    constructor
    · intro h
      split at h
      · cases h
      · next d hd =>
        split at h
        · next hlt =>
          obtain ⟨ds, hds, hdigits, hn, hbound⟩ := (ih hlt).mp h
          exact ⟨d :: ds, .cons (isDigit_of_digitValue? hd) hds,
            List.forall_mem_cons.mpr ⟨digitValue?_lt hd, hdigits⟩, hn, hbound⟩
        · cases h
    · rintro ⟨all, hall, hdigits, hn, hbound⟩
      obtain ⟨d, ds, hd, hds, rfl⟩ := List.forall₂_cons_left_iff.mp hall
      obtain ⟨hdigit, hdigits⟩ := List.forall_mem_cons.mp hdigits
      have hlt : radix * acc + d < bound := by
        rw [hn] at hbound
        exact Nat.lt_of_le_of_lt (le_foldl_digits hradix _ ds) hbound
      rw [digitValue?_of_isDigit hd hdigit]
      dsimp only
      rw [if_pos hlt]
      exact (ih hlt).mpr ⟨ds, hds, hdigits, hn, hbound⟩

theorem readNatural_eq_some_iff (hradix : 0 < radix) (hbound : 0 < bound) :
    (readNatural radix bound cs).toOption = some n ↔
      cs ≠ [] ∧ Denotes radix cs n ∧ n < bound := by
  cases cs with
  | nil => simp [readNatural, Except.toOption]
  | cons c rest =>
    have hoption : (readNatural radix bound (c :: rest)).toOption = some n ↔
        readDigits radix bound 0 (c :: rest) = .ok n := by
      rw [readNatural]
      cases readDigits radix bound 0 (c :: rest) <;> simp [Except.toOption]
    rw [hoption, readDigits_eq_ok_iff hradix hbound]
    simp only [← ofDigits_reverse_eq_foldl]
    constructor
    · rintro ⟨ds, hds, hdigits, hn, hlt⟩
      exact ⟨List.cons_ne_nil c rest, ⟨ds, hds, hdigits, hn⟩, hlt⟩
    · rintro ⟨-, ⟨ds, hds, hdigits, hn⟩, hlt⟩
      exact ⟨ds, hds, hdigits, hn, hlt⟩

theorem natural?_eq_some_iff (hradix : 0 < radix) (hbound : 0 < bound) :
    natural? radix bound cs = some n ↔
      ∃ digits, (cs = digits ∨ cs = '+' :: digits) ∧ digits ≠ [] ∧ Denotes radix digits n ∧
        n < bound := by
  constructor
  · intro h
    unfold natural? at h
    split at h
    · next rest => exact ⟨rest, .inr rfl, (readNatural_eq_some_iff hradix hbound).mp h⟩
    · exact ⟨cs, .inl rfl, (readNatural_eq_some_iff hradix hbound).mp h⟩
  · rintro ⟨digits, rfl | rfl, hne, hdenotes, hlt⟩
    · unfold natural?
      split
      · exact absurd hdenotes (not_denotes_cons (by decide) (by decide))
      · exact (readNatural_eq_some_iff hradix hbound).mpr ⟨hne, hdenotes, hlt⟩
    · exact (readNatural_eq_some_iff hradix hbound).mpr ⟨hne, hdenotes, hlt⟩

end Number

end TurnByTurn.Decimal
