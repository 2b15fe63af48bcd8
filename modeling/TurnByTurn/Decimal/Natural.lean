namespace TurnByTurn.Decimal

def digitValue? (radix : Nat) (c : Char) : Option Nat :=
  let value :=
    if c.isDigit then some (c.toNat - '0'.toNat)
    else if 'a' ≤ c && c ≤ 'f' then some (c.toNat - 'a'.toNat + 10)
    else if 'A' ≤ c && c ≤ 'F' then some (c.toNat - 'A'.toNat + 10)
    else none
  value.filter (· < radix)

inductive DigitFault where
  | empty
  | notADigit
  | tooLarge
deriving DecidableEq, Repr

def readDigits (radix bound : Nat) : Nat → List Char → Except DigitFault Nat
  | acc, [] => .ok acc
  | acc, c :: rest =>
    match digitValue? radix c with
    | none => .error .notADigit
    | some d =>
      if radix * acc + d < bound then readDigits radix bound (radix * acc + d) rest
      else .error .tooLarge

theorem digitValue?_lt {radix d : Nat} {c : Char} (h : digitValue? radix c = some d) : d < radix := by
  obtain ⟨-, hd⟩ := Option.filter_eq_some_iff.mp h
  exact of_decide_eq_true hd

theorem readDigits_lt_pow {radix bound acc n : Nat} {cs : List Char}
    (h : readDigits radix bound acc cs = .ok n) : n < (acc + 1) * Nat.pow radix cs.length := by
  induction cs generalizing acc with
  | nil =>
    cases h
    simp
  | cons c rest ih =>
    rw [readDigits] at h
    split at h
    · cases h
    · next d hd =>
      have hdigit : radix * acc + d + 1 ≤ (acc + 1) * radix := by
        have hlt := digitValue?_lt hd
        rw [Nat.add_mul, Nat.one_mul, Nat.mul_comm]
        omega
      split at h
      · calc n
          _ < (radix * acc + d + 1) * Nat.pow radix rest.length := ih h
          _ ≤ (acc + 1) * radix * Nat.pow radix rest.length := Nat.mul_le_mul_right _ hdigit
          _ = (acc + 1) * Nat.pow radix (c :: rest).length := by
            rw [Nat.mul_assoc, Nat.mul_comm radix]
            rfl
      · cases h

def readNatural (radix bound : Nat) : List Char → Except DigitFault Nat
  | [] => .error .empty
  | c :: rest => readDigits radix bound 0 (c :: rest)

def natural? (radix bound : Nat) (cs : List Char) : Option Nat :=
  match cs with
  | '+' :: rest => (readNatural radix bound rest).toOption
  | _ => (readNatural radix bound cs).toOption

theorem readNatural_lt_pow {radix bound n : Nat} {cs : List Char}
    (h : (readNatural radix bound cs).toOption = some n) : n < Nat.pow radix cs.length := by
  cases cs with
  | nil => cases h
  | cons c rest =>
    cases hread : readDigits radix bound 0 (c :: rest) with
    | error fault =>
      rw [readNatural, hread] at h
      cases h
    | ok m =>
      rw [readNatural, hread] at h
      cases h
      simpa using readDigits_lt_pow hread

theorem natural?_lt_pow {radix bound n : Nat} (hradix : 0 < radix) {cs : List Char}
    (h : natural? radix bound cs = some n) : n < Nat.pow radix cs.length := by
  unfold natural? at h
  split at h
  · next rest =>
    refine Nat.lt_of_lt_of_le (readNatural_lt_pow h) ?_
    exact Nat.pow_le_pow_right hradix (by simp)
  · exact readNatural_lt_pow h

end TurnByTurn.Decimal
