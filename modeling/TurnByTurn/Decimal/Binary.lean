namespace TurnByTurn.Decimal

/-- The number `mantissa * 2 ^ exponent`. -/
structure Magnitude where
  mantissa : Nat
  exponent : Int
  /-- The next smaller number lies half as far away as the next larger one. -/
  crowdedBelow : Bool
deriving DecidableEq, Repr

inductive Binary where
  | finite (negative : Bool) (size : Magnitude)
  | infinite (negative : Bool)
  | undefined
deriving DecidableEq, Repr

def Binary.ofFields (fractionBits exponentBits bits : Nat) : Binary :=
  let fraction := bits % Nat.pow 2 fractionBits
  let field := bits / Nat.pow 2 fractionBits % Nat.pow 2 exponentBits
  let negative := bits / Nat.pow 2 (fractionBits + exponentBits) % 2 == 1
  let lowest : Int := 2 - Nat.pow 2 (exponentBits - 1) - fractionBits
  if field = Nat.pow 2 exponentBits - 1 then
    if fraction = 0 then .infinite negative else .undefined
  else if field = 0 then .finite negative ⟨fraction, lowest, false⟩
  else .finite negative
    ⟨fraction + Nat.pow 2 fractionBits, lowest + (field - 1), fraction = 0 && field ≠ 1⟩

def Binary.ofSingle (x : Float32) : Binary :=
  .ofFields 23 8 x.toBits.toNat

def Binary.ofDouble (x : Float) : Binary :=
  .ofFields 52 11 x.toBits.toNat

def Magnitude.ratio (m : Magnitude) : Nat × Nat :=
  (m.mantissa * Nat.pow 2 m.exponent.toNat, Nat.pow 2 (-m.exponent).toNat)

end TurnByTurn.Decimal
