import TurnByTurn.Decimal.Binary

namespace TurnByTurn.Decimal

/-- The number `digits * 10 ^ exponent`. -/
structure Digits where
  digits : Nat
  exponent : Int
deriving DecidableEq, Repr

def scaleDown (num den : Nat) (power : Int) : Nat × Nat :=
  (num * Nat.pow 10 (-power).toNat, den * Nat.pow 10 power.toNat)

/-- How far decimal neighbours may lie from the value and still read back as it. -/
structure Interval where
  num : Nat
  den : Nat
  below : Nat
  above : Nat
  closed : Bool

/-- The half gaps to both neighbours, in quarters of the last binary place. -/
def Magnitude.interval (m : Magnitude) : Interval where
  num := 4 * m.ratio.1
  den := 4 * m.ratio.2
  below := (if m.crowdedBelow then 1 else 2) * Nat.pow 2 m.exponent.toNat
  above := 2 * Nat.pow 2 m.exponent.toNat
  closed := m.mantissa % 2 == 0

/-- On the grid of multiples of `10 ^ power`: the neighbour that reads back, the nearer one if
both do, the even one if they are equally near. -/
def Interval.onGrid (i : Interval) (power : Int) : Option Digits :=
  let (num, den) := scaleDown i.num i.den power
  let below := i.below * Nat.pow 10 (-power).toNat
  let above := i.above * Nat.pow 10 (-power).toNat
  let low := num / den
  let down := num - low * den
  let up := (low + 1) * den - num
  let within (gap room : Nat) : Bool := if i.closed then gap ≤ room else gap < room
  let lowFits := within down below
  let highFits := within up above
  if lowFits && (!highFits || down < up || (down == up && low % 2 == 0)) then some ⟨low, power⟩
  else if highFits then some ⟨low + 1, power⟩
  else none

/-- The exponent of the first digit: `10 ^ e` is at most the value, which is below `10 ^ (e + 1)`.
The first guess comes from the position of the highest bit and is at most one too small. -/
def Magnitude.leading (m : Magnitude) : Int :=
  let guess := ((m.mantissa.log2 : Int) + m.exponent) * 30103 / 100000
  let (num, den) := scaleDown m.ratio.1 m.ratio.2 (guess + 1)
  if den ≤ num then guess + 1 else guess

def Digits.dropZeros : Nat → Digits → Digits
  | 0, d => d
  | n + 1, d => if d.digits % 10 = 0 then dropZeros n ⟨d.digits / 10, d.exponent + 1⟩ else d

/-- Seventeen digits are enough for every double. -/
def Magnitude.shortest (m : Magnitude) : Digits :=
  if m.mantissa = 0 then ⟨0, 0⟩
  else
    let first := m.leading
    let found := (List.range 17).findSome? fun (n : Nat) => m.interval.onGrid (first - n)
    (found.getD ⟨0, 0⟩).dropZeros 17

end TurnByTurn.Decimal
