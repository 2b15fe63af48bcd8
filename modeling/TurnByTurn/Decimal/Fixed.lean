import TurnByTurn.Decimal.Binary

/-!
Decimal text with one place after the point, and rounding to whole numbers. Both look at the exact
binary value: a tie in the text goes to the even digit, a tie in rounding away from zero.
-/

namespace TurnByTurn.Decimal

def halfEven (num den : Nat) : Nat :=
  let low := num / den
  let rest := 2 * (num % den)
  if rest < den || (rest == den && low % 2 == 0) then low else low + 1

def halfAway (num den : Nat) : Nat :=
  (2 * num + den) / (2 * den)

def tenthsText (tenths : Nat) : String :=
  toString (tenths / 10) ++ "." ++ toString (tenths % 10)

def signText (negative : Bool) : String :=
  if negative then "-" else ""

def Binary.oneDecimal : Binary → String
  | .finite negative m =>
    let (num, den) := m.ratio
    signText negative ++ tenthsText (halfEven (10 * num) den)
  | .infinite negative => signText negative ++ "inf"
  | .undefined => "NaN"

def oneDecimal (x : Float32) : String :=
  (Binary.ofSingle x).oneDecimal

def roundAtLeastOne (x : Float32) : Nat :=
  match Binary.ofSingle x with
  | .finite false m => max (halfAway m.ratio.1 m.ratio.2) 1
  | _ => 1

end TurnByTurn.Decimal
