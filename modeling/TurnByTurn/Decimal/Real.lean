import TurnByTurn.Decimal.Natural

namespace TurnByTurn.Decimal

inductive Numeral where
  | scaled (digits : Nat) (exponent : Int)
  | infinity
  | notANumber
deriving DecidableEq, Repr

def sign? : List Char → Bool × List Char
  | '-' :: rest => (true, rest)
  | '+' :: rest => (false, rest)
  | cs => (false, cs)

def digitsValue (cs : List Char) : Nat :=
  cs.foldl (fun n c => 10 * n + (c.toNat - '0'.toNat)) 0

def exponent? : List Char → Option Int
  | [] => some 0
  | c :: rest =>
    let (negative, digits) := sign? rest
    if (c == 'e' || c == 'E') && !digits.isEmpty && digits.all Char.isDigit then
      some (if negative then -(digitsValue digits : Int) else digitsValue digits)
    else none

def plain? (cs : List Char) : Option Numeral :=
  let whole := cs.takeWhile Char.isDigit
  let rest := cs.dropWhile Char.isDigit
  let fraction := match rest with
    | '.' :: tail => tail.takeWhile Char.isDigit
    | _ => []
  let tail := match rest with
    | '.' :: tail => tail.dropWhile Char.isDigit
    | _ => rest
  if whole.isEmpty && fraction.isEmpty then none
  else (exponent? tail).map fun e => .scaled (digitsValue (whole ++ fraction)) (e - fraction.length)

def unsigned? (cs : List Char) : Option Numeral :=
  match String.ofList (cs.map Char.toLower) with
  | "inf" | "infinity" => some .infinity
  | "nan" => some .notANumber
  | _ => plain? cs

/-- The decimal exponent of the first digit, by which far too large and far too small numerals are
told apart from the others before any power of ten is computed. -/
def leadingPlace (digits : Nat) (exponent : Int) : Int :=
  (Nat.toDigits 10 digits).length + exponent

def Numeral.toSingle : Numeral → Float32
  | .scaled digits exponent =>
    if digits = 0 || leadingPlace digits exponent < -60 then 0
    else if 60 < leadingPlace digits exponent then 1 / 0
    else OfScientific.ofScientific digits (exponent < 0) exponent.natAbs
  | .infinity => 1 / 0
  | .notANumber => 0 / 0

def Numeral.toDouble : Numeral → Float
  | .scaled digits exponent =>
    if digits = 0 || leadingPlace digits exponent < -400 then 0
    else if 400 < leadingPlace digits exponent then 1 / 0
    else OfScientific.ofScientific digits (exponent < 0) exponent.natAbs
  | .infinity => 1 / 0
  | .notANumber => 0 / 0

def single? (cs : List Char) : Option Float32 :=
  let (negative, rest) := sign? cs
  (unsigned? rest).map fun n => if negative then -n.toSingle else n.toSingle

def double? (cs : List Char) : Option Float :=
  let (negative, rest) := sign? cs
  (unsigned? rest).map fun n => if negative then -n.toDouble else n.toDouble

end TurnByTurn.Decimal
