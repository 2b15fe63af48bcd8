import TurnByTurn.Decimal.Shortest

namespace TurnByTurn.Decimal

/-- The point may stand up to `high` digits behind the first digit, and up to `low` zeros may stand
between it and the first digit. -/
structure Layout where
  low : Nat
  high : Nat

def singleLayout : Layout := ⟨5, 13⟩

def doubleLayout : Layout := ⟨4, 16⟩

def zeros (n : Nat) : String :=
  String.ofList (List.replicate n '0')

def exponentText (e : Int) : String :=
  match e with
  | .ofNat n => "e+" ++ toString n
  | .negSucc n => "e-" ++ toString (n + 1)

def digitChars (n : Nat) : List Char :=
  Nat.toDigits 10 n

def Layout.text (layout : Layout) (d : Digits) : String :=
  let cs := digitChars d.digits
  let point : Int := cs.length + d.exponent
  if d.digits = 0 then "0.0"
  else if 0 ≤ d.exponent && point ≤ layout.high then
    String.ofList cs ++ zeros d.exponent.toNat ++ ".0"
  else if 0 < point && point ≤ layout.high then
    String.ofList (cs.take point.toNat) ++ "." ++ String.ofList (cs.drop point.toNat)
  else if -(layout.low : Int) ≤ point && point ≤ 0 then
    "0." ++ zeros (-point).toNat ++ String.ofList cs
  else
    let tail := if cs.length = 1 then "" else "." ++ String.ofList cs.tail
    String.ofList (cs.take 1) ++ tail ++ exponentText (point - 1)

def Layout.ofBinary? (layout : Layout) : Binary → Option String
  | .finite negative m => some ((if negative then "-" else "") ++ layout.text m.shortest)
  | .infinite _ => none
  | .undefined => none

def singleText? (x : Float32) : Option String :=
  singleLayout.ofBinary? (.ofSingle x)

def doubleText? (x : Float) : Option String :=
  doubleLayout.ofBinary? (.ofDouble x)

end TurnByTurn.Decimal
