/-!
Text from bytes in UTF-8. What is not UTF-8 is cut into the shortest pieces that cannot begin a
character.
-/

namespace TurnByTurn.Text

inductive Utf8Piece where
  | char (c : Char)
  | invalid (length : Nat)
  | incomplete
deriving DecidableEq, Repr

inductive Utf8Fault where
  | invalid (length index : Nat)
  | incomplete (index : Nat)
deriving DecidableEq, Repr

def isTail (b : UInt8) : Bool :=
  0x80 ≤ b && b ≤ 0xBF

/-- After some first bytes the second one is confined further, so that no character has two forms. -/
def isSecondOfThree (a b : UInt8) : Bool :=
  if a = 0xE0 then 0xA0 ≤ b && b ≤ 0xBF
  else if a = 0xED then 0x80 ≤ b && b ≤ 0x9F
  else isTail b

def isSecondOfFour (a b : UInt8) : Bool :=
  if a = 0xF0 then 0x90 ≤ b && b ≤ 0xBF
  else if a = 0xF4 then 0x80 ≤ b && b ≤ 0x8F
  else isTail b

def tailBits (b : UInt8) : Nat :=
  b.toNat % 64

def utf8Pieces : List UInt8 → List Utf8Piece
  | [] => []
  | a :: r =>
    if a < 0x80 then .char (Char.ofNat a.toNat) :: utf8Pieces r
    else if 0xC2 ≤ a && a ≤ 0xDF then
      match r with
      | [] => [.incomplete]
      | b :: r' =>
        if isTail b then .char (Char.ofNat (a.toNat % 32 * 64 + tailBits b)) :: utf8Pieces r'
        else .invalid 1 :: utf8Pieces (b :: r')
    else if 0xE0 ≤ a && a ≤ 0xEF then
      match r with
      | [] => [.incomplete]
      | b :: r' =>
        if isSecondOfThree a b then
          match r' with
          | [] => [.incomplete]
          | c :: r'' =>
            if isTail c then
              .char (Char.ofNat ((a.toNat % 16 * 64 + tailBits b) * 64 + tailBits c)) ::
                utf8Pieces r''
            else .invalid 2 :: utf8Pieces (c :: r'')
        else .invalid 1 :: utf8Pieces (b :: r')
    else if 0xF0 ≤ a && a ≤ 0xF4 then
      match r with
      | [] => [.incomplete]
      | b :: r' =>
        if isSecondOfFour a b then
          match r' with
          | [] => [.incomplete]
          | c :: r'' =>
            if isTail c then
              match r'' with
              | [] => [.incomplete]
              | d :: r''' =>
                if isTail d then
                  .char (Char.ofNat
                    (((a.toNat % 8 * 64 + tailBits b) * 64 + tailBits c) * 64 + tailBits d)) ::
                    utf8Pieces r'''
                else .invalid 3 :: utf8Pieces (d :: r''')
            else .invalid 2 :: utf8Pieces (c :: r'')
        else .invalid 1 :: utf8Pieces (b :: r')
    else .invalid 1 :: utf8Pieces r

def charsFrom (index : Nat) : List Utf8Piece → Except Utf8Fault (List Char)
  | [] => .ok []
  | .char c :: rest => (charsFrom (index + c.utf8Size) rest).map (c :: ·)
  | .invalid length :: _ => .error (.invalid length index)
  | .incomplete :: _ => .error (.incomplete index)

def ofUtf8 (bytes : List UInt8) : Except Utf8Fault (List Char) :=
  charsFrom 0 (utf8Pieces bytes)

def Utf8Piece.replaced : Utf8Piece → Char
  | .char c => c
  | _ => '\ufffd'

def ofUtf8Replacing (bytes : List UInt8) : String :=
  String.ofList ((utf8Pieces bytes).map Utf8Piece.replaced)

def ofUtf8OrEmpty (bytes : List UInt8) : String :=
  match ofUtf8 bytes with
  | .ok cs => String.ofList cs
  | .error _ => ""

end TurnByTurn.Text
