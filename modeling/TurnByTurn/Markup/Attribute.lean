import TurnByTurn.Markup.Escape

/-!
The attributes of an element. They are taken one at a time: the first fault is found before what
comes after it is looked at.
-/

namespace TurnByTurn.Markup

def isSpace (b : UInt8) : Bool :=
  b == ' '.toUInt8 || b == '\t'.toUInt8 || b == '\r'.toUInt8 || b == '\n'.toUInt8

def isEq (b : UInt8) : Bool :=
  b == '='.toUInt8

def isQuote (b : UInt8) : Bool :=
  b == '"'.toUInt8 || b == '\''.toUInt8

structure Cursor where
  position : Nat
  bytes : List UInt8

namespace Cursor

def split (c : Cursor) (p : UInt8 → Bool) : List UInt8 × Cursor :=
  let taken := c.bytes.takeWhile p
  (taken, ⟨c.position + taken.length, c.bytes.dropWhile p⟩)

def skipSpace (c : Cursor) : Cursor :=
  (c.split isSpace).2

end Cursor

structure Key where
  position : Nat
  bytes : List UInt8

def keyAt (c : Cursor) : Option (Key × Cursor) :=
  match c.bytes with
  | [] => none
  | b :: rest =>
    let (more, after) := (Cursor.mk (c.position + 1) rest).split fun b => !isEq b && !isSpace b
    some (⟨c.position, b :: more⟩, after)

def afterEq (c : Cursor) : Except AttributeFault Cursor :=
  let c := c.skipSpace
  match c.bytes with
  | [] => .error (.expectedEq c.position)
  | b :: rest => if isEq b then .ok ⟨c.position + 1, rest⟩ else .error (.expectedEq c.position)

def quotedValue (c : Cursor) : Except AttributeFault (List UInt8 × Cursor) :=
  let c := c.skipSpace
  match c.bytes with
  | [] => .error (.expectedValue c.position)
  | q :: rest =>
    if isQuote q then
      let (value, after) := (Cursor.mk (c.position + 1) rest).split (· != q)
      match after.bytes with
      | [] => .error (.expectedQuote after.position (Char.ofNat q.toNat))
      | _ :: rest => .ok (value, ⟨after.position + 1, rest⟩)
    else .error (.unquotedValue c.position)

def checkNew (seen : List Key) (key : Key) : Except AttributeFault Unit :=
  match seen.find? (·.bytes == key.bytes) with
  | some previous => .error (.duplicated key.position previous.position)
  | none => .ok ()

def decodedValue (bytes : List UInt8) : Except Fault String := do
  let cs ← (Text.ofUtf8 bytes).mapError .encoding
  let cs ← (unescape cs).mapError .escape
  return String.ofList cs

def nextAttribute (seen : List Key) (c : Cursor) :
    Except Fault (Option (Key × (String × String) × Cursor)) := do
  match keyAt c.skipSpace with
  | none => return none
  | some (key, c) =>
    let c ← (afterEq c).mapError .badAttribute
    (checkNew seen key).mapError .badAttribute
    let (value, c) ← (quotedValue c).mapError .badAttribute
    return some (key, (Text.ofUtf8Replacing key.bytes, ← decodedValue value), c)

/-- Each attribute takes a byte at least, so there are no more of them than bytes. -/
def attributesWithin : Nat → List Key → Cursor → Except Fault (List (String × String))
  | 0, _, _ => .ok []
  | n + 1, seen, c => do
    match ← nextAttribute seen c with
    | none => return []
    | some (key, pair, c) => return pair :: (← attributesWithin n (seen ++ [key]) c)

def attributes (c : Cursor) : Except Fault (List (String × String)) :=
  attributesWithin (c.bytes.length + 1) [] c

end TurnByTurn.Markup
