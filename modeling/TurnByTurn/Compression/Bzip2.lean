import TurnByTurn.Compression.Checksum
import TurnByTurn.Compression.Code
import TurnByTurn.Compression.Delivery
import TurnByTurn.Compression.RunLength
import TurnByTurn.Compression.Sorted

/-!
Files of bzip2 streams. Each stream has blocks of sorted text, in which bytes are numbered by how
recently they occurred, and the numbers are written in several codes.
-/

namespace TurnByTurn.Compression

/-- Checked byte by byte: a wrong byte is found although the data ends after it. -/
def expectBytes : List Nat → List Bool → Except Fault (List Bool)
  | [], bits => .ok bits
  | b :: rest, bits => do
    let (found, bits) ← takeHigh 8 bits
    if found = b then expectBytes rest bits else .error .corrupt

def takeFlags (count : Nat) (bits : List Bool) : Except Fault (List Bool × List Bool) :=
  takeBits count bits

def markedPlaces (row : Nat) (flags : List Bool) : List Nat :=
  flags.zipIdx.filterMap fun (flag, i) => if flag then some (16 * row + i) else none

def takeRows : List Nat → List Bool → Except Fault (List Nat × List Bool)
  | [], bits => .ok ([], bits)
  | row :: rows, bits => do
    let (flags, bits) ← takeFlags 16 bits
    let (places, bits) ← takeRows rows bits
    return (markedPlaces row flags ++ places, bits)

def takeAlphabet (bits : List Bool) : Except Fault (List Nat × List Bool) := do
  let (flags, bits) ← takeFlags 16 bits
  takeRows (markedPlaces 0 flags) bits

def takeUnary (bound : Nat) : Nat → List Bool → Except Fault (Nat × List Bool)
  | _, [] => .error .truncated
  | n, false :: rest => .ok (n, rest)
  | n, true :: rest => if n + 1 < bound then takeUnary bound (n + 1) rest else .error .corrupt

def takeSelectors (tables : Nat) : Nat → List Bool → Except Fault (List Nat × List Bool)
  | 0, bits => .ok ([], bits)
  | n + 1, bits => do
    let (x, bits) ← takeUnary tables 0 bits
    let (xs, bits) ← takeSelectors tables n bits
    return (x :: xs, bits)

def moveToFront {α : Type} (place : Nat) (items : List α) : Option (α × List α) :=
  items[place]?.map fun x => (x, x :: items.eraseIdx place)

def recentItems {α : Type} : List α → List Nat → List α
  | _, [] => []
  | items, place :: places =>
    match moveToFront place items with
    | some (x, items) => x :: recentItems items places
    | none => []

def takeLength : Nat → List Bool → Except Fault (Nat × List Bool)
  | length, bits =>
    if length < 1 || 20 < length then .error .corrupt
    else
      match bits with
      | [] | [true] => .error .truncated
      | false :: rest => .ok (length, rest)
      | true :: down :: rest => takeLength (if down then length - 1 else length + 1) rest

def takeCodeLengths : Nat → Nat → List Bool → Except Fault (List Nat × List Bool)
  | 0, _, bits => .ok ([], bits)
  | n + 1, length, bits => do
    let (length, bits) ← takeLength length bits
    let (lengths, bits) ← takeCodeLengths n length bits
    return (length :: lengths, bits)

def takeTables (symbols : Nat) : Nat → List Bool → Except Fault (List CodeTree × List Bool)
  | 0, bits => .ok ([], bits)
  | n + 1, bits => do
    let (length, bits) ← takeHigh 5 bits
    let (lengths, bits) ← takeCodeLengths symbols length bits
    let (tables, bits) ← takeTables symbols n bits
    return (.ofLengths 20 lengths :: tables, bits)

/-- A run of the byte used last grows with every digit of its length; other symbols end it. -/
structure Column where
  bytes : Array UInt8
  recent : List UInt8
  run : Nat
  weight : Nat

namespace Column

def isFull (c : Column) (limit : Nat) : Bool :=
  limit < c.bytes.size + c.run

def flush (c : Column) : Column :=
  match c.recent with
  | [] => c
  | b :: _ => { c with bytes := c.bytes ++ Array.replicate c.run b, run := 0, weight := 1 }

def addDigit (c : Column) (digit : Nat) : Column :=
  { c with run := c.run + c.weight * digit, weight := 2 * c.weight }

def addByte (c : Column) (place : Nat) : Option Column :=
  (moveToFront place c.recent).map fun (b, recent) =>
    { c with bytes := c.bytes.push b, recent := recent }

end Column

def tableFor (tables : List CodeTree) (left : Nat) (current : CodeTree) (selectors : List Nat) :
    Except Fault (CodeTree × Nat × List Nat) :=
  if 0 < left then .ok (current, left - 1, selectors)
  else
    match selectors with
    | [] => .error .corrupt
    | s :: rest => .ok ((tables[s]?).getD .missing, 49, rest)

/-- The symbols of a block: two digits for runs, then the bytes by how recently they occurred, the
last one excepted, and the end. -/
def takeColumn (tables : List CodeTree) (last limit : Nat) :
    Nat → Nat → CodeTree → List Nat → Column → List Bool → Except Fault (Array UInt8 × List Bool)
  | 0, _, _, _, _, _ => .error .corrupt
  | fuel + 1, left, current, selectors, column, bits => do
    let (table, left, selectors) ← tableFor tables left current selectors
    let (symbol, bits) ← table.read bits
    if symbol ≤ 1 then
      if Nat.pow 2 21 ≤ column.weight then throw .corrupt
      takeColumn tables last limit fuel left table selectors (column.addDigit (symbol + 1)) bits
    else
      if column.isFull limit then throw .corrupt
      let column := column.flush
      if symbol = last then return (column.bytes, bits)
      if limit ≤ column.bytes.size then throw .corrupt
      match column.addByte (symbol - 1) with
      | some column => takeColumn tables last limit fuel left table selectors column bits
      | none => throw .corrupt

/-- More selectors than a block can use are read and not kept. -/
def mostSelectors : Nat := 18002

/-- A block without its mark. Blocks that were stirred before they were sorted, which no writer
makes any more, count as corrupt. -/
def takeBlock (level : Nat) (bits : List Bool) : Except Fault ((Nat × List UInt8) × List Bool) := do
  let (checksum, bits) ← takeHigh 32 bits
  let (stirred, bits) ← takeHigh 1 bits
  let (row, bits) ← takeHigh 24 bits
  if stirred = 1 || 10 + 100000 * level < row then throw .corrupt
  let (alphabet, bits) ← takeAlphabet bits
  if alphabet.isEmpty then throw .corrupt
  let (tables, bits) ← takeHigh 3 bits
  if tables < 2 || 6 < tables then throw .corrupt
  let (selectors, bits) ← takeHigh 15 bits
  if selectors = 0 then throw .corrupt
  let (places, bits) ← takeSelectors tables selectors bits
  let order := recentItems (List.range tables) (places.take mostSelectors)
  let (trees, bits) ← takeTables (alphabet.length + 2) tables bits
  let (column, bits) ← takeColumn trees (alphabet.length + 1) (100000 * level) (bits.length + 1)
    0 .missing order ⟨#[], alphabet.map Nat.toUInt8, 0, 1⟩ bits
  if column.size ≤ row then throw .corrupt
  let output := expandRuns (unsort column row)
  if (checksumHigh output).toNat ≠ checksum then throw .corrupt
  return ((checksum, output), bits)

def blockMark : List Nat := [0x41, 0x59, 0x26, 0x53, 0x59]

def endMark : List Nat := [0x72, 0x45, 0x38, 0x50, 0x90]

def combineChecksums (combined checksum : Nat) : Nat :=
  let c := combined.toUInt32
  (((c <<< 1) ||| (c >>> 31)) ^^^ checksum.toUInt32).toNat

def takeBlocks (level : Nat) : Nat → Nat → List UInt8 → List Bool →
    Except (Fault × List UInt8) (List UInt8 × List Bool)
  | 0, _, output, _ => .error (.corrupt, output)
  | fuel + 1, combined, output, bits =>
    match takeHigh 8 bits with
    | .error fault => .error (fault, output)
    | .ok (mark, bits) =>
      if mark = 0x31 then
        match (expectBytes blockMark bits).bind (takeBlock level) with
        | .error fault => .error (fault, output)
        | .ok ((checksum, block), bits) =>
          takeBlocks level fuel (combineChecksums combined checksum) (output ++ block) bits
      else if mark = 0x17 then
        match (expectBytes endMark bits).bind (takeHigh 32) with
        | .error fault => .error (fault, output)
        | .ok (checksum, bits) =>
          if checksum = combined then .ok (output, bits) else .error (.corrupt, output)
      else .error (.corrupt, output)

def takeStreamHeader (bits : List Bool) : Except Fault (Nat × List Bool) := do
  let bits ← expectBytes [0x42, 0x5A, 0x68] bits
  let (digit, bits) ← takeHigh 8 bits
  if 0x31 ≤ digit && digit ≤ 0x39 then return (digit - 0x30, bits) else throw .corrupt

def bunzipStreams : Nat → List Bool → Delivery
  | 0, _ => ⟨[], true⟩
  | fuel + 1, bits =>
    match takeStreamHeader bits with
    | .error _ => ⟨[], true⟩
    | .ok (level, bits) =>
      match takeBlocks level (bits.length + 1) 0 [] bits with
      | .error (fault, output) => fault.delivery output
      | .ok (output, bits) =>
        match align bits with
        | [] => ⟨output, false⟩
        | rest => (bunzipStreams fuel rest).append output

/-- A stream takes a byte at least. -/
def bunzip (bytes : List UInt8) : Delivery :=
  bunzipStreams (bytes.length + 1) (bitsHighFirst bytes)

end TurnByTurn.Compression
