import TurnByTurn.Compression.Code

namespace TurnByTurn.Compression

structure Inflation where
  bits : List Bool
  output : Array UInt8

abbrev Inflated := Except (Fault × Array UInt8)

namespace Inflation

def take {α : Type} (s : Inflation) (read : List Bool → Except Fault (α × List Bool)) :
    Inflated (α × Inflation) :=
  match read s.bits with
  | .ok (x, rest) => .ok (x, { s with bits := rest })
  | .error fault => .error (fault, s.output)

def fail {α : Type} (s : Inflation) : Inflated α :=
  .error (.corrupt, s.output)

def require (s : Inflation) (condition : Bool) : Inflated Unit :=
  if condition then .ok () else s.fail

end Inflation

def longestCode : Nat := 15

/-- Least lengths and numbers of further bits, by symbol from 257 on. -/
def lengthBases : List (Nat × Nat) :=
  [(3, 0), (4, 0), (5, 0), (6, 0), (7, 0), (8, 0), (9, 0), (10, 0), (11, 1), (13, 1), (15, 1),
    (17, 1), (19, 2), (23, 2), (27, 2), (31, 2), (35, 3), (43, 3), (51, 3), (59, 3), (67, 4),
    (83, 4), (99, 4), (115, 4), (131, 5), (163, 5), (195, 5), (227, 5), (258, 0)]

/-- Least distances and numbers of further bits. -/
def distanceBases : List (Nat × Nat) :=
  [(1, 0), (2, 0), (3, 0), (4, 0), (5, 1), (7, 1), (9, 2), (13, 2), (17, 3), (25, 3), (33, 4),
    (49, 4), (65, 5), (97, 5), (129, 6), (193, 6), (257, 7), (385, 7), (513, 8), (769, 8),
    (1025, 9), (1537, 9), (2049, 10), (3073, 10), (4097, 11), (6145, 11), (8193, 12), (12289, 12),
    (16385, 13), (24577, 13)]

def lengthOrder : List Nat :=
  [16, 17, 18, 0, 8, 7, 9, 6, 10, 5, 11, 4, 12, 3, 13, 2, 14, 1, 15]

structure Codes where
  literals : CodeTree
  distances : CodeTree

def fixedCodes : Codes where
  literals := .ofLengths 9
    (.replicate 144 8 ++ .replicate 112 9 ++ .replicate 24 7 ++ .replicate 8 8)
  distances := .ofLengths 5 (.replicate 32 5)

def takeBased (bases : List (Nat × Nat)) (index : Nat) (bits : List Bool) :
    Except Fault (Nat × List Bool) :=
  match bases[index]? with
  | some (base, extra) => (takeLow extra bits).map fun (n, rest) => (base + n, rest)
  | none => .error .corrupt

/-- A copy may run into the bytes that it writes. -/
def copyBack (distance : Nat) : Nat → Array UInt8 → Array UInt8
  | 0, output => output
  | n + 1, output => copyBack distance n (output.push (output.getD (output.size - distance) 0))

def inflateReference (codes : Codes) (symbol : Nat) (s : Inflation) : Inflated Inflation := do
  let (length, s) ← s.take (takeBased lengthBases (symbol - 257))
  let (distanceSymbol, s) ← s.take codes.distances.read
  let (distance, s) ← s.take (takeBased distanceBases distanceSymbol)
  s.require (distance ≤ s.output.size)
  return { s with output := copyBack distance length s.output }

/-- Every symbol takes a bit at least. -/
def inflateSymbols (codes : Codes) : Nat → Inflation → Inflated Inflation
  | 0, s => s.fail
  | fuel + 1, s => do
    let (symbol, s) ← s.take codes.literals.read
    if symbol < 256 then
      inflateSymbols codes fuel { s with output := s.output.push symbol.toUInt8 }
    else if symbol = 256 then return s
    else inflateSymbols codes fuel (← inflateReference codes symbol s)

def inflateCoded (codes : Codes) (s : Inflation) : Inflated Inflation :=
  inflateSymbols codes (s.bits.length + 1) s

def takePlain : Nat → Inflation → Inflated Inflation
  | 0, s => .ok s
  | n + 1, s => do
    let (b, s) ← s.take (takeLow 8)
    takePlain n { s with output := s.output.push b.toUInt8 }

def inflatePlain (s : Inflation) : Inflated Inflation := do
  let s := { s with bits := align s.bits }
  let (length, s) ← s.take (takeLow 16)
  let (check, s) ← s.take (takeLow 16)
  s.require (length + check = 65535)
  takePlain length s

def takeRepeat (symbol : Nat) (lengths : List Nat) (bits : List Bool) :
    Except Fault ((Nat × Nat) × List Bool) :=
  match symbol with
  | 16 =>
    match lengths.getLast? with
    | some l => (takeLow 2 bits).map fun (n, rest) => ((l, n + 3), rest)
    | none => .error .corrupt
  | 17 => (takeLow 3 bits).map fun (n, rest) => ((0, n + 3), rest)
  | 18 => (takeLow 7 bits).map fun (n, rest) => ((0, n + 11), rest)
  | l => .ok ((l, 1), bits)

def takeLengths (code : CodeTree) (count : Nat) : Nat → List Nat → List Bool →
    Except Fault (List Nat × List Bool)
  | 0, _, _ => .error .corrupt
  | fuel + 1, lengths, bits =>
    if count ≤ lengths.length then
      if lengths.length = count then .ok (lengths, bits) else .error .corrupt
    else do
      let (symbol, bits) ← code.read bits
      let ((length, times), bits) ← takeRepeat symbol lengths bits
      takeLengths code count fuel (lengths ++ .replicate times length) bits

def takeNumbers (size : Nat) : Nat → List Bool → Except Fault (List Nat × List Bool)
  | 0, bits => .ok ([], bits)
  | n + 1, bits => do
    let (x, bits) ← takeLow size bits
    let (xs, bits) ← takeNumbers size n bits
    return (x :: xs, bits)

def inSymbolOrder (given : List Nat) : List Nat :=
  (List.range 19).map fun symbol => (given[lengthOrder.idxOf symbol]?).getD 0

/-- An incomplete set of codes is allowed only if it is a single code of one bit, or none. -/
def isUsable (lengths : List Nat) : Bool :=
  isComplete longestCode lengths ||
    (lengths.filter (· ≠ 0)).all (· = 1) && (lengths.filter (· ≠ 0)).length ≤ 1

def takeCodes (bits : List Bool) : Except Fault (Codes × List Bool) := do
  let (literals, bits) ← takeLow 5 bits
  let (distances, bits) ← takeLow 5 bits
  let (given, bits) ← takeLow 4 bits
  let literals := literals + 257
  let distances := distances + 1
  if 286 < literals || 30 < distances then throw .corrupt
  let (given, bits) ← takeNumbers 3 (given + 4) bits
  let ofLengths := inSymbolOrder given
  if !isComplete 7 ofLengths then throw .corrupt
  let (lengths, bits) ←
    takeLengths (.ofLengths 7 ofLengths) (literals + distances) (bits.length + 1) [] bits
  let ofLiterals := lengths.take literals
  let ofDistances := lengths.drop literals
  if ofLiterals[256]? = some 0 || !isUsable ofLiterals || !isUsable ofDistances then throw .corrupt
  return (⟨.ofLengths longestCode ofLiterals, .ofLengths longestCode ofDistances⟩, bits)

def inflateBlock (s : Inflation) : Inflated Inflation := do
  let (kind, s) ← s.take (takeLow 2)
  match kind with
  | 0 => inflatePlain s
  | 1 => inflateCoded fixedCodes s
  | 2 =>
    let (codes, s) ← s.take takeCodes
    inflateCoded codes s
  | _ => s.fail

/-- Blocks up to the one that says it is the last; every block takes a bit at least. -/
def inflateBlocks : Nat → Inflation → Inflated Inflation
  | 0, s => s.fail
  | fuel + 1, s => do
    let (last, s) ← s.take (takeLow 1)
    let s ← inflateBlock s
    if last = 1 then return s else inflateBlocks fuel s

def inflate (bytes : List UInt8) : Inflated Inflation :=
  let bits := bitsLowFirst bytes
  inflateBlocks (bits.length + 1) ⟨bits, #[]⟩

end TurnByTurn.Compression
