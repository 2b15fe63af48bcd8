namespace TurnByTurn.Compression

inductive Fault where
  | truncated
  | corrupt
deriving DecidableEq, Repr

def lowFirst (b : UInt8) : List Bool :=
  (List.range 8).map b.toNat.testBit

def highFirst (b : UInt8) : List Bool :=
  (lowFirst b).reverse

def bitsLowFirst (bytes : List UInt8) : List Bool :=
  bytes.flatMap lowFirst

def bitsHighFirst (bytes : List UInt8) : List Bool :=
  bytes.flatMap highFirst

def numberLowFirst : List Bool → Nat
  | [] => 0
  | b :: rest => b.toNat + 2 * numberLowFirst rest

def numberHighFirst (bits : List Bool) : Nat :=
  bits.foldl (fun n b => 2 * n + b.toNat) 0

def takeBits (count : Nat) (bits : List Bool) : Except Fault (List Bool × List Bool) :=
  let taken := bits.take count
  if taken.length = count then .ok (taken, bits.drop count) else .error .truncated

def takeLow (count : Nat) (bits : List Bool) : Except Fault (Nat × List Bool) :=
  (takeBits count bits).map fun (taken, rest) => (numberLowFirst taken, rest)

def takeHigh (count : Nat) (bits : List Bool) : Except Fault (Nat × List Bool) :=
  (takeBits count bits).map fun (taken, rest) => (numberHighFirst taken, rest)

def align (bits : List Bool) : List Bool :=
  bits.drop (bits.length % 8)

def bytesLeft (bytes : List UInt8) (bits : List Bool) : List UInt8 :=
  bytes.drop (bytes.length - bits.length / 8)

end TurnByTurn.Compression
