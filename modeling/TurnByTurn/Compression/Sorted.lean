namespace TurnByTurn.Compression

def startIndexes (column : Array UInt8) : Array Nat :=
  let counts := column.foldl (fun (a : Array Nat) b => a.modify b.toNat (· + 1)) (.replicate 256 0)
  (counts.foldl (fun (acc : Array Nat × Nat) n => (acc.1.push acc.2, acc.2 + n)) (#[], 0)).1

/-- For every row of the sorted rotations, the row that begins one byte later. -/
def successors (column : Array UInt8) : Array Nat :=
  let step := fun (acc : Array Nat × Array Nat × Nat) (b : UInt8) =>
    let (next, free, row) := acc
    (next.setIfInBounds (free.getD b.toNat 0) row, free.modify b.toNat (· + 1), row + 1)
  (column.foldl step (.replicate column.size 0, startIndexes column, 0)).1

def followRows (column : Array UInt8) (next : Array Nat) : Nat → Nat → List UInt8 → List UInt8
  | 0, _, taken => taken.reverse
  | n + 1, row, taken =>
    followRows column next n (next.getD row 0) (column.getD row 0 :: taken)

def unsort (column : Array UInt8) (row : Nat) : List UInt8 :=
  let next := successors column
  followRows column next column.size (next.getD row 0) []

end TurnByTurn.Compression
