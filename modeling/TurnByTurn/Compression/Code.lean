import TurnByTurn.Compression.Bits

/-!
Prefix codes. Codes are assigned to symbols in the order of their lengths, and of symbols with codes
of one length in the order of the symbols.
-/

namespace TurnByTurn.Compression

inductive CodeTree where
  | missing
  | leaf (symbol : Nat)
  | node (zero one : CodeTree)
deriving Inhabited

namespace CodeTree

def insert (symbol : Nat) : List Bool → CodeTree → CodeTree
  | [], _ => leaf symbol
  | false :: path, node zero one => node (insert symbol path zero) one
  | true :: path, node zero one => node zero (insert symbol path one)
  | false :: path, _ => node (insert symbol path missing) missing
  | true :: path, _ => node missing (insert symbol path missing)

def read : CodeTree → List Bool → Except Fault (Nat × List Bool)
  | missing, _ => .error .corrupt
  | leaf symbol, bits => .ok (symbol, bits)
  | node _ _, [] => .error .truncated
  | node zero one, b :: rest => if b then one.read rest else zero.read rest

end CodeTree

def codePath (code length : Nat) : List Bool :=
  ((List.range length).map code.testBit).reverse

def symbolsOfLength (lengths : List Nat) (length : Nat) : List Nat :=
  lengths.zipIdx.filterMap fun (l, symbol) => if l = length then some symbol else none

structure CodeTable where
  tree : CodeTree
  code : Nat

def CodeTable.add (length : Nat) (t : CodeTable) (symbol : Nat) : CodeTable :=
  ⟨t.tree.insert symbol (codePath t.code length), t.code + 1⟩

def CodeTable.addLength (lengths : List Nat) (t : CodeTable) (length : Nat) : CodeTable :=
  (symbolsOfLength lengths length).foldl (CodeTable.add length) ⟨t.tree, 2 * t.code⟩

/-- A length of zero means that the symbol has no code. -/
def CodeTree.ofLengths (longest : Nat) (lengths : List Nat) : CodeTree :=
  (((List.range longest).map (· + 1)).foldl (CodeTable.addLength lengths) ⟨.missing, 0⟩).tree

def coverage (longest : Nat) (lengths : List Nat) : Nat :=
  ((lengths.filter (· ≠ 0)).map fun l => Nat.pow 2 (longest - l)).foldr (· + ·) 0

def isComplete (longest : Nat) (lengths : List Nat) : Bool :=
  coverage longest lengths == Nat.pow 2 longest

end TurnByTurn.Compression
