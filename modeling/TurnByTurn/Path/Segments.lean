import TurnByTurn.Path.Access

namespace TurnByTurn

structure Segment where
  node : Nat
  crossings : Nat
  edge : Edge
  time : Float32
deriving DecidableEq, Repr

def Node.timeToFirst (n : Node) : List Node → Float32
  | [] => 0
  | next :: _ => n.timeTo next

def Node.segment? (n : Node) (index : Nat) (following : List Node) : Option Segment :=
  n.edge.map fun e => ⟨index, n.crossings, e, n.timeToFirst following⟩

def segmentsFrom : Nat → List Node → List Segment
  | _, [] => []
  | index, n :: rest => (n.segment? index rest).toList ++ segmentsFrom (index + 1) rest

def TripPath.segments (path : TripPath) : List Segment :=
  segmentsFrom 0 path.nodes

theorem length_segmentsFrom (index : Nat) (nodes : List Node) :
    (segmentsFrom index nodes).length = nodes.countP (·.edge.isSome) := by
  induction nodes generalizing index with
  | nil => rfl
  | cons n rest ih => cases h : n.edge <;> simp [segmentsFrom, Node.segment?, h, ih, Nat.add_comm]

theorem TripPath.length_segments (path : TripPath) : path.segments.length = path.edgeCount :=
  length_segmentsFrom 0 path.nodes

end TurnByTurn
