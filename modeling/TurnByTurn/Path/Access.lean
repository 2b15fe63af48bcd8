import TurnByTurn.Path.Basic

namespace TurnByTurn

/-- The seconds from a node to the next one; never negative, and zero if they are not comparable. -/
def Node.timeTo (n next : Node) : Float32 :=
  let t := next.elapsed - n.elapsed
  if 0 < t then t else 0

namespace TripPath

def edgeAt (path : TripPath) (node : Nat) : Option Edge :=
  path.nodes[node]?.bind (·.edge)

def edgeBefore (path : TripPath) : Nat → Option Edge
  | 0 => none
  | node + 1 => path.edgeAt node

def edgeAfter (path : TripPath) (node : Nat) : Option Edge :=
  path.edgeAt (node + 1)

def lastNode (path : TripPath) : Nat :=
  path.nodes.length - 1

def edgeCount (path : TripPath) : Nat :=
  path.nodes.countP (·.edge.isSome)

def edgeTime (path : TripPath) (node : Nat) : Float32 :=
  match path.nodes[node]?, path.nodes[node + 1]? with
  | some here, some next => here.timeTo next
  | _, _ => 0

end TripPath

end TurnByTurn
