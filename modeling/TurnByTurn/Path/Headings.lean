import TurnByTurn.Path.Access

namespace TurnByTurn

/-- In kilometers. Shorter edges are left over from simplified geometry. -/
def minEdgeLength : Float32 := 0.003

namespace Edge

def isShort (e : Edge) : Bool :=
  e.length < minEdgeLength

/-- Not the opposite of short: a length that is not a number is neither. -/
def isTrusted (e : Edge) : Bool :=
  minEdgeLength ≤ e.length

def withHeadingsOf (e : Edge) (before after : Option Edge) : Edge :=
  { e with
    beginHeading := ((before.map (·.endHeading)).or (after.map (·.beginHeading))).getD e.beginHeading
    endHeading := ((after.map (·.beginHeading)).or (before.map (·.endHeading))).getD e.endHeading }

end Edge

namespace TripPath

/-- The edge that leaves a node, with its headings repaired. Only a trusted edge right beside it is
asked, so the middle one of three short edges in a row keeps its headings. -/
def repairedEdge (path : TripPath) (node : Nat) (e : Edge) : Edge :=
  if e.isShort then
    e.withHeadingsOf ((path.edgeBefore node).filter Edge.isTrusted)
      ((path.edgeAfter node).filter Edge.isTrusted)
  else e

def normalizeHeadings (path : TripPath) : TripPath :=
  { path with
    nodes := path.nodes.mapIdx fun i n => { n with edge := n.edge.map (path.repairedEdge i) } }

theorem length_nodes_normalizeHeadings (path : TripPath) :
    path.normalizeHeadings.nodes.length = path.nodes.length := by
  simp [normalizeHeadings]

theorem edgeAt_normalizeHeadings (path : TripPath) (node : Nat) :
    path.normalizeHeadings.edgeAt node = (path.edgeAt node).map (path.repairedEdge node) := by
  unfold normalizeHeadings edgeAt
  simp only [List.getElem?_mapIdx]
  cases path.nodes[node]? <;> rfl

end TripPath

end TurnByTurn
