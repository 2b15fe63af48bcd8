import TurnByTurn.Maneuver.Basic
import TurnByTurn.Path.Segments

namespace TurnByTurn

namespace Edge

def sameLine (prev e : Edge) : Bool :=
  match prev.line, e.line with
  | some a, some b => a.sameLine b
  | none, none => true
  | _, _ => false

def continuesName (prev e : Edge) : Bool :=
  (prev.streetNames.isEmpty && e.streetNames.isEmpty) ||
    e.streetNames.any fun name => prev.streetNames.contains name

def showsNewSign (prev e : Edge) : Bool :=
  !e.sign.isEmpty && e.sign != prev.sign

def changesRoad (prev e : Edge) : Bool :=
  prev.isFerry != e.isFerry || prev.isRamp != e.isRamp || prev.isHighway != e.isHighway

def turnOnto (prev e : Edge) : Turn :=
  Turn.between prev.endHeading e.beginHeading

end Edge

/-- Another way of travelling always begins a maneuver. Transit is divided by its lines alone, and
nothing inside a roundabout divides it. On other roads it takes another kind of road, a new sign, a
new name, or a real turn where other roads meet. -/
def Segment.beginsManeuver (prev : Edge) (s : Segment) : Bool :=
  let e := s.edge
  if prev.mode != e.mode then true
  else if prev.isTransit || e.isTransit then !prev.sameLine e
  else if prev.roundabout != e.roundabout then true
  else if e.roundabout then false
  else prev.changesRoad e || prev.showsNewSign e || !prev.continuesName e ||
    (!(prev.turnOnto e).isSlight && 0 < s.crossings)

def Turn.goesLeft (turn : Turn) (degree : Nat) : Bool :=
  turn.isLeft || (turn == .uTurn && 180 ≤ degree)

def Turn.goesRight (turn : Turn) (degree : Nat) : Bool :=
  turn.isRight || (turn == .uTurn && degree < 180)

def ManeuverKind.between (prev e : Edge) : ManeuverKind :=
  let degree := turnDegree prev.endHeading e.beginHeading
  let turn := Turn.ofDegree degree
  if e.isTransit then if prev.isTransit then transitTransfer else transit
  else if e.roundabout && !prev.roundabout then roundaboutEnter
  else if prev.roundabout && !e.roundabout then roundaboutExit
  else if e.isFerry && !prev.isFerry then ferryEnter
  else if prev.isFerry && !e.isFerry then ferryExit
  else if e.isRamp && !prev.isRamp && prev.isHighway then
    if turn.goesLeft degree then exitLeft else exitRight
  else if e.isRamp && !prev.isRamp then
    if turn.goesLeft degree then rampLeft
    else if turn.goesRight degree then rampRight
    else rampStraight
  else if prev.isRamp && !e.isRamp && e.isHighway then merge
  else ofTurn turn degree

end TurnByTurn
