import TurnByTurn.Compass
import TurnByTurn.Sign
import TurnByTurn.Transit
import TurnByTurn.Turn
import TurnByTurn.Units

namespace TurnByTurn

inductive ManeuverKind where
  | depart
  | continueOn
  | slightRight
  | right
  | sharpRight
  | uturnRight
  | uturnLeft
  | sharpLeft
  | left
  | slightLeft
  | rampStraight
  | rampRight
  | rampLeft
  | exitRight
  | exitLeft
  | merge
  | roundaboutEnter
  | roundaboutExit
  | ferryEnter
  | ferryExit
  | transit
  | transitTransfer
  | arrive
deriving DecidableEq, Repr, Inhabited

namespace ManeuverKind

def all : List ManeuverKind :=
  [depart, continueOn, slightRight, right, sharpRight, uturnRight, uturnLeft, sharpLeft, left,
    slightLeft, rampStraight, rampRight, rampLeft, exitRight, exitLeft, merge, roundaboutEnter,
    roundaboutExit, ferryEnter, ferryExit, transit, transitTransfer, arrive]

def name : ManeuverKind → String
  | depart => "depart"
  | continueOn => "continue"
  | slightRight => "slight_right"
  | right => "right"
  | sharpRight => "sharp_right"
  | uturnRight => "uturn_right"
  | uturnLeft => "uturn_left"
  | sharpLeft => "sharp_left"
  | left => "left"
  | slightLeft => "slight_left"
  | rampStraight => "ramp_straight"
  | rampRight => "ramp_right"
  | rampLeft => "ramp_left"
  | exitRight => "exit_right"
  | exitLeft => "exit_left"
  | merge => "merge"
  | roundaboutEnter => "roundabout_enter"
  | roundaboutExit => "roundabout_exit"
  | ferryEnter => "ferry_enter"
  | ferryExit => "ferry_exit"
  | transit => "transit"
  | transitTransfer => "transit_transfer"
  | arrive => "arrive"

def ofTurn (turn : Turn) (degree : Nat) : ManeuverKind :=
  match turn with
  | .straight => continueOn
  | .slightRight => slightRight
  | .right => right
  | .sharpRight => sharpRight
  | .uTurn => if degree < 180 then uturnRight else uturnLeft
  | .sharpLeft => sharpLeft
  | .left => left
  | .slightLeft => slightLeft

def isTransit : ManeuverKind → Bool
  | transit | transitTransfer => true
  | _ => false

end ManeuverKind

structure Narration where
  instruction : Option String := none
  alert : Option String := none
  pre : Option String := none
  post : Option String := none
  depart : Option String := none
  verbalDepart : Option String := none
  arrive : Option String := none
  verbalArrive : Option String := none
deriving DecidableEq, Repr, Inhabited

structure Maneuver where
  kind : ManeuverKind
  turn : Turn := .straight
  /-- Its edges leave the nodes from the first index up to, but not including, the second. -/
  beginNode : Nat
  endNode : Nat
  beginShape : Nat
  endShape : Nat
  /-- In kilometers. -/
  length : Float32 := 0
  /-- In seconds. -/
  time : Float32 := 0
  beginHeading : Nat
  direction : Compass
  /-- The names of its last edge. -/
  streetNames : List String := []
  /-- The names of its first edge, where they are news to the traveler. -/
  beginStreetNames : List String := []
  toll : Bool := false
  unpaved : Bool := false
  roundaboutExits : Nat := 0
  signs : Option Signs := none
  route : Option TransitRoute := none
  texts : Narration := {}
deriving DecidableEq, Repr

namespace Maneuver

def start (kind : ManeuverKind) (node shape heading : Nat) : Maneuver where
  kind := kind
  beginNode := node
  endNode := node
  beginShape := shape
  endShape := shape
  beginHeading := heading
  direction := .ofHeading heading

def lengthIn (m : Maneuver) (units : Units) : Float32 :=
  units.convert m.length

def edgeCount (m : Maneuver) : Nat :=
  m.endNode - m.beginNode

def isTransit (m : Maneuver) : Bool :=
  m.kind.isTransit

end Maneuver

end TurnByTurn
