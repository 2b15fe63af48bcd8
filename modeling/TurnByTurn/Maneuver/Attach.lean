import TurnByTurn.Failure
import TurnByTurn.Maneuver.Basic

namespace TurnByTurn

namespace TripPath

def withSigns (path : TripPath) (m : Maneuver) : Maneuver :=
  if 0 < m.edgeCount then
    { m with signs := (path.edgeAt m.beginNode).bind fun e => Signs.ofTokens? e.sign }
  else m

def attachSigns (path : TripPath) (maneuvers : List Maneuver) : List Maneuver :=
  maneuvers.map path.withSigns

def lineOf (path : TripPath) (m : Maneuver) : Option TransitLine :=
  match path.edgeAt m.beginNode with
  | some e => if e.isTransit && 0 < m.edgeCount then e.line else none
  | none => none

def withTransit (path : TripPath) (m : Maneuver) : Except Failure Maneuver :=
  match path.lineOf m with
  | none => .ok { m with route := none }
  | some line =>
    match path.stopsBetween? m.beginNode m.endNode with
    | some stops => .ok { m with route := some (.ofLine line stops) }
    | none => .error .transitBeyondPath

def attachTransit (path : TripPath) (maneuvers : List Maneuver) :
    Except Failure (List Maneuver) :=
  maneuvers.mapM path.withTransit

end TripPath

end TurnByTurn
