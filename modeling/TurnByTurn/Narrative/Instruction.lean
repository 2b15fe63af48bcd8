import TurnByTurn.Maneuver.Basic
import TurnByTurn.Narrative.Length
import TurnByTurn.Options
import TurnByTurn.Text.Lowercase

namespace TurnByTurn

def joinNames (names : List String) : String :=
  "/".intercalate names

namespace Maneuver

def shownNames (m : Maneuver) : List String :=
  if m.beginStreetNames.isEmpty then m.streetNames else m.beginStreetNames

def signText (m : Maneuver) (kind : SignKind) : String :=
  match m.signs with
  | some s => s.joined kind
  | none => ""

def destinationText (m : Maneuver) : String :=
  if (m.signText .exitToward).isEmpty then m.signText .exitBranch else m.signText .exitToward

end Maneuver

def Location.placeName (l : Location) : Option String :=
  l.name.or l.street

namespace Dictionary

def streetText (d : Dictionary) (m : Maneuver) : String :=
  if m.shownNames.isEmpty then d.unnamedRoad else joinNames m.shownNames

def onStreet (d : Dictionary) (m : Maneuver) (template : String) : String :=
  fill template [(.street, d.streetText m)]

def startText (d : Dictionary) (m : Maneuver) : String :=
  fill d.start [(.cardinal, d.direction m.direction), (.street, d.streetText m)]

def exitText (m : Maneuver) (plain numbered : String) : String :=
  if (m.signText .exitNumber).isEmpty then plain
  else fill numbered [(.number, m.signText .exitNumber)]

def withDestination (d : Dictionary) (m : Maneuver) (text : String) : String :=
  (if m.destinationText.isEmpty then text
    else text ++ fill d.toward [(.toward, m.destinationText)]) ++ "."

def roundaboutText (d : Dictionary) (m : Maneuver) : String :=
  match d.ordinal? m.roundaboutExits with
  | some ordinal => fill d.roundaboutEnterOrdinal [(.ordinal, ordinal)]
  | none => d.roundaboutEnter

def lineText (d : Dictionary) (route : Option TransitRoute) : String :=
  (route.bind fun r => r.shortName.or r.longName).getD d.transitGeneric

def transitText (d : Dictionary) (m : Maneuver) (plain toward : String) : String :=
  match m.route.bind (·.headsign) with
  | some headsign => fill toward [(.route, d.lineText m.route), (.headsign, headsign)]
  | none => fill plain [(.route, d.lineText m.route)]

def sideText? (d : Dictionary) : Option StreetSide → Option String
  | some .left => some d.destinationOnLeft
  | some .right => some d.destinationOnRight
  | some .neither => none
  | none => none

def arrivedText (d : Dictionary) (destination : Option Location) : String :=
  let text := match destination.bind (·.placeName) with
    | some place => fill d.arrivedAtPlace [(.place, place)]
    | none => d.arrived
  match d.sideText? (destination.bind (·.side)) with
  | some side => text ++ " " ++ side
  | none => text

def instruction (d : Dictionary) (destination : Option Location) (m : Maneuver) : String :=
  match m.kind with
  | .depart => d.startText m
  | .continueOn => d.onStreet m d.continueOn
  | .slightRight => d.onStreet m d.slightRight
  | .right => d.onStreet m d.right
  | .sharpRight => d.onStreet m d.sharpRight
  | .uturnRight => d.onStreet m d.uturnRight
  | .uturnLeft => d.onStreet m d.uturnLeft
  | .sharpLeft => d.onStreet m d.sharpLeft
  | .left => d.onStreet m d.left
  | .slightLeft => d.onStreet m d.slightLeft
  | .rampStraight => d.withDestination m d.rampStraight
  | .rampRight => d.withDestination m d.rampRight
  | .rampLeft => d.withDestination m d.rampLeft
  | .exitRight => d.withDestination m (exitText m d.exitRight d.exitNumberRight)
  | .exitLeft => d.withDestination m (exitText m d.exitLeft d.exitNumberLeft)
  | .merge => d.onStreet m d.merge
  | .roundaboutEnter => d.roundaboutText m
  | .roundaboutExit => d.onStreet m d.roundaboutExit
  | .ferryEnter => d.ferryEnter
  | .ferryExit => d.onStreet m d.ferryExit
  | .transit => d.transitText m d.transit d.transitToward
  | .transitTransfer => d.transitText m d.transitTransfer d.transitTransferToward
  | .arrive => d.arrivedText destination

def timedText (location : Option Location) (plain timed : String) : String :=
  match location.bind (·.dateTime) with
  | some time => fill timed [(.time, time)]
  | none => plain

end Dictionary

namespace Options

def postText (o : Options) (m : Maneuver) : Option String :=
  let d := o.dictionary
  match m.route with
  | some route =>
    match route.stopsAhead with
    | 0 => none
    | 1 => some d.stopCountOne
    | n => some (fill d.stopCount [(.count, toString n)])
  | none =>
    let length := d.lengthPhrase o.units m.length
    if m.streetNames.isEmpty then some (fill d.post [(.length, length)])
    else some (fill d.postNamed [(.length, length), (.street, joinNames m.streetNames)])

end Options

end TurnByTurn
