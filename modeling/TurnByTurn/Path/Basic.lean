import TurnByTurn.Path.Names

namespace TurnByTurn

inductive Usage where
  | road
  | ramp
  | turnChannel
  | ferry
  | footway
  | cycleway
  | rail
  | bus
  | transitConnection
deriving DecidableEq, Repr, Inhabited

namespace Usage

def name : Usage → String
  | road => "road"
  | ramp => "ramp"
  | turnChannel => "turn_channel"
  | ferry => "ferry"
  | footway => "footway"
  | cycleway => "cycleway"
  | rail => "rail"
  | bus => "bus"
  | transitConnection => "transit_connection"

def ofName? : String → Option Usage
  | "road" => some road
  | "ramp" => some ramp
  | "turn_channel" => some turnChannel
  | "ferry" => some ferry
  | "footway" => some footway
  | "cycleway" => some cycleway
  | "rail" => some rail
  | "bus" => some bus
  | "transit_connection" => some transitConnection
  | _ => none

end Usage

inductive TravelMode where
  | drive
  | pedestrian
  | bicycle
  | transit
deriving DecidableEq, Repr, Inhabited

namespace TravelMode

def name : TravelMode → String
  | drive => "drive"
  | pedestrian => "pedestrian"
  | bicycle => "bicycle"
  | transit => "transit"

def ofName? : String → Option TravelMode
  | "drive" => some drive
  | "pedestrian" => some pedestrian
  | "bicycle" => some bicycle
  | "transit" => some transit
  | _ => none

end TravelMode

inductive SignKind where
  | exitNumber
  | exitBranch
  | exitToward
  | exitName
deriving DecidableEq, Repr

namespace SignKind

def name : SignKind → String
  | exitNumber => "exit_number"
  | exitBranch => "exit_branch"
  | exitToward => "exit_toward"
  | exitName => "exit_name"

def ofName? : String → Option SignKind
  | "exit_number" => some exitNumber
  | "exit_branch" => some exitBranch
  | "exit_toward" => some exitToward
  | "exit_name" => some exitName
  | _ => none

end SignKind

structure SignToken where
  kind : SignKind
  text : String
deriving DecidableEq, Repr

/-- The line that a transit edge belongs to. Texts that are missing are empty. -/
structure TransitLine where
  id : String := ""
  shortName : String := ""
  longName : String := ""
  headsign : String := ""
  color : Nat := 0
  textColor : Nat := 0
  operatorId : String := ""
deriving DecidableEq, Repr, Inhabited

def TransitLine.sameLine (a b : TransitLine) : Bool :=
  a.id == b.id && a.shortName == b.shortName

inductive StopKind where
  | stop
  | station
deriving DecidableEq, Repr, Inhabited

namespace StopKind

def name : StopKind → String
  | stop => "stop"
  | station => "station"

def ofName? : String → Option StopKind
  | "stop" => some stop
  | "station" => some station
  | _ => none

end StopKind

/-- A transit stop at a node. Texts that are missing are empty. -/
structure StopInfo where
  kind : StopKind := .stop
  id : String := ""
  name : String := ""
  arrival : String := ""
  departure : String := ""
deriving DecidableEq, Repr, Inhabited

structure Edge where
  /-- In kilometers. -/
  length : Float32 := 0
  /-- Compass bearings in degrees at both ends. -/
  beginHeading : Nat := 0
  endHeading : Nat := 0
  beginShape : Nat := 0
  endShape : Nat := 0
  roadClass : RoadClass := .serviceOther
  usage : Usage := .road
  mode : TravelMode := .drive
  names : NameTags := {}
  sign : List SignToken := []
  line : Option TransitLine := none
  roundabout : Bool := false
  toll : Bool := false
  unpaved : Bool := false
deriving DecidableEq, Repr, Inhabited

namespace Edge

def streetNames (e : Edge) : List String :=
  e.names.streetNames e.roadClass

def isHighway (e : Edge) : Bool :=
  e.roadClass.isHighway

def isRamp (e : Edge) : Bool :=
  e.usage == .ramp

def isFerry (e : Edge) : Bool :=
  e.usage == .ferry

def isTransit (e : Edge) : Bool :=
  e.mode == .transit

end Edge

structure Node where
  /-- The edge that leaves the node; the last node has none. -/
  edge : Option Edge := none
  /-- Seconds from the start of the trip. -/
  elapsed : Float32 := 0
  /-- How many edges meet here besides those of the path. -/
  crossings : Nat := 0
  stop : Option StopInfo := none
deriving DecidableEq, Repr, Inhabited

inductive LocationKind where
  | stop
  | through
  | via
  | stopThrough
deriving DecidableEq, Repr, Inhabited

namespace LocationKind

def name : LocationKind → String
  | stop => "break"
  | through => "through"
  | via => "via"
  | stopThrough => "break_through"

def ofName? : String → Option LocationKind
  | "break" => some stop
  | "through" => some through
  | "via" => some via
  | "break_through" => some stopThrough
  | _ => none

end LocationKind

inductive StreetSide where
  | left
  | right
  | neither
deriving DecidableEq, Repr

namespace StreetSide

def name : StreetSide → String
  | left => "left"
  | right => "right"
  | neither => "none"

def ofName? : String → Option StreetSide
  | "left" => some left
  | "right" => some right
  | "none" => some neither
  | _ => none

end StreetSide

structure Location where
  lat : Float := 0
  lng : Float := 0
  kind : LocationKind := .stop
  heading : Option Nat := none
  name : Option String := none
  street : Option String := none
  city : Option String := none
  state : Option String := none
  postalCode : Option String := none
  country : Option String := none
  dateTime : Option String := none
  side : Option StreetSide := none
deriving DecidableEq, Repr, Inhabited

def Location.texts (l : Location) : List (Option String) :=
  [l.name, l.street, l.city, l.state, l.postalCode, l.country, l.dateTime]

structure TripPath where
  tripId : Nat := 0
  legId : Nat := 0
  legCount : Nat := 0
  locations : List Location := []
  nodes : List Node := []
  /-- The encoded geometry, to whose points the shape indices of edges refer. -/
  shape : String := ""
deriving DecidableEq, Repr, Inhabited

end TurnByTurn
