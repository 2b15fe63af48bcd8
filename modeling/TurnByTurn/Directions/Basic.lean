import TurnByTurn.Maneuver.Basic

namespace TurnByTurn

def present (s : Option String) : Option String :=
  s.bind nonEmpty

namespace Directions

inductive PlaceKind where
  | stop
  | through
deriving DecidableEq, Repr

def PlaceKind.name : PlaceKind → String
  | stop => "break"
  | through => "through"

def PlaceKind.ofLocation : LocationKind → PlaceKind
  | .through => through
  | .stop | .via | .stopThrough => stop

structure Place where
  lat : Float
  lng : Float
  kind : PlaceKind
  heading : Option Nat
  name : Option String
  street : Option String
  city : Option String
  state : Option String
  postalCode : Option String
  country : Option String
  dateTime : Option String
  side : Option StreetSide
deriving DecidableEq, Repr

def Place.ofLocation (l : Location) : Place where
  lat := l.lat
  lng := l.lng
  kind := .ofLocation l.kind
  heading := l.heading
  name := present l.name
  street := present l.street
  city := present l.city
  state := present l.state
  postalCode := present l.postalCode
  country := present l.country
  dateTime := present l.dateTime
  side := l.side

structure Step where
  kind : ManeuverKind
  instruction : Option String
  streetNames : List String
  beginStreetNames : List String
  length : Float32
  time : Float32
  direction : Compass
  beginHeading : Nat
  beginShape : Nat
  endShape : Nat
  toll : Bool
  unpaved : Bool
  roundaboutExits : Nat
  alert : Option String
  pre : Option String
  post : Option String
  depart : Option String
  verbalDepart : Option String
  arrive : Option String
  verbalArrive : Option String
  signs : Option Signs
  route : Option TransitRoute
deriving DecidableEq, Repr

def Step.ofManeuver (units : Units) (m : Maneuver) : Step where
  kind := m.kind
  instruction := present m.texts.instruction
  streetNames := m.streetNames
  beginStreetNames := m.beginStreetNames
  length := m.lengthIn units
  time := m.time
  direction := m.direction
  beginHeading := m.beginHeading
  beginShape := m.beginShape
  endShape := m.endShape
  toll := m.toll
  unpaved := m.unpaved
  roundaboutExits := m.roundaboutExits
  alert := present m.texts.alert
  pre := present m.texts.pre
  post := present m.texts.post
  depart := present m.texts.depart
  verbalDepart := present m.texts.verbalDepart
  arrive := present m.texts.arrive
  verbalArrive := present m.texts.verbalArrive
  signs := m.signs
  route := m.route

structure Summary where
  length : Float32
  time : Float32
deriving DecidableEq, Repr

end Directions

structure Directions where
  tripId : Nat
  legId : Nat
  legCount : Nat
  locations : List Directions.Place
  summary : Directions.Summary
  steps : List Directions.Step
  shape : String
deriving DecidableEq, Repr

end TurnByTurn
