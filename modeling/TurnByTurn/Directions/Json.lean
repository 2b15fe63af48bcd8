import TurnByTurn.Directions.Basic
import TurnByTurn.Json

namespace TurnByTurn

open Json

def optionalText (key : String) (s : Option String) : List (String × Json) :=
  optional key (s.map .text)

def optionalFlag (key : String) (b : Bool) : List (String × Json) :=
  if b then [(key, .bool true)] else []

def optionalCount (key : String) (n : Nat) : List (String × Json) :=
  if n = 0 then [] else [(key, .nat n)]

def optionalList {α : Type} (key : String) (f : α → Json) (items : List α) :
    List (String × Json) :=
  if items.isEmpty then [] else [(key, .list (items.map f))]

def SignElement.toJson (e : SignElement) : Json :=
  .object [("text", .text e.text), ("consecutive_count", .nat e.count)]

def SignElement.listToJson (elements : List SignElement) : Json :=
  .list (elements.map toJson)

def Signs.toJson (s : Signs) : Json :=
  .object (
    optional "exit_number_elements" (s.exitNumbers.map SignElement.listToJson) ++
    optional "exit_branch_elements" (s.exitBranches.map SignElement.listToJson) ++
    optional "exit_toward_elements" (s.exitTowards.map SignElement.listToJson) ++
    optional "exit_name_elements" (s.exitNames.map SignElement.listToJson))

def TransitStop.toJson (s : TransitStop) : Json :=
  .object (
    [("type", .text s.kind.name)] ++
    optionalText "onestop_id" s.id ++
    optionalText "name" s.name ++
    optionalText "arrival_date_time" s.arrival ++
    optionalText "departure_date_time" s.departure)

def TransitRoute.toJson (r : TransitRoute) : Json :=
  .object (
    optionalText "onestop_id" r.id ++
    optionalText "short_name" r.shortName ++
    optionalText "long_name" r.longName ++
    optionalText "headsign" r.headsign ++
    [("color", .nat r.color), ("text_color", .nat r.textColor)] ++
    optionalText "operator_onestop_id" r.operatorId ++
    optionalList "transit_stops" TransitStop.toJson r.stops)

namespace Directions

def Place.toJson (p : Place) : Json :=
  .object (
    [("lat", .double p.lat), ("lng", .double p.lng), ("type", .text p.kind.name)] ++
    optional "heading" (p.heading.map .nat) ++
    optionalText "name" p.name ++
    optionalText "street" p.street ++
    optionalText "city" p.city ++
    optionalText "state" p.state ++
    optionalText "postal_code" p.postalCode ++
    optionalText "country" p.country ++
    optionalText "date_time" p.dateTime ++
    optionalText "side_of_street" (p.side.map (·.name)))

def Step.toJson (s : Step) : Json :=
  .object (
    [("type", .text s.kind.name)] ++
    optionalText "instruction" s.instruction ++
    optionalList "street_names" .text s.streetNames ++
    optionalList "begin_street_names" .text s.beginStreetNames ++
    [("length", .single s.length), ("time", .single s.time),
      ("begin_cardinal_direction", .text s.direction.name),
      ("begin_heading", .nat s.beginHeading),
      ("begin_shape_index", .nat s.beginShape),
      ("end_shape_index", .nat s.endShape)] ++
    optionalFlag "portions_toll" s.toll ++
    optionalFlag "portions_unpaved" s.unpaved ++
    optionalCount "roundabout_exit_count" s.roundaboutExits ++
    optionalText "verbal_transition_alert_instruction" s.alert ++
    optionalText "verbal_pre_transition_instruction" s.pre ++
    optionalText "verbal_post_transition_instruction" s.post ++
    optionalText "depart_instruction" s.depart ++
    optionalText "verbal_depart_instruction" s.verbalDepart ++
    optionalText "arrive_instruction" s.arrive ++
    optionalText "verbal_arrive_instruction" s.verbalArrive ++
    optional "sign" (s.signs.map (·.toJson)) ++
    optional "transit_info" (s.route.map (·.toJson)))

def Summary.toJson (s : Summary) : Json :=
  .object [("length", .single s.length), ("time", .single s.time)]

def toJson (d : Directions) : Json :=
  .object [("trip_id", .nat d.tripId), ("leg_id", .nat d.legId), ("leg_count", .nat d.legCount),
    ("locations", .list (d.locations.map Place.toJson)), ("summary", d.summary.toJson),
    ("maneuvers", .list (d.steps.map Step.toJson)), ("shape", .text d.shape)]

end Directions

end TurnByTurn
