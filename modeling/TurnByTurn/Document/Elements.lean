import TurnByTurn.Document.Attributes

/-!
The elements of a trip document, from their attributes. Attributes are checked in the order in which
they are listed here.
-/

namespace TurnByTurn.Document

def readTripPath (a : Attributes) : Except Failure TripPath := do
  let tripId ← a.readD "trip_id" identifier? 0
  let legId ← a.readD "leg_id" count? 0
  let legCount ← a.readD "leg_count" count? 1
  return { tripId, legId, legCount, shape := a.text "shape" }

def readLocation (a : Attributes) : Except Failure Location := do
  let lat ← a.required "lat" Decimal.double?
  let lng ← a.required "lng" Decimal.double?
  a.requiring "lat" lat.isFinite
  a.requiring "lng" lng.isFinite
  let kind ← a.readD "type" (named? LocationKind.ofName?) .stop
  let heading ← a.read? "heading" count?
  let side ← a.read? "side_of_street" (named? StreetSide.ofName?)
  return {
    lat, lng, kind, heading, side
    name := a.text? "name"
    street := a.text? "street"
    city := a.text? "city"
    state := a.text? "state"
    postalCode := a.text? "postal_code"
    country := a.text? "country"
    dateTime := a.text? "date_time" }

def readNode (a : Attributes) : Except Failure Node := do
  let elapsed ← a.readD "elapsed_time" Decimal.single? 0
  let crossings ← a.readD "intersecting_edges" count? 0
  return { elapsed, crossings }

def readEdge (a : Attributes) : Except Failure Edge := do
  let length ← a.required "length" Decimal.single?
  a.requiring "length" (length.isFinite && !(length < 0))
  let beginHeading ← a.readD "begin_heading" count? 0
  let endHeading ← a.readD "end_heading" count? 0
  let beginShape ← a.readD "begin_shape_index" count? 0
  let endShape ← a.readD "end_shape_index" count? 0
  let roadClass ← a.readD "road_class" (named? RoadClass.ofName?) .serviceOther
  let usage ← a.readD "use" (named? Usage.ofName?) .road
  let mode ← a.readD "travel_mode" (named? TravelMode.ofName?) .drive
  let roundabout ← a.readD "roundabout" flag? false
  let toll ← a.readD "toll" flag? false
  let unpaved ← a.readD "unpaved" flag? false
  return {
    length, beginShape, endShape, roadClass, usage, mode, roundabout, toll, unpaved
    beginHeading := beginHeading % 360
    endHeading := endHeading % 360 }

def readTag (a : Attributes) : Except Failure (String × String) :=
  match a.text? "k" with
  | some key => .ok (key, a.text "v")
  | none => .error (a.invalid "k")

def readLine (a : Attributes) : Except Failure TransitLine := do
  let color ← a.readD "color" color? 0
  let textColor ← a.readD "text_color" color? 0
  return {
    color, textColor
    id := a.text "onestop_id"
    shortName := a.text "short_name"
    longName := a.text "long_name"
    headsign := a.text "headsign"
    operatorId := a.text "operator_onestop_id" }

def readStop (a : Attributes) : Except Failure StopInfo := do
  let kind ← a.readD "type" (named? StopKind.ofName?) .stop
  return {
    kind
    id := a.text "onestop_id"
    name := a.text "name"
    arrival := a.text "arrival_date_time"
    departure := a.text "departure_date_time" }

end TurnByTurn.Document
