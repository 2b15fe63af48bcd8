import TurnByTurn.Directions.Build
import TurnByTurn.Options
import TurnByTurn.Text.Quoted

namespace TurnByTurn

inductive Record where
  | unknownUnits (given : String)
  | otherRegion (given used : String)
  | unknownLanguage (given used : String)
  | headingCorrected (node : Nat) (e corrected : Edge)
  | grouped (trip edges maneuvers : Nat)
  | signsAttached (trip count : Nat)
  | transitAttached (trip node : Nat) (line : String) (stops : Nat)
  | reading (format : String)
  | unknownTag (key value : String)
deriving DecidableEq, Repr

inductive Level where
  | warn
  | debug
  | trace
deriving DecidableEq, Repr

def Level.name : Level → String
  | warn => "WARN"
  | debug => "DEBUG"
  | trace => "TRACE"

namespace Record

def level : Record → Level
  | unknownUnits .. | otherRegion .. | unknownLanguage .. => .warn
  | grouped .. | signsAttached .. | transitAttached .. | reading .. => .debug
  | headingCorrected .. | unknownTag .. => .trace

def headingsText (e : Edge) : String :=
  toString e.beginHeading ++ "-" ++ toString e.endHeading

def text : Record → String
  | unknownUnits given =>
    "unrecognized units " ++ Text.quoted given ++ ", using Kilometers"
  | otherRegion given used =>
    "no dictionary for language " ++ Text.quoted given ++ ", using " ++ used
  | unknownLanguage given used =>
    "unrecognized language " ++ Text.quoted given ++ ", using " ++ used
  | headingCorrected node e corrected =>
    "node " ++ toString node ++ ": heading " ++ headingsText e ++ " corrected to " ++
      headingsText corrected
  | grouped trip edges maneuvers =>
    "trip " ++ toString trip ++ ": " ++ toString edges ++ " edges grouped into " ++
      toString maneuvers ++ " maneuvers"
  | signsAttached trip count =>
    "trip " ++ toString trip ++ ": signs attached to " ++ toString count ++ " maneuvers"
  | transitAttached trip node line stops =>
    "trip " ++ toString trip ++ ": transit maneuver at node " ++ toString node ++ " on route " ++
      Text.quoted line ++ " with " ++ toString stops ++ " stops"
  | reading format => "reading trip path as " ++ format
  | unknownTag key value => "ignoring unknown edge tag " ++ key ++ "=" ++ value

end Record

namespace Units

def records (given : String) : List Record :=
  if (ofText? given).isSome then [] else [.unknownUnits given]

end Units

namespace Dictionary

def records (language : String) : List Record :=
  match resolve language with
  | (_, .exact) => []
  | (d, .subtag) => [.otherRegion (Text.trim language) d.language]
  | (d, .fallback) => [.unknownLanguage (Text.trim language) d.language]

end Dictionary

def Options.records (units language : String) : List Record :=
  Units.records units ++ Dictionary.records language

namespace TripPath

def headingRecord? (path : TripPath) (node : Nat) (e : Edge) : Option Record :=
  let corrected := path.repairedEdge node e
  if corrected.beginHeading = e.beginHeading && corrected.endHeading = e.endHeading then none
  else some (.headingCorrected node e corrected)

def headingRecords (path : TripPath) : List Record :=
  path.nodes.zipIdx.filterMap fun (n, node) => n.edge.bind (path.headingRecord? node)

def maneuverRecords (path : TripPath) : List Record :=
  if path.nodes.isEmpty then []
  else [.grouped path.tripId path.edgeCount path.maneuvers.length]

def signRecords (path : TripPath) (maneuvers : List Maneuver) : List Record :=
  let moving := maneuvers.filter (0 < ·.edgeCount)
  [.signsAttached path.tripId ((path.attachSigns moving).countP (·.signs.isSome))]

def transitRecord? (path : TripPath) (m : Maneuver) : Option Record :=
  match path.lineOf m, path.stopsBetween? m.beginNode m.endNode with
  | some line, some stops =>
    some (.transitAttached path.tripId m.beginNode line.id stops.length)
  | _, _ => none

/-- Nothing is reported from the first maneuver on that fails. -/
def transitRecords (path : TripPath) (maneuvers : List Maneuver) : List Record :=
  (maneuvers.takeWhile fun m => (path.withTransit m).isOk).filterMap path.transitRecord?

def directionsRecords (path : TripPath) : List Record :=
  let corrected := path.normalizeHeadings
  if path.nodes.isEmpty then []
  else path.headingRecords ++ corrected.maneuverRecords ++
    corrected.signRecords corrected.maneuvers ++ corrected.transitRecords corrected.maneuvers

end TripPath

end TurnByTurn
