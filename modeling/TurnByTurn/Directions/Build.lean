import TurnByTurn.Directions.Basic
import TurnByTurn.Maneuver.Attach
import TurnByTurn.Maneuver.Build
import TurnByTurn.Narrative.Build
import TurnByTurn.Path.Headings

namespace TurnByTurn

def Directions.assemble (path : TripPath) (maneuvers : List Maneuver) (units : Units) :
    Directions :=
  let steps := maneuvers.map (Step.ofManeuver units)
  { tripId := path.tripId
    legId := path.legId
    legCount := path.legCount
    locations := path.locations.map Place.ofLocation
    summary :=
      { length := steps.foldl (fun sum s => sum + s.length) (-0.0)
        time := (path.nodes.getLast?.map (·.elapsed)).getD 0 }
    steps := steps
    shape := path.shape }

namespace TripPath

def guidedManeuvers (path : TripPath) : Except Failure (List Maneuver) := do
  path.attachTransit (path.attachSigns (← path.maneuvers?))

def directions (path : TripPath) (o : Options) : Except Failure Directions := do
  let corrected := path.normalizeHeadings
  let maneuvers ← corrected.guidedManeuvers
  return .assemble corrected (o.narrate corrected maneuvers) o.units

end TripPath

end TurnByTurn
