import TurnByTurn.Proofs.Maneuver.Homogeneous
import TurnByTurn.Proofs.Maneuver.ShownNames

/-!
The two lists of names of a maneuver. It goes by the names of its last edge; those of its first edge
are kept beside them where they are news, which is to say neither the same nor what the maneuver
before ended on.
-/

namespace TurnByTurn

namespace Stretch

end Stretch

namespace TripPath

variable {path : TripPath}

example : lanes.maneuvers.map (fun m => (m.beginStreetNames, m.streetNames)) =
    [([], ["Elm Lane"]), (["Main Street"], ["Broad Street"]), ([], ["Broad Street"])] := by
  decide +kernel

end TripPath

end TurnByTurn
