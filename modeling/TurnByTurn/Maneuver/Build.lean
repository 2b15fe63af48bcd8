import TurnByTurn.Failure
import TurnByTurn.Maneuver.Boundary

namespace TurnByTurn

def Edge.distinctNames (e : Edge) : List String :=
  e.streetNames.eraseDups

namespace Maneuver

def extend (m : Maneuver) (s : Segment) : Maneuver :=
  { m with
    endNode := s.node + 1
    endShape := s.edge.endShape
    length := m.length + s.edge.length
    time := m.time + s.time
    streetNames := s.edge.distinctNames
    toll := m.toll || s.edge.toll
    unpaved := m.unpaved || s.edge.unpaved
    roundaboutExits := m.roundaboutExits +
      if m.kind = .roundaboutEnter && s.edge.roundabout then 1 else 0 }

def finish (m : Maneuver) : Maneuver :=
  if m.beginStreetNames = m.streetNames then { m with beginStreetNames := [] } else m

def departAt (s : Segment) : Maneuver :=
  start .depart s.node s.edge.beginShape s.edge.beginHeading

def next (previousNames : List String) (prev : Edge) (s : Segment) : Maneuver :=
  { start (.between prev s.edge) s.node s.edge.beginShape s.edge.beginHeading with
    turn := prev.turnOnto s.edge
    beginStreetNames := if s.edge.distinctNames = previousNames then [] else s.edge.distinctNames }

def arriveAt (node : Nat) (last : Option Edge) (names : List String) : Maneuver :=
  { start .arrive node ((last.map (·.endShape)).getD 0) ((last.map (·.endHeading)).getD 0) with
    streetNames := names }

end Maneuver

/-- The maneuvers that are complete, the latest first, the one under way, and its last edge. -/
structure Itinerary where
  done : List Maneuver
  current : Maneuver
  last : Edge

namespace Itinerary

def depart (s : Segment) : Itinerary where
  done := []
  current := (Maneuver.departAt s).extend s
  last := s.edge

def advance (i : Itinerary) (s : Segment) : Itinerary :=
  if s.beginsManeuver i.last then
    { done := i.current.finish :: i.done
      current := (Maneuver.next i.current.streetNames i.last s).extend s
      last := s.edge }
  else { i with current := i.current.extend s, last := s.edge }

theorem last_advance (i : Itinerary) (s : Segment) : (i.advance s).last = s.edge := by
  unfold advance
  split <;> rfl

def arrive (i : Itinerary) (node : Nat) : List Maneuver :=
  (Maneuver.arriveAt node (some i.last) i.current.streetNames :: i.current.finish :: i.done).reverse

end Itinerary

def TripPath.maneuvers (path : TripPath) : List Maneuver :=
  match path.segments with
  | [] => [.start .depart 0 0 0, .arriveAt path.lastNode none []]
  | s :: rest => (rest.foldl Itinerary.advance (.depart s)).arrive path.lastNode

theorem TripPath.maneuvers_ne_nil (path : TripPath) : path.maneuvers ≠ [] := by
  unfold maneuvers
  split <;> simp [Itinerary.arrive]

def TripPath.maneuvers? (path : TripPath) : Except Failure (List Maneuver) :=
  if path.nodes.isEmpty then .error .emptyPath else .ok path.maneuvers

end TurnByTurn
