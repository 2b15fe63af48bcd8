import TurnByTurn.Path.Access

namespace TurnByTurn

def nonEmpty (s : String) : Option String :=
  if s.isEmpty then none else some s

theorem nonEmpty_eq_some_iff {s t : String} : nonEmpty s = some t ↔ s = t ∧ t ≠ "" := by
  unfold nonEmpty
  split
  · simp_all
  · grind [String.isEmpty_iff]

structure TransitStop where
  kind : StopKind
  id : Option String
  name : Option String
  arrival : Option String
  departure : Option String
deriving DecidableEq, Repr

def TransitStop.ofInfo (s : StopInfo) : TransitStop where
  kind := s.kind
  id := nonEmpty s.id
  name := nonEmpty s.name
  arrival := nonEmpty s.arrival
  departure := nonEmpty s.departure

structure TransitRoute where
  id : Option String
  shortName : Option String
  longName : Option String
  headsign : Option String
  color : Nat
  textColor : Nat
  operatorId : Option String
  stops : List TransitStop
deriving DecidableEq, Repr

namespace TransitRoute

def ofLine (l : TransitLine) (stops : List TransitStop) : TransitRoute where
  id := nonEmpty l.id
  shortName := nonEmpty l.shortName
  longName := nonEmpty l.longName
  headsign := nonEmpty l.headsign
  color := l.color
  textColor := l.textColor
  operatorId := nonEmpty l.operatorId
  stops := stops

def stopsAhead (r : TransitRoute) : Nat :=
  r.stops.length - 1

end TransitRoute

def TripPath.stopsBetween? (path : TripPath) (first last : Nat) : Option (List TransitStop) :=
  if last < path.nodes.length then
    some ((((path.nodes.take (last + 1)).drop first).filterMap (·.stop)).map TransitStop.ofInfo)
  else none

end TurnByTurn
