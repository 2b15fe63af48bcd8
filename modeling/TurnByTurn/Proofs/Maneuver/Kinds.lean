import Mathlib.Tactic.SplitIfs
import TurnByTurn.Maneuver.Build

namespace TurnByTurn

def Segment.kindAfter? (prev : Edge) (s : Segment) : Option ManeuverKind :=
  if s.beginsManeuver prev then some (.between prev s.edge) else none

def kindsAfter : Edge → List Segment → List ManeuverKind
  | _, [] => []
  | prev, s :: rest => (s.kindAfter? prev).toList ++ kindsAfter s.edge rest

def kindsWithin : List Segment → List ManeuverKind
  | [] => []
  | s :: rest => kindsAfter s.edge rest

theorem kindsAfter_append (prev : Edge) (before after : List Segment) (s : Segment) :
    kindsAfter prev (before ++ s :: after) =
      kindsAfter prev (before ++ [s]) ++ kindsAfter s.edge after := by
  induction before generalizing prev with
  | nil => simp [kindsAfter]
  | cons t before ih => simp [kindsAfter, ih]

theorem kindsWithin_append (before after : List Segment) (s : Segment) :
    kindsWithin (before ++ s :: after) =
      kindsWithin (before ++ [s]) ++ kindsAfter s.edge after := by
  cases before with
  | nil => rfl
  | cons t before => exact kindsAfter_append t.edge before after s

namespace Maneuver

@[simp]
theorem kind_extend (m : Maneuver) (s : Segment) : (m.extend s).kind = m.kind := rfl

@[simp]
theorem kind_finish (m : Maneuver) : m.finish.kind = m.kind := by
  unfold finish
  split <;> rfl

end Maneuver

theorem Itinerary.map_kind_arrive (i : Itinerary) (rest : List Segment) (node : Nat) :
    ((rest.foldl advance i).arrive node).map (·.kind) =
      (i.done.reverse.map (·.kind) ++ i.current.kind :: kindsAfter i.last rest) ++ [.arrive] := by
  induction rest generalizing i with
  | nil => simp [arrive, kindsAfter, Maneuver.arriveAt, Maneuver.start]
  | cons s rest ih =>
    rw [List.foldl_cons, ih, last_advance, kindsAfter, Segment.kindAfter?]
    unfold advance
    split_ifs
    · simp [Maneuver.next, Maneuver.start]
    · simp

theorem TripPath.map_kind_maneuvers (path : TripPath) :
    path.maneuvers.map (·.kind) = .depart :: kindsWithin path.segments ++ [.arrive] := by
  unfold maneuvers
  split
  · next h => rw [h]; rfl
  · next s rest h =>
    rw [h, Itinerary.map_kind_arrive]
    rfl

def Segment.bare (s : Segment) : Segment := { s with node := 0, time := 0 }

theorem kindsAfter_map_bare (prev : Edge) (segments : List Segment) :
    kindsAfter prev (segments.map Segment.bare) = kindsAfter prev segments := by
  induction segments generalizing prev with
  | nil => rfl
  | cons s rest ih =>
    rw [List.map_cons, kindsAfter, kindsAfter]
    exact congrArg _ (ih s.edge)

theorem kindsWithin_map_bare (segments : List Segment) :
    kindsWithin (segments.map Segment.bare) = kindsWithin segments := by
  cases segments with
  | nil => rfl
  | cons s rest => exact kindsAfter_map_bare s.edge rest

def Node.bareSegment? (n : Node) : Option Segment :=
  n.edge.map fun e => ⟨0, n.crossings, e, 0⟩

theorem map_bare_segmentsFrom (index : Nat) (nodes : List Node) :
    (segmentsFrom index nodes).map Segment.bare = nodes.filterMap Node.bareSegment? := by
  induction nodes generalizing index with
  | nil => rfl
  | cons n rest ih =>
    rw [segmentsFrom, List.map_append, ih, List.filterMap_cons]
    unfold Node.segment? Node.bareSegment?
    cases n.edge <;> rfl

theorem TripPath.map_kind_maneuvers_of_nodes {path : TripPath} {before after : List Node} {n : Node}
    {e : Edge} (h : path.nodes = before ++ n :: after) (hn : n.edge = some e) :
    path.maneuvers.map (·.kind) =
      .depart :: kindsWithin (before.filterMap Node.bareSegment? ++ [⟨0, n.crossings, e, 0⟩]) ++
        (kindsAfter e (after.filterMap Node.bareSegment?) ++ [.arrive]) := by
  have hbare : n.bareSegment? = some ⟨0, n.crossings, e, 0⟩ := by
    rw [Node.bareSegment?, hn, Option.map_some]
  rw [map_kind_maneuvers, ← kindsWithin_map_bare, segments, map_bare_segmentsFrom, h,
    List.filterMap_append, List.filterMap_cons_some hbare, kindsWithin_append, ← List.append_assoc]
  rfl

end TurnByTurn
