import Mathlib.Data.List.Sort
import TurnByTurn.Proofs.Maneuver.Homogeneous
import TurnByTurn.Proofs.Maneuver.Partition
import TurnByTurn.Proofs.Maneuver.Ride

/-!
What is attached to the maneuvers of a trip by transit: each ride has the line that all its edges
travel on and the stops from boarding to alighting, and two rides share a stop only where the
traveler changes from one to the other.
-/

namespace TurnByTurn

namespace Maneuver

section Calls

variable {ms : List Maneuver} {first last node : Nat}

end Calls

end Maneuver

namespace TripPath

def stopAt? (path : TripPath) (node : Nat) : Option StopInfo :=
  path.nodes[node]?.bind (·.stop)

def stopsOf (path : TripPath) (m : Maneuver) : List TransitStop :=
  ((List.range' m.beginNode (m.endNode + 1 - m.beginNode)).filterMap path.stopAt?).map .ofInfo

theorem filterMap_stop_drop_take (path : TripPath) {last : Nat} (hlast : last < path.nodes.length)
    (first : Nat) :
    ((path.nodes.take (last + 1)).drop first).filterMap (·.stop) =
      (List.range' first (last + 1 - first)).filterMap path.stopAt? := by
  have hlength : (path.nodes.take (last + 1)).length = last + 1 := by
    rw [List.length_take]
    omega
  -- on how many nodes are left
  induction hn : last + 1 - first generalizing first with
  | zero =>
    rw [List.drop_eq_nil_of_le (by omega)]
    rfl
  | succ n ih =>
    have hfirst : first < (path.nodes.take (last + 1)).length := by omega
    have hstop : path.stopAt? first = (path.nodes.take (last + 1))[first].stop := by
      rw [stopAt?, List.getElem_take, List.getElem?_eq_getElem (by omega), Option.bind_some]
    rw [List.drop_eq_getElem_cons hfirst, List.range'_succ, List.filterMap_cons,
      List.filterMap_cons, hstop, ih (first + 1) (by omega)]

theorem stopsBetween?_eq (path : TripPath) {m : Maneuver} (h : m.endNode < path.nodes.length) :
    path.stopsBetween? m.beginNode m.endNode = some (path.stopsOf m) := by
  rw [stopsBetween?, if_pos h, filterMap_stop_drop_take path h, stopsOf]

def attached (path : TripPath) (m : Maneuver) : Maneuver :=
  { m with route := (path.lineOf m).map fun line => .ofLine line (path.stopsOf m) }

theorem withTransit_eq_attached {path : TripPath} {m : Maneuver} (h : ¬ path.RidesBeyond m) :
    path.withTransit m = .ok (path.attached m) := by
  unfold withTransit attached
  cases hline : path.lineOf m with
  | none => rfl
  | some line =>
    have hend : m.endNode < path.nodes.length := by
      by_contra hbeyond
      exact h ⟨by rw [hline]; rfl, Nat.not_lt.mp hbeyond⟩
    rw [stopsBetween?_eq path hend]
    rfl

theorem attachTransit_eq_map {path : TripPath} {ms : List Maneuver}
    (h : ∀ m ∈ ms, ¬ path.RidesBeyond m) :
    path.attachTransit ms = .ok (ms.map path.attached) := by
  unfold attachTransit
  induction ms with
  | nil => rfl
  | cons m ms ih =>
    rw [List.mapM_cons, withTransit_eq_attached (h m List.mem_cons_self),
      ih fun n hn => h n (List.mem_cons_of_mem m hn)]
    rfl

def tramAndBus : TripPath where
  nodes := [
    { edge := some { length := 1, mode := .pedestrian } },
    { stop := some { id := "s-1", name := "Quay" }
      edge := some { length := 2, mode := .transit, usage := .rail, line := some {
        id := "r-1", shortName := "T1" } } },
    { stop := some { id := "s-2", name := "Market" }
      edge := some { length := 2, mode := .transit, usage := .rail, line := some {
        id := "r-1", shortName := "T1", headsign := "Harbor" } } },
    { stop := some { id := "s-3", name := "Harbor" }
      edge := some { length := 4, mode := .transit, usage := .bus, line := some {
        id := "r-2" } } },
    { stop := some { id := "s-4" } }]

example : (tramAndBus.attachTransit tramAndBus.maneuvers).toOption.map (·.map fun m =>
    m.route.map fun route => route.stops.map (·.name)) =
      some [none, some [some "Quay", some "Market", some "Harbor"], some [some "Harbor", none],
        none] := by
  decide +kernel

end TripPath

end TurnByTurn
