namespace TurnByTurn

inductive Compass where
  | north
  | northEast
  | east
  | southEast
  | south
  | southWest
  | west
  | northWest
deriving DecidableEq, Repr, Inhabited

namespace Compass

def ofHeading (heading : Nat) : Compass :=
  let h := heading % 360
  if h < 24 then north
  else if h < 67 then northEast
  else if h < 114 then east
  else if h < 157 then southEast
  else if h < 204 then south
  else if h < 247 then southWest
  else if h < 294 then west
  else if h < 337 then northWest
  else north

theorem ofHeading_mod (heading : Nat) : ofHeading (heading % 360) = ofHeading heading := by
  simp [ofHeading]

def all : List Compass :=
  [north, northEast, east, southEast, south, southWest, west, northWest]

theorem mem_all (d : Compass) : d ∈ all := by
  cases d <;> decide

def index (d : Compass) : Nat :=
  d.ctorIdx

def name : Compass → String
  | north => "north"
  | northEast => "north_east"
  | east => "east"
  | southEast => "south_east"
  | south => "south"
  | southWest => "south_west"
  | west => "west"
  | northWest => "north_west"

end Compass

end TurnByTurn
