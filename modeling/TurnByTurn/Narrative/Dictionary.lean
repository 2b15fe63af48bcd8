import TurnByTurn.Compass

namespace TurnByTurn

/-- Complete texts end with a full stop; phrases about ramps and exits do not, since a destination
may follow them. -/
structure Dictionary where
  language : String
  decimalSeparator : Char
  unnamedRoad : String
  andThen : String
  meters : String
  kilometer : String
  kilometers : String
  feet : String
  mile : String
  miles : String
  direction : Compass → String
  ordinals : List String
  start : String
  continueOn : String
  slightRight : String
  right : String
  sharpRight : String
  uturnRight : String
  uturnLeft : String
  sharpLeft : String
  left : String
  slightLeft : String
  rampStraight : String
  rampRight : String
  rampLeft : String
  exitRight : String
  exitLeft : String
  exitNumberRight : String
  exitNumberLeft : String
  toward : String
  merge : String
  roundaboutEnter : String
  roundaboutEnterOrdinal : String
  roundaboutExit : String
  ferryEnter : String
  ferryExit : String
  transitGeneric : String
  transit : String
  transitToward : String
  transitTransfer : String
  transitTransferToward : String
  stopCountOne : String
  stopCount : String
  post : String
  postNamed : String
  depart : String
  departAt : String
  arrive : String
  arriveAt : String
  arrived : String
  arrivedAtPlace : String
  destinationOnLeft : String
  destinationOnRight : String

namespace Dictionary

def ordinal? (d : Dictionary) : Nat → Option String
  | 0 => none
  | n + 1 => d.ordinals[n]?

end Dictionary

end TurnByTurn
