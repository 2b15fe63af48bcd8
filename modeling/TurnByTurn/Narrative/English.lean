import TurnByTurn.Narrative.Dictionary
import TurnByTurn.Narrative.Template

namespace TurnByTurn

open Placeholder

def english : Dictionary where
  language := "en-US"
  decimalSeparator := '.'
  unnamedRoad := "unnamed road"
  andThen := "Then"
  meters := s!"{n} meters"
  kilometer := "1 kilometer"
  kilometers := s!"{n} kilometers"
  feet := s!"{n} feet"
  mile := "1 mile"
  miles := s!"{n} miles"
  direction
    | .north => "north"
    | .northEast => "northeast"
    | .east => "east"
    | .southEast => "southeast"
    | .south => "south"
    | .southWest => "southwest"
    | .west => "west"
    | .northWest => "northwest"
  ordinals :=
    ["first", "second", "third", "fourth", "fifth", "sixth",
      "seventh", "eighth", "ninth", "tenth"]
  start := s!"Head {cardinal} on {street}."
  continueOn := s!"Continue on {street}."
  slightRight := s!"Bear right onto {street}."
  right := s!"Turn right onto {street}."
  sharpRight := s!"Make a sharp right onto {street}."
  uturnRight := s!"Make a right U-turn onto {street}."
  uturnLeft := s!"Make a left U-turn onto {street}."
  sharpLeft := s!"Make a sharp left onto {street}."
  left := s!"Turn left onto {street}."
  slightLeft := s!"Bear left onto {street}."
  rampStraight := "Stay straight to take the ramp"
  rampRight := "Take the ramp on the right"
  rampLeft := "Take the ramp on the left"
  exitRight := "Take the exit on the right"
  exitLeft := "Take the exit on the left"
  exitNumberRight := s!"Take exit {number} on the right"
  exitNumberLeft := s!"Take exit {number} on the left"
  toward := s!" toward {toward}"
  merge := s!"Merge onto {street}."
  roundaboutEnter := "Enter the roundabout."
  roundaboutEnterOrdinal := s!"Enter the roundabout and take the {ordinal} exit."
  roundaboutExit := s!"Exit the roundabout onto {street}."
  ferryEnter := "Take the ferry."
  ferryExit := s!"Leave the ferry onto {street}."
  transitGeneric := "transit line"
  transit := s!"Take the {route}."
  transitToward := s!"Take the {route} toward {headsign}."
  transitTransfer := s!"Transfer to the {route}."
  transitTransferToward := s!"Transfer to the {route} toward {headsign}."
  stopCountOne := "Travel 1 stop."
  stopCount := s!"Travel {count} stops."
  post := s!"Continue for {length}."
  postNamed := s!"Continue on {street} for {length}."
  depart := "Depart."
  departAt := s!"Depart at {time}."
  arrive := "Arrive."
  arriveAt := s!"Arrive at {time}."
  arrived := "You have arrived at your destination."
  arrivedAtPlace := s!"You have arrived at {place}."
  destinationOnLeft := "Your destination is on the left."
  destinationOnRight := "Your destination is on the right."

end TurnByTurn
