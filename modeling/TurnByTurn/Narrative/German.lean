import TurnByTurn.Narrative.Dictionary
import TurnByTurn.Narrative.Template

namespace TurnByTurn

open Placeholder

def german : Dictionary where
  language := "de-DE"
  decimalSeparator := ','
  unnamedRoad := "unbenannte Straße"
  andThen := "Dann"
  meters := s!"{n} Meter"
  kilometer := "1 Kilometer"
  kilometers := s!"{n} Kilometer"
  feet := s!"{n} Fuß"
  mile := "1 Meile"
  miles := s!"{n} Meilen"
  direction
    | .north => "Norden"
    | .northEast => "Nordosten"
    | .east => "Osten"
    | .southEast => "Südosten"
    | .south => "Süden"
    | .southWest => "Südwesten"
    | .west => "Westen"
    | .northWest => "Nordwesten"
  ordinals :=
    ["erste", "zweite", "dritte", "vierte", "fünfte", "sechste",
      "siebte", "achte", "neunte", "zehnte"]
  start := s!"Fahren Sie Richtung {cardinal} auf {street}."
  continueOn := s!"Bleiben Sie auf {street}."
  slightRight := s!"Halten Sie sich rechts auf {street}."
  right := s!"Biegen Sie rechts ab auf {street}."
  sharpRight := s!"Biegen Sie scharf rechts ab auf {street}."
  uturnRight := s!"Wenden Sie rechts auf {street}."
  uturnLeft := s!"Wenden Sie links auf {street}."
  sharpLeft := s!"Biegen Sie scharf links ab auf {street}."
  left := s!"Biegen Sie links ab auf {street}."
  slightLeft := s!"Halten Sie sich links auf {street}."
  rampStraight := "Fahren Sie geradeaus auf die Auffahrt"
  rampRight := "Nehmen Sie die Auffahrt rechts"
  rampLeft := "Nehmen Sie die Auffahrt links"
  exitRight := "Nehmen Sie die Ausfahrt rechts"
  exitLeft := "Nehmen Sie die Ausfahrt links"
  exitNumberRight := s!"Nehmen Sie die Ausfahrt {number} rechts"
  exitNumberLeft := s!"Nehmen Sie die Ausfahrt {number} links"
  toward := s!" Richtung {toward}"
  merge := s!"Fahren Sie auf {street} auf."
  roundaboutEnter := "Fahren Sie in den Kreisverkehr."
  roundaboutEnterOrdinal :=
    s!"Fahren Sie in den Kreisverkehr und nehmen Sie die {ordinal} Ausfahrt."
  roundaboutExit := s!"Verlassen Sie den Kreisverkehr auf {street}."
  ferryEnter := "Nehmen Sie die Fähre."
  ferryExit := s!"Verlassen Sie die Fähre auf {street}."
  transitGeneric := "Linie"
  transit := s!"Nehmen Sie die {route}."
  transitToward := s!"Nehmen Sie die {route} Richtung {headsign}."
  transitTransfer := s!"Steigen Sie um in die {route}."
  transitTransferToward :=
    s!"Steigen Sie um in die {route} Richtung {headsign}."
  stopCountOne := "Fahren Sie 1 Haltestelle."
  stopCount := s!"Fahren Sie {count} Haltestellen."
  post := s!"Fahren Sie {length} weiter."
  postNamed := s!"Fahren Sie {length} weiter auf {street}."
  depart := "Abfahrt."
  departAt := s!"Abfahrt um {time}."
  arrive := "Ankunft."
  arriveAt := s!"Ankunft um {time}."
  arrived := "Sie haben Ihr Ziel erreicht."
  arrivedAtPlace := s!"Sie haben {place} erreicht."
  destinationOnLeft := "Ihr Ziel befindet sich links."
  destinationOnRight := "Ihr Ziel befindet sich rechts."

end TurnByTurn
