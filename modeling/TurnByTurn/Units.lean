import TurnByTurn.Text.Ascii
import TurnByTurn.Text.Blank

namespace TurnByTurn

def kilometersPerMile : Float32 := 1.609344

inductive Units where
  | kilometers
  | miles
deriving DecidableEq, Repr, Inhabited

namespace Units

def name : Units → String
  | kilometers => "kilometers"
  | miles => "miles"

def convert (units : Units) (km : Float32) : Float32 :=
  match units with
  | kilometers => km
  | miles => km / kilometersPerMile

def ofText? (s : String) : Option Units :=
  match Text.asciiLower (Text.trim s) with
  | "metric" | "kilometers" | "km" => some kilometers
  | "imperial" | "miles" | "mi" => some miles
  | _ => none

def ofText (s : String) : Units :=
  (ofText? s).getD kilometers

end Units

end TurnByTurn
