import TurnByTurn.Decimal.Fixed
import TurnByTurn.Narrative.Dictionary
import TurnByTurn.Narrative.Template
import TurnByTurn.Units

namespace TurnByTurn

def feetPerMile : Float32 := 5280

def tensText (x : Float32) : String :=
  toString (Decimal.roundAtLeastOne (x / 10) * 10)

def dropZeroFraction (numeral : List Char) : List Char :=
  if ['.', '0'].isSuffixOf numeral then numeral.take (numeral.length - 2) else numeral

def withSeparator (separator : Char) (numeral : List Char) : List Char :=
  numeral.map fun c => if c = '.' then separator else c

namespace Dictionary

def numeralPhrase (d : Dictionary) (numeral : List Char) (singular plural : String) : String :=
  let short := dropZeroFraction numeral
  if short = ['1'] then singular
  else fill plural [(.n, String.ofList (withSeparator d.decimalSeparator short))]

def decimalPhrase (d : Dictionary) (x : Float32) (singular plural : String) : String :=
  d.numeralPhrase (Decimal.oneDecimal x).toList singular plural

def lengthPhrase (d : Dictionary) (units : Units) (km : Float32) : String :=
  match units with
  | .kilometers =>
    if km < 1 then fill d.meters [(.n, tensText (km * 1000))]
    else d.decimalPhrase km d.kilometer d.kilometers
  | .miles =>
    let miles := km / kilometersPerMile
    if miles < 0.1 then fill d.feet [(.n, tensText (miles * feetPerMile))]
    else d.decimalPhrase miles d.mile d.miles

end Dictionary

end TurnByTurn
