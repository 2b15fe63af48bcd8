namespace TurnByTurn

inductive Placeholder where
  | street
  | cardinal
  | length
  | n
  | number
  | toward
  | ordinal
  | route
  | headsign
  | count
  | place
  | time
deriving DecidableEq, Repr

namespace Placeholder

def name : Placeholder → String
  | street => "street"
  | cardinal => "cardinal"
  | length => "length"
  | n => "n"
  | number => "number"
  | toward => "toward"
  | ordinal => "ordinal"
  | route => "route"
  | headsign => "headsign"
  | count => "count"
  | place => "place"
  | time => "time"

def mark (p : Placeholder) : String :=
  "\x7b" ++ p.name ++ "\x7d"

instance : ToString Placeholder := ⟨mark⟩

end Placeholder

/-- Replaces every occurrence of a pattern, from the left, after a number of characters that have
been replaced already. -/
def replaceFrom (pattern value : List Char) : Nat → List Char → List Char
  | _, [] => []
  | skip + 1, _ :: rest => replaceFrom pattern value skip rest
  | 0, c :: rest =>
    if pattern.isPrefixOf (c :: rest) then
      value ++ replaceFrom pattern value (pattern.length - 1) rest
    else c :: replaceFrom pattern value 0 rest

def replaceAll (pattern value : List Char) (text : List Char) : List Char :=
  replaceFrom pattern value 0 text

def fillChars (template : List Char) (values : List (Placeholder × String)) : List Char :=
  values.foldl (fun text v => replaceAll v.1.mark.toList v.2.toList text) template

def fill (template : String) (values : List (Placeholder × String)) : String :=
  String.ofList (fillChars template.toList values)

theorem toList_fill (template : String) (values : List (Placeholder × String)) :
    (fill template values).toList = fillChars template.toList values :=
  String.toList_ofList

end TurnByTurn
