import TurnByTurn.Narrative.English
import TurnByTurn.Narrative.German
import TurnByTurn.Text.Ascii
import TurnByTurn.Text.Blank

namespace TurnByTurn

inductive LanguageMatch where
  | exact
  | subtag
  | fallback
deriving DecidableEq, Repr

def LanguageMatch.name : LanguageMatch → String
  | exact => "exact"
  | subtag => "subtag"
  | fallback => "fallback"

def primarySubtag (tag : String) : String :=
  String.ofList (tag.toList.takeWhile fun c => c != '-' && c != '_')

namespace Dictionary

def all : List Dictionary :=
  [english, german]

def isFor (d : Dictionary) (tag : String) : Bool :=
  Text.sameIgnoringCase d.language tag

def sharesSubtag (d : Dictionary) (tag : String) : Bool :=
  Text.sameIgnoringCase (primarySubtag d.language) (primarySubtag tag)

def resolveTag (tag : String) : Dictionary × LanguageMatch :=
  match all.find? (·.isFor tag), all.find? (·.sharesSubtag tag) with
  | some d, _ => (d, .exact)
  | none, some d => (d, .subtag)
  | none, none => (english, .fallback)

def resolve (language : String) : Dictionary × LanguageMatch :=
  resolveTag (Text.trim language)

def forLanguage (language : String) : Dictionary :=
  (resolve language).1

end Dictionary

end TurnByTurn
