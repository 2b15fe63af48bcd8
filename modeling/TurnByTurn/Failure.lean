import TurnByTurn.Markup.Fault
import TurnByTurn.Text.Quoted

namespace TurnByTurn

inductive Failure where
  | emptyPath
  | markup (fault : Markup.Fault)
  /-- The file cannot be opened, or its compressed data is broken. -/
  | unreadable
  | invalidAttribute (element key value : String)
  | missingElement (name : String)
  /-- A transit maneuver goes on beyond the last node, so its stops are not all known. -/
  | transitBeyondPath
deriving DecidableEq, Repr

def Failure.message : Failure → String
  | emptyPath => "trip path does not have any nodes"
  | markup fault => "xml: " ++ fault.message
  | unreadable => "io: data cannot be read"
  | invalidAttribute element key value =>
    "<" ++ element ++ " " ++ key ++ "=" ++ Text.quoted value ++ ">: invalid value"
  | missingElement name => "missing <" ++ name ++ "> element"
  | transitBeyondPath => "transit goes on beyond the last node"

end TurnByTurn
