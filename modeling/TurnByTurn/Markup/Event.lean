import TurnByTurn.Markup.Attribute

namespace TurnByTurn.Markup

/-- An element by its name without the namespace. Faults in attributes matter only where the
attributes are asked for. -/
structure Element where
  name : String
  attributes : Except Fault (List (String × String))

inductive Event where
  | opening (element : Element)
  | empty (element : Element)
  | closing (name : String)
  | other

def nameOf (content : List UInt8) : List UInt8 :=
  content.takeWhile (!isSpace ·)

def localName (name : List UInt8) : List UInt8 :=
  match name.dropWhile (· != ':'.toUInt8) with
  | [] => name
  | _ :: rest => rest

def localText (name : List UInt8) : String :=
  Text.ofUtf8Replacing (localName name)

def Element.ofContent (content : List UInt8) : Element where
  name := localText (nameOf content)
  attributes := Markup.attributes ⟨(nameOf content).length, content.dropWhile (!isSpace ·)⟩

end TurnByTurn.Markup
