import TurnByTurn.Decimal.Real
import TurnByTurn.Failure
import TurnByTurn.Markup.Escape
import TurnByTurn.Text.Blank
import TurnByTurn.Transit

namespace TurnByTurn.Document

structure Attributes where
  element : String
  values : List (String × String)

namespace Attributes

def get? (a : Attributes) (key : String) : Option String :=
  a.values.lookup key

def invalid (a : Attributes) (key : String) : Failure :=
  .invalidAttribute a.element key ((a.get? key).getD "")

def text (a : Attributes) (key : String) : String :=
  (a.get? key).getD ""

def text? (a : Attributes) (key : String) : Option String :=
  (a.get? key).bind nonEmpty

def read? {α : Type} (a : Attributes) (key : String) (parse : List Char → Option α) :
    Except Failure (Option α) :=
  match a.get? key with
  | none => .ok none
  | some value =>
    match parse (Text.trimChars value.toList) with
    | some x => .ok (some x)
    | none => .error (a.invalid key)

def readD {α : Type} (a : Attributes) (key : String) (parse : List Char → Option α)
    (default : α) : Except Failure α :=
  (a.read? key parse).map (·.getD default)

def required {α : Type} (a : Attributes) (key : String) (parse : List Char → Option α) :
    Except Failure α :=
  (a.read? key parse).bind fun
    | some x => .ok x
    | none => .error (a.invalid key)

def requiring (a : Attributes) (key : String) (condition : Bool) : Except Failure Unit :=
  if condition then .ok () else .error (a.invalid key)

end Attributes

def count? (cs : List Char) : Option Nat :=
  Decimal.natural? 10 UInt32.size cs

def identifier? (cs : List Char) : Option Nat :=
  Decimal.natural? 10 UInt64.size cs

def flag? (cs : List Char) : Option Bool :=
  match String.ofList cs with
  | "true" | "yes" | "1" => some true
  | "false" | "no" | "0" => some false
  | _ => none

def named? {α : Type} (ofName? : String → Option α) (cs : List Char) : Option α :=
  ofName? (String.ofList cs)

def dropNumberSign : List Char → List Char
  | '#' :: rest => rest
  | cs => cs

def color? (cs : List Char) : Option Nat :=
  let hex := dropNumberSign cs
  if Markup.byteLength hex = 6 then Decimal.natural? 16 UInt32.size hex else none

end TurnByTurn.Document
