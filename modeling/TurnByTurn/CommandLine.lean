import TurnByTurn.Directions.Json
import TurnByTurn.Source

namespace TurnByTurn

structure CommandLine where
  file : String
  units : String
  language : String
  /-- None where the bytes of the file decide. -/
  format : Option Format

inductive Setting where
  | units
  | language
  | format
deriving DecidableEq, Repr

def Setting.ofName? : String → Option Setting
  | "units" => some units
  | "language" => some language
  | "format" => some format
  | _ => none

def formatSetting? : String → Option (Option Format)
  | "auto" => some none
  | "xml" => some (some .xml)
  | "xml-gz" => some (some .gzip)
  | "xml-bz2" => some (some .bzip2)
  | _ => none

structure Arguments where
  file : Option String := none
  settings : List (Setting × String) := []

namespace Arguments

def setFile? (a : Arguments) (file : String) : Option Arguments :=
  if a.file.isSome || file.isEmpty then none else some { a with file := some file }

def set? (a : Arguments) (setting : Setting) (value : String) : Option Arguments :=
  if (a.settings.lookup setting).isSome then none
  else some { a with settings := (setting, value) :: a.settings }

end Arguments

def looksLikeSetting (argument : List Char) : Bool :=
  match argument with
  | '-' :: _ :: _ => true
  | _ => false

def readFiles (a : Arguments) (arguments : List String) : Option Arguments :=
  arguments.foldlM (fun a file => a.setFile? file) a

def splitSetting (text : List Char) : String × Option String :=
  let name := String.ofList (text.takeWhile (· ≠ '='))
  match text.dropWhile (· ≠ '=') with
  | [] => (name, none)
  | _ :: value => (name, some (String.ofList value))

def readArguments (a : Arguments) : List String → Option Arguments
  | [] => some a
  | argument :: rest =>
    match argument.toList with
    | ['-', '-'] => readFiles a rest
    | '-' :: '-' :: text =>
      match splitSetting text with
      | (name, some value) =>
        (Setting.ofName? name).bind fun s => (a.set? s value).bind fun a => readArguments a rest
      | (name, none) =>
        match rest with
        | [] => none
        | value :: rest =>
          if looksLikeSetting value.toList then none
          else (Setting.ofName? name).bind fun s =>
            (a.set? s value).bind fun a => readArguments a rest
    | cs => if looksLikeSetting cs then none
      else (a.setFile? argument).bind fun a => readArguments a rest

def CommandLine.ofArguments? (arguments : List String) : Option CommandLine := do
  let a ← readArguments {} arguments
  let format ← formatSetting? ((a.settings.lookup .format).getD "auto")
  return {
    file := ← a.file
    units := (a.settings.lookup .units).getD "metric"
    language := (a.settings.lookup .language).getD "en-US"
    format := format }

namespace CommandLine

def options (c : CommandLine) : Options :=
  .ofRequest c.units c.language

def directions (c : CommandLine) (content : Option (List UInt8)) : Except Failure Directions := do
  let bytes ← content.elim (.error .unreadable) .ok
  (← TripPath.ofBytes c.format bytes).directions c.options

def records (c : CommandLine) (content : Option (List UInt8)) : List Record :=
  match content with
  | none => []
  | some bytes =>
    (c.format.getD (.detect bytes)).records true bytes ++
      match TripPath.ofBytes c.format bytes with
      | .error _ => []
      | .ok path => Options.records c.units c.language ++ path.directionsRecords

def output (d : Directions) : String :=
  d.toJson.pretty 0 ++ "\n"

def wrongArgumentsCode : Nat := 2

def failureCode : Failure → Nat
  | .transitBeyondPath => 101
  | _ => 1

end CommandLine

end TurnByTurn
