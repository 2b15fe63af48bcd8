import TurnByTurn.CommandLine

open TurnByTurn

def readFile (file : String) : IO (Option (List UInt8)) := do
  try
    return some (← IO.FS.readBinFile file).toList
  catch _ => return none

def report (records : List Record) : IO Unit := do
  for r in records.filter (·.level = .warn) do
    IO.eprintln (r.level.name ++ " " ++ r.text)

def main (arguments : List String) : IO UInt32 := do
  match CommandLine.ofArguments? arguments with
  | none =>
    IO.eprintln "usage: [--units UNITS] [--language LANGUAGE] [--format FORMAT] FILE"
    return CommandLine.wrongArgumentsCode.toUInt32
  | some c =>
    let content ← readFile c.file
    report (c.records content)
    match c.directions content with
    | .ok d =>
      IO.print (CommandLine.output d)
      return 0
    | .error failure =>
      IO.eprintln failure.message
      return (CommandLine.failureCode failure).toUInt32
