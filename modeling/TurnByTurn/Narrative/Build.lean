import TurnByTurn.Narrative.Instruction

namespace TurnByTurn

/-- In kilometers. On a shorter maneuver there is no time to announce the next one by itself. -/
def cueLength : Float32 := 0.05

namespace Options

def departTexts (o : Options) (origin : Option Location) (m : Maneuver) : Narration :=
  let text := Dictionary.timedText origin o.dictionary.depart o.dictionary.departAt
  { m.texts with depart := some text, verbalDepart := some text, post := o.postText m }

def arriveTexts (o : Options) (destination : Option Location) (m : Maneuver) : Narration :=
  let text := Dictionary.timedText destination o.dictionary.arrive o.dictionary.arriveAt
  { m.texts with arrive := some text, verbalArrive := some text }

def turnTexts (o : Options) (text : String) (m : Maneuver) : Narration :=
  { m.texts with alert := some text, post := o.postText m }

/-- Departure and arrival have texts of their own and are not announced ahead. Texts of other
maneuvers that a maneuver already has are left as they are. -/
def narrateOne (o : Options) (path : TripPath) (m : Maneuver) : Maneuver :=
  let text := o.dictionary.instruction path.locations.getLast? m
  let texts := match m.kind with
    | .depart => o.departTexts path.locations.head? m
    | .arrive => o.arriveTexts path.locations.getLast? m
    | _ => o.turnTexts text m
  { m with texts := { texts with instruction := some text, pre := some text } }

end Options

namespace Dictionary

def withCue (d : Dictionary) (m next : Maneuver) : Maneuver :=
  if m.kind = .arrive || cueLength ≤ m.length then m
  else
    match m.texts.pre, next.texts.alert with
    | some pre, some alert =>
      { m with texts := { m.texts with
          pre := some (pre ++ " " ++ d.andThen ++ " " ++ Text.lowercaseFirst alert) } }
    | _, _ => m

def addCues (d : Dictionary) : List Maneuver → List Maneuver
  | [] => []
  | [m] => [m]
  | m :: next :: rest => d.withCue m next :: addCues d (next :: rest)

end Dictionary

def Options.narrate (o : Options) (path : TripPath) (maneuvers : List Maneuver) : List Maneuver :=
  o.dictionary.addCues (maneuvers.map (o.narrateOne path))

end TurnByTurn
