namespace TurnByTurn.Text

def asciiLower (s : String) : String :=
  s.map Char.toLower

def sameIgnoringCase (a b : String) : Bool :=
  asciiLower a == asciiLower b

theorem sameIgnoringCase_iff {a b : String} :
    sameIgnoringCase a b = true ↔ asciiLower a = asciiLower b := by
  simp [sameIgnoringCase]

end TurnByTurn.Text
