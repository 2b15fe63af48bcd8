import TurnByTurn.Narrative.Language
import TurnByTurn.Units

namespace TurnByTurn

structure Options where
  units : Units
  dictionary : Dictionary

def Options.ofRequest (units language : String) : Options where
  units := .ofText units
  dictionary := .forLanguage language

end TurnByTurn
