import AgentConsole.Request
import AgentConsole.Text.Lowercase
import AgentConsole.Text.Search

/-!
# Classification

The intent of a command is read off two phrases, in any letter case and anywhere in it.
-/

namespace AgentConsole

open AgentConsole.Text

/-- The intent of a command; asking for pseudo code wins over asking for an explanation. -/
def classify (command : String) : Intent :=
  let lower := (lowercase command).toList
  if occursIn "pseudo code".toList lower then .pseudoCode
  else if occursIn "explain".toList lower then .explain
  else .custom

end AgentConsole
