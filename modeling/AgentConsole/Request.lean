/-!
# Requests

What the agent is asked: a command, how it is meant, and the file it is about.
-/

namespace AgentConsole

/-- How a command is meant. -/
inductive Intent where
  | pseudoCode
  | explain
  | custom
  deriving DecidableEq, Repr

/-- The intent as it is written. -/
def Intent.name : Intent → String
  | .pseudoCode => "pseudo_code"
  | .explain => "explain"
  | .custom => "custom"

/-- All the agent needs to know to answer a command. -/
structure Request where
  command : String
  intent : Intent
  /-- What the file holds that the command is about; empty without a file. -/
  content : String
  /-- Where that file is; empty without a file. -/
  path : String
  deriving DecidableEq, Repr

/-- What a request is called. -/
structure RequestId where
  text : String
  deriving DecidableEq, Repr

end AgentConsole
