/-!
# Invocations

One run of the agent's script, as arguments and as a line to show.
-/

namespace AgentConsole.Agent

/-- What names the request file among the arguments. -/
def inputFlag : String := "--input-file"

/-- One run of a script. -/
structure Invocation where
  interpreter : String
  script : String
  inputFile : String
  extraArguments : List String
  deriving DecidableEq, Repr

/-- A command as a line to show, with or without the request file. -/
def commandLine (interpreter script : String) (inputFile : Option String)
    (extraArguments : List String) : String :=
  let input :=
    match inputFile with
    | some path => " " ++ inputFlag ++ " \"" ++ path ++ "\""
    | none => ""
  let extra := if extraArguments.isEmpty then "" else " " ++ " ".intercalate extraArguments
  interpreter ++ " \"" ++ script ++ "\"" ++ input ++ extra

namespace Invocation

/-- The arguments the interpreter gets. -/
def arguments (i : Invocation) : List String :=
  [i.script, inputFlag, i.inputFile] ++ i.extraArguments

/-- The invocation as a line to show. -/
def line (i : Invocation) : String :=
  commandLine i.interpreter i.script (some i.inputFile) i.extraArguments

end Invocation

end AgentConsole.Agent
