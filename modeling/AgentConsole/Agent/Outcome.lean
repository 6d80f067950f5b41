import AgentConsole.Files.IoError

/-!
# Outcomes

What a run of the script ended in, and what is told of it.
-/

namespace AgentConsole.Agent

open AgentConsole.Files

/-- What a program left behind; the exit code is −1 if a signal ended it. -/
structure Outcome where
  stdout : String
  stderr : String
  exitCode : Int
  deriving DecidableEq, Repr

/-- Why the agent gave no answer. -/
inductive AgentError where
  | timeout (milliseconds : Nat)
  | execution (exitCode : Int) (stderr : String)
  | spawn (command : String) (cause : IoError)
  | requestFile (directory : String) (cause : IoError)
  deriving DecidableEq, Repr

namespace AgentError

/-- The error in words. -/
def message : AgentError → String
  | timeout ms =>
    "Agent script execution timed out after " ++ toString (ms / 1000) ++ " seconds"
  | execution code stderr =>
    "Agent script failed with exit code " ++ toString code ++ ":\n" ++ stderr
  | spawn command cause =>
    "Failed to run agent command \x60" ++ command ++ "\x60: " ++ cause.message
  | requestFile directory cause =>
    "Failed to write request file in " ++ directory ++ ": " ++ cause.message

/-- The run took too long. -/
def isTimeout : AgentError → Bool
  | timeout _ => true
  | _ => false

/-- The exit code of a script that failed. -/
def exitCode? : AgentError → Option Int
  | execution code _ => some code
  | _ => none

end AgentError

/-- What is told of a script that wrote nothing. -/
def noOutputMessage : String := "Agent script executed successfully with no output."

/-- What a run amounts to: its output, with what it wrote to its error stream below. -/
def Outcome.reply (o : Outcome) : Except AgentError String :=
  if o.exitCode ≠ 0 then .error (.execution o.exitCode o.stderr)
  else if !o.stderr.isEmpty then .ok (o.stdout ++ "\n\nWarnings/Errors:\n" ++ o.stderr)
  else if o.stdout.isEmpty then .ok noOutputMessage
  else .ok o.stdout

end AgentConsole.Agent
