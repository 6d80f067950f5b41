import AgentConsole.Console.Task
import AgentConsole.Setup.VariableFile
import AgentConsole.Text.Cluster

/-!
# The program

From the arguments, the variables and the input to what is written and the exit code.
-/

namespace AgentConsole.Console

open AgentConsole.Agent AgentConsole.Files AgentConsole.Setup AgentConsole.Text

/-- What the program finds when it starts. -/
structure Start where
  arguments : List String
  environment : Environment
  input : String
  disk : Disk
  /-- Where the program is installed. -/
  installDirectory : String
  /-- The time of day. -/
  clock : String

/-- What the program leaves. -/
structure Finish where
  exitCode : Nat
  stdout : String
  stderr : String
  disk : Disk

/-- The lines of a text as they are typed, without their ends; `line` is the one under way,
backwards. -/
def typedLines (line : List Char) : List Char → List (List Char)
  | [] => if line.isEmpty then [] else [line.reverse]
  | c :: cs =>
    if c = '\n' then
      (match line with
        | '\r' :: rest => rest.reverse
        | _ => line.reverse) :: typedLines [] cs
    else typedLines (c :: line) cs

/-- The lines of an input, with what was typed and taken back left out; `none` for a line of which
a character would be cut. -/
def inputLines (input : String) : List (Option String) :=
  (typedLines [] input.toList).map fun line => (takeBack? line).map String.ofList

/-- The time of day, so many seconds after a midnight. -/
def clockText (seconds : Nat) : String :=
  padded 2 (seconds / 3600 % 24) ++ ":" ++ padded 2 (seconds / 60 % 60) ++ ":" ++
    padded 2 (seconds % 60)

/-- The arguments ask for a dialogue, which goes on with the input. -/
def asksForDialogue (args : List String) : Bool :=
  match readCommandLine args with
  | .ok line =>
    match line.task with
    | none | some .repl => true
    | some _ => false
  | .error _ => false

/-- The variables of the environment, and those of the files of variables; `none` if one would have
to hold a NUL. -/
def loadVariables? (d : Disk) (env : Environment) : Option Environment := do
  let env ← withFile? d env ".env.local"
  withFile? d env (environmentFile env)

/-- The exit code of a program that breaks off. -/
def brokenExitCode : Nat := 101

/-- Runs the program with the variables it knows, on a host that runs the agent as `runner`
says. -/
def Start.runIn (s : Start) (env : Environment) (runner : Runner) : Finish :=
  match readCommandLine s.arguments with
  | .error .displayHelp | .error .displayVersion => ⟨0, "", "", s.disk⟩
  | .error _ => ⟨2, "", "", s.disk⟩
  | .ok line =>
    let host : Host := ⟨line.settings env s.installDirectory s.disk.cwdPath, runner⟩
    match line.task with
    | none | some .repl =>
      let d : Dialogue := { session := .new host (.new s.disk), transcript := .empty }
      let d := d.run env s.clock (inputLines s.input)
      ⟨if d.isBroken then brokenExitCode else 0, d.transcript.stdout, d.transcript.stderr, d.disk⟩
    | some task =>
      let r := task.run host s.disk
      match r.error with
      | none => ⟨0, r.transcript.stdout, r.transcript.stderr, r.disk⟩
      | some e =>
        let t := r.transcript.complain ("Error: " ++ e.message)
        ⟨1, t.stdout, t.stderr, r.disk⟩

/-- Runs the program, on a host that runs the agent as `runner` says in an environment. A file of
variables that no environment can take makes it break off before it does anything. -/
def Start.run (s : Start) (runner : Environment → Runner) : Finish :=
  match loadVariables? s.disk s.environment with
  | none => ⟨brokenExitCode, "", "", s.disk⟩
  | some env => s.runIn env (runner env)

end AgentConsole.Console
