import AgentConsole.Console.Arguments
import AgentConsole.Setup.Settings

/-!
# The command line

What the program can be asked to do, and how the settings come about: an option wins over a
variable of the environment, and a variable over the default.
-/

namespace AgentConsole.Console

open AgentConsole.Text AgentConsole.Setup

/-- What to do. -/
inductive Task where
  /-- Ask the agent once, about a file perhaps. -/
  | ask (prompt : List String) (file : Option String)
  /-- Have the agent act on a file. -/
  | upload (path : String) (command : List String)
  /-- List the mentions in a file, or have one carried out. -/
  | mentions (path : String) (pick : Option Nat)
  /-- Tell the intent of a text. -/
  | classify (text : List String)
  /-- Talk with the agent. -/
  | repl
  deriving DecidableEq, Repr

/-- The command line. -/
structure CommandLine where
  verbosity : Nat
  script : Option String
  interpreter : Option String
  extraArguments : Option String
  roots : List String
  task : Option Task
  deriving DecidableEq, Repr

/-- The option for help. -/
def helpOption : Parameter where
  name := "help"
  letter := some 'h'
  action := .help

/-- The grammar of a subcommand. -/
def taskGrammar : String → Grammar
  | "ask" =>
    { options := [⟨"file", some 'f', .single .path, false⟩, helpOption]
      positionals := [{ name := "prompt", action := .every .text }]
      subcommands := [] }
  | "upload" =>
    { options := [helpOption]
      positionals :=
        [{ name := "path", action := .single .path }, { name := "command", action := .every .text }]
      subcommands := [] }
  | "mentions" =>
    { options := [⟨"pick", some 'p', .single .count, false⟩, helpOption]
      positionals := [{ name := "path", action := .single .path }]
      subcommands := [] }
  | "classify" =>
    { options := [helpOption]
      positionals := [{ name := "text", action := .every .text }]
      subcommands := [] }
  | _ => { options := [helpOption], positionals := [], subcommands := [] }

/-- The subcommands, the one for help apart. -/
def taskNames : List String :=
  ["ask", "upload", "mentions", "classify", "repl"]

/-- The grammar of what comes before a subcommand. -/
def mainGrammar : Grammar where
  options :=
    [⟨"verbose", some 'v', .tally, false⟩, ⟨"script", none, .single .text, false⟩,
      ⟨"interpreter", none, .single .text, false⟩, ⟨"args", none, .single .text, true⟩,
      ⟨"workspace", some 'w', .every .path, false⟩, helpOption,
      ⟨"version", some 'V', .version, false⟩]
  positionals := []
  subcommands := taskNames ++ ["help"]

/-- The task of a subcommand with what was given to it. -/
def taskOf (name : String) (given : Given) : Task :=
  match name with
  | "ask" => .ask (given.values "prompt") (given.value? "file")
  | "upload" => .upload ((given.value? "path").getD "") (given.values "command")
  | "mentions" => .mentions ((given.value? "path").getD "") ((given.value? "pick").bind count?)
  | "classify" => .classify (given.values "text")
  | _ => .repl

/-- Reads the arguments of a subcommand. -/
def readTask (name : String) (args : List String) : Except UsageError Task := do
  let g := taskGrammar name
  let (s, _) ← readArguments g .start args
  return taskOf name (← s.finish g)

/-- What asking for help on subcommands comes to: there are none below the first. -/
def helpFor : List String → UsageError
  | [] => .displayHelp
  | [name] => if mainGrammar.subcommands.contains name then .displayHelp else .invalidSubcommand
  | _ => .invalidSubcommand

/-- Reads the arguments of the program. -/
def readCommandLine (args : List String) : Except UsageError CommandLine := do
  let (s, subcommand) ← readArguments mainGrammar .start args
  let task ←
    match subcommand with
    | none => pure none
    | some (name, rest) =>
      if name = "help" then .error (helpFor rest) else some <$> readTask name rest
  let given ← s.finish mainGrammar
  return {
    verbosity := min (given.values "verbose").length 255
    script := given.value? "script"
    interpreter := given.value? "interpreter"
    extraArguments := given.value? "args"
    roots := given.values "workspace"
    task }

namespace CommandLine

/-- How much is logged. -/
def logLevel (c : CommandLine) : String :=
  match c.verbosity with
  | 0 => "WARN"
  | 1 => "INFO"
  | 2 => "DEBUG"
  | _ => "TRACE"

/-- The settings of a program installed in `installDirectory` and started in `cwd`. -/
def settings (c : CommandLine) (env : Environment) (installDirectory cwd : String) : Settings :=
  let base := Settings.ofEnvironment env installDirectory
  { base with
    script :=
      ((c.script.or (env.get? "DEVAGENT_SCRIPT_PATH")).map (expandPath env)).getD base.script
    interpreter :=
      ((c.interpreter.or (env.get? "DEVAGENT_INTERPRETER")).map (expandPath env)).getD
        base.interpreter
    extraArguments :=
      ((c.extraArguments.or (env.get? "DEVAGENT_ADDITIONAL_ARGS")).map words).getD
        base.extraArguments
    roots :=
      if !c.roots.isEmpty then c.roots.map (expandPath env)
      else if base.roots.isEmpty then [cwd]
      else base.roots }

end CommandLine

end AgentConsole.Console
