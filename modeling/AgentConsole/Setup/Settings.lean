import AgentConsole.Files.Path
import AgentConsole.Setup.Expansion
import AgentConsole.Text.Blank

/-!
# Settings

Which script the agent is, what runs it, and where things are looked for and kept.
-/

namespace AgentConsole.Setup

open AgentConsole.Text AgentConsole.Files

/-- The settings of the agent. -/
structure Settings where
  /-- Absolute, or looked for under the roots and the install directory. -/
  script : String
  interpreter : String
  /-- Passed to the script after the request file. -/
  extraArguments : List String
  /-- How many milliseconds one run of the script may take. -/
  timeout : Nat
  roots : List String
  installDirectory : String
  /-- Where request files are written. -/
  requestDirectory : String
  deriving DecidableEq, Repr

/-- The pieces of a text between colons; `piece` is the one under way, backwards. -/
def betweenColons (piece : List Char) : List Char → List (List Char)
  | [] => [piece.reverse]
  | c :: cs =>
    if c = ':' then piece.reverse :: betweenColons [] cs else betweenColons (c :: piece) cs

/-- The roots in a list with colons between them, expanded one by one; empty ones are left out. -/
def parseRoots (env : Environment) (list : String) : List String :=
  ((betweenColons [] list.toList).filter (!·.isEmpty)).map
    fun root => expandPath env (String.ofList root)

/-- Where the program keeps its own files. -/
def stateDirectory (env : Environment) : String :=
  (env.get? "DEVAGENT_STATE_DIR").getD (join env.home ".dev-agent")

/-- Where the user's configuration is. -/
def configDirectory (env : Environment) : String :=
  join (stateDirectory env) "config"

/-- The file of variables in the configuration. -/
def environmentFile (env : Environment) : String :=
  join (configDirectory env) ".env.local"

/-- Where the lines typed in earlier are kept. -/
def historyFile (env : Environment) : String :=
  join (stateDirectory env) "history.txt"

/-- Where request files are written unless settings say otherwise. -/
def defaultRequestDirectory (env : Environment) : String :=
  (env.get? "DEVAGENT_TEMP_DIR").getD (join ((env.get? "TMPDIR").getD "/tmp") "dev-agent")

namespace Settings

/-- The settings of a program installed in `installDirectory` that nobody configured. -/
def default (env : Environment) (installDirectory : String) : Settings where
  script := "agent.py"
  interpreter := "python"
  extraArguments := []
  timeout := 30000
  roots := []
  installDirectory
  requestDirectory := defaultRequestDirectory env

/-- With another script, expanded. -/
def withScript (s : Settings) (env : Environment) (path : String) : Settings :=
  { s with script := expandPath env path }

/-- With another interpreter, expanded. -/
def withInterpreter (s : Settings) (env : Environment) (path : String) : Settings :=
  { s with interpreter := expandPath env path }

/-- With one more root to look under, after the others. -/
def withRoot (s : Settings) (root : String) : Settings :=
  { s with roots := s.roots ++ [root] }

/-- The default settings under the variables of the environment. -/
def ofEnvironment (env : Environment) (installDirectory : String) : Settings :=
  let base := default env installDirectory
  { base with
    script := ((env.get? "DEVAGENT_SCRIPT_PATH").map (expandPath env)).getD base.script
    interpreter := ((env.get? "DEVAGENT_INTERPRETER").map (expandPath env)).getD base.interpreter
    extraArguments := ((env.get? "DEVAGENT_ADDITIONAL_ARGS").map words).getD base.extraArguments
    roots := ((env.get? "DEVAGENT_WORKSPACE").map (parseRoots env)).getD base.roots }

end Settings

end AgentConsole.Setup
