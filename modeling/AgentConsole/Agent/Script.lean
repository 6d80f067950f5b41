import AgentConsole.Files.Disk
import AgentConsole.Setup.Settings

/-!
# Finding programs

Where the agent's script and its interpreter are looked for. The first candidate that is there
wins, so nothing behind it matters.
-/

namespace AgentConsole.Agent

open AgentConsole.Files AgentConsole.Setup

/-- Where a script was found, or the script as it was asked for. -/
inductive Resolution where
  | found (path : String)
  | missing (script : String)
  deriving DecidableEq, Repr

/-- The path of a resolution. -/
def Resolution.path : Resolution → String
  | .found path => path
  | .missing script => script

/-- The paths a script is looked for at, in order. -/
def candidates (roots : List String) (installDirectory script : String) : List String :=
  if isAbsolute script then [script]
  else roots.map (join · script) ++ [join (join installDirectory "scripts") script]

/-- The first candidate that is a file. -/
def resolve (d : Disk) (roots : List String) (installDirectory script : String) : Resolution :=
  match (candidates roots installDirectory script).find? d.hasFile with
  | some path => .found path
  | none => .missing script

/-- A directory of the search path. A tilde at the front leads home, and the steps behind it from
there. -/
def searchEntry (env : Environment) (entry : String) : String :=
  match components entry, env.homeVariable? with
  | .normal "~" :: steps, some home => steps.foldl (fun path step => join path step.text) home
  | _, _ => entry

/-- The directories of the search path. -/
def searchPath (env : Environment) : List String :=
  match env.get? "PATH" with
  | none => []
  | some path =>
    (betweenColons [] path.toList).map fun entry => searchEntry env (String.ofList entry)

/-- The name stands alone and is no path. -/
def isBareName (name : String) : Bool :=
  !isAbsolute name && decide ((components name).length ≤ 1)

/-- The program an interpreter stands for: a bare name is looked for along the search path, any
other stays as it is, and so does a name that is not found. -/
def resolveInterpreter (d : Disk) (env : Environment) (interpreter : String) : String :=
  if isBareName interpreter then
    (((searchPath env).map (join · interpreter)).find? d.hasProgram).getD interpreter
  else interpreter

end AgentConsole.Agent
