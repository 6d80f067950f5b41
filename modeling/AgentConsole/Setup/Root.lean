import AgentConsole.Files.Disk

/-!
# Roots

Whether a script can be looked for under a root at all.
-/

namespace AgentConsole.Setup

open AgentConsole.Files

/-- Why nothing can be looked for under a root. -/
inductive RootError where
  | missing (path : String)
  | notDirectory (path : String)
  deriving DecidableEq, Repr

/-- The error in words. -/
def RootError.message : RootError → String
  | .missing path => "Workspace root does not exist: " ++ path
  | .notDirectory path => "Workspace root is not a directory: " ++ path

/-- A root has to be a directory. -/
def checkRoot (d : Disk) (path : String) : Except RootError Unit :=
  if !d.has path then .error (.missing path)
  else if !d.hasDirectory path then .error (.notDirectory path)
  else .ok ()

end AgentConsole.Setup
