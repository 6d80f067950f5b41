import AgentConsole.Agent.RequestFile

/-!
# Held request files

Request files made and given up in any order, while others may remove them as well.
-/

namespace AgentConsole.Agent

open AgentConsole.Files

/-- The request files of a workspace that are held, by the number of their making. -/
structure Holdings where
  workspace : Workspace
  made : Nat
  held : List (Nat × RequestFile)

namespace Holdings

/-- Nothing held. -/
def new (workspace : Workspace) : Holdings :=
  ⟨workspace, 0, []⟩

/-- Makes a request file and holds it, unless the system refuses to take what is written to the
file. -/
def make (h : Holdings) (directory : String) (r : Request) (refusal : Option IoError) :
    Holdings × Except AgentError (Nat × RequestFile) :=
  match RequestFile.create h.workspace directory r refusal with
  | (workspace, .error e) => ({ h with workspace }, .error e)
  | (workspace, .ok file) => (⟨workspace, h.made + 1, (h.made, file) :: h.held⟩, .ok (h.made, file))

/-- Makes a request file and holds it. -/
def create (h : Holdings) (directory : String) (r : Request) :
    Holdings × Except AgentError (Nat × RequestFile) :=
  h.make directory r none

/-- Gives a request file up, if it is held. -/
def drop (h : Holdings) (number : Nat) : Holdings × Bool :=
  match h.held.lookup number with
  | none => (h, false)
  | some file =>
    ({ h with
        workspace := { h.workspace with disk := file.giveUp h.workspace.disk }
        held := h.held.filter fun p => !(p.1 == number) }, true)

/-- Removes a request file from outside, and tells whether that could be done; `none` if no file is
held under the number. -/
def removeOutside? (h : Holdings) (number : Nat) : Option (Holdings × Bool) :=
  (h.held.lookup number).map fun file =>
    match h.workspace.disk.removeFile file.path with
    | .ok disk => ({ h with workspace := { h.workspace with disk } }, true)
    | .error _ => (h, false)

end Holdings

end AgentConsole.Agent
