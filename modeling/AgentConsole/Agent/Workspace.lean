import AgentConsole.Agent.Invocation
import AgentConsole.Agent.Outcome
import AgentConsole.Files.Disk
import AgentConsole.Request

/-!
# Workspaces and runners

A workspace is what runs of the agent share: the disk, the time, and which runs there were. A
runner says what becomes of a run, and may look at the disk and change it for that.
-/

namespace AgentConsole.Agent

open AgentConsole.Files

/-- What a run ends in. -/
inductive Ending where
  /-- The runner itself breaks down. -/
  | panic
  | failure (cause : IoError)
  | exit (outcome : Outcome)
  deriving DecidableEq, Repr

/-- What becomes of a run. -/
structure Answer where
  /-- After how many milliseconds it ends; `none` if it never does. -/
  delay : Option Nat
  ending : Ending
  deriving DecidableEq, Repr

/-- What becomes of the run with this number: it starts on this disk and leaves the other. -/
abbrev Runner := Nat → Invocation → Disk → Disk × Answer

/-- What the runs of the agent share. -/
structure Workspace where
  disk : Disk
  /-- Milliseconds since the start. -/
  now : Nat
  /-- The numbers of the request files made so far are below this one. -/
  minted : Nat
  /-- The runs so far, with what their request files held; the last one comes first. -/
  runs : List (Invocation × String)
  /-- Why the system does not take what is written to the request file made for this request when
  so many numbers had been given, if it does not. -/
  refusal : Nat → Request → Option IoError := fun _ _ => none

/-- A workspace in which nothing has happened, on a system that takes all that is written. -/
def Workspace.new (disk : Disk) : Workspace :=
  { disk, now := 0, minted := 0, runs := [] }

end AgentConsole.Agent
