import AgentConsole.Agent.RequestFile
import AgentConsole.Agent.Script

/-!
# Runs

A request is run in two parts. `Host.start` looks for the script, makes the request file and calls
the runner. When the call ends, whichever way, `Call.release` gives the file up; `Call.result?` says
what the answer, or its absence, amounts to.
-/

namespace AgentConsole.Agent

open AgentConsole.Files AgentConsole.Setup AgentConsole.Text

/-- What runs requests: the settings, and what becomes of the runs. -/
structure Host where
  settings : Settings
  runner : Runner

/-- A run under way. -/
structure Call where
  invocation : Invocation
  file : RequestFile
  answer : Answer
  /-- When the answer comes, if it ever does. -/
  due : Option Nat
  /-- When the run has taken too long. -/
  deadline : Nat
  deriving DecidableEq, Repr

/-- What starting a request came to. -/
inductive Started where
  /-- No program was called. -/
  | done (result : Except AgentError String)
  | called (call : Call)

/-- What is told instead of an answer when there is no script. -/
def missingScriptMessage (settings : Settings) (script : String) : String :=
  "Error: Agent script not found at " ++ script ++
    "\n\nCommand that would have been executed:\n" ++
    commandLine settings.interpreter script none settings.extraArguments ++
    "\n\nPlease check the 'script_path' setting."

/-- Calls the runner with a request file that has been made. -/
def Host.call (h : Host) (w : Workspace) (script : String) (file : RequestFile) :
    Workspace × Call :=
  let invocation : Invocation :=
    ⟨h.settings.interpreter, script, file.path, h.settings.extraArguments⟩
  let body :=
    match w.disk.at? file.location with
    | some (.file octets _) => Utf8.decodeLossy octets
    | _ => ""
  let (disk, answer) := h.runner w.runs.length invocation w.disk
  ({ w with disk, runs := (invocation, body) :: w.runs },
    { invocation, file, answer
      due := answer.delay.map (w.now + ·)
      deadline := w.now + h.settings.timeout })

/-- Starts a request. -/
def Host.start (h : Host) (w : Workspace) (r : Request) : Workspace × Started :=
  match resolve w.disk h.settings.roots h.settings.installDirectory h.settings.script with
  | .missing script => (w, .done (.ok (missingScriptMessage h.settings script)))
  | .found script =>
    match RequestFile.create w h.settings.requestDirectory r (w.refusal w.minted r) with
    | (w, .error e) => (w, .done (.error e))
    | (w, .ok file) =>
      let (w, call) := h.call w script file
      (w, .called call)

namespace Call

/-- The answer comes in time, at this time. -/
def answersAt? (c : Call) : Option Nat :=
  c.due.filter fun due => decide (due ≤ c.deadline)

/-- When something happens to the run: it ends, or it has taken too long. -/
def timer (c : Call) : Nat :=
  (c.answersAt?).getD c.deadline

/-- The request file is given up, whatever the run came to. -/
def release (c : Call) (w : Workspace) : Workspace :=
  { w with disk := c.file.giveUp w.disk }

/-- What the run amounts to when its time has come; none if the runner broke down. -/
def result? (h : Host) (c : Call) : Option (Except AgentError String) :=
  match c.answersAt? with
  | none => some (.error (.timeout h.settings.timeout))
  | some _ =>
    match c.answer.ending with
    | .panic => none
    | .failure cause => some (.error (.spawn c.invocation.line cause))
    | .exit outcome => some outcome.reply

end Call

end AgentConsole.Agent
