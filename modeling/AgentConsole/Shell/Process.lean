import AgentConsole.Agent.Workspace
import AgentConsole.Shell.Perform

/-!
# Processes

The agent as a process (`runProcess`): the interpreter is started on the script, with nothing to
read, and what it writes and the code it ends with are the outcome.
-/

namespace AgentConsole.Shell

open AgentConsole.Agent AgentConsole.Files AgentConsole.Setup AgentConsole.Text

/-- The file that starting a program runs. A name without a slash is looked for along the search
path. -/
def executable (d : Disk) (env : Environment) (program : String) : Except IoError String := do
  let judge (path : String) : Except IoError String := do
    let l ← d.find path
    match d.at? l with
    | some (.file octets true) =>
      match Program.ofFile path octets with
      | .native _ => return path
      | .script (some (interpreter, _)) _ =>
        let _ ← d.find (unspell interpreter)
        if d.hasProgram (unspell interpreter) then return path else .error .notPermitted
      | .script none _ => .error .notExecutable
    | _ => .error .notPermitted
  if program.isEmpty then .error .notFound
  else if program.toList.contains '/' then judge program
  else
    let entries := betweenColons [] ((env.get? "PATH").getD "").toList
    let paths := entries.map fun entry => join (String.ofList entry) program
    match paths.find? d.hasProgram with
    | some path => judge path
    | none => if paths.any d.has then .error .notPermitted else .error .notFound

/-- The state a process starts in: its input is empty, and its output and its error stream are the
streams 1 and 2. -/
def Machine.start (env : Environment) (d : Disk) (program : String) : Machine where
  disk := d
  bindings := env.bindings.map fun v => (spell v.1, spell v.2)
  exported := env.bindings.map fun v => spell v.1
  fixed := []
  name := spell program
  arguments := []
  functions := []
  outer := []
  options := []
  traps := []
  status := 0
  substituted := none
  loops := 0
  lenient := false
  elapsed := 0
  jobs := []
  streams := [(1, .holding []), (2, .holding [])]
  files := []
  fresh := 3
  descriptors := [(0, .sink), (1, .stream 1), (2, .stream 2)]
  line := 1
  caller := none
  tracked := []
  aliases := []
  documents := []
  mask := 18
  optionPlace := (1, 0)
  supply := 65536
  unending := []
  exhausted := false

/-- How many milliseconds a process needs that does nothing. -/
def startingTime : Nat := 2

/-- The exit code that stands for a process ended by a signal. -/
def killedCode : Int := -1

/-- What became of a process, from the state it ended in. -/
def processAnswer (result : Except Stop Unit) (m : Machine) : Answer :=
  let text (stream : Nat) : String := Utf8.decodeLossy (toOctets (streamContent m stream))
  let ending (code : Int) : Ending := .exit ⟨text 1, text 2, code⟩
  match result with
  | .error .endless => ⟨none, ending 0⟩
  | .error (.killed _) => ⟨some (m.elapsed + startingTime), ending killedCode⟩
  | _ => ⟨m.busyUntil?.map (· + startingTime), ending m.status⟩

/-- Runs the agent as a process. -/
def runProcess (env : Environment) : Runner := fun _ i d =>
  let program := resolveInterpreter d env i.interpreter
  let arguments := i.arguments
  if (program :: arguments).any (·.toList.contains (Char.ofNat 0)) then
    (d, ⟨some 0, .failure (.reported "nul byte found in provided data")⟩)
  else
    match executable d env program with
    | .error e => (d, ⟨some 0, .failure e⟩)
    | .ok path =>
      let act := runProgram depthLimit (spell path) (spell program) (arguments.map spell)
      let (result, m) := act.run (.start env d program)
      ({ m.disk with cwd := d.cwd }, processAnswer result m)

end AgentConsole.Shell
