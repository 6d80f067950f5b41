import AgentConsole.Shell.Variable

/-!
# Signals and jobs

The signals, and the built-in commands that send them, wait for them and say what is done on them,
to the process itself and to what goes on in the background.
-/

namespace AgentConsole.Shell

open AgentConsole.Text

/-- The names of the signals in the order of their numbers; the first stands for the end of a
shell. -/
def signalNames : List String :=
  ["EXIT", "HUP", "INT", "QUIT", "ILL", "TRAP", "ABRT", "BUS", "FPE", "KILL", "USR1", "SEGV",
    "USR2", "PIPE", "ALRM", "TERM", "16", "CHLD", "CONT", "STOP", "TSTP", "TTIN", "TTOU", "URG",
    "XCPU", "XFSZ", "VTALRM", "PROF", "WINCH", "IO", "PWR", "SYS", "32", "33", "RTMIN", "RTMIN+1",
    "RTMIN+2", "RTMIN+3", "RTMIN+4", "RTMIN+5", "RTMIN+6", "RTMIN+7", "RTMIN+8", "RTMIN+9",
    "RTMIN+10", "RTMIN+11", "RTMIN+12", "RTMIN+13", "RTMIN+14", "RTMIN+15", "RTMAX-14",
    "RTMAX-13", "RTMAX-12", "RTMAX-11", "RTMAX-10", "RTMAX-9", "RTMAX-8", "RTMAX-7", "RTMAX-6",
    "RTMAX-5", "RTMAX-4", "RTMAX-3", "RTMAX-2", "RTMAX-1", "RTMAX"]

/-- The number of a signal that is given by number or by name, in letters of either case. -/
def signal? (s : String) : Option Nat :=
  if !s.isEmpty && s.toList.all Char.isDigit then
    (natural? s).filter (· < signalNames.length)
  else
    let upper := String.ofList (s.toList.map Char.toUpper)
    signalNames.findIdx? (· = upper)

/-- The signals that end nothing. -/
def harmlessSignals : List Nat :=
  [0, 17, 18, 23, 28]

/-- The signals that bring a process to a halt. -/
def haltingSignals : List Nat :=
  [19, 20, 21, 22]

/-- What is said of a process that a signal has ended. -/
def deathWords (signal : Nat) : String :=
  match signal with
  | 1 => "Hangup"
  | 3 => "Quit"
  | 4 => "Illegal instruction"
  | 5 => "Trace/breakpoint trap"
  | 6 => "Aborted"
  | 7 => "Bus error"
  | 8 => "Floating point exception"
  | 9 => "Killed"
  | 10 => "User defined signal 1"
  | 11 => "Segmentation fault"
  | 12 => "User defined signal 2"
  | 14 => "Alarm clock"
  | 15 => "Terminated"
  | 16 => "Stack fault"
  | 24 => "CPU time limit exceeded"
  | 25 => "File size limit exceeded"
  | 26 => "Virtual timer expired"
  | 27 => "Profiling timer expired"
  | 29 => "I/O possible"
  | 30 => "Power failure"
  | 31 => "Bad system call"
  | _ => ""

/-- What is done on a signal, if it was said. -/
def Machine.trap? (m : Machine) (signal : Nat) : Option String :=
  m.traps.lookup signal

/-- Shows what is done on signals. -/
def showTraps : Act Unit := do
  let m ← get
  let line (p : String × Nat) : String :=
    ((m.trap? p.2).map fun action => "trap -- " ++ readable action ++ " " ++ p.1 ++ "\n").getD ""
  utter ("".intercalate (signalNames.zipIdx.map line)).toList

/-- Says what is done on signals, one after the other up to one that is none. -/
def setTraps (action : Option String) : List String → Act Unit
  | [] => setStatus 0
  | name :: more => do
    match signal? name with
    | none =>
      warn ("trap: " ++ name ++ ": bad trap")
      setStatus 1
    | some n =>
      modify fun m =>
        { m with
          traps := (action.map (n, ·)).toList ++ m.traps.filter (·.1 ≠ n) }
      setTraps action more

/-- Says what is done on signals, or shows it. -/
def trapCommand (arguments : List String) : Act Unit := do
  let (_, arguments) ← optionsOf [] [] arguments
  match arguments with
  | [] => showTraps
  | [name] => setTraps none [name]
  | action :: names =>
    if (natural? action).any (· < signalNames.length) then setTraps none arguments
    else setTraps (if action = "-" then none else some action) names

/-! ## Jobs -/

/-- The jobs of the shell itself, with the numbers it knows them by. -/
def Machine.ownJobs (m : Machine) : List (Nat × Job) :=
  ((m.jobs.filter fun j => !j.foreign).zipIdx).map fun p => (p.2 + 1, p.1)

/-- The job that a name with a percent sign stands for. -/
def jobOf (name : String) : Act Job := do
  let m ← get
  let own := m.ownJobs
  let found : Option Job :=
    match name.toList.drop 1 with
    | [] | ['%'] | ['+'] => own.getLast?.map (·.2)
    | ['-'] => own.dropLast.getLast?.map (·.2)
    | cs => (natural? (String.ofList cs)).bind (List.lookup · own)
  match found with
  | some j => return j
  | none => giveUp ("No such job: " ++ name)

/-- Waits for the end of a job, which the shell then forgets; it is said of one that was asked for
how it was killed. -/
def awaitJob (asked : Bool) (j : Job) : Act Unit := do
  match j.ends with
  | none => throw .endless
  | some time =>
    modify fun m =>
      { m with
        elapsed := max m.elapsed time
        status := j.status
        jobs := m.jobs.map fun k => if k.number = j.number then k.abroad else k }
  match j.signal with
  | some signal => if asked then warn (deathWords signal)
  | none => pure ()

/-- Waits for what goes on in the background, or for certain jobs. -/
def waitCommand (arguments : List String) : Act Unit := do
  let (_, names) ← optionsOf [] [] arguments
  match names with
  | [] =>
    for j in (← get).jobs.filter (!·.foreign) do
      awaitJob false j
    setStatus 0
  | _ =>
    for name in names do
      if name.startsWith "%" then awaitJob true (← jobOf name)
      else
        let n ← numberOf name
        match (← get).jobs.find? fun j => j.number = n && !j.foreign with
        | some j => awaitJob true j
        | none => setStatus 127

/-- Shows the jobs, the last one first. -/
def jobsCommand (arguments : List String) : Act Unit := do
  let (given, names) ← optionsOf ['l', 'p'] [] arguments
  let m ← get
  let own := m.ownJobs
  let chosen ←
    if names.isEmpty then pure own.reverse
    else
      let jobs ← names.mapM jobOf
      pure (own.filter fun p => jobs.contains p.2)
  let line (p : Nat × Job) : String :=
    if given.any (·.1 = 'p') then toString p.2.number ++ "\n"
    else
      let mark :=
        if p.1 = own.length then "+" else if p.1 + 1 = own.length then "-" else " "
      let state :=
        if p.2.ends.all (m.elapsed < ·) then "Running"
        else if let some signal := p.2.signal then deathWords signal
        else if p.2.status = 0 then "Done"
        else "Done(" ++ toString p.2.status ++ ")"
      "[" ++ toString p.1 ++ "] " ++ mark ++ " " ++ state ++
        String.ofList (List.replicate (27 - state.length) ' ') ++ "\n"
  utter ("".intercalate (chosen.map line)).toList

/-- Has nothing to bring to the front or to start again. -/
def resumeCommand (arguments : List String) : Act Unit := do
  let (_, names) ← optionsOf [] [] arguments
  match names with
  | [] => giveUp "No current job"
  | name :: _ => giveUp ("No such job: " ++ name)

/-! ## Sending signals -/

/-- What is asked of `kill`. -/
inductive KillRequest where
  | list (of : Option String)
  | send (signal : Nat) (targets : List String)

/-- How `kill` is used. -/
def killUsage : String :=
  "Usage: kill [-s sigspec | -signum | -sigspec] [pid | job]... or\nkill -l [exitstatus]"

/-- Reads the arguments of `kill`. -/
def killRequest (arguments : List String) : Act KillRequest := do
  let usual : Nat := 15
  let checked (signal : Nat) (targets : List String) : Act KillRequest :=
    if targets.isEmpty then giveUp killUsage else return .send signal targets
  match arguments with
  | [] => giveUp killUsage
  | a :: rest =>
    match a.toList with
    | '-' :: cs =>
      match signal? (String.ofList cs) with
      | some n => checked n rest
      | none =>
        let (given, targets) ← optionsOf ['l'] ['s'] arguments
        if given.any (·.1 = 'l') then return .list targets.head?
        else
          match (given.filter (·.1 = 's')).getLast? with
          | none => checked usual targets
          | some (_, name) =>
            match signal? name with
            | some n => checked n targets
            | none => giveUp ("invalid signal number or name: " ++ name)
    | _ => checked usual arguments

/-- Shows the names of the signals, or of the one that a number or a status stands for. -/
def listSignals (of : Option String) : Act Unit := do
  match of with
  | none => utter ("0\n" ++ "".intercalate (signalNames.tail.map (· ++ "\n"))).toList
  | some written =>
    let n ← numberOf written
    let n := if n > 128 then n - 128 else n
    match signalNames[n]? with
    | some name =>
      if n = 0 then giveUp ("invalid signal number or exit status: " ++ written)
      else utter (name ++ "\n").toList
    | none => giveUp ("invalid signal number or exit status: " ++ written)

/-- Sends a signal to a job; there is none with its number any more if it has ended. -/
def signalJob (signal : Nat) (number : Nat) : Act Unit := do
  let m ← get
  let goesOn (j : Job) : Bool := j.number = number && j.ends.all (m.elapsed < ·)
  if !m.jobs.any goesOn then refuse "No such process\n" 1
  else if !harmlessSignals.contains signal then
    let ended (j : Job) : Job :=
      { j with ends := some m.elapsed, status := 128 + signal, signal := some signal }
    set { m with jobs := m.jobs.map fun j => if goesOn j then ended j else j }

/-- The number of the process that a target of `kill` stands for. -/
def targetNumber (target : String) : Act Nat := do
  if target.startsWith "%" then return (← jobOf target).number
  else if target.startsWith "-" then numberOf (String.ofList (target.toList.drop 1))
  else numberOf target

end AgentConsole.Shell
