import AgentConsole.Files.Disk
import AgentConsole.Shell.Cursor
import AgentConsole.Shell.Integer
import AgentConsole.Shell.OctetText
import AgentConsole.Shell.Script

/-!
# The state of a script

What a script works on: the disk, its variables, its arguments, the time, and its descriptors. A
descriptor leads to a stream, which keeps what is written until it is read, or to a place in a file
on the disk. What a script does is a function on this state that may stop before its end (`Stop`).
-/

namespace AgentConsole.Shell

open AgentConsole.Files

/-- What a descriptor leads to. -/
inductive Connection where
  | stream (number : Nat)
  /-- An open file. -/
  | file (number : Nat)
  | sink
  deriving DecidableEq, Repr

/-- A file that is open. -/
structure OpenFile where
  location : Location
  /-- Where it is read or written next. -/
  offset : Nat
  /-- What is written goes to the end of it. -/
  appends : Bool
  /-- What it held when it was opened, for when it is not on the disk any more. -/
  kept : List UInt8

namespace OpenFile

/-- What the file holds. -/
def octets (f : OpenFile) (d : Disk) : List UInt8 :=
  match d.at? f.location with
  | some (.file octets _) => octets
  | _ => f.kept

/-- What is left to read. -/
def content (f : OpenFile) (d : Disk) : List Char :=
  ofOctets ((f.octets d).drop f.offset)

/-- The octets of a file after others were written over it from an offset on; zeros fill what is
between its end and the offset. -/
def overwrite (old : List UInt8) (offset : Nat) (written : List UInt8) : List UInt8 :=
  old.take offset ++ List.replicate (offset - old.length) 0 ++ written ++
    old.drop (offset + written.length)

theorem overwrite_end (old written : List UInt8) :
    overwrite old old.length written = old ++ written := by
  simp [overwrite]

/-- Writes to the file: the file after that, and the disk. -/
def write (f : OpenFile) (d : Disk) (cs : List Char) : OpenFile × Disk :=
  match d.at? f.location with
  | some (.file octets executable) =>
    let written := toOctets cs
    let offset := if f.appends then octets.length else f.offset
    ({ f with offset := offset + written.length },
      d.put f.location (.file (overwrite octets offset written) executable))
  | _ => (f, d)

end OpenFile

/-- What was written and not read. -/
structure Stream where
  front : List Char
  /-- What was written behind the front, with the times of it; the last comes first. -/
  pieces : List (Nat × List Char)

namespace Stream

/-- All that was not read. -/
def content (s : Stream) : List Char :=
  s.front ++ (s.pieces.reverse.map (·.2)).flatten

/-- A stream with this content. -/
def holding (cs : List Char) : Stream :=
  ⟨cs, []⟩

/-- Writes at a time: behind what was written until then, and before what was written later. -/
def write (s : Stream) (time : Nat) (cs : List Char) : Stream :=
  let isLater (p : Nat × List Char) : Bool := decide (time < p.1)
  { s with pieces := s.pieces.takeWhile isLater ++ (time, cs) :: s.pieces.dropWhile isLater }

@[simp] theorem content_holding (cs : List Char) : (holding cs).content = cs := by
  simp [content, holding]

theorem content_write (s : Stream) (time : Nat) (cs : List Char)
    (h : ∀ p ∈ s.pieces, p.1 ≤ time) : (s.write time cs).content = s.content ++ cs := by
  obtain ⟨front, pieces⟩ := s
  cases pieces with
  | nil => simp [content, write]
  | cons p ps =>
    have : ¬ time < p.1 := Nat.not_lt.mpr (h p List.mem_cons_self)
    simp [content, write, this]

end Stream

/-- Something that goes on, or went on, in the background. -/
structure Job where
  number : Nat
  /-- When it ends, if it ever does. -/
  ends : Option Nat
  status : Nat
  /-- The signal that ended it. -/
  signal : Option Nat
  /-- Another shell started it. -/
  foreign : Bool
  deriving DecidableEq, Repr

/-- A job as other shells see it. -/
def Job.abroad (j : Job) : Job :=
  { j with foreign := true }

/-- The state of a script. -/
structure Machine where
  disk : Disk
  bindings : List (String × String)
  /-- The names of the variables that other programs see. -/
  exported : List String
  /-- The names of the variables that keep their values. -/
  fixed : List String
  /-- What the script is called. -/
  name : String
  arguments : List String
  functions : List (String × Command)
  /-- The values that variables had outside, function by function. -/
  outer : List (List (String × Option String))
  /-- The letters of the options that are on. -/
  options : List Char
  /-- What is done on a signal, or at the end, which is the signal zero. -/
  traps : List (Nat × String)
  status : Nat
  /-- The status of the last substituted command of the words under way. -/
  substituted : Option Nat
  /-- How many loops there are around. -/
  loops : Nat
  /-- A failure is looked at here, so it is no reason to stop. -/
  lenient : Bool
  /-- Milliseconds since the start. -/
  elapsed : Nat
  jobs : List Job
  streams : List (Nat × Stream)
  files : List (Nat × OpenFile)
  /-- The numbers of streams, files and documents are below this one. -/
  fresh : Nat
  descriptors : List (Nat × Connection)
  line : Nat
  /-- The built-in command under way, as complaints have it. -/
  caller : Option String
  /-- Programs that were found by their names. -/
  tracked : List String
  /-- What names stand for where a command starts. -/
  aliases : List (String × String)
  /-- The documents that redirections read. -/
  documents : List (Nat × Word)
  /-- The permissions that new files do not have. -/
  mask : Nat
  /-- The argument that options are read from next, and how far it was read. -/
  optionPlace : Nat × Nat
  /-- How much is made of what never ends. -/
  supply : Nat
  /-- The streams of what never ends. -/
  unending : List Nat
  /-- There would have been more of something that never ends. -/
  exhausted : Bool

/-- Why a script stops where it is. -/
inductive Stop where
  | exit
  /-- A signal ended the process. -/
  | killed (signal : Nat)
  | endless
  /-- Leaves so many loops; the last one may go on with its next round. -/
  | leave (loops : Nat) (again : Bool)
  | back
  /-- A built-in command failed in a way that ends the shell, unless the command is a usual one. -/
  | failed
  deriving DecidableEq, Repr

/-- What a script does. -/
abbrev Act := ExceptT Stop (StateM Machine)

/-- Does something, and what stops it is a result. -/
def attempt {α : Type} (act : Act α) : Act (Except Stop α) := do
  let (result, m) := act.run (← get)
  set m
  return result

/-- Stops, with a status. -/
def stopWith {α : Type} (status : Nat) (reason : Stop) : Act α := do
  modify fun m => { m with status }
  throw reason

/-- The status of what was done last. -/
def setStatus (status : Nat) : Act Unit :=
  modify fun m => { m with status }

/-! ## Streams and descriptors -/

/-- A new stream. -/
def newStream (content : List Char) : Act Nat := do
  let m ← get
  set { m with streams := (m.fresh, .holding content) :: m.streams, fresh := m.fresh + 1 }
  return m.fresh

/-- Changes a stream. -/
def changeStream (number : Nat) (f : Stream → Stream) : Act Unit :=
  modify fun m =>
    { m with streams := m.streams.map fun p => if p.1 = number then (p.1, f p.2) else p }

/-- What a stream holds. -/
def streamContent (m : Machine) (number : Nat) : List Char :=
  ((m.streams.lookup number).map Stream.content).getD []

/-- Empties a stream and drops it. -/
def drain (number : Nat) : Act (List Char) := do
  let m ← get
  set { m with streams := m.streams.filter (·.1 ≠ number) }
  return streamContent m number

/-- Opens the file at a location. -/
def openFile (location : Location) (appends : Bool) : Act Connection := do
  let m ← get
  let f : OpenFile := ⟨location, 0, appends, []⟩
  let f := { f with kept := f.octets m.disk }
  set { m with files := (m.fresh, f) :: m.files, fresh := m.fresh + 1 }
  return .file m.fresh

/-- Puts an open file in the place of another. -/
def Machine.withFile (m : Machine) (number : Nat) (f : OpenFile) : Machine :=
  { m with files := m.files.map fun p => if p.1 = number then (number, f) else p }

/-- What a descriptor leads to. -/
def connection? (descriptor : Nat) : Act (Option Connection) :=
  return (← get).descriptors.lookup descriptor

/-- Connects a descriptor, or closes it. -/
def connect (descriptor : Nat) (connection : Option Connection) : Act Unit :=
  modify fun m =>
    let others := m.descriptors.filter (·.1 ≠ descriptor)
    { m with
      descriptors := match connection with
        | some p => (descriptor, p) :: others
        | none => others }

/-- Writes to a descriptor, unless it is closed. -/
def emit (descriptor : Nat) (cs : List Char) : Act Bool := do
  match ← connection? descriptor with
  | none => return cs.isEmpty
  | some .sink => return true
  | some (.stream n) =>
    let time := (← get).elapsed
    if !cs.isEmpty then changeStream n (·.write time cs)
    return true
  | some (.file n) =>
    modify fun m =>
      match m.files.lookup n with
      | some f =>
        let (f, disk) := f.write m.disk cs
        { m.withFile n f with disk }
      | none => m
    return true

/-- Writes a line to the error stream. -/
def warn (line : String) : Act Unit := do
  let _ ← emit 2 (line ++ "\n").toList

/-- Complains, with the name of the script, the line it is at and the built-in command under
way. -/
def grumble (words : String) : Act Unit := do
  let m ← get
  let caller := (m.caller.map (· ++ ": ")).getD ""
  warn (m.name ++ ": " ++ toString m.line ++ ": " ++ caller ++ words)

/-- Complains and goes on. -/
def refuse (words : String) (status : Nat := 2) : Act Unit := do
  grumble words
  setStatus status

/-- Complains and fails. -/
def giveUp {α : Type} (words : String) : Act α := do
  grumble words
  stopWith 2 .failed

/-- What is left to read. -/
def Machine.input (m : Machine) : List Char :=
  match m.descriptors.lookup 0 with
  | some (.stream n) => streamContent m n
  | some (.file n) => ((m.files.lookup n).map (·.content m.disk)).getD []
  | _ => []

/-- The state after so many characters were read. -/
def consume (count : Nat) : Act Unit := do
  match ← connection? 0 with
  | some (.stream n) => changeStream n fun s => .holding (s.content.drop count)
  | some (.file n) =>
    modify fun m =>
      match m.files.lookup n with
      | some f => m.withFile n { f with offset := f.offset + count }
      | none => m
  | _ => return ()

/-- Reads all there is to read. -/
def takeAll : Act (List Char) := do
  let content := (← get).input
  consume content.length
  return content

/-! ## Variables -/

/-- The number the process has. -/
def processNumber : Nat := 4711

/-- The names of the options, in order; those that have a letter are on if it is among the options
of the shell. -/
def optionNames : List (String × Option Char) :=
  [("errexit", some 'e'), ("noglob", some 'f'), ("ignoreeof", some 'I'),
    ("interactive", some 'i'), ("monitor", some 'm'), ("noexec", some 'n'), ("stdin", some 's'),
    ("xtrace", some 'x'), ("verbose", some 'v'), ("vi", some 'V'), ("emacs", some 'E'),
    ("noclobber", some 'C'), ("allexport", some 'a'), ("notify", some 'b'),
    ("nounset", some 'u'), ("nolog", none), ("debug", none)]

/-- The letters of the options, in order. -/
def optionLetters : List Char :=
  optionNames.filterMap (·.2)

/-- A variable, or what one sign stands for. -/
def Machine.value? (m : Machine) (name : String) : Option String :=
  match name with
  | "?" => some (toString m.status)
  | "#" => some (toString m.arguments.length)
  | "$" => some (toString processNumber)
  | "-" => some (String.ofList (optionLetters.reverse.filter m.options.contains))
  | "!" => m.jobs.getLast?.map fun j => toString j.number
  | "0" => some m.name
  | _ =>
    if name.toList.all Char.isDigit then
      m.arguments[(name.toList.foldl (fun (n : Nat) c => n * 10 + (c.toNat - 48)) 0) - 1]?
    else m.bindings.lookup name

/-- Gives a variable a value. -/
def Machine.setVariable (m : Machine) (name value : String) : Machine :=
  { m with bindings := (name, value) :: m.bindings.filter (·.1 ≠ name) }

/-- Takes a variable away. -/
def Machine.unsetVariable (m : Machine) (name : String) : Machine :=
  { m with
    bindings := m.bindings.filter (·.1 ≠ name)
    exported := m.exported.filter (· ≠ name) }

/-- The variables that other programs see. -/
def Machine.environment (m : Machine) : List (String × String) :=
  m.bindings.filter fun v => m.exported.contains v.1

/-- Gives a variable a value, unless it keeps the one it has. -/
def assign (name value : String) : Act Unit := do
  let m ← get
  if m.fixed.contains name then giveUp (name ++ ": is read only")
  else
    let m := m.setVariable name value
    let m := if m.options.contains 'a' then { m with exported := name :: m.exported } else m
    let place := (natural? value).getD 1
    let m := if name = "PATH" then { m with tracked := [] } else m
    set (if name = "OPTIND" then { m with optionPlace := (max place 1, 0) } else m)

/-- Gives up at a text that is no name of a variable. -/
def requireName (name : String) : Act Unit := do
  if isVariableName name then return () else giveUp (name ++ ": bad variable name")

/-- Does something as a built-in command of a name does it. -/
def calledBy (name : String) (act : Act Unit) : Act Unit := do
  let before := (← get).caller
  modify fun m => { m with caller := some name }
  let result ← attempt act
  modify fun m => { m with caller := before }
  match result with
  | .ok () => return ()
  | .error reason => throw reason

/-! ## Shells within -/

/-- When all is done that goes on in the background, if it ever is. -/
def Machine.busyUntil? (m : Machine) : Option Nat :=
  m.jobs.foldl (fun (time : Option Nat) j => do return max (← time) (← j.ends)) (some m.elapsed)

/-- Does something in a shell of its own: what it leaves is the disk, the streams, what goes on in
the background and its status. -/
def inSubshell (act : Act Unit) : Act Unit := do
  let before ← get
  set { before with traps := [], jobs := before.jobs.map Job.abroad }
  let result ← attempt act
  modify fun m =>
    { before with
      disk := { m.disk with cwd := before.disk.cwd }
      streams := m.streams
      files := m.files
      fresh := m.fresh
      unending := m.unending
      exhausted := m.exhausted
      elapsed := m.elapsed
      jobs :=
        before.jobs.zipWith (fun old new => { new with foreign := old.foreign }) m.jobs ++
          (m.jobs.drop before.jobs.length).map Job.abroad
      status := m.status % 256 }
  match result with
  | .error (.killed signal) => throw (.killed signal)
  | .error .endless => throw .endless
  | _ => return ()

/-- Takes steps until there is no next one, and gives the last state. After so many rounds it will
never end. -/
def iterate {σ : Type} (step : σ → Act (Option σ)) :
    Nat → σ → Machine → Except Stop σ × Machine
  | 0, _, m => (.error .endless, m)
  | rounds + 1, s, m =>
    match (step s).run m with
    | (.ok (some next), m) => iterate step rounds next m
    | (.ok none, m) => (.ok s, m)
    | (.error e, m) => (.error e, m)

/-- Takes steps until there is no next one. -/
def repeatedly {σ : Type} (rounds : Nat) (start : σ) (step : σ → Act (Option σ)) : Act σ :=
  fun m => iterate step rounds start m

/-- Does something where a failure is no reason to stop. -/
def leniently (act : Act Unit) : Act Unit := do
  let before := (← get).lenient
  modify fun m => { m with lenient := true }
  let result ← attempt act
  modify fun m => { m with lenient := before }
  match result with
  | .ok () => return ()
  | .error reason => throw reason

end AgentConsole.Shell
