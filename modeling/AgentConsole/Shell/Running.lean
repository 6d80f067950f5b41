import AgentConsole.Shell.Executable
import AgentConsole.Shell.Toolbox

/-!
# Running programs

How utilities are connected to the state of a script, and files to its descriptors.
-/

namespace AgentConsole.Shell

open AgentConsole.Text AgentConsole.Files

/-! ## Files for descriptors -/

/-- The descriptor that the name of a file stands for. -/
def namedDescriptor? (path : String) : Option Nat :=
  match path with
  | "/dev/stdin" | "/dev/fd/0" | "/proc/self/fd/0" => some 0
  | "/dev/stdout" | "/dev/fd/1" | "/proc/self/fd/1" => some 1
  | "/dev/stderr" | "/dev/fd/2" | "/proc/self/fd/2" => some 2
  | _ => none

/-- The words for a file that cannot be opened; `missing` are those for one that is not there. -/
def openingWords (missing : String) (e : IoError) : String :=
  if e = .notFound || e = .notDirectory then missing else e.words

/-- Opens what a path leads to, without a change of it. -/
def openExisting (path : String) (appends : Bool) : Act (Option Connection) := do
  let d := (← get).disk
  match d.find path with
  | .ok l =>
    match d.at? l with
    | some (.file _ _) => return some (← openFile l appends)
    | _ => return some .sink
  | .error _ => return none

/-- Opens a file to be read: what it leads to, or a complaint. -/
def openToRead (target : String) : Act (Except String Connection) := do
  let m ← get
  match namedDescriptor? target with
  | some n =>
    match m.descriptors.lookup n with
    | some c => return .ok c
    | none => return .error ("cannot open " ++ target ++ ": No such file")
  | none =>
    match m.disk.find (unspell target) with
    | .ok _ => return .ok ((← openExisting (unspell target) false).getD .sink)
    | .error e => return .error ("cannot open " ++ target ++ ": " ++ openingWords "No such file" e)

/-- Opens a file to be written: emptied, or for more after its end, or just as it is; a file that is
to be kept is none that can be opened. -/
def openToWrite (target : String) (empties appends keeps : Bool) :
    Act (Except String Connection) := do
  let m ← get
  let path := unspell target
  let wrong (words : String) : Except String Connection :=
    .error ("cannot create " ++ target ++ ": " ++ words)
  match namedDescriptor? target with
  | some n =>
    match m.descriptors.lookup n with
    | some c => return .ok c
    | none => return wrong "Directory nonexistent"
  | none =>
    if keeps && m.disk.hasFile path then return wrong "File exists"
    else
      let written :=
        if empties || !m.disk.has path then m.disk.writeFile path [] false
        else if m.disk.hasDirectory path then .error .isDirectory
        else .ok m.disk
      match written with
      | .error e => return wrong (openingWords "Directory nonexistent" e)
      | .ok disk =>
        set { m with disk }
        return .ok ((← openExisting path appends).getD .sink)

/-! ## Utilities -/

/-- Reads so much of the input; of a stream nothing is left for others once some of it was read. -/
def takeInput (count : Nat) : Act Unit := do
  let m ← get
  match m.descriptors.lookup 0 with
  | some (.stream n) =>
    let all := m.input.length
    if m.unending.contains n && count ≥ all then modify fun m => { m with exhausted := true }
    if count > 0 then consume all
  | _ => consume count

/-- Starts a utility and carries out what it does. -/
def runUtility (name : String) (run : Start → Effect) (arguments : List String) : Act Unit := do
  let m ← get
  let inputSize :=
    match m.descriptors.lookup 0 with
    | some (.file n) => (m.files.lookup n).map fun f => (f.octets m.disk).length
    | _ => none
  let effect := run ⟨name, arguments, m.input, inputSize, m.environment, m.disk, m.supply⟩
  takeInput effect.taken
  modify fun m => { m with disk := effect.disk, status := effect.status }
  let mut lost := false
  for piece in effect.pieces do
    let written ← emit (if piece.isComplaint then 2 else 1) piece.text
    if !written && !piece.isComplaint then lost := true
  if lost then
    let what := if name = "cat" then "standard output" else "write error"
    warn (name ++ ": " ++ what ++ ": Bad file descriptor")
    setStatus 1
  match effect.delay with
  | some ms => modify fun m => { m with elapsed := m.elapsed + ms }
  | none => throw .endless

/-- What is asked of `env`: which variables are taken away or given, and what is run. -/
structure EnvironmentChange where
  /-- All variables are taken away. -/
  empties : Bool
  dropped : List String
  given : List (String × String)
  command : List String

/-- Reads the arguments of `env`, onto what was read of them. -/
def environmentChange : Nat → EnvironmentChange → List String → Except String EnvironmentChange
  | 0, c, _ => .ok c
  | fuel + 1, c, arguments =>
    match arguments with
    | [] => .ok c
    | a :: rest =>
      match a, rest with
      | "-", _ | "-i", _ | "--ignore-environment", _ =>
        environmentChange fuel { c with empties := true } rest
      | "-u", name :: rest => environmentChange fuel { c with dropped := name :: c.dropped } rest
      | "--", _ => .ok (assignments c rest)
      | _, _ =>
        match a.toList with
        | '-' :: '-' :: _ => .error ("unrecognized option '" ++ a ++ "'")
        | '-' :: letter :: _ =>
          let words := if letter = 'u' then "option requires an argument" else "invalid option"
          .error (words ++ " -- '" ++ String.ofList [letter] ++ "'")
        | _ => .ok (assignments c arguments)
where
  /-- Reads variables with their values, and the command behind them. -/
  assignments (c : EnvironmentChange) (arguments : List String) : EnvironmentChange :=
    let given := arguments.takeWhile fun a => a.toList.contains '='
    { c with
      given := given.map fun a =>
        let name := a.toList.takeWhile (· ≠ '=')
        (String.ofList name, String.ofList (a.toList.drop (name.length + 1)))
      command := arguments.drop given.length }

/-! ## Commands with arguments from the input -/

/-- How `xargs` makes commands of its input. -/
structure Gathering where
  /-- What items end with, if they are not words. -/
  ending : Option Char
  /-- How many items, or lines of them, there are in a command at most. -/
  items : Option Nat
  lines : Option Nat
  /-- What a line takes the place of in the command. -/
  hole : Option String
  /-- A command without items is not carried out. -/
  onlyFull : Bool
  /-- Commands are shown. -/
  shows : Bool
  command : List String

/-- Reads the arguments of `xargs`. -/
def gathering (s : Start) : Except String Gathering := do
  let switches := [flag '0' "null", valued 'd' "delimiter", valued 'n' "max-args",
    valued 'L' "max-lines", valued 'I', ⟨'i', "replace", .maybe⟩, flag 'r' "no-run-if-empty",
    flag 't' "verbose", valued 'P' "max-procs", valued 's' "max-chars", flag 'x' "exit"]
  let hint := "\nTry '" ++ s.name ++ " --help' for more information."
  let o ← (readOptions switches false (s.arguments.length + 1) s.arguments).mapError (· ++ hint)
  let number (letter : Char) : Except String (Option Nat) :=
    (o.value? letter).mapM fun written =>
      let option := " for -" ++ String.ofList [letter] ++ " option"
      match natural? written with
      | some 0 => .error ("value " ++ written ++ option ++ " should be >= 1" ++ hint)
      | some n => .ok n
      | none => .error ("invalid number \"" ++ written ++ "\"" ++ option ++ hint)
  let items ← number 'n'
  let lines ← number 'L'
  let hole := (o.last? ['I', 'i']).bind fun letter => (o.value? letter).map fun written =>
    if written.isEmpty then "\x7b\x7d" else written
  let ending :=
    if o.has '0' then some (Char.ofNat 0)
    else (o.value? 'd').map fun written => ((unescape 5 written.toList).1.head?).getD (Char.ofNat 0)
  return { ending, items, lines, hole, onlyFull := o.has 'r' || hole.isSome, shows := o.has 't'
           command := if o.operands.isEmpty then ["echo"] else o.operands }

/-- The words of a line, of which `word` is under way, backwards; quotes and backslashes are as in a
script. A quote that is not closed is a failure. -/
def lineWords (word : Option (List Char)) : List Char → Except Char (List (List Char))
  | [] => .ok (word.map List.reverse).toList
  | '\\' :: c :: cs => lineWords (some (c :: word.getD [])) cs
  | c :: cs =>
    if c = ' ' || c = '\t' then
      match word with
      | some w => (lineWords none cs).map (w.reverse :: ·)
      | none => lineWords none cs
    else if c = '\'' || c = '"' then quoted c (word.getD []) cs
    else lineWords (some (c :: word.getD [])) cs
where
  /-- The same within quotes. -/
  quoted (sign : Char) (word : List Char) : List Char → Except Char (List (List Char))
    | [] => .error sign
    | c :: cs => if c = sign then lineWords (some word) cs else quoted sign (c :: word) cs

/-- The commands that are made of a text; else what is wrong with it. -/
def Gathering.commands (g : Gathering) (text : List Char) : Except String (List (List String)) := do
  let words (line : List Char) : Except String (List String) :=
    match lineWords none line with
    | .ok words => .ok (words.map String.ofList)
    | .error sign =>
      .error ("unmatched " ++ (if sign = '"' then "double" else "single") ++
        " quote; by default quotes are special to xargs unless you use the -0 option")
  let lines ←
    match g.ending with
    | some c => pure ((linesOf text c).map fun item => [String.ofList item])
    | none => (linesOf text).mapM words
  let lines := lines.filter (!·.isEmpty)
  let filled (batch : List String) : List String := g.command ++ batch
  match g.hole, g.lines, g.items with
  | some hole, _, _ =>
    return lines.map fun line =>
      g.command.map fun a => a.replace hole (" ".intercalate line)
  | none, some n, _ => return (inPieces n lines.length lines).map fun batch => filled batch.flatten
  | none, none, n =>
    let all := lines.flatten
    if all.isEmpty then return if g.onlyFull then [] else [g.command]
    else return (inPieces (n.getD all.length) all.length all).map filled

/-- The status of `xargs` after a command; none if it ends at once. -/
def gatheredStatus? (before status : Nat) : Option Nat :=
  if status = 0 then some before else if status < 126 then some 123 else none

/-! ## Changed variables -/

/-- The state with the variables that other programs see changed. -/
def Machine.withEnvironment (m : Machine) (c : EnvironmentChange) : Machine :=
  let kept := if c.empties then [] else m.environment.filter fun v => !c.dropped.contains v.1
  let others := kept.filter fun v => !c.given.any (·.1 = v.1)
  let seen := others ++ c.given
  { m with bindings := seen, exported := seen.map (·.1) }

end AgentConsole.Shell
