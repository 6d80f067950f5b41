import AgentConsole.Shell.Condition
import AgentConsole.Shell.Format
import AgentConsole.Shell.Signal

/-!
# Built-in commands

The commands a script carries out itself, without another program and without going through other
commands (`builtin?`).
-/

namespace AgentConsole.Shell

open AgentConsole.Text AgentConsole.Files

/-- A status as it is given to a command that ends something. -/
def statusArgument (arguments : List String) : Act Nat := do
  match arguments with
  | [] => return (← get).status
  | a :: _ => numberOf a

/-- Leaves loops; where there is none around, it does nothing. -/
def leaveLoops (again : Bool) (arguments : List String) : Act Unit := do
  let around := (← get).loops
  let n ←
    match arguments with
    | [] => pure 1
    | a :: _ =>
      let n ← numberOf a
      if n = 0 then giveUp ("Illegal number: " ++ a) else pure n
  if around = 0 then setStatus 0 else stopWith 0 (.leave (min n around) again)

/-- Carries out `test`, or the bracket when it is called so. -/
def testCommand (name : String) (arguments : List String) : Act Unit := do
  let inside ←
    if name ≠ "[" then pure arguments
    else if arguments.getLast? = some "]" then pure arguments.dropLast
    else giveUp "missing ]"
  match holds (← get).disk inside with
  | .ok answer => setStatus (if answer then 0 else 1)
  | .error words => giveUp words

/-- Goes to another directory. -/
def changeDirectory (arguments : List String) : Act Unit := do
  let (_, names) ← optionsOf ['L', 'P'] [] arguments
  let m ← get
  let target :=
    match names with
    | [] => (m.value? "HOME").getD ""
    | "-" :: _ => (m.value? "OLDPWD").getD ""
    | a :: _ => a
  match m.disk.find (if target.isEmpty then "." else unspell target) with
  | .error _ => giveUp ("can't cd to " ++ target)
  | .ok l =>
    if m.disk.isDirectoryAt l then
      let disk := { m.disk with cwd := l }
      let before := spell m.disk.cwdPath
      set { m with disk, status := 0 }
      modify fun m => (m.setVariable "OLDPWD" before).setVariable "PWD" (spell disk.cwdPath)
      if names.head? = some "-" then utter (spell disk.cwdPath ++ "\n").toList
    else giveUp ("can't cd to " ++ target)

/-- Writes by a format. -/
def printfCommand (arguments : List String) : Act Unit := do
  let (_, arguments) ← optionsOf [] [] arguments
  match arguments with
  | [] => giveUp "usage: printf format [arg ...]"
  | format :: arguments =>
    let f := formatted format arguments
    for words in f.complaints.reverse ++ f.fault.toList do
      grumble words
    utter f.out.reverse
    if f.fault.isSome then stopWith 2 .failed
    else if !f.complaints.isEmpty then setStatus 1

/-! ## Aliases -/

/-- An alias as it is shown. -/
def aliasLine (a : String × String) : String :=
  a.1 ++ "=" ++ readable a.2 ++ "\n"

/-- The place of a name among others: they are kept in so many rows, and the characters of a name
say in which. -/
def nameRow (rows : Nat) (name : String) : Nat :=
  let codes := name.toList.map Char.toNat
  codes.foldl (· + ·) (codes.headD 0 * 16) % rows

/-- Says what names stand for where a command starts, or shows it. -/
def aliasCommand (arguments : List String) : Act Unit := do
  match arguments with
  | [] =>
    let rows := (← get).aliases.mergeSort fun a b => nameRow 39 a.1 ≤ nameRow 39 b.1
    utter ("".intercalate (rows.map aliasLine)).toList
  | _ =>
    setStatus 0
    for a in arguments do
      let (name, value) := nameAndValue a
      match value with
      | some value =>
        modify fun m =>
          let known := m.aliases.any (·.1 = name)
          { m with
            aliases :=
              if known then m.aliases.map fun p => if p.1 = name then (name, value) else p
              else m.aliases ++ [(name, value)] }
      | none =>
        match (← get).aliases.lookup name with
        | some value =>
          let status := (← get).status
          utter (aliasLine (name, value)).toList
          setStatus status
        | none =>
          warn ("alias: " ++ name ++ " not found")
          setStatus 1

/-- Makes names stand for themselves again. -/
def unaliasCommand (arguments : List String) : Act Unit := do
  let (given, names) ← optionsOf ['a'] [] arguments
  setStatus 0
  if !given.isEmpty then modify fun m => { m with aliases := [] }
  else
    for name in names do
      if (← get).aliases.any (·.1 = name) then
        modify fun m => { m with aliases := m.aliases.filter (·.1 ≠ name) }
      else
        warn ("unalias: " ++ name ++ " not found")
        setStatus 1

/-! ## Permissions and limits -/

/-- The bits of a permission for the owner, the group and the others. -/
def permissionBits (c : Char) : Nat :=
  match c with
  | 'r' => 4
  | 'w' => 2
  | 'x' | 'X' => 1
  | _ => 0

/-- Permissions as letters. -/
def permissionLetters (bits : Nat) : String :=
  (if bits / 4 % 2 = 1 then "r" else "") ++ (if bits / 2 % 2 = 1 then "w" else "") ++
    if bits % 2 = 1 then "x" else ""

/-- The three digits of permissions: for the owner, the group and the others. -/
def permissionClasses (mode : Nat) : List (Char × Nat) :=
  [('u', mode / 64 % 8), ('g', mode / 8 % 8), ('o', mode % 8)]

/-- Permissions after one change, such as `go-w`. -/
def permissionsAfter? (mode : Nat) (clause : List Char) : Option Nat :=
  let who := clause.takeWhile ("ugoa".toList.contains ·)
  let step (mode : Nat) (sign : Char) (letters : List Char) : Option Nat :=
    let copied (c : Char) : Nat := ((permissionClasses mode).lookup c).getD (permissionBits c)
    let bits := letters.foldl (fun n c => n ||| copied c) 0
    let digits := (permissionClasses mode).map fun (letter, n) =>
      if who.isEmpty || who.contains 'a' || who.contains letter then
        if sign = '+' then n ||| bits
        else if sign = '-' then n - (n &&& bits)
        else bits
      else n
    if letters.all ("rwxXstugo".toList.contains ·) then
      some (digits.foldl (fun n digit => n * 8 + digit) 0)
    else none
  match clause.drop who.length with
  | sign :: letters => if ['+', '-', '='].contains sign then step mode sign letters else none
  | [] => none

/-- Permissions after changes with commas between them. -/
def permissionsAfterAll? (mode : Nat) (changes : List Char) : Option Nat :=
  let clauses := changes.foldr (fun c clauses =>
    if c = ',' then [] :: clauses
    else
      match clauses with
      | clause :: more => (c :: clause) :: more
      | [] => [[c]]) [[]]
  clauses.foldlM permissionsAfter? mode

/-- Shows or sets the permissions that new files do not have. -/
def umaskCommand (arguments : List String) : Act Unit := do
  let (given, names) ← optionsOf ['S'] [] arguments
  let mask := (← get).mask
  let all : Nat := 511
  match names with
  | [] =>
    if given.isEmpty then
      let digits := Nat.toDigits 8 mask
      utter (List.replicate (4 - digits.length) '0' ++ digits ++ ['\n'])
    else
      let shown := (permissionClasses (all - mask)).map fun (letter, bits) =>
        String.ofList [letter, '='] ++ permissionLetters bits
      utter (",".intercalate shown ++ "\n").toList
  | change :: _ =>
    if change.toList.head?.any Char.isDigit then
      if change.toList.all isOctal then
        modify fun m => { m with mask := (digitsIn 8 change.toList).1 % 512, status := 0 }
      else giveUp ("Illegal number: " ++ change)
    else
      match permissionsAfterAll? (all - mask) change.toList with
      | some mode => modify fun m => { m with mask := all - mode, status := 0 }
      | none => giveUp ("Illegal mode: " ++ change)

/-- The resources that have limits, by their letters, with what is shown of them. -/
def resources : List (Char × String × String) :=
  [('t', "time(seconds)", "unlimited"), ('f', "file(blocks)", "unlimited"),
    ('d', "data(kbytes)", "unlimited"), ('s', "stack(kbytes)", "8192"),
    ('c', "coredump(blocks)", "0"), ('m', "memory(kbytes)", "unlimited"),
    ('l', "locked memory(kbytes)", "unlimited"), ('p', "process", "unlimited"),
    ('n', "nofiles", "1048576"), ('v', "vmemory(kbytes)", "unlimited"),
    ('w', "locks", "unlimited"), ('r', "rtprio", "0")]

/-- Shows limits; setting one changes nothing that can be seen. -/
def ulimitCommand (arguments : List String) : Act Unit := do
  let letters := resources.map (·.1)
  let (given, values) ← optionsOf ('H' :: 'S' :: 'a' :: letters) [] arguments
  let chosen := ((given.map (·.1)).filter letters.contains).getLast?.getD 'f'
  if given.any (·.1 = 'a') then
    let line (r : Char × String × String) : String :=
      r.2.1 ++ String.ofList (List.replicate (20 - r.2.1.length) ' ') ++ " " ++ r.2.2 ++ "\n"
    utter ("".intercalate (resources.map line)).toList
  else
    match values with
    | [] => utter (((resources.lookup chosen).map (·.2)).getD "" ++ "\n").toList
    | [value] =>
      if value = "unlimited" || (!value.isEmpty && value.toList.all Char.isDigit) then setStatus 0
      else giveUp "bad number"
    | _ => giveUp "too many arguments"

/-- How much time was used: none. -/
def timesShown : String :=
  "0m0.000000s 0m0.000000s\n0m0.000000s 0m0.000000s\n"

/-- The built-in command of a name. -/
def builtin? (name : String) : Option (List String → Act Unit) :=
  match name with
  | ":" | "true" => some fun _ => setStatus 0
  | "false" => some fun _ => setStatus 1
  | "echo" => some fun arguments => utter (echoed arguments)
  | "printf" => some printfCommand
  | "test" | "[" => some (testCommand name)
  | "pwd" => some fun arguments => do
    let _ ← optionsOf ['L', 'P'] [] arguments
    utter (spell (← get).disk.cwdPath ++ "\n").toList
  | "cd" | "chdir" => some changeDirectory
  | "alias" => some aliasCommand
  | "unalias" => some unaliasCommand
  | "umask" => some umaskCommand
  | "ulimit" => some ulimitCommand
  | "times" => some fun _ => utter timesShown.toList
  | "set" => some setCommand
  | "shift" => some shiftCommand
  | "unset" => some unsetCommand
  | "export" => some exportCommand
  | "readonly" => some readonlyCommand
  | "local" => some localCommand
  | "read" => some readIntoVariables
  | "getopts" => some getoptsCommand
  | "trap" => some trapCommand
  | "wait" => some waitCommand
  | "jobs" => some jobsCommand
  | "fg" | "bg" => some resumeCommand
  | "exit" => some fun arguments => do stopWith (← statusArgument arguments) .exit
  | "return" => some fun arguments => do stopWith (← statusArgument arguments) .back
  | "break" => some (leaveLoops false)
  | "continue" => some (leaveLoops true)
  | _ => none

end AgentConsole.Shell
