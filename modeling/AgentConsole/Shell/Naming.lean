import AgentConsole.Shell.Builtin
import AgentConsole.Shell.Executable
import AgentConsole.Shell.Reading

/-!
# What names stand for

A name where a command starts is a keyword, an alias, a built-in command, a function or a program
(`Machine.meaning`), and there are commands that say which.
-/

namespace AgentConsole.Shell

open AgentConsole.Files

/-- What a name stands for where a command starts. -/
inductive Meaning where
  | keyword
  | standsFor (value : String)
  | special
  | function
  | builtin
  /-- A program, which has been found before or is now. -/
  | program (path : String) (known : Bool)
  | nothing
  deriving DecidableEq, Repr

/-- The built-in commands that go through other commands. -/
def otherBuiltins : List String :=
  [".", "command", "eval", "exec", "hash", "kill", "type"]

/-- The name is that of a built-in command. -/
def isBuiltin (name : String) : Bool :=
  (builtin? name).isSome || otherBuiltins.contains name

/-- The name is that of a built-in command that functions cannot replace. -/
def isSpecialBuiltin (name : String) : Bool :=
  specialBuiltins.contains name

/-- What a name stands for. -/
def Machine.meaning (m : Machine) (name : String) : Meaning :=
  if reserved.contains name then .keyword
  else
    match m.aliases.lookup name with
    | some value => .standsFor value
    | none =>
      if isSpecialBuiltin name then .special
      else if m.functions.any (·.1 = name) then .function
      else if isBuiltin name then .builtin
      else
        match findProgram m.disk m.searched name with
        | .ok path => .program path (m.tracked.contains path && !name.toList.contains '/')
        | .error _ => .nothing

/-- What is said of a name. -/
def Meaning.words (name : String) : Meaning → String
  | keyword => name ++ " is a shell keyword"
  | standsFor value => name ++ " is an alias for " ++ value
  | special => name ++ " is a special shell builtin"
  | function => name ++ " is a shell function"
  | builtin => name ++ " is a shell builtin"
  | program path known => name ++ " is " ++ (if known then "a tracked alias for " else "") ++ path
  | nothing => name ++ ": not found"

/-- Says of names what they stand for. -/
def describeNames (names : List String) : Act Unit := do
  let m ← get
  let meanings := names.map fun name => (name, m.meaning name)
  utter ("".intercalate (meanings.map fun p => p.2.words p.1 ++ "\n")).toList
  if meanings.any (·.2 = .nothing) then setStatus 127

/-- Says in short what a name stands for. -/
def locateName (name : String) : Act Unit := do
  match (← get).meaning name with
  | .nothing => setStatus 127
  | .standsFor value => utter ("alias " ++ aliasLine (name, value)).toList
  | .program path _ => utter (path ++ "\n").toList
  | _ => utter (name ++ "\n").toList

/-- Remembers where a program was found by its name. -/
def trackProgram (name path : String) : Act Unit := do
  if !name.toList.contains '/' then
    modify fun m => { m with tracked := m.tracked.filter (· ≠ path) ++ [path] }

/-- Finds programs by their names and remembers them, or shows those that are remembered. -/
def hashCommand (arguments : List String) : Act Unit := do
  let (given, names) ← optionsOf ['r', 'v'] [] arguments
  if given.any (·.1 = 'r') then
    modify fun m => { m with tracked := [] }
    setStatus 0
  else if names.isEmpty then
    let rows := (← get).tracked.mergeSort fun a b =>
      nameRow 31 (lastName a) ≤ nameRow 31 (lastName b)
    utter (unlines (rows.map (·.toList)))
  else
    setStatus 0
    for name in names do
      match (← get).meaning name with
      | .program path _ => trackProgram name path
      | .nothing =>
        grumble (name ++ ": not found")
        setStatus 1
      | _ => pure ()

/-- What is asked of `command`. -/
inductive CommandRequest where
  | describe (name : String)
  | locate (name : String)
  /-- Carries a command out; programs may be looked for at the usual places. -/
  | run (usual : Bool) (name : String) (arguments : List String)
  | nothing

/-- Reads the arguments of `command`. -/
def commandRequest (arguments : List String) : Act CommandRequest := do
  let (given, rest) ← optionsOf ['p', 'v', 'V'] [] arguments
  match rest, (given.filter (·.1 ≠ 'p')).getLast?.map (·.1) with
  | [], _ => return .nothing
  | name :: _, some 'v' => return .locate name
  | name :: _, some _ => return .describe name
  | name :: arguments, none => return .run (given.any (·.1 = 'p')) name arguments

end AgentConsole.Shell
