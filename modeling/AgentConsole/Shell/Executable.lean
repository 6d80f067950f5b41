import AgentConsole.Agent.Script
import AgentConsole.Shell.FileTool
import AgentConsole.Shell.Machine

/-!
# Programs

Where the program of a name is found, and what a file that can be run holds: machine code, which is
known by the name of the file, or a script, which may name its interpreter.
-/

namespace AgentConsole.Shell

open AgentConsole.Text AgentConsole.Files

/-- What is wrong with a program that is asked for by name. -/
inductive Missing where
  | notFound
  | notPermitted
  deriving DecidableEq, Repr

/-- Where a shell looks for programs if nothing else is said. -/
def usualPath : String :=
  "/usr/local/sbin:/usr/local/bin:/usr/sbin:/usr/bin:/sbin:/bin"

/-- The paths that a name along a search path may mean. -/
def pathsAlong (searched name : String) : List String :=
  (Setup.betweenColons [] searched.toList).map fun entry =>
    let base := String.ofList entry
    if base.isEmpty || base.endsWith "/" then base ++ name else base ++ "/" ++ name

/-- Where the program of a name is, and the status if it is nowhere. -/
def findProgram (d : Disk) (searched name : String) : Except (Missing × Nat) String :=
  if name.toList.contains '/' then
    if d.hasProgram (unspell name) then .ok name
    else if d.has (unspell name) then .error (.notPermitted, 126)
    else .error (.notFound, 127)
  else
    let paths := pathsAlong searched name
    match paths.find? fun path => d.hasProgram (unspell path) with
    | some path => .ok path
    | none =>
      if paths.any fun path => d.has (unspell path) then .error (.notPermitted, 127)
      else .error (.notFound, 127)

/-- Where programs are looked for. -/
def Machine.searched (m : Machine) : String :=
  (m.bindings.lookup "PATH").getD ""

/-- What a program file holds. -/
inductive Program where
  /-- A utility or a shell, known by its name. -/
  | native (name : String)
  /-- A script, with its interpreter and an argument for that if it names one. -/
  | script (interpreter : Option (String × Option String)) (text : List Char)

/-- The mark that files with machine code start with. -/
def machineMark : List UInt8 :=
  [0x7F, 0x45, 0x4C, 0x46]

/-- The program in a file. -/
def Program.ofFile (path : String) (octets : List UInt8) : Program :=
  if machineMark.isPrefixOf octets then .native (lastName path)
  else
    let text := ofOctets octets
    match text with
    | '#' :: '!' :: rest =>
      let line := trimChars (rest.takeWhile (· ≠ '\n'))
      let interpreter := line.takeWhile (!isBlank ·)
      let argument := trimChars (line.drop interpreter.length)
      if interpreter.isEmpty then .script none text
      else
        .script (some (String.ofList interpreter,
          if argument.isEmpty then none else some (String.ofList argument))) text
    | _ => .script none text

/-- The names of shells. -/
def isShell (name : String) : Bool :=
  name = "sh" || name = "dash" || name = "bash"

/-- How a shell is started. -/
structure ShellStart where
  options : List Char
  /-- The script is an argument. -/
  given : Bool
  /-- The script is read from the input. -/
  fromInput : Bool
  arguments : List String

/-- Reads the arguments of a shell, onto what they have said so far. -/
def shellStart : Nat → ShellStart → List String → Except String ShellStart
  | 0, s, _ => .ok s
  | fuel + 1, s, arguments =>
    match arguments with
    | [] => .ok s
    | a :: rest =>
      let letters (on : Bool) (s : ShellStart) (cs : List Char) :
          Except String (ShellStart × List String) :=
        cs.foldlM (fun (s, rest) c =>
          let switch (letter : Char) : ShellStart :=
            let others := s.options.filter (· ≠ letter)
            { s with options := if on then letter :: others else others }
          if c = 'c' && on then .ok ({ s with given := true }, rest)
          else if c = 's' && on then .ok ({ s with fromInput := true }, rest)
          else if c = 'o' then
            match rest with
            | [] => .ok (s, rest)
            | name :: rest =>
              match optionNames.lookup name with
              | some (some letter) => .ok (switch letter, rest)
              | some none => .ok (s, rest)
              | none => .error ("Illegal option -o " ++ name)
          else if optionLetters.contains c then .ok (switch c, rest)
          else .error ("Illegal option -" ++ String.ofList [c])) (s, rest)
      match a.toList with
      | ['-'] | ['-', '-'] => .ok { s with arguments := rest }
      | '-' :: cs => do
        let (s, rest) ← letters true s cs
        shellStart fuel s rest
      | '+' :: cs => do
        let (s, rest) ← letters false s cs
        shellStart fuel s rest
      | _ => .ok { s with arguments }

end AgentConsole.Shell
