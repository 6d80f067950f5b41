import AgentConsole.Shell.Machine

/-!
# Variables

The built-in commands that set, show and take away variables, options and arguments, and those that
read them from a line (`LineSplit`) or from options.
-/

namespace AgentConsole.Shell

open AgentConsole.Text

/-- Writes to the output for the built-in command under way. -/
def utter (cs : List Char) : Act Unit := do
  if ← emit 1 cs then setStatus 0
  else refuse ((← get).caller.getD "" ++ ": I/O error") 1

/-- Reads the letters of an argument; an option without its value takes the next argument. -/
def leadingLetters (flags valued : List Char) :
    List Char → List String → Except String (List (Char × String) × List String)
  | [], rest => .ok ([], rest)
  | c :: cs, rest =>
    if valued.contains c then
      match cs, rest with
      | [], value :: rest => .ok ([(c, value)], rest)
      | [], [] => .error ("No arg for -" ++ String.ofList [c] ++ " option")
      | _, _ => .ok ([(c, String.ofList cs)], rest)
    else if flags.contains c then
      (leadingLetters flags valued cs rest).map fun p => ((c, "") :: p.1, p.2)
    else .error ("Illegal option -" ++ String.ofList [c])

/-- Reads the options in front of arguments, and gives the arguments behind them. -/
def leadingOptions (flags valued : List Char) :
    Nat → List String → Except String (List (Char × String) × List String)
  | 0, arguments => .ok ([], arguments)
  | fuel + 1, arguments =>
    match arguments with
    | [] => .ok ([], [])
    | a :: rest =>
      match a.toList with
      | ['-', '-'] => .ok ([], rest)
      | '-' :: c :: cs => do
        let (given, rest) ← leadingLetters flags valued (c :: cs) rest
        let (more, rest) ← leadingOptions flags valued fuel rest
        return (given ++ more, rest)
      | _ => .ok ([], arguments)

/-- The options in front of the arguments of a built-in command, and the arguments behind them. -/
def optionsOf (flags valued : List Char) (arguments : List String) :
    Act (List (Char × String) × List String) :=
  match leadingOptions flags valued (arguments.length + 1) arguments with
  | .ok found => return found
  | .error words => giveUp words

/-- A number among the arguments of a built-in command. -/
def numberOf (a : String) : Act Nat :=
  match natural? a with
  | some n => return n
  | none => giveUp ("Illegal number: " ++ a)

/-- A text in single quotes, with the single quotes in it in double ones; `count` is not below how
many characters it has. -/
def quotedForm : Nat → List Char → List Char
  | 0, _ => []
  | count + 1, cs =>
    let plain := cs.takeWhile (· ≠ '\'')
    let rest := cs.drop plain.length
    let quotes := rest.takeWhile (· = '\'')
    '\'' :: plain ++ ['\''] ++
      if quotes.isEmpty then []
      else
        '"' :: quotes ++ ['"'] ++
          match rest.drop quotes.length with
          | [] => []
          | rest => quotedForm count rest

/-- A text as it can be read back. -/
def readable (s : String) : String :=
  String.ofList (quotedForm (s.length + 1) s.toList)

/-- Shows variables in order, each after a word. -/
def showVariables (word : String) (names : List String) : Act Unit := do
  let m ← get
  let sorted := (names.eraseDups.map (·.toList)).mergeSort notAfter
  let lines := sorted.map fun cs =>
    let name := String.ofList cs
    let value := ((m.bindings.lookup name).map fun value => "=" ++ readable value).getD ""
    word ++ name ++ value ++ "\n"
  utter ("".intercalate lines).toList

/-- The name and value of a text with an equals sign in it. -/
def nameAndValue (a : String) : String × Option String :=
  let name := a.toList.takeWhile (· ≠ '=')
  match a.toList.drop name.length with
  | [] => (a, none)
  | _ :: value => (String.ofList name, some (String.ofList value))

/-- Goes through names with values or without, gives variables these values, and marks them; or
shows those that are marked. -/
def markVariables (word : String) (marked : Machine → List String)
    (mark : String → Machine → Machine) (arguments : List String) : Act Unit := do
  let (given, names) ← optionsOf ['p'] [] arguments
  if names.isEmpty || !given.isEmpty then showVariables (word ++ " ") (marked (← get))
  else
    for a in names do
      let (name, value) := nameAndValue a
      requireName name
      match value with
      | some v => assign name v
      | none => pure ()
      modify (mark name)
    setStatus 0

/-- Sets variables that other programs see. -/
def exportCommand : List String → Act Unit :=
  markVariables "export" (·.exported) fun name m =>
    { m with exported := name :: m.exported.filter (· ≠ name) }

/-- Sets variables for good. -/
def readonlyCommand : List String → Act Unit :=
  markVariables "readonly" (·.fixed) fun name m => { m with fixed := name :: m.fixed }

/-- Sets variables of a function. -/
def localCommand (arguments : List String) : Act Unit := do
  if (← get).outer.isEmpty then giveUp "not in a function"
  for a in arguments do
    let (name, value) := nameAndValue a
    requireName name
    modify fun m =>
      match m.outer with
      | values :: more => { m with outer := ((name, m.bindings.lookup name) :: values) :: more }
      | [] => m
    match value with
    | some v => assign name v
    | none => pure ()
  setStatus 0

/-- Takes variables or functions away. -/
def unsetCommand (arguments : List String) : Act Unit := do
  let (given, names) ← optionsOf ['v', 'f'] [] arguments
  if (given.getLast?).any (·.1 = 'f') then
    modify fun m => { m with functions := m.functions.filter (!names.contains ·.1) }
  else
    for name in names do
      requireName name
      if (← get).fixed.contains name then giveUp (name ++ ": is read only")
      modify fun m => m.unsetVariable name
  setStatus 0

/-! ## Options -/

/-- Switches an option on or off. -/
def Machine.withOption (m : Machine) (on : Bool) (letter : Char) : Machine :=
  let others := m.options.filter (· ≠ letter)
  { m with options := if on then letter :: others else others }

/-- Shows the options; `asCommands` says that it is done by commands that set them. -/
def showOptions (asCommands : Bool) : Act Unit := do
  let m ← get
  let isOn (o : String × Option Char) : Bool := o.2.any m.options.contains
  let line (o : String × Option Char) : String :=
    if asCommands then "set " ++ (if isOn o then "-o " else "+o ") ++ o.1 ++ "\n"
    else
      let gap := String.ofList (List.replicate (16 - o.1.length) ' ')
      o.1 ++ gap ++ (if isOn o then "on" else "off")
        ++ "\n"
  let title := if asCommands then "" else "Current option settings\n"
  utter (title ++ "".intercalate (optionNames.map line)).toList

/-- Switches the options of letters; the name of an option may be among the arguments behind. -/
def setLetters (on : Bool) : List Char → List String → Act (List String)
  | [], rest => return rest
  | 'o' :: letters, rest => do
    match rest with
    | [] =>
      showOptions (!on)
      setLetters on letters []
    | name :: rest =>
      match optionNames.lookup name with
      | some letter =>
        for c in letter.toList do
          modify (·.withOption on c)
        setLetters on letters rest
      | none => giveUp ("Illegal option -o " ++ name)
  | c :: letters, rest => do
    if optionLetters.contains c then
      modify (·.withOption on c)
      setLetters on letters rest
    else giveUp ("Illegal option -" ++ String.ofList [c])

/-- Switches the options in front of arguments; what is left are the arguments behind them, if
there are any to be set. -/
def setOptions : Nat → List String → Act (Option (List String))
  | 0, _ => return none
  | fuel + 1, arguments => do
    match arguments with
    | [] => return none
    | a :: rest =>
      match a.toList with
      | ['-'] =>
        modify fun m => (m.withOption false 'x').withOption false 'v'
        return if rest.isEmpty then none else some rest
      | ['-', '-'] => return some rest
      | '-' :: letters => setOptions fuel (← setLetters true letters rest)
      | '+' :: letters => setOptions fuel (← setLetters false letters rest)
      | _ => return some arguments

/-- Switches options on and off, sets the arguments, or shows all variables. -/
def setCommand (arguments : List String) : Act Unit := do
  if arguments.isEmpty then showVariables "" ((← get).bindings.map (·.1))
  else
    setStatus 0
    match ← setOptions (arguments.length + 1) arguments with
    | some rest => modify fun m => { m with arguments := rest, optionPlace := (1, 0) }
    | none => return ()

/-- Drops arguments. -/
def shiftCommand (arguments : List String) : Act Unit := do
  let n ←
    match arguments with
    | [] => pure 1
    | a :: _ => numberOf a
  let m ← get
  if n ≤ m.arguments.length then
    set { m with arguments := m.arguments.drop n, optionPlace := (1, 0), status := 0 }
  else giveUp "can't shift that many"

/-! ## Lines -/

/-- The characters of a line, which ones are escaped, and how much was read of a text for them. -/
structure LineRead where
  chars : List (Char × Bool)
  used : Nat
  /-- The line has an end. -/
  ended : Bool

/-- Reads a line; unless it is `raw`, a backslash escapes the next character, and one at its end
continues it. -/
def readLine (raw : Bool) : List Char → LineRead
  | [] => ⟨[], 0, false⟩
  | '\n' :: _ => ⟨[], 1, true⟩
  | c :: cs =>
    if c = '\\' && !raw then
      match cs with
      | [] => ⟨[], 1, false⟩
      | d :: cs =>
        let line := readLine raw cs
        let chars := if d = '\n' then line.chars else (d, true) :: line.chars
        { line with chars, used := line.used + 2 }
    else
      let line := readLine raw cs
      let chars := if c = Char.ofNat 0 then line.chars else (c, false) :: line.chars
      { line with chars, used := line.used + 1 }

/-- A line that is split into fields: the last one of them has all that is left. -/
structure LineSplit where
  /-- How many fields more there can be. -/
  more : Nat
  /-- The fields that have ended, the last first. -/
  done : List (List Char)
  /-- The field under way, backwards. -/
  current : List Char
  /-- A blank has just ended a field. -/
  afterBlank : Bool
  /-- So long is the last field without the separators at its end. -/
  kept : Option Nat

/-- Goes on by one character. -/
def LineSplit.step (separators : List Char) (s : LineSplit) (p : Char × Bool) : LineSplit :=
  let (c, escaped) := p
  let separates := separators.contains c
  let soft := separates && (c = ' ' || c = '\t' || c = '\n')
  let added : LineSplit := { s with current := c :: s.current, afterBlank := false }
  if escaped then added
  else if s.more = 0 then
    if soft then
      { s with current := c :: s.current, kept := some (s.kept.getD s.current.length) }
    else { added with kept := if separates && s.afterBlank then s.kept else none }
  else if s.afterBlank && soft then s
  else if s.afterBlank && separates then { s with afterBlank := false }
  else if !separates then added
  else if soft && s.current.isEmpty then { s with afterBlank := true }
  else if s.more = 1 then
    { s with more := 0, current := c :: s.current, afterBlank := soft,
             kept := some s.current.length }
  else
    { s with more := s.more - 1, done := s.current.reverse :: s.done, current := [],
             afterBlank := soft }

/-- The fields of a line, so many at most. -/
def lineFields (separators : List Char) (count : Nat) (line : List (Char × Bool)) :
    List (List Char) :=
  let s := line.foldl (LineSplit.step separators) ⟨count, [], [], false, none⟩
  let last := s.current.reverse
  let last := last.take (s.kept.getD last.length)
  (if last.isEmpty then s.done else last :: s.done).reverse

/-- Reads a line into variables. -/
def readIntoVariables (arguments : List String) : Act Unit := do
  let (given, names) ← optionsOf ['r'] ['p'] arguments
  if names.isEmpty then giveUp "arg count"
  let line := readLine (given.any (·.1 = 'r')) (← get).input
  consume line.used
  let separators := (((← get).bindings.lookup "IFS").getD " \t\n").toList
  let fields := lineFields separators names.length line.chars
  for (name, n) in names.zipIdx do
    requireName name
    assign name (String.ofList ((fields[n]?).getD []))
  setStatus (if line.ended then 0 else 1)

/-! ## Options among arguments -/

/-- What is found of an option: its letter and its value. -/
structure OptionFound where
  letter : Char
  value : Option String
  /-- What is said of it. -/
  complaint : Option String

/-- Looks an option up in a list of letters; those before a colon have a value, which is the rest of
the argument or the next one. The second result says that the next argument is used. -/
def lookUpOption (letters : List Char) (c : Char) (rest : List Char) (next : Option String) :
    OptionFound × Bool :=
  let silent := letters.head? = some ':'
  let name := String.ofList [c]
  let wrong (sign : Char) (words : String) : OptionFound :=
    if silent then ⟨sign, some name, none⟩ else ⟨'?', none, some words⟩
  match letters.dropWhile (· ≠ c) with
  | [] => (wrong '?' ("Illegal option -" ++ name), false)
  | _ :: ':' :: _ =>
    if !rest.isEmpty then (⟨c, some (String.ofList rest), none⟩, false)
    else
      match next with
      | some value => (⟨c, some value, none⟩, true)
      | none => (wrong ':' ("No arg for -" ++ name ++ " option"), false)
  | _ => (⟨c, some "", none⟩, false)

/-- Reads the next option among arguments. -/
def getoptsCommand (arguments : List String) : Act Unit := do
  match arguments with
  | letters :: name :: given =>
    let m ← get
    let given := if given.isEmpty then m.arguments else given
    let (index, offset) := m.optionPlace
    let (index, offset) := if index > given.length + 1 then (1, 0) else (index, offset)
    let underWay := if index ≤ 1 || offset = 0 then [] else
      ((given[index - 2]?).getD "").toList.drop offset
    let finish (index offset : Nat) (letter : Char) : Act Unit := do
      modify fun m => m.setVariable "OPTIND" (toString index)
      modify fun m => { m with optionPlace := (index, offset) }
      requireName name
      assign name (String.ofList [letter])
    let take (index : Nat) (cs : List Char) : Act Unit := do
      match cs with
      | [] => return ()
      | c :: rest =>
        let (found, usesNext) := lookUpOption letters.toList c rest given[index - 1]?
        match found.complaint with
        | some words => warn words
        | none => pure ()
        match found.value with
        | some value => assign "OPTARG" value
        | none => modify fun m => m.unsetVariable "OPTARG"
        let whole := ((given[index - 2]?).getD "").length
        let goesOn := !rest.isEmpty && found.value ≠ some (String.ofList rest)
        finish (if usesNext then index + 1 else index) (if goesOn then whole - rest.length else 0)
          found.letter
        setStatus 0
    if !underWay.isEmpty then take index underWay
    else
      match (given[index - 1]?).map (·.toList) with
      | some ['-', '-'] =>
        finish (index + 1) 0 '?'
        setStatus 1
      | some ('-' :: c :: cs) => take (index + 1) (c :: cs)
      | _ =>
        finish index 0 '?'
        setStatus 1
  | _ => giveUp "Usage: getopts optstring var [arg...]"

end AgentConsole.Shell
