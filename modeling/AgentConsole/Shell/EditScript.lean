import AgentConsole.Shell.Expression
import AgentConsole.Text.Numeral

/-!
# Scripts of edits

What a script for lines says: instructions, each for the lines that its addresses pick out. Blocks
and jumps are places in the list of instructions (`EditAction.enter`, `EditAction.jump`).
-/

namespace AgentConsole.Shell

open AgentConsole.Text

/-- Which line is meant. -/
inductive Address where
  | line (n : Nat)
  /-- A line, and from it on every so many lines. -/
  | every (first step : Nat)
  | last
  /-- A line in which an expression matches; without one, the expression that was used last. -/
  | matching (e : Option Expression)

/-- Where a stretch of lines ends. -/
inductive StretchEnd where
  | at (a : Address)
  /-- So many lines after the first one. -/
  | after (count : Nat)
  /-- The next line whose number is a multiple. -/
  | multiple (of : Nat)

/-- How letters of a replacement are changed. -/
inductive LetterCase where
  | as
  | upper
  | lower
  deriving DecidableEq, Repr

/-- A part of a replacement. -/
inductive Replacement where
  | text (cs : List Char)
  /-- What a group has matched; the group zero is the whole match. -/
  | group (number : Nat)
  /-- All letters that follow. -/
  | letters (form : LetterCase)
  /-- The next letter. -/
  | nextLetter (form : LetterCase)

/-- What is put in place of matches. -/
structure Substitution where
  /-- Without one, the expression that was used last. -/
  expression : Option Expression
  replacement : List Replacement
  everywhere : Bool
  /-- The first match that is replaced. -/
  start : Nat
  printed : Bool
  file : Option String

/-- What is done with a line. -/
inductive EditAction where
  /-- The start of a block; a line it is not for goes on at a place. -/
  | enter (past : Nat)
  | nothing
  /-- Goes on at a place, if the condition holds: always, or if something was replaced, or not. -/
  | jump (condition : Option Bool) (place : Nat)
  | append (text : List Char)
  | insert (text : List Char)
  | change (text : List Char)
  | delete
  | deleteFirst
  | print
  | printFirst
  | next
  | join
  | hold (appending : Bool)
  | get (appending : Bool)
  | exchange
  | number
  | list (width : Option Nat)
  | fileName
  | empty
  | quit (code : Nat) (silently : Bool)
  | readFile (name : String)
  | readLine (name : String)
  | write (name : String) (firstOnly : Bool)
  | substitute (s : Substitution)
  | replaceChars (pairs : List (Char × Char))

/-- An instruction for lines, or for the stretches between two of them. -/
structure Edit where
  start : Option Address
  stop : Option StretchEnd
  negated : Bool
  action : EditAction

/-- What is wrong with instructions. -/
structure EditFault where
  words : String
  /-- How many characters were left behind it; none if the place does not matter. -/
  left : Option Nat
  status : Nat := 1

/-- Reading instructions. -/
abbrev ReadEdits := StateT (List Char) (Except EditFault)

/-- Stops with a complaint. -/
def wrongEdit {α : Type} (words : String) : ReadEdits α := do
  throw { words, left := some (← get).length }

/-- Passes over the next character and gives it. -/
def nextEditChar : ReadEdits (Option Char) := do
  match ← get with
  | [] => return none
  | c :: cs =>
    set cs
    return some c

/-- Passes over characters while they fit, and gives them. -/
def editRun (fits : Char → Bool) : ReadEdits (List Char) := do
  let cs ← get
  let run := cs.takeWhile fits
  set (cs.drop run.length)
  return run

/-- Passes over blanks. -/
def skipEditBlanks : ReadEdits Unit := do
  let _ ← editRun fun c => c = ' ' || c = '\t'

/-- The next character after blanks, which is passed over. -/
def nextAfterBlanks : ReadEdits (Option Char) := do
  skipEditBlanks
  nextEditChar

/-- Passes over the end of an instruction; a closing brace or a comment stays. -/
def endOfEdit : ReadEdits Unit := do
  let before ← get
  match ← nextAfterBlanks with
  | none | some '\n' | some ';' => return ()
  | some c =>
    if c = '\x7d' || c = '#' then set (before.dropWhile fun c => c = ' ' || c = '\t')
    else wrongEdit "extra characters after command"

/-- The text up to a sign, onto what was read of it, and whether the sign was there; in an
expression a set in brackets may hold the sign. -/
def upToSign (sign : Char) (isExpression : Bool) :
    Nat → Bool → List Char → ReadEdits (List Char × Bool)
  | 0, _, done => return (done.reverse, false)
  | fuel + 1, inBrackets, done => do
    match ← get with
    | [] => return (done.reverse, false)
    | '\n' :: _ => return (done.reverse, false)
    | '\\' :: c :: rest =>
      set rest
      let kept :=
        if inBrackets && c ≠ 'n' then [c, '\\']
        else if c = '\n' then ['\n']
        else if c = 'n' && isExpression && sign ≠ 'n' then ['\n']
        else if c = sign && (isExpression || c ≠ '&') then [c]
        else [c, '\\']
      upToSign sign isExpression fuel inBrackets (kept ++ done)
    | ['\\'] =>
      set ([] : List Char)
      return (done.reverse, false)
    | c :: rest =>
      set rest
      if c = sign && !inBrackets then return (done.reverse, true)
      else if !isExpression then upToSign sign isExpression fuel false (c :: done)
      else if inBrackets then
        match c, rest with
        | '[', d :: more =>
          if d = ':' || d = '.' || d = '=' then
            let inside := more.takeWhile fun e => e ≠ ']' && e ≠ '\n'
            if inside.getLast? = some d && more[inside.length]? = some ']' then
              set (more.drop (inside.length + 1))
              let whole := '[' :: d :: inside ++ [']']
              upToSign sign isExpression fuel true (whole.reverse ++ done)
            else upToSign sign isExpression fuel true (c :: done)
          else upToSign sign isExpression fuel true (c :: done)
        | _, _ => upToSign sign isExpression fuel (c ≠ ']') (c :: done)
      else if c = '[' then
        let front : List Char :=
          match rest with
          | '^' :: ']' :: _ => ['^', ']']
          | ']' :: _ => [']']
          | '^' :: _ => ['^']
          | _ => []
        set (rest.drop front.length)
        upToSign sign isExpression fuel true (front.reverse ++ c :: done)
      else upToSign sign isExpression fuel false (c :: done)

/-- Reads a text up to a sign; none if the sign is not there. -/
def delimited (sign : Char) (isExpression : Bool) : ReadEdits (Option (List Char)) := do
  let (text, found) ← upToSign sign isExpression ((← get).length + 1) false []
  return if found then some text else none

/-- The expression that is written; none if nothing is, which stands for the last one used. -/
def readEditExpression (y : Dialect) (cs : List Char) : ReadEdits (Option Expression) := do
  if cs.isEmpty then return none
  else
    match Expression.read y cs with
    | .ok (e, _) => return some e
    | .error words =>
      if words = looseClassWords then throw { words, left := none, status := 4 }
      else wrongEdit words

/-- A number at the front. -/
def editNumber : ReadEdits Nat := do
  return digitsValue (← editRun Char.isDigit)

/-- What an address starts with, if one comes next; otherwise nothing is passed over. -/
inductive AddressStart where
  | address (a : Address)
  | after (count : Nat)
  | multiple (of : Nat)

/-- Reads an expression as an address, after its first sign. -/
def readMatching (y : Dialect) (sign : Char) : ReadEdits Address := do
  match ← delimited sign true with
  | none => wrongEdit "unterminated address regex"
  | some text =>
    let flags ← editRun fun c => c = 'I' || c = 'M' || c = ' ' || c = '\t'
    let y := { y with folded := flags.contains 'I', lines := flags.contains 'M' }
    return .matching (← readEditExpression y text)

/-- Reads an address, if one comes next. -/
def readAddress (y : Dialect) : ReadEdits (Option AddressStart) := do
  match ← get with
  | '/' :: rest =>
    set rest
    return some (.address (← readMatching y '/'))
  | '\\' :: c :: rest =>
    set rest
    return some (.address (← readMatching y c))
  | '$' :: rest =>
    set rest
    return some (.address .last)
  | sign :: c :: rest =>
    if (sign = '+' || sign = '~') && c.isDigit then
      set (c :: rest)
      let n ← editNumber
      return some (if sign = '+' then .after n else .multiple n)
    else if sign.isDigit then number
    else return none
  | [c] => if c.isDigit then number else return none
  | [] => return none
where
  /-- Reads a number as an address. -/
  number : ReadEdits (Option AddressStart) := do
    let n ← editNumber
    let before ← get
    match ← nextAfterBlanks with
    | some '~' =>
      skipEditBlanks
      return some (.address (.every n (← editNumber)))
    | _ =>
      set before
      return some (.address (.line n))

/-- Reads what picks out lines: where stretches start and end, and whether all other lines are
meant. -/
def readAddresses (y : Dialect) :
    ReadEdits (Option Address × Option StretchEnd × Bool) := do
  let start ←
    match ← readAddress y with
    | none => pure none
    | some (.address a) => pure (some a)
    | some _ => wrongEdit "invalid usage of +N or ~N as first address"
  skipEditBlanks
  let stop : Option StretchEnd ←
    match start, ← get with
    | some _, ',' :: rest =>
      set rest
      skipEditBlanks
      match ← readAddress y with
      | none =>
        let _ ← nextEditChar
        wrongEdit "unexpected \x60,'"
      | some (.address a) => pure (some (.at a))
      | some (.after n) => pure (some (.after n))
      | some (.multiple n) => pure (some (.multiple n))
    | _, _ => pure none
  skipEditBlanks
  let here ← get
  let zero : Bool :=
    match start, stop with
    | some (.line 0), some (.at (.matching _)) => false
    | some (.line 0), _ => true
    | _, some (.at (.line 0)) => true
    | _, _ => false
  if zero then
    let _ ← nextEditChar
    wrongEdit "invalid usage of line address 0"
  match here with
  | '!' :: rest =>
    set rest
    skipEditBlanks
    match ← get with
    | '!' :: rest =>
      set rest
      wrongEdit "multiple \x60!'s"
    | _ => return (start, stop, true)
  | _ => return (start, stop, false)

/-- The text of an instruction as it is put out: backslashes are gone, and its line has an end. -/
def textLines : Nat → List Char → ReadEdits (List Char)
  | 0, done => return done.reverse
  | fuel + 1, done => do
    match ← nextEditChar with
    | none | some '\n' => return ('\n' :: done).reverse
    | some '\\' =>
      match ← nextEditChar with
      | none => return ('\n' :: done).reverse
      | some c =>
        let rest ← get
        match if c = 'n' then none else hardChar? c rest with
        | some (c, rest) =>
          set rest
          textLines fuel (c :: done)
        | none => textLines fuel (c :: done)
    | some c => textLines fuel (c :: done)

/-- Reads the text of an instruction. -/
def readText : ReadEdits (List Char) := do
  skipEditBlanks
  let fuel := (← get).length + 1
  match ← get with
  | [] => wrongEdit "expected \\ after \x60a', \x60c' or \x60i'"
  | '\\' :: '\n' :: rest =>
    set rest
    textLines fuel []
  | '\\' :: rest =>
    set rest
    if rest.isEmpty then return [] else textLines fuel []
  | _ => textLines fuel []

/-- Reads the name of a file, up to the end of the line. -/
def readFileName : ReadEdits String := do
  skipEditBlanks
  let name ← editRun (· ≠ '\n')
  let rest ← get
  set (rest.drop 1)
  if name.isEmpty then
    set rest
    wrongEdit "missing filename in r/R/w/W commands"
  else return String.ofList name

/-- The parts of a replacement as it is written; `text` is the text under way, backwards. -/
def replacementParts : Nat → List Char → List Char → List Replacement
  | 0, _, _ => []
  | _, text, [] => [.text text.reverse]
  | fuel + 1, text, c :: cs =>
    let cut (part : Replacement) (rest : List Char) : List Replacement :=
      .text text.reverse :: part :: replacementParts fuel [] rest
    if c = '&' then cut (.group 0) cs
    else if c = '\\' then
      match cs with
      | [] => [.text ('\\' :: text).reverse]
      | d :: rest =>
        match d with
        | 'U' => cut (.letters .upper) rest
        | 'L' => cut (.letters .lower) rest
        | 'E' => cut (.letters .as) rest
        | 'u' => cut (.nextLetter .upper) rest
        | 'l' => cut (.nextLetter .lower) rest
        | _ =>
          if d.isDigit then cut (.group (d.toNat - '0'.toNat)) rest
          else
            match hardChar? d rest with
            | some (e, rest) => replacementParts fuel (e :: text) rest
            | none => replacementParts fuel (d :: text) rest
    else replacementParts fuel (c :: text) cs

/-- What follows the parts of a substitution. -/
structure SubstitutionFlags where
  everywhere : Bool := false
  start : Option Nat := none
  printed : Bool := false
  folded : Bool := false
  lines : Bool := false
  file : Option String := none

/-- Reads what follows the parts of a substitution. -/
def readFlags : Nat → SubstitutionFlags → ReadEdits SubstitutionFlags
  | 0, f => return f
  | fuel + 1, f => do
    let before ← get
    match ← nextEditChar with
    | none | some '\n' | some ';' => return f
    | some c =>
      match c with
      | ' ' => readFlags fuel f
      | 'i' | 'I' => readFlags fuel { f with folded := true }
      | 'm' | 'M' => readFlags fuel { f with lines := true }
      | 'g' =>
        if f.everywhere then wrongEdit "multiple \x60g' options to \x60s' command"
        else readFlags fuel { f with everywhere := true }
      | 'p' =>
        if f.printed then wrongEdit "multiple \x60p' options to \x60s' command"
        else readFlags fuel { f with printed := true }
      | 'w' => return { f with file := some (← readFileName) }
      | '\x7d' | '#' =>
        set before
        return f
      | _ =>
        if !c.isDigit then wrongEdit "unknown option to \x60s'"
        else if f.start.isSome then wrongEdit "multiple number options to \x60s' command"
        else
          set before
          let n ← editNumber
          if n = 0 then wrongEdit "number option to \x60s' command may not be zero"
          else readFlags fuel { f with start := some n }

namespace Expression

/-- How many groups there are in an expression. -/
def groupCount : Expression → Nat
  | next first second | either first second => first.groupCount + second.groupCount
  | group _ inside => inside.groupCount + 1
  | times _ _ body => body.groupCount
  | _ => 0

end Expression

/-- Reads a substitution. -/
def readSubstitution (y : Dialect) : ReadEdits EditAction := do
  let unterminated {α : Type} : ReadEdits α := wrongEdit "unterminated \x60s' command"
  match ← nextEditChar with
  | none => unterminated
  | some sign =>
    let some sought ← delimited sign true | unterminated
    let some target ← delimited sign false | unterminated
    let flags ← readFlags ((← get).length + 1) {}
    let y := { y with folded := flags.folded, lines := flags.lines }
    let expression ← readEditExpression y sought
    let parts := replacementParts (target.length + 1) [] target
    let numbers := parts.filterMap fun (p : Replacement) => match p with
      | .group n => some n
      | _ => none
    match expression, numbers.max? with
    | some e, some n =>
      if n > e.groupCount then
        wrongEdit ("invalid reference \\" ++ toString n ++ " on \x60s' command's RHS")
    | _, _ => pure ()
    return .substitute ⟨expression, parts, flags.everywhere, flags.start.getD 1, flags.printed,
      flags.file⟩

/-- The characters of a text in which some are escaped. -/
def unescapedChars : Nat → List Char → List Char
  | 0, _ => []
  | _, [] => []
  | fuel + 1, '\\' :: c :: cs =>
    match hardChar? c cs with
    | some (d, rest) => d :: unescapedChars fuel rest
    | none =>
      '\\' :: if c = '\\' then unescapedChars fuel cs else c :: unescapedChars fuel cs
  | fuel + 1, c :: cs => c :: unescapedChars fuel cs

/-- Reads characters and what they are replaced by. -/
def readCharPairs : ReadEdits EditAction := do
  let unterminated {α : Type} : ReadEdits α := wrongEdit "unterminated \x60y' command"
  match ← nextEditChar with
  | none => unterminated
  | some sign =>
    let some sought ← delimited sign false | unterminated
    let some target ← delimited sign false | unterminated
    let (a, b) := (unescapedChars (sought.length + 1) sought,
      unescapedChars (target.length + 1) target)
    if a.length ≠ b.length then wrongEdit "strings for \x60y' command are different lengths"
    endOfEdit
    return .replaceChars (a.zip b)

/-- Reads a label. -/
def readLabel (stopsAtBrace : Bool) : ReadEdits String := do
  skipEditBlanks
  let label ← editRun fun c =>
    !(c = ';' || c = ' ' || c = '\t' || c = '\n' || (stopsAtBrace && c = '\x7d'))
  return String.ofList label

/-- What was read of a script. -/
structure EditsRead where
  /-- The instructions, the last first; the places of jumps are not known yet. -/
  edits : List (Edit × Option String)
  /-- Where the blocks that are open start, the innermost first. -/
  blocks : List Nat
  labels : List (String × Nat)

/-- Reads what is done with a line, and the label of a jump; none if it is done already. -/
def readAction (y : Dialect) (start : Option Address) (stop : Option StretchEnd) (done : EditsRead)
    (c : Char) : ReadEdits (EditAction × Option String × EditsRead) := do
  let place := done.edits.length
  let plain (a : EditAction) : ReadEdits (EditAction × Option String × EditsRead) :=
    return (a, none, done)
  let simple (a : EditAction) : ReadEdits (EditAction × Option String × EditsRead) := do
    endOfEdit
    plain a
  let jump (condition : Option Bool) : ReadEdits (EditAction × Option String × EditsRead) := do
    let label ← readLabel true
    endOfEdit
    return (.jump condition 0, some label, done)
  let code : ReadEdits Nat := do
    skipEditBlanks
    editNumber
  match c with
  | '\x7b' => return (.enter 0, none, { done with blocks := place :: done.blocks })
  | '\x7d' =>
    match done.blocks with
    | [] => wrongEdit "unexpected \x60\x7d'"
    | block :: more =>
      if start.isSome then wrongEdit "\x60\x7d' doesn't want any addresses"
      endOfEdit
      let settled := done.edits.reverse.zipIdx.map fun ((e, label), n) =>
        (if n = block then { e with action := .enter place } else e, label)
      return (.nothing, none, { done with blocks := more, edits := settled.reverse })
  | ':' =>
    if start.isSome then wrongEdit ": doesn't want any addresses"
    let label ← readLabel false
    if label.isEmpty then wrongEdit "\":\" lacks a label"
    endOfEdit
    return (.nothing, none, { done with labels := (label, place) :: done.labels })
  | '#' =>
    if start.isSome then wrongEdit "comments don't accept any addresses"
    let _ ← editRun (· ≠ '\n')
    plain .nothing
  | 'a' => plain (.append (← readText))
  | 'i' => plain (.insert (← readText))
  | 'c' => plain (.change (← readText))
  | 'b' => jump none
  | 't' => jump (some true)
  | 'T' => jump (some false)
  | 'd' => simple .delete
  | 'D' => simple .deleteFirst
  | 'p' => simple .print
  | 'P' => simple .printFirst
  | 'n' => simple .next
  | 'N' => simple .join
  | 'h' => simple (.hold false)
  | 'H' => simple (.hold true)
  | 'g' => simple (.get false)
  | 'G' => simple (.get true)
  | 'x' => simple .exchange
  | '=' => simple .number
  | 'F' => simple .fileName
  | 'z' => simple .empty
  | 'l' =>
    skipEditBlanks
    let digits ← editRun Char.isDigit
    simple (.list (if digits.isEmpty then none else some (digitsValue digits)))
  | 'q' | 'Q' =>
    if stop.isSome then wrongEdit "command only uses one address"
    let n ← code
    simple (.quit n (c = 'Q'))
  | 'r' => plain (.readFile (← readFileName))
  | 'R' => plain (.readLine (← readFileName))
  | 'w' => plain (.write (← readFileName) false)
  | 'W' => plain (.write (← readFileName) true)
  | 's' => plain (← readSubstitution y)
  | 'y' => plain (← readCharPairs)
  | 'v' =>
    let _ ← readLabel true
    simple .nothing
  | _ => wrongEdit ("unknown command: \x60" ++ String.ofList [c] ++ "'")

/-- Reads instructions onto those that were read. -/
def readEdits (y : Dialect) : Nat → EditsRead → ReadEdits EditsRead
  | 0, done => return done
  | fuel + 1, done => do
    let _ ← editRun fun c => c = ' ' || c = ';' || c = '\n' || c = '\t' || c = '\r'
    if (← get).isEmpty then return done
    let (start, stop, negated) ← readAddresses y
    match ← nextAfterBlanks with
    | none => wrongEdit "missing command"
    | some c =>
      let (action, label, done) ← readAction y start stop done c
      readEdits y fuel { done with edits := (⟨start, stop, negated, action⟩, label) :: done.edits }

/-- The instructions with the places of their jumps; a jump without a label goes to the end. -/
def settleJumps (read : EditsRead) : Except EditFault (List Edit) :=
  let count := read.edits.length
  read.edits.reverse.mapM fun (e, label) =>
    match e.action, label with
    | .jump condition _, some label =>
      if label.isEmpty then .ok { e with action := .jump condition count }
      else
        match read.labels.lookup label with
        | some place => .ok { e with action := .jump condition place }
        | none => .error ⟨"can't find label for jump to \x60" ++ label ++ "'", none, 4⟩
    | _, _ => .ok e

/-- The instructions of a script, and whether it says that lines are put out only where it is
said. -/
def editsOf (y : Dialect) (script : List Char) : Except EditFault (List Edit × Bool) := do
  let silent := script = ['#', 'n'] || ['#', 'n', '\n'].isPrefixOf script
  let (read, _) ← (readEdits y (script.length + 1) ⟨[], [], []⟩).run script
  if !read.blocks.isEmpty then throw { words := "unmatched \x60\x7b'", left := some script.length }
  return (← settleJumps read, silent)

end AgentConsole.Shell
