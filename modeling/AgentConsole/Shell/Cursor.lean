import AgentConsole.Shell.Script

/-!
# Cursors

How far a script was read, and reading on by characters. A backslash at the end of a line continues
it almost everywhere (`peek`), and what an alias stands for is read before the script goes on: the
character `aliasEnd`, which no script holds, marks where its text ends.
-/

namespace AgentConsole.Shell

/-- A piece of a script. -/
inductive Token where
  | ending
  | newline
  | operator (sign : String)
  /-- The start of a redirection. -/
  | redirect (descriptor : Nat) (sign : String)
  | reserved (word : String)
  | word (w : Word)

/-- A document that starts in the next line. -/
structure Awaited where
  number : Nat
  /-- The line that ends it. -/
  mark : List Char
  /-- Nothing in it stands for anything else. -/
  verbatim : Bool
  /-- Its lines lose the tabs in front. -/
  stripped : Bool

/-- What is left of a script, and what has to be known to read on. -/
structure Cursor where
  rest : List Char
  line : Nat
  /-- A token that was read and put back. -/
  pushed : Option Token
  /-- What names stand for where a command starts. -/
  aliases : List (String × String)
  /-- The aliases whose text is read now, and whether the word after it may be an alias. -/
  underWay : List (String × Bool)
  /-- The next word may be an alias wherever it stands. -/
  aliasNext : Bool
  awaited : List Awaited
  documents : List (Nat × Word)
  /-- The numbers of documents are below this one. -/
  fresh : Nat
  /-- What comes behind the document that was read to its end. -/
  beyond : List Char

/-- A script at its start. -/
def Cursor.start (text : List Char) : Cursor where
  rest := text
  line := 1
  pushed := none
  aliases := []
  underWay := []
  aliasNext := false
  awaited := []
  documents := []
  fresh := 0
  beyond := []

/-- Where a script makes no sense, and how. -/
structure Trouble where
  line : Nat
  words : String
  deriving DecidableEq, Repr

/-- Reading on, up to trouble. -/
abbrev Read := StateT Cursor (Except Trouble)

/-- The character that ends the text of an alias; characters of scripts are octets. -/
def aliasEnd : Char := Char.ofNat 256

/-- Stops with a complaint. -/
def complain {α : Type} (words : String) : Read α := do
  throw ⟨(← get).line, words⟩

/-- Stops where a script is nested too deeply for its length. -/
def tooDeep {α : Type} : Read α :=
  complain "Syntax error: too deep"

/-- A cursor after its next character. -/
def Cursor.advance (c : Cursor) : Cursor :=
  match c.rest with
  | [] => c
  | d :: rest =>
    if d = '\n' then { c with rest, line := c.line + 1 }
    else if d = aliasEnd then
      let aliasNext := c.aliasNext || ((c.underWay.head?).map (·.2)).getD false
      { c with rest, underWay := c.underWay.tail, aliasNext }
    else { c with rest }

/-- Passes over so many characters. -/
def pass (count : Nat) : Read Unit :=
  modify fun c => count.repeat Cursor.advance c

/-- A cursor behind continued lines. -/
def Cursor.joined : Nat → Cursor → Cursor
  | 0, c => c
  | fuel + 1, c =>
    match c.rest with
    | '\\' :: '\n' :: rest => joined fuel { c with rest, line := c.line + 1 }
    | _ => c

/-- What is left, just as it is written. -/
def left : Read (List Char) :=
  return (← get).rest

/-- What is left, behind continued lines. -/
def peek : Read (List Char) := do
  match (← get).rest with
  | '\\' :: '\n' :: rest =>
    modify (Cursor.joined (rest.length + 2))
    left
  | rest => return rest

/-- Passes over a character if it comes next. -/
def accept (c : Char) : Read Bool := do
  match ← peek with
  | d :: _ =>
    if d = c then
      pass 1
      return true
    else return false
  | [] => return false

/-- Passes over characters while they fit, and gives them. -/
def passWhile (fits : Char → Bool) : Nat → List Char → Read (List Char)
  | 0, done => return done.reverse
  | fuel + 1, done => do
    match ← peek with
    | c :: _ =>
      if fits c then
        pass 1
        passWhile fits fuel (c :: done)
      else return done.reverse
    | [] => return done.reverse

/-- Passes over characters while they fit, and gives them. -/
def takeRun (fits : Char → Bool) : Read (List Char) := do
  passWhile fits ((← left).length + 1) []

/-- The character ends a word. -/
def isMeta (c : Char) : Bool :=
  [' ', '\t', '\n', ';', '&', '|', '<', '>', '(', ')', aliasEnd].contains c

/-- The character can be in a name. -/
def isNamePart (c : Char) : Bool :=
  c.isAlphanum || c = '_'

/-- The character can start a name. -/
def startsName (c : Char) : Bool :=
  c.isAlpha || c = '_'

/-- The text can be the name of a variable. -/
def isVariableName (name : String) : Bool :=
  name.toList.head?.any startsName && name.toList.all isNamePart

/-- A parameter that is named by one sign. -/
def isSpecial (c : Char) : Bool :=
  ['@', '*', '#', '?', '-', '$', '!'].contains c || c.isDigit

/-- Passes over blanks, a comment, continued lines and the ends of aliases. -/
def skipBlanks : Nat → Read Unit
  | 0 => return ()
  | fuel + 1 => do
    match ← peek with
    | c :: cs =>
      if c = ' ' || c = '\t' || c = aliasEnd then
        pass 1
        skipBlanks fuel
      else if c = '#' then
        pass (cs.takeWhile (· ≠ '\n')).length
        pass 1
        skipBlanks fuel
    | [] => return ()

/-- The words that have a meaning of their own where a command starts. -/
def reserved : List String :=
  ["!", "\x7b", "\x7d", "case", "do", "done", "elif", "else", "esac", "fi", "for", "if", "in",
    "then", "until", "while"]

/-- The token as complaints have it. -/
def Token.label : Token → String
  | .ending => "end of file"
  | .newline => "newline"
  | .operator sign => "\"" ++ sign ++ "\""
  | .redirect _ _ => "redirection"
  | .reserved w => "\"" ++ w ++ "\""
  | .word _ => "word"

/-- Stops since a token cannot come here; another one may have to. -/
def unexpected {α : Type} (token : Token) (expecting : String := "") : Read α :=
  complain ("Syntax error: " ++ token.label ++ " unexpected" ++
    (if expecting.isEmpty then "" else " (expecting " ++ expecting ++ ")"))

/-- Stops since quotes are open at the end. -/
def unterminated {α : Type} : Read α :=
  complain "Syntax error: Unterminated quoted string"

end AgentConsole.Shell
