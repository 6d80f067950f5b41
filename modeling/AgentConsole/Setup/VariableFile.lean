import AgentConsole.Files.Disk
import AgentConsole.Setup.Environment
import AgentConsole.Text.Alphanumeric
import AgentConsole.Text.Blank

/-!
# Variable files

A file of variables has a line `NAME=value` for each of them, with quotes and escapes as a shell
has them, comments, and references to other variables. A value in quotes may go on over lines. A
variable that is set already keeps its value, and reading stops at the first line in error.
-/

namespace AgentConsole.Setup

open AgentConsole.Files AgentConsole.Text

/-- What the end of a line is in, as far as it matters for where the line ends. -/
inductive LineState where
  | plain
  | blank
  | escape
  | strong
  | strongEscape
  | weak
  | weakEscape
  deriving DecidableEq, Repr

/-- The state after a character outside of quotes. -/
def LineState.opened (c : Char) : LineState :=
  if c = '\\' then .escape
  else if c = '"' then .weak
  else if c = '\'' then .strong
  else .plain

/-- The state after one more character. -/
def LineState.after (s : LineState) (c : Char) : LineState :=
  match s with
  | .plain => if isBlank c && c ≠ '\n' && c ≠ '\r' then .blank else .opened c
  | .blank => .opened c
  | .escape => .plain
  | .weak => if c = '\\' then .weakEscape else if c = '"' then .plain else .weak
  | .weakEscape => .weak
  | .strong => if c = '\\' then .strongEscape else if c = '\'' then .plain else .strong
  | .strongEscape => .strong

/-- The line up to a comment, what state it ends in, and whether a comment ended it; `done` is
what came before, backwards. -/
def scanLine (done : List Char) : LineState → List Char → List Char × LineState × Bool
  | s, [] => (done.reverse, s, false)
  | s, c :: cs =>
    if s = .blank ∧ c = '#' then (done.reverse, s, true) else scanLine (c :: done) (s.after c) cs

/-- Without the end of line a text ends in. -/
def dropLineEnd (cs : List Char) : List Char :=
  match cs.reverse with
  | '\n' :: '\r' :: rest => rest.reverse
  | '\n' :: rest => rest.reverse
  | _ => cs

/-- Puts together the lines that go on in the next one; `buffer` is what came of the line so far.
A line that never ends is none. -/
def joinLines (buffer : List Char) (s : LineState) :
    List (Option (List Char)) → List (Option (List Char))
  | [] => if s = .plain then [] else [none]
  | none :: _ => [none]
  | some line :: lines =>
    if (trimStart (buffer ++ line)).head? = some '#' then some [] :: joinLines [] .plain lines
    else
      match scanLine [] s line with
      | (part, _, true) => some (buffer ++ part) :: joinLines [] .plain lines
      | (_, .plain, false) => some (dropLineEnd (buffer ++ line)) :: joinLines [] .plain lines
      | (_, s, false) => joinLines (buffer ++ line) s lines

/-- The values that references can have: the environment, and the lines read before. -/
structure Known where
  env : Environment
  earlier : List (String × String)

/-- What a reference stands for; nothing if the name is unknown. -/
def Known.value (k : Known) (name : List Char) : List Char :=
  let name := String.ofList name
  (((k.env.get? name).or (k.earlier.lookup name)).getD "").toList

/-- A value under way. -/
structure ValueState where
  /-- The value so far, backwards. -/
  out : List Char := []
  strong : Bool := false
  weak : Bool := false
  escaped : Bool := false
  /-- A blank ended the value, and only a comment can come. -/
  ended : Bool := false
  /-- The name of a reference so far, backwards, and whether it is in braces. -/
  reference : Option (Bool × List Char) := none

namespace ValueState

/-- With one more character. -/
def push (s : ValueState) (c : Char) : ValueState :=
  { s with out := c :: s.out }

/-- With the value of the reference put in. -/
def refer (k : Known) (s : ValueState) (name : List Char) : ValueState :=
  { s with out := (k.value name.reverse).reverse ++ s.out, reference := none }

/-- A character outside of quotes. -/
def unquoted (s : ValueState) (c : Char) : ValueState :=
  if c = '\'' then { s with strong := true }
  else if c = '"' then { s with weak := true }
  else if c = '\\' then { s with escaped := true }
  else if c = ' ' || c = '\t' then { s with ended := true }
  else s.push c

/-- A character in double quotes. -/
def inWeak (s : ValueState) (c : Char) : ValueState :=
  if c = '"' then { s with weak := false }
  else if c = '\\' then { s with escaped := true }
  else s.push c

/-- A character after a backslash. -/
def unescape? (s : ValueState) (c : Char) : Option ValueState :=
  let s := { s with escaped := false }
  if c = '\\' || c = '\'' || c = '"' || c = '$' || c = ' ' then some (s.push c)
  else if c = 'n' then some (s.push '\n')
  else none

/-- A character after the dollar sign of a reference. -/
def inReference (k : Known) (s : ValueState) (braced : Bool) (name : List Char) (c : Char) :
    ValueState :=
  if isAlphanumeric c then { s with reference := some (braced, c :: name) }
  else if braced then
    if c = '\x7d' then s.refer k name else { s with reference := some (true, c :: name) }
  else if c = '\x7b' && name.isEmpty then { s with reference := some (true, []) }
  else if c = '$' then { s.refer k name with reference := some (false, []) }
  else (s.refer k name).push c

/-- Reads the value of a line; `none` if it is in error. -/
def read (k : Known) : ValueState → List Char → Option (List Char)
  | s, [] =>
    match s.reference with
    | some (true, _) => none
    | some (false, name) =>
      if s.strong || s.weak then none else some (s.refer k name).out.reverse
    | none => if s.strong || s.weak then none else some s.out.reverse
  | s, c :: cs =>
    if s.ended then
      if c = ' ' || c = '\t' then read k s cs
      else if c = '#' then read k s []
      else none
    else if s.escaped then
      match s.unescape? c with
      | none => none
      | some s => read k s cs
    else if s.strong then
      read k (if c = '\'' then { s with strong := false } else s.push c) cs
    else
      match s.reference with
      | some (braced, name) => read k (s.inReference k braced name c) cs
      | none =>
        if c = '$' then read k { s with reference := some (false, []) } cs
        else if s.weak then read k (s.inWeak c) cs
        else read k (s.unquoted c) cs
  termination_by _ cs => cs.length

end ValueState

/-- The name of a variable at the front of a line. -/
def readKey? (cs : List Char) : Option (String × List Char) :=
  let isKeyChar (c : Char) : Bool := c.isAlphanum || c = '_' || c = '.'
  match cs with
  | c :: _ =>
    if c.isAlpha || c = '_' then
      some (String.ofList (cs.takeWhile isKeyChar), trimStart (cs.dropWhile isKeyChar))
    else none
  | [] => none

/-- What follows an equals sign. -/
def afterEquals? (cs : List Char) : Option (List Char) :=
  match cs with
  | '=' :: rest => some rest
  | _ => none

/-- The name and the value's text of a line, `export` in front or not. -/
def readAssignment? (cs : List Char) : Option (String × List Char) := do
  let (key, rest) ← readKey? cs
  match afterEquals? rest with
  | some value => return (key, trimStart value)
  | none =>
    if key = "export" then
      let (key, rest) ← readKey? rest
      return (key, trimStart (← afterEquals? rest))
    else none

/-- What a line says. -/
inductive Line where
  | nothing
  | assignment (name value : String)
  | wrong
  deriving DecidableEq, Repr

/-- Reads a line. -/
def Line.read (k : Known) (line : List Char) : Line :=
  let line := trimChars line
  if line.isEmpty || line.head? = some '#' then .nothing
  else
    match readAssignment? line with
    | none => .wrong
    | some (name, value) =>
      if value.isEmpty || value.head? = some '#' then .assignment name ""
      else
        match ValueState.read k {} value with
        | none => .wrong
        | some value => .assignment name (String.ofList value)

/-- Sets the variables of lines that are not set yet, up to the first line in error; `none` if one
would have to hold a NUL. -/
def setLines? (k : Known) : List (Option (List Char)) → Option Environment
  | [] => some k.env
  | none :: _ => some k.env
  | some line :: lines =>
    match Line.read k line with
    | .wrong => some k.env
    | .nothing => setLines? k lines
    | .assignment name value =>
      if (k.env.get? name).isSome then
        setLines? { k with earlier := (name, value) :: k.earlier } lines
      else if value.toList.contains (Char.ofNat 0) then none
      else setLines? ⟨k.env.set name value, (name, value) :: k.earlier⟩ lines

/-- The octets of each line, with the octet that ends it; `line` is the one under way,
backwards. -/
def octetLines (line : List UInt8) : List UInt8 → List (List UInt8)
  | [] => if line.isEmpty then [] else [line.reverse]
  | b :: bs =>
    if b = 10 then (b :: line).reverse :: octetLines [] bs else octetLines (b :: line) bs

/-- Without a byte order mark in front. -/
def dropMark (bs : List UInt8) : List UInt8 :=
  match bs with
  | 0xEF :: 0xBB :: 0xBF :: rest => rest
  | _ => bs

/-- The environment with the variables of a file, if the file is there; `none` if a variable would
have to hold a NUL. -/
def withFile? (d : Disk) (env : Environment) (path : String) : Option Environment :=
  match d.read path with
  | .error _ => some env
  | .ok octets =>
    let lines := (octetLines [] (dropMark octets)).map fun l => (Utf8.decode? l).map String.toList
    setLines? ⟨env, []⟩ (joinLines [] .plain lines)

end AgentConsole.Setup
