import AgentConsole.Shell.OctetText

/-!
# Quoted names

Names as complaints have them: in quotes where a shell would not take them as they are, so that what
is shown could be typed in.
-/

namespace AgentConsole.Shell

/-- The character can be shown. -/
def isShown (c : Char) : Bool :=
  ' ' ≤ c && c ≤ '~'

/-- The letter that escapes a character after a backslash. -/
def escapeLetter? (c : Char) : Option Char :=
  match c.toNat with
  | 7 => some 'a'
  | 8 => some 'b'
  | 9 => some 't'
  | 10 => some 'n'
  | 11 => some 'v'
  | 12 => some 'f'
  | 13 => some 'r'
  | _ => none

/-- A character that cannot be shown, after a backslash. -/
def escapeOf (c : Char) : List Char :=
  match escapeLetter? c with
  | some letter => ['\\', letter]
  | none =>
    let digits := Nat.toDigits 8 c.toNat
    '\\' :: List.replicate (3 - digits.length) '0' ++ digits

/-- A text in single quotes, with what cannot be shown escaped. -/
def inQuotes (name : String) : String :=
  let shown := name.toList.flatMap fun c =>
    if c = '\'' || c = '\\' then ['\\', c] else if isShown c then [c] else escapeOf c
  "'" ++ String.ofList shown ++ "'"

/-- A shell takes the character as it is, wherever it stands. -/
def isPlain (c : Char) : Bool :=
  c.isAlphanum || "%+,-./:@]_".toList.contains c

/-- The rest of a name between single quotes; `escaping` says that the quotes are those of escaped
characters. -/
def quotedRest (escaping : Bool) : List Char → List Char
  | [] => ['\'']
  | c :: cs =>
    if c = '\'' then '\'' :: '\\' :: '\'' :: '\'' :: quotedRest false cs
    else if isShown c then
      (if escaping then ['\'', '\''] else []) ++ c :: quotedRest false cs
    else (if escaping then [] else ['\'', '$', '\'']) ++ escapeOf c ++ quotedRest true cs

/-- A name in quotes, as a shell can read it. -/
def inShellQuotes (name : String) : String :=
  let cs := name.toList
  let joins (c : Char) : Bool := isPlain c || c = ' ' || c = '\''
  if cs.contains '\'' && cs.all joins then "\"" ++ name ++ "\""
  else String.ofList ('\'' :: quotedRest false cs)

/-- A name as complaints have it: in quotes if there is something in it that a shell, or the colon
behind it, gives a meaning. -/
def quotedName (name : String) : String :=
  let cs := name.toList
  let special (c : Char) : Bool :=
    !isShown c || " !\"$&'()*;<=>?[\\^\x60|:".toList.contains c
  let first := cs.head?.any fun c => c = '#' || c = '~'
  if cs.isEmpty || first || cs = ['\x7b'] || cs = ['\x7d'] || cs.any special then inShellQuotes name
  else name

end AgentConsole.Shell
