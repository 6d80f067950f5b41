import AgentConsole.Shell.Field
import AgentConsole.Shell.Line
import AgentConsole.Shell.Machine

/-!
# Parameters

The items that values are made of, in quotes or not, and words with a tilde for a home directory.
-/

namespace AgentConsole.Shell

open AgentConsole.Files

/-- What is split at: the value of a variable, or blanks and ends of lines. -/
def Machine.separators (m : Machine) : List Char :=
  ((m.bindings.lookup "IFS").getD " \t\n").toList

/-- The part as it is within quotes. -/
def Part.inQuotes (p : Part) : Part :=
  match p with
  | .text cs _ => .text cs true
  | .parameter name change argument _ => .parameter name change argument true
  | .arithmetic expression _ => .arithmetic expression true
  | .substitution script _ => .substitution script true

/-- The part stands for all arguments, one by one. -/
def Part.isArguments (p : Part) : Bool :=
  match p with
  | .parameter "@" .plain _ true => true
  | _ => false

/-! ## Home directories -/

/-- The home directory of a user; without a name, of the user who runs the script. -/
def Machine.home? (m : Machine) (user : String) : Option String :=
  if user.isEmpty then m.bindings.lookup "HOME"
  else
    let users := ((m.disk.read "/etc/passwd").toOption.map ofOctets).getD []
    (linesOf users).findSome? fun line =>
      match splitAtChar ':' line with
      | name :: _ :: _ :: _ :: _ :: home :: _ =>
        if name = user.toList then some (String.ofList home) else none
      | _ => none

/-- The character of a part that is not quoted. -/
def Part.bare? (p : Part) : Option Char :=
  match p with
  | .text [c] false => some c
  | _ => none

/-- A word with a tilde in front replaced by a home directory; the name of a user ends before a
slash, or one of the signs. -/
def homeInFront (m : Machine) (signs : List Char) (w : Word) : Word :=
  match w with
  | first :: rest =>
    if first.bare? ≠ some '~' then w
    else
      let isEnd (p : Part) : Bool := p.bare?.any fun c => c = '/' || signs.contains c
      let named := rest.takeWhile fun p => p.bare?.isSome && !isEnd p
      let after := rest.drop named.length
      if !(after.head?).all isEnd then w
      else
        match m.home? (String.ofList (named.filterMap Part.bare?)) with
        | some home => if home.isEmpty then after else .text home.toList true :: after
        | none => w
  | [] => w

/-- The parts of a word between colons that are not quoted, each with its colon in front but for the
first. -/
def colonPieces (w : Word) : List Word :=
  w.foldr (fun p pieces =>
    match pieces with
    | piece :: more =>
      if p.bare? = some ':' then [] :: (p :: piece) :: more else (p :: piece) :: more
    | [] => [[p]]) [[]]

/-- A word with a tilde for a home directory replaced. -/
def expandTilde (m : Machine) (w : Word) : Word :=
  homeInFront m [] w

/-- The value of an assignment with tildes replaced, in front and after colons. -/
def expandTildes (m : Machine) (w : Word) : Word :=
  (colonPieces w).flatMap fun piece =>
    match piece with
    | colon :: rest =>
      if colon.bare? = some ':' then colon :: homeInFront m [':'] rest
      else homeInFront m [':'] piece
    | [] => []

/-! ## Values -/

/-- Without ends of lines at the end. -/
def withoutLastEnds (cs : List Char) : List Char :=
  (cs.reverse.dropWhile (· = '\n')).reverse

/-- The items of a value. -/
def valueItems (m : Machine) (split quoted : Bool) (value : List Char) : List Item :=
  if quoted || !split then value.map (.char · quoted) else splitItems m.separators value

/-- The items of all arguments. -/
def argumentItems (m : Machine) (name : String) (split quoted : Bool) : List Item :=
  if name = "@" && quoted then
    [Item.cut].intercalate (m.arguments.map fun a => .edge :: quotedItems a.toList)
  else if quoted || !split then
    let separator := (m.separators.head?).toList
    valueItems m false quoted (separator.intercalate (m.arguments.map (·.toList)))
  else [Item.gap].intercalate (m.arguments.map fun a => valueItems m true false a.toList)

end AgentConsole.Shell
