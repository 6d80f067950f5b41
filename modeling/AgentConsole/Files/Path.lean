/-!
# Paths

A path is a text with slashes. `components` reads it as a walk: empty steps and dots between
slashes lead nowhere and are left out. `join` and `baseName?` are stated on the walk or on the
text alone, without looking at any directory.
-/

namespace AgentConsole.Files

/-- One step of a path. -/
inductive Component where
  | root
  | here
  | parent
  | normal (name : String)
  deriving DecidableEq, Repr

/-- A step as it is written. -/
def Component.text : Component → String
  | .root => "/"
  | .here => "."
  | .parent => ".."
  | .normal name => name

/-- The pieces of a text between slashes; `piece` is the one under way, backwards. -/
def piecesFrom (piece : List Char) : List Char → List (List Char)
  | [] => [piece.reverse]
  | c :: cs => if c = '/' then piece.reverse :: piecesFrom [] cs else piecesFrom (c :: piece) cs

/-- The pieces of a path that are not empty. -/
def segments (path : String) : List String :=
  ((piecesFrom [] path.toList).filter (!·.isEmpty)).map String.ofList

/-- The path starts at the root. -/
def isAbsolute (path : String) : Bool :=
  path.toList.head? == some '/'

/-- A segment as a step; a dot is none. -/
def step? (segment : String) : Option Component :=
  if segment = "." then none else some (if segment = ".." then .parent else .normal segment)

/-- The steps of a path. A dot counts only where a relative path starts with it. -/
def components (path : String) : List Component :=
  if isAbsolute path then .root :: (segments path).filterMap step?
  else
    match segments path with
    | "." :: rest => .here :: rest.filterMap step?
    | all => all.filterMap step?

/-- The name a path ends in, if it ends in one. -/
def baseName? (path : String) : Option String :=
  match (components path).getLast? with
  | some (.normal name) => some name
  | _ => none

/-- The path `path` as seen from `base`. -/
def join (base path : String) : String :=
  if isAbsolute path || base.isEmpty then path
  else if base.toList.getLast? == some '/' then base ++ path
  else base ++ "/" ++ path

/-- A character of a path between quotes. -/
def quotedChar (c : Char) : List Char :=
  if c = '"' || c = '\'' || c = '\\' then ['\\', c]
  else if c = '\t' then ['\\', 't']
  else if c = '\r' then ['\\', 'r']
  else if c = '\n' then ['\\', 'n']
  else if c.toNat < 32 || (127 ≤ c.toNat && c.toNat < 160) then
    ['\\', 'u', '\x7b'] ++ Nat.toDigits 16 c.toNat ++ ['\x7d']
  else [c]

/-- A path between quotes. -/
def quotedPath (path : String) : String :=
  "\"" ++ String.ofList (path.toList.flatMap quotedChar) ++ "\""

end AgentConsole.Files
