/-!
# Scripts

What a script of the command language says: words with their references, and commands put
together from simple ones. A word can hold commands, whose output is put in its place.
-/

namespace AgentConsole.Shell

/-- What is made of the value of a parameter. A colon before the sign makes an empty value count
as none. -/
inductive Change where
  | plain
  /-- How many characters it has. -/
  | length
  /-- Another word if there is none. -/
  | fallback (emptyToo : Bool)
  /-- Another word if there is none, which becomes the value. -/
  | assign (emptyToo : Bool)
  /-- Another word if there is one. -/
  | alternative (emptyToo : Bool)
  /-- A complaint if there is none. -/
  | require (emptyToo : Bool)
  /-- Without a pattern at the front. -/
  | dropStart (longest : Bool)
  /-- Without a pattern at the end. -/
  | dropEnd (longest : Bool)
  /-- Something that makes no sense. -/
  | wrong
  deriving DecidableEq, Repr

/-- What follows the sign is a pattern. -/
def Change.hasPattern : Change → Bool
  | dropStart _ | dropEnd _ => true
  | _ => false

/-- What a redirection does with a file descriptor. -/
inductive RedirectKind where
  | read
  | write
  /-- Writes even to files that are to be kept. -/
  | overwrite
  | append
  /-- Opens a file without emptying it. -/
  | update
  /-- Makes it the same as another, or closes it. -/
  | duplicate
  /-- Reads the document with a number. -/
  | document (number : Nat)
  deriving DecidableEq, Repr

mutual

/-- A part of a word. Only what is not quoted is split into fields. -/
inductive Part where
  | text (cs : List Char) (quoted : Bool)
  | parameter (name : String) (change : Change) (argument : List Part) (quoted : Bool)
  | arithmetic (expression : List Part) (quoted : Bool)
  | substitution (command : Command) (quoted : Bool)

/-- A redirection. -/
inductive Redirect where
  | mk (descriptor : Nat) (kind : RedirectKind) (target : List Part)

/-- A command. Those that tell of their line in complaints know it. -/
inductive Command where
  | simple (line : Nat) (assignments : List (String × List Part)) (words : List (List Part))
    (redirects : List Redirect)
  | pipeline (stages : List Command)
  | negation (command : Command)
  | both (first second : Command)
  | either (first second : Command)
  | sequence (commands : List Command)
  | background (command : Command)
  | grouped (line : Nat) (command : Command) (redirects : List Redirect)
  | subshell (line : Nat) (command : Command) (redirects : List Redirect)
  | branch (condition yes no : Command)
  | loop (untilTrue : Bool) (condition body : Command)
  /-- Without words, over the arguments. -/
  | each (line : Nat) (name : String) (words : Option (List (List Part))) (body : Command)
  | choose (line : Nat) (word : List Part) (cases : List (List (List Part) × Command))
  | define (line : Nat) (name : String) (body : Command)

end

/-- A word. -/
abbrev Word := List Part

/-- The descriptor that is connected. -/
def Redirect.descriptor : Redirect → Nat
  | mk descriptor _ _ => descriptor

/-- What is done with the descriptor. -/
def Redirect.kind : Redirect → RedirectKind
  | mk _ kind _ => kind

/-- What the descriptor is connected to. -/
def Redirect.target : Redirect → Word
  | mk _ _ target => target

/-- The command does nothing at all. -/
def Command.isEmpty : Command → Bool
  | sequence [] => true
  | _ => false

end AgentConsole.Shell
