import AgentConsole.Text.Numeral
import AgentConsole.Text.Search

/-!
# Arguments

The arguments of a program, read by a grammar of options, positional values and subcommands. An
option that takes a value waits for it (`Progress.pending`), and so do positional values, of which
there may be more to come; what waits is stored when something else turns up, and only then are
its values looked at.
-/

namespace AgentConsole.Console

open AgentConsole.Text

/-- Why arguments were not accepted, or what was asked for instead. -/
inductive UsageError where
  | unknownArgument
  | invalidValue
  | valueValidation
  | tooManyValues
  | argumentConflict
  | missingRequiredArgument
  | invalidSubcommand
  | displayHelp
  | displayVersion
  deriving DecidableEq, Repr

/-- What a value has to be. -/
inductive ValueKind where
  | text
  /-- A path, which is not empty. -/
  | path
  /-- A number below 2⁶⁴. -/
  | count
  deriving DecidableEq, Repr

/-- What giving a parameter does. -/
inductive Action where
  /-- It is counted. -/
  | tally
  /-- It has one value and is given once. -/
  | single (kind : ValueKind)
  /-- All its values are kept. -/
  | every (kind : ValueKind)
  | help
  | version
  deriving DecidableEq, Repr

/-- The parameter takes values. -/
def Action.takesValue : Action → Bool
  | single _ | every _ => true
  | tally | help | version => false

/-- An option or a positional value. -/
structure Parameter where
  /-- After two dashes for an option. -/
  name : String
  /-- After one dash. -/
  letter : Option Char := none
  action : Action
  /-- Its value may start with a dash. -/
  takesDashes : Bool := false
  deriving DecidableEq, Repr

/-- What arguments there can be. -/
structure Grammar where
  options : List Parameter
  /-- In order; only the last one may have several values. -/
  positionals : List Parameter
  subcommands : List String
  deriving Repr

/-- What was given for parameters, by name and in order. -/
abbrev Given := List (String × String)

/-- How far the arguments were read. -/
structure Progress where
  given : Given
  /-- The parameter whose values are being collected, and those there are. -/
  pending : Option (Parameter × List String)
  /-- The pending parameter is an option without its value. -/
  awaiting : Bool
  /-- Two dashes came: what follows is positional. -/
  trailing : Bool
  /-- How many positional values were given that can have no more values. -/
  position : Nat
  deriving Repr

/-- Nothing read yet. -/
def Progress.start : Progress :=
  ⟨[], none, false, false, 0⟩

/-- What is wrong with a value. -/
def ValueKind.check (kind : ValueKind) (value : String) : Except UsageError Unit :=
  match kind with
  | .text => .ok ()
  | .path => if value.isEmpty then .error .invalidValue else .ok ()
  | .count => if (count? value).isSome then .ok () else .error .valueValidation

/-- Stores what was given for a parameter. -/
def store (given : Given) (p : Parameter) (values : List String) : Except UsageError Given := do
  match p.action with
  | .help => .error .displayHelp
  | .version => .error .displayVersion
  | .tally => return given ++ [(p.name, "")]
  | .single kind =>
    if values.isEmpty then .error .invalidValue
    else if given.any (·.1 == p.name) then .error .argumentConflict
    else
      values.forM kind.check
      return given ++ values.map (p.name, ·)
  | .every kind =>
    if values.isEmpty then .error .invalidValue
    else
      values.forM kind.check
      return given ++ values.map (p.name, ·)

/-- Stores what is pending. -/
def Progress.resolve (s : Progress) : Except UsageError Progress := do
  match s.pending with
  | none => return s
  | some (p, values) => return { s with given := ← store s.given p values, pending := none }

/-- An option turned up, with a value attached or not. -/
def Progress.option (s : Progress) (p : Parameter) (attached : Option String) :
    Except UsageError Progress := do
  let s ← s.resolve
  if p.action.takesValue then
    match attached with
    | some value => return { s with given := ← store s.given p [value], awaiting := false }
    | none => return { s with pending := some (p, []), awaiting := true }
  else
    match attached with
    | some _ => .error .tooManyValues
    | none => return { s with given := ← store s.given p [], awaiting := false }

/-- Reads an option after its two dashes. -/
def longOption (g : Grammar) (s : Progress) (cs : List Char) : Except UsageError Progress :=
  let name := String.ofList (cs.takeWhile (· ≠ '='))
  let attached :=
    match cs.dropWhile (· ≠ '=') with
    | [] => none
    | _ :: value => some (String.ofList value)
  match g.options.find? (·.name == name) with
  | none => .error .unknownArgument
  | some p =>
    if !p.action.takesValue && attached.isSome then .error .tooManyValues else s.option p attached

/-- Reads options of one letter after their dash; what follows the letter of one that takes a
value is the value. -/
def shortOptions (g : Grammar) : Progress → List Char → Except UsageError Progress
  | s, [] => .ok s
  | s, c :: cs =>
    match g.options.find? (·.letter == some c) with
    | none => .error .unknownArgument
    | some p =>
      if p.action.takesValue then
        match cs with
        | [] => s.option p none
        | '=' :: value => s.option p (some (String.ofList value))
        | value => s.option p (some (String.ofList value))
      else
        match s.option p none with
        | .error e => .error e
        | .ok s => shortOptions g s cs

/-- The value of an option that awaits one. -/
def Progress.value (s : Progress) (value : String) : Progress :=
  { s with
    pending := s.pending.map fun p => (p.1, p.2 ++ [value])
    awaiting := false }

/-- What a value is that no parameter is left for. -/
def leftover (g : Grammar) (s : Progress) (arg : String) : UsageError :=
  if s.trailing && g.subcommands.contains arg then .unknownArgument
  else if g.subcommands.isEmpty then .unknownArgument
  else .invalidSubcommand

/-- A positional value. -/
def Progress.positional (g : Grammar) (s : Progress) (arg : String) :
    Except UsageError Progress := do
  match g.positionals[s.position]? with
  | none => .error (leftover g s arg)
  | some p =>
    match p.action, s.pending with
    | .every _, some (q, values) =>
      if q = p then return { s with pending := some (p, values ++ [arg]) }
      else return { ← s.resolve with pending := some (p, [arg]) }
    | .every _, none => return { s with pending := some (p, [arg]) }
    | _, _ => return { ← s.resolve with pending := some (p, [arg]), position := s.position + 1 }

/-- The pending option may have a value that starts with a dash. -/
def Progress.awaitsDashes (s : Progress) : Bool :=
  s.awaiting && s.pending.any (·.1.takesDashes)

/-- Reads one argument that is no subcommand. -/
def readArgument (g : Grammar) (s : Progress) (arg : String) : Except UsageError Progress :=
  if s.trailing then s.positional g arg
  else if s.awaitsDashes then .ok (s.value arg)
  else
    match arg.toList with
    | ['-', '-'] => .ok { s with trailing := true, awaiting := false }
    | '-' :: '-' :: cs => longOption g s cs
    | '-' :: c :: cs => shortOptions g s (c :: cs)
    | _ => if s.awaiting then .ok (s.value arg) else s.positional g arg

/-- Reads arguments up to a subcommand: its name and the arguments after it, if there is one. -/
def readArguments (g : Grammar) :
    Progress → List String → Except UsageError (Progress × Option (String × List String))
  | s, [] => .ok (s, none)
  | s, arg :: args =>
    if !s.trailing && !s.awaiting && g.subcommands.contains arg then .ok (s, some (arg, args))
    else
      match readArgument g s arg with
      | .error e => .error e
      | .ok s => readArguments g s args

/-- What was given, once nothing is pending and all that is required is there. -/
def Progress.finish (s : Progress) (g : Grammar) : Except UsageError Given := do
  let s ← s.resolve
  if g.positionals.all fun p => s.given.any (·.1 == p.name) then return s.given
  else .error .missingRequiredArgument

/-- The values given for a parameter. -/
def Given.values (given : Given) (name : String) : List String :=
  (given.filter (·.1 == name)).map (·.2)

/-- The one value given for a parameter. -/
def Given.value? (given : Given) (name : String) : Option String :=
  (given.values name).head?

end AgentConsole.Console
