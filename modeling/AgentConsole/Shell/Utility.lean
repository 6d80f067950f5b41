import AgentConsole.Files.Disk
import AgentConsole.Shell.Format
import AgentConsole.Shell.Quoting

/-!
# Utilities

A utility is a function of what it is started with. What it writes comes in pieces, in order, and
what it does to files is done at once. Its arguments are options, which have a letter or a word or
both, and operands, in any order.
-/

namespace AgentConsole.Shell

open AgentConsole.Text AgentConsole.Files

/-- What a utility is started with. -/
structure Start where
  /-- What it is called, as its complaints have it. -/
  name : String
  arguments : List String
  input : List Char
  /-- How many octets there are in the file that is its input, if it is one. -/
  inputSize : Option Nat
  environment : List (String × String)
  disk : Disk
  /-- How much is made of what never ends. -/
  supply : Nat

/-- Something that is written. -/
structure Piece where
  /-- It goes to the error stream. -/
  isComplaint : Bool
  text : List Char

/-- What a utility does, and what becomes of it. -/
structure Effect where
  status : Nat
  pieces : List Piece
  disk : Disk
  /-- How many milliseconds it takes; `none` if it never ends. -/
  delay : Option Nat
  /-- How much of its input it has read. -/
  taken : Nat

/-- A piece of output. -/
def Piece.said (text : List Char) : Piece :=
  ⟨false, text⟩

namespace Start

/-- Writes pieces, and nothing else. -/
def writes (s : Start) (pieces : List Piece) (status : Nat := 0) : Effect :=
  ⟨status, pieces, s.disk, some 0, 0⟩

/-- Writes a text, and nothing else. -/
def prints (s : Start) (out : List Char) : Effect :=
  s.writes [.said out]

/-- A complaint in the name of the utility. -/
def complaint (s : Start) (words : String) : Piece :=
  ⟨true, (s.name ++ ": " ++ words ++ "\n").toList⟩

/-- Writes complaints. -/
def fails (s : Start) (status : Nat) (complaints : List String) : Effect :=
  s.writes (complaints.map s.complaint) status

/-- Complains about its arguments. -/
def refuses (s : Start) (words : String) (status : Nat := 1) : Effect :=
  s.fails status [words ++ "\nTry '" ++ s.name ++ " --help' for more information."]

end Start

/-- The same after all the input was read. -/
def Effect.reading (e : Effect) (s : Start) : Effect :=
  { e with taken := s.input.length }

/-- The file a name stands for. -/
def contentOf (s : Start) (name : String) : Except IoError (List Char) :=
  match name with
  | "-" | "/dev/stdin" => .ok s.input
  | "/dev/zero" => .ok (List.replicate s.supply (Char.ofNat 0))
  | _ => (s.disk.read (unspell name)).map ofOctets

/-! ## Options -/

/-- Whether an option has a value. -/
inductive Takes where
  | nothing
  | something
  /-- It has one if it is written together with the option. -/
  | maybe
  deriving DecidableEq, Repr

/-- An option that a utility knows. -/
structure Switch where
  letter : Char
  word : String
  takes : Takes := .nothing

/-- An option without a value. -/
def flag (letter : Char) (word : String := "") : Switch :=
  ⟨letter, word, .nothing⟩

/-- An option with a value. -/
def valued (letter : Char) (word : String := "") : Switch :=
  ⟨letter, word, .something⟩

/-- A letter that cannot be typed, for an option that has a word only. -/
def wordOnly (n : Nat) : Char :=
  Char.ofNat (300 + n)

/-- Options with their values, by letters, and operands. -/
structure Options where
  given : List (Char × String)
  operands : List String

namespace Options

/-- The option was given. -/
def has (o : Options) (letter : Char) : Bool :=
  o.given.any (·.1 = letter)

/-- The values of an option. -/
def values (o : Options) (letter : Char) : List String :=
  (o.given.filter (·.1 = letter)).map (·.2)

/-- The last value of an option. -/
def value? (o : Options) (letter : Char) : Option String :=
  (o.values letter).getLast?

/-- The last of some options that was given. -/
def last? (o : Options) (letters : List Char) : Option Char :=
  ((o.given.map (·.1)).filter letters.contains).getLast?

/-- The files that are asked for; the input if there are none. -/
def names (o : Options) : List String :=
  if o.operands.isEmpty then ["-"] else o.operands

end Options

/-- Reads the letters of an argument; an option without its value takes the next argument. -/
def readLetters (switches : List Switch) :
    List Char → List String → Except String (List (Char × String) × List String)
  | [], rest => .ok ([], rest)
  | c :: cs, rest =>
    match switches.find? (·.letter = c) with
    | none => .error ("invalid option -- " ++ inQuotes (String.ofList [c]))
    | some ⟨_, _, .nothing⟩ =>
      (readLetters switches cs rest).map fun p => ((c, "") :: p.1, p.2)
    | some ⟨_, _, .maybe⟩ => .ok ([(c, String.ofList cs)], rest)
    | some ⟨_, _, .something⟩ =>
      match cs, rest with
      | [], [] => .error ("option requires an argument -- " ++ inQuotes (String.ofList [c]))
      | [], value :: rest => .ok ([(c, value)], rest)
      | _, _ => .ok ([(c, String.ofList cs)], rest)

/-- Reads an option that is given by its word, or by the front of it. -/
def readWord (switches : List Switch) (cs : List Char) (rest : List String) :
    Except String ((Char × String) × List String) :=
  let word := String.ofList (cs.takeWhile (· ≠ '='))
  let value : Option String :=
    match cs.drop word.length with
    | [] => none
    | _ :: value => some (String.ofList value)
  let fitting := switches.filter fun s => word.toList.isPrefixOf s.word.toList && !s.word.isEmpty
  let exact := fitting.filter (·.word = word)
  let possible := if exact.isEmpty then fitting else exact
  match possible with
  | [] => .error ("unrecognized option '--" ++ String.ofList cs ++ "'")
  | s :: others =>
    if others.any (·.letter ≠ s.letter) then
      .error ("option '--" ++ String.ofList cs ++ "' is ambiguous; possibilities:" ++
        "".intercalate (possible.map fun s => " '--" ++ s.word ++ "'"))
    else
      match s.takes, value, rest with
      | .nothing, some _, _ => .error ("option '--" ++ s.word ++ "' doesn't allow an argument")
      | .something, none, [] => .error ("option '--" ++ s.word ++ "' requires an argument")
      | .something, none, value :: rest => .ok ((s.letter, value), rest)
      | _, _, _ => .ok ((s.letter, value.getD ""), rest)

/-- Reads options and operands; what follows two dashes is an operand, and so is what follows the
first operand unless options may come in any order. -/
def readOptions (switches : List Switch) (anyOrder : Bool) :
    Nat → List String → Except String Options
  | 0, _ => .ok ⟨[], []⟩
  | _, [] => .ok ⟨[], []⟩
  | fuel + 1, a :: rest =>
    match a.toList with
    | ['-', '-'] => .ok ⟨[], rest⟩
    | '-' :: '-' :: cs => do
      let (given, rest) ← readWord switches cs rest
      let o ← readOptions switches anyOrder fuel rest
      return ⟨given :: o.given, o.operands⟩
    | '-' :: c :: cs => do
      let (given, rest) ← readLetters switches (c :: cs) rest
      let o ← readOptions switches anyOrder fuel rest
      return ⟨given ++ o.given, o.operands⟩
    | _ =>
      if anyOrder then do
        let o ← readOptions switches anyOrder fuel rest
        return ⟨o.given, a :: o.operands⟩
      else .ok ⟨[], a :: rest⟩

/-- Goes on with the options and operands, unless they make no sense. -/
def Start.withOptions (s : Start) (switches : List Switch) (go : Options → Effect)
    (status : Nat := 1) : Effect :=
  match readOptions switches true (s.arguments.length + 1) s.arguments with
  | .ok o => go o
  | .error words => s.refuses words status

/-- Reads the files that are named one after the other, keeping something from one to the next, and
complains about those that cannot be read; what `close` makes of it in the end comes last. -/
def Start.gathers {σ : Type} (s : Start) (names : List String)
    (complaint : String → IoError → String) (start : σ)
    (step : σ → String → List Char → List Char × σ) (close : σ → List Char)
    (status : Nat := 1) : Effect :=
  let (pieces, last) := names.foldl (fun (pieces, kept) name =>
    match contentOf s name with
    | .ok text =>
      let (out, kept) := step kept name text
      (.said out :: pieces, kept)
    | .error e => (s.complaint (complaint name e) :: pieces, kept)) (([] : List Piece), start)
  let pieces := (.said (close last) :: pieces).reverse
  let effect := s.writes pieces (if pieces.any (·.isComplaint) then status else 0)
  if names.contains "-" then effect.reading s else effect

/-- Makes one text of the files that are named, and complains about those that cannot be read. -/
def Start.filters (s : Start) (names : List String) (complaint : String → IoError → String)
    (f : List Char → List Char) (status : Nat := 1) : Effect :=
  s.gathers names complaint () (fun _ _ text => (f text, ())) (fun _ => []) status

/-- The usual complaint about a file. -/
def usualComplaint (name : String) (e : IoError) : String :=
  quotedName name ++ ": " ++ e.words

end AgentConsole.Shell
