import AgentConsole.Shell.Line

/-!
# Dumps

What `od` writes: the octets of files in rows, each with its place in front, as numbers or
characters of some units (`DumpUnit`). A row that is like the one before is left out, and a star
stands for all of them.
-/

namespace AgentConsole.Shell

open AgentConsole.Text AgentConsole.Files

/-! ## Units -/

/-- How a unit is shown. -/
inductive UnitForm where
  | signed
  | unsigned
  | octal
  | hexadecimal
  /-- As a character, which is escaped or a number if it cannot be shown. -/
  | char
  /-- As a character by its name; only seven bits of it count. -/
  | named
  deriving DecidableEq, Repr

/-- So many octets that are shown together. -/
structure DumpUnit where
  form : UnitForm
  size : Nat
  /-- The row is shown as a text behind its units. -/
  withText : Bool := false

/-- The names of the characters that cannot be shown, up to the blank. -/
def controlNames : List String :=
  ["nul", "soh", "stx", "etx", "eot", "enq", "ack", "bel", "bs", "ht", "nl", "vt", "ff", "cr", "so",
    "si", "dle", "dc1", "dc2", "dc3", "dc4", "nak", "syn", "etb", "can", "em", "sub", "esc", "fs",
    "gs", "rs", "us", "sp"]

/-- A number with so many digits in a base, at least. -/
def digitsOf (base width n : Nat) : List Char :=
  let digits := Nat.toDigits base n
  List.replicate (width - digits.length) '0' ++ digits

/-- The number that octets are, the last of which counts most. -/
def littleEndian (octets : List Char) : Nat :=
  octets.foldr (fun c n => n * 256 + c.toNat) 0

namespace DumpUnit

/-- How wide a unit is shown at most. -/
def width (u : DumpUnit) : Nat :=
  let count := Nat.pow 256 u.size
  match u.form with
  | .signed => (Nat.toDigits 10 (count / 2)).length + 1
  | .unsigned => (Nat.toDigits 10 (count - 1)).length
  | .octal => (Nat.toDigits 8 (count - 1)).length
  | .hexadecimal => (Nat.toDigits 16 (count - 1)).length
  | .char | .named => 3

/-- A unit as it is shown; octets that are missing are zeros. -/
def text (u : DumpUnit) (octets : List Char) : List Char :=
  let n := littleEndian octets
  match u.form with
  | .signed =>
    let count := Nat.pow 256 u.size
    if 2 * n < count then Nat.toDigits 10 n else '-' :: Nat.toDigits 10 (count - n)
  | .unsigned => Nat.toDigits 10 n
  | .octal => digitsOf 8 u.width n
  | .hexadecimal => digitsOf 16 u.width n
  | .char =>
    let c := Char.ofNat n
    if n = 0 then ['\\', '0']
    else if isShown c then [c]
    else (escapeLetter? c).elim (digitsOf 8 3 n) fun letter => ['\\', letter]
  | .named =>
    let n := n % 128
    match controlNames[n]? with
    | some name => name.toList
    | none => if n = 127 then "del".toList else [Char.ofNat n]

/-- How wide a full row of units is. -/
def fullWidth (u : DumpUnit) (count : Nat) : Nat :=
  count / u.size * (u.width + 1)

end DumpUnit

/-! ## Rows -/

/-- How octets are shown. -/
structure DumpStyle where
  /-- The base of the places, and how many digits they have; none are shown without it. -/
  places : Option (Nat × Nat)
  units : List DumpUnit
  /-- How many octets there are in a row. -/
  count : Nat
  /-- All rows are shown. -/
  complete : Bool

namespace DumpStyle

/-- A place as it is shown. -/
def place (y : DumpStyle) (n : Nat) : List Char :=
  y.places.elim [] fun (base, width) => digitsOf base width n

/-- A row of units. Full rows of all units are as wide as the widest of them, and what the others
lack is shared out among their columns. -/
def unitRow (y : DumpStyle) (octets : List Char) (u : DumpUnit) : List Char :=
  let columns := y.count / u.size
  let widest := (y.units.map (·.fullWidth y.count)).foldl max 0
  let slack := widest - u.fullWidth y.count
  let left (n : Nat) : Nat := slack * (columns - n) / columns
  let shown := (inPieces u.size octets.length octets).zipIdx.map fun (piece, n) =>
    let cs := u.text piece
    List.replicate (left n - left (n + 1) + u.width + 1 - cs.length) ' ' ++ cs
  let row := shown.flatten
  let trailer := octets.map fun c => if isShown c then c else '.'
  if !u.withText then row
  else row ++ List.replicate (widest - row.length + 2) ' ' ++ '>' :: trailer ++ ['<']

/-- A row at a place. -/
def row (y : DumpStyle) (n : Nat) (octets : List Char) : List Char :=
  let indent := List.replicate (y.place 0).length ' '
  let rows := y.units.zipIdx.map fun (u, k) =>
    (if k = 0 then y.place n else indent) ++ y.unitRow octets u
  unlines rows

/-- All rows of a text whose first octet is at a place, and the place behind it. -/
def rows (y : DumpStyle) (start : Nat) (text : List Char) : List Char :=
  let step (state : List (List Char) × Nat × Option (List Char) × Bool) (octets : List Char) :
      List (List Char) × Nat × Option (List Char) × Bool :=
    let (done, n, before, starred) := state
    let next := n + octets.length
    if !y.complete && before = some octets then
      (if starred then done else ['*', '\n'] :: done, next, before, true)
    else (y.row n octets :: done, next, some octets, false)
  let (done, n, _, _) := (inPieces y.count text.length text).foldl step ([], start, none, false)
  let last := if y.places.isSome then y.place n ++ ['\n'] else []
  done.reverse.flatten ++ last

end DumpStyle

/-! ## Arguments -/

/-- Reads how units are shown, onto what was read of it. -/
def readUnits (written : String) : Nat → List DumpUnit → List Char → Except String (List DumpUnit)
  | 0, done, _ => .ok done.reverse
  | _, done, [] => .ok done.reverse
  | fuel + 1, done, c :: cs => do
    let (size, sized) : Nat × List Char :=
      match cs with
      | 'C' :: rest => (1, rest)
      | 'S' :: rest => (2, rest)
      | 'I' :: rest => (4, rest)
      | 'L' :: rest => (8, rest)
      | _ =>
        let digits := cs.takeWhile Char.isDigit
        (if digits.isEmpty then 4 else digitsValue digits, cs.drop digits.length)
    let (form, size, rest) ←
      match c with
      | 'd' => pure (UnitForm.signed, size, sized)
      | 'u' => pure (UnitForm.unsigned, size, sized)
      | 'o' => pure (UnitForm.octal, size, sized)
      | 'x' => pure (UnitForm.hexadecimal, size, sized)
      | 'c' => pure (UnitForm.char, 1, cs)
      | 'a' => pure (UnitForm.named, 1, cs)
      | _ => throw ("invalid character " ++ inQuotes (String.ofList [c]) ++ " in type string " ++
          inQuotes written)
    if !([1, 2, 4, 8].contains size) then
      throw ("invalid type string " ++ inQuotes written ++
        ";\nthis system doesn't provide a " ++ toString size ++ "-byte integral type")
    let withText := rest.head? = some 'z'
    readUnits written fuel (⟨form, size, withText⟩ :: done) (if withText then rest.drop 1 else rest)

/-- The type that a letter stands for by itself. -/
def typeOfLetter? (letter : Char) : Option String :=
  match letter with
  | 'a' => some "a"
  | 'b' => some "o1"
  | 'c' => some "c"
  | 'd' => some "u2"
  | 'D' => some "u4"
  | 'h' | 'x' => some "x2"
  | 'H' | 'X' => some "x4"
  | 'i' => some "d4"
  | 'I' | 'l' | 'L' => some "d8"
  | 'o' => some "o2"
  | 'O' => some "o4"
  | 's' => some "d2"
  | _ => none

/-- A count as options have it: in any base, and with a letter behind it that multiplies it. -/
def dumpCount? (written : String) : Option Nat :=
  let scan := scanInteger true written.toList
  if !scan.found || scan.value < 0 then none
  else (multiplier? scan.rest).map (scan.value.toNat * ·)

/-- What is asked of a dump. -/
structure DumpRequest where
  style : DumpStyle
  /-- How many octets are passed over. -/
  skipped : Nat
  /-- How many octets are shown at most. -/
  limit : Option Nat
  warnings : List String

/-- Reads what is asked of a dump from options. -/
def dumpRequest (o : Options) : Except String DumpRequest := do
  let count (letter : Char) : Except String (Option Nat) :=
    (o.value? letter).mapM fun written =>
      match dumpCount? written with
      | some n => .ok n
      | none =>
        .error ("invalid -" ++ String.ofList [letter] ++ " argument " ++ inQuotes written)
  let places ←
    match (((o.value? 'A').getD "o").toList.head?).getD ' ' with
    | 'o' => pure (some (8, 7))
    | 'd' => pure (some (10, 7))
    | 'x' => pure (some (16, 6))
    | 'n' => pure none
    | other =>
      throw ("invalid output address radix " ++ inQuotes (String.ofList [other]) ++
        "; it must be one character from [doxn]")
  let skipped ← count 'j'
  let limit ← count 'N'
  let wide ← if o.value? 'w' = some "" then pure (some 32) else count 'w'
  let types := o.given.filterMap fun (letter, value) =>
    if letter = 't' then some value else typeOfLetter? letter
  let types := if types.isEmpty then ["o2"] else types
  let units ← types.mapM fun t => readUnits t (t.length + 1) [] t.toList
  let units := units.flatten
  let size := (units.map (·.size)).foldl max 1
  let wide := wide.getD 16
  let fits := wide ≠ 0 && wide % size = 0
  let warning := "warning: invalid width " ++ toString wide ++ "; using " ++ toString size ++
    " instead"
  return ⟨⟨places, units, if fits then wide else size, o.has 'v'⟩, skipped.getD 0, limit,
    if fits then [] else [warning]⟩

/-- Shows the octets of files. -/
def od (s : Start) : Effect :=
  let types := "abcdDhHxXiIlLoOs".toList.map (flag ·)
  let switches := [valued 'A' "address-radix", valued 'j' "skip-bytes", valued 'N' "read-bytes",
    valued 't' "format", flag 'v' "output-duplicates", ⟨'w', "width", .maybe⟩] ++ types
  s.withOptions switches fun o =>
    match dumpRequest o with
    | .error words => s.fails 1 [words]
    | .ok ⟨y, skipped, limit, warnings⟩ =>
      let contents := o.names.map fun name => (name, contentOf s name)
      let complaints := contents.filterMap fun (name, c) =>
        match c with
        | .ok _ => none
        | .error e => some (s.complaint (usualComplaint name e))
      let opened := contents.any fun c =>
        match c.2 with
        | .ok _ | .error .isDirectory => true
        | .error _ => false
      let all := (contents.filterMap (·.2.toOption)).flatten
      let text := all.drop skipped
      let text := limit.elim text text.take
      let effect :=
        if skipped > all.length && opened then
          s.writes (complaints ++ [s.complaint "cannot skip past end of combined input"]) 1
        else
          let out := if opened then [Piece.said (y.rows skipped text)] else []
          s.writes (warnings.map s.complaint ++ complaints ++ out)
            (if complaints.isEmpty then 0 else 1)
      let needed := limit.elim s.input.length (skipped + ·)
      if o.names.contains "-" then { effect with taken := min needed s.input.length } else effect

end AgentConsole.Shell
