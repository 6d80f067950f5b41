import AgentConsole.Shell.FloatingPoint
import AgentConsole.Text.Numeral

/-!
# Formats

How texts are written with escapes and by formats.
-/

namespace AgentConsole.Shell

open AgentConsole.Text

/-- The character is a digit of an octal number. -/
def isOctal (c : Char) : Bool :=
  '0' ≤ c && c ≤ '7'

/-- The octet of up to three octal digits, and what follows them. -/
def octalEscape (cs : List Char) : List Char × List Char :=
  let digits := (cs.take 3).takeWhile isOctal
  let value := digits.foldl (fun (n : Nat) (c : Char) => n * 8 + (c.toNat - 48)) 0
  ([Char.ofNat (value % 256)], cs.drop digits.length)

/-- What an escape stands for, after its backslash; a backslash that escapes nothing stays. -/
def escaped (cs : List Char) : List Char × List Char :=
  match cs with
  | [] => (['\\'], [])
  | c :: rest =>
    if isOctal c then octalEscape cs
    else
      match c with
      | '\\' => (['\\'], rest)
      | '"' => (['"'], rest)
      | 'a' => ([Char.ofNat 7], rest)
      | 'b' => ([Char.ofNat 8], rest)
      | 'e' => ([Char.ofNat 27], rest)
      | 'f' => ([Char.ofNat 12], rest)
      | 'n' => (['\n'], rest)
      | 'r' => (['\r'], rest)
      | 't' => (['\t'], rest)
      | 'v' => ([Char.ofNat 11], rest)
      | _ => (['\\'], cs)

/-- A text with its escapes replaced, and whether one of them ends all output. -/
def unescape : Nat → List Char → List Char × Bool
  | 0, _ => ([], false)
  | _, [] => ([], false)
  | fuel + 1, c :: cs =>
    if c = '\\' then
      if cs.head? = some 'c' then ([], true)
      else
        let (written, rest) :=
          match cs with
          | '0' :: rest => octalEscape rest
          | _ => escaped cs
        let (more, stop) := unescape fuel rest
        (written ++ more, stop)
    else
      let (more, stop) := unescape fuel cs
      (c :: more, stop)

/-- What is echoed of arguments. -/
def echoed (arguments : List String) : List Char :=
  let (bare, arguments) : Bool × List String :=
    match arguments with
    | "-n" :: rest => (true, rest)
    | _ => (false, arguments)
  let cs := (" ".intercalate arguments).toList
  let (written, stop) := unescape (cs.length + 1) cs
  written ++ if bare || stop then [] else ['\n']

/-- How a value is put into a format. -/
structure Directive where
  left : Bool
  zeros : Bool
  plus : Bool
  space : Bool
  alternate : Bool
  width : Nat
  digits : Option Nat

/-- A text in a column. -/
def Directive.pad (d : Directive) (cs : List Char) : List Char :=
  let fill := List.replicate (d.width - cs.length) ' '
  if d.left then cs ++ fill else fill ++ cs

/-- A number in a column, after its sign; `filled` says that zeros may fill the column. -/
def Directive.signed (d : Directive) (filled : Bool) (sign digits : List Char) : List Char :=
  let zeros := if d.zeros && !d.left && filled then d.width - (sign.length + digits.length) else 0
  d.pad (sign ++ List.replicate zeros '0' ++ digits)

/-- A whole number in a column: its sign, and its digits. -/
def Directive.number (d : Directive) (sign digits : List Char) : List Char :=
  let digits := if d.digits = some 0 && digits = ['0'] then [] else digits
  d.signed d.digits.isNone sign
    (List.replicate (d.digits.getD 0 - digits.length) '0' ++ digits)

/-- The sign a number has. -/
def Directive.sign (d : Directive) (negative : Bool) : List Char :=
  if negative then ['-'] else if d.plus then ['+'] else if d.space then [' '] else []

/-- A format under way. -/
structure Formatting where
  /-- What it has written, backwards. -/
  out : List Char
  arguments : List String
  /-- What was wrong, the last first. -/
  complaints : List String
  /-- Nothing more is written. -/
  ended : Bool
  /-- What ended it, if it was wrong. -/
  fault : Option String

namespace Formatting

/-- Writes a text. -/
def write (f : Formatting) (cs : List Char) : Formatting :=
  { f with out := cs.reverse ++ f.out }

/-- Tells what is wrong with a value. -/
def complain (f : Formatting) (words : String) : Formatting :=
  { f with complaints := words :: f.complaints }

/-- Ends since a directive is wrong. -/
def breakOff (f : Formatting) (words : String) : Formatting :=
  { f with ended := true, fault := some words }

/-- Takes the next argument, if there is one. -/
def next (f : Formatting) : Option String × Formatting :=
  (f.arguments.head?, { f with arguments := f.arguments.tail })

/-- Tells of what is wrong with a number: nothing of it was read, or not all, or it is too large. -/
def judge (f : Formatting) (a : String) (rest : List Char) (outOfRange : Bool) : Formatting :=
  if !rest.isEmpty then
    f.complain (a ++ if rest = a.toList then ": expected numeric value"
      else ": not completely converted")
  else if outOfRange then f.complain (a ++ ": Numerical result out of range")
  else f

/-- Takes the next argument as a number: the one of a character after a quote, or what `scan` reads
of it, which is a number, what is left, and whether it is out of range. -/
def nextBy {α : Type} (missing : α) (ofCharacter : Char → α)
    (scan : List Char → α × List Char × Bool) (f : Formatting) : α × Formatting :=
  let (a, f) := f.next
  match a with
  | none => (missing, f)
  | some a =>
    match a.toList with
    | '\'' :: cs | '"' :: cs => (ofCharacter (cs.headD (Char.ofNat 0)), f)
    | cs =>
      let (n, rest, outOfRange) := scan cs
      (n, f.judge a rest outOfRange)

/-- Takes the next argument as a number of 64 bits with a sign. -/
def nextInteger (f : Formatting) : Int × Formatting :=
  f.nextBy 0 (fun c => c.toNat) fun cs =>
    let scan := scanInteger true cs
    (scan.value, scan.rest, scan.clamped)

/-- Takes the next argument as a number of 64 bits without a sign. -/
def nextNatural (f : Formatting) : Nat × Formatting :=
  f.nextBy 0 Char.toNat fun cs =>
    let scan := scanUnsigned cs
    (scan.value.toNat, scan.rest, scan.clamped)

/-- Takes the next argument as a number of floating point. -/
def nextReal (f : Formatting) : FloatingPoint × Formatting :=
  let whole (n : Nat) : FloatingPoint := ⟨false, .finite n 0⟩
  f.nextBy (whole 0) (fun c => whole c.toNat) fun cs =>
    let scan := scanReal cs
    (scan.value, scan.rest, scan.outOfRange)

/-- Writes a number without a sign in a base, after a mark that an alternate form starts with. -/
def writeNatural (f : Formatting) (d : Directive) (base : Nat) (mark : List Char)
    (form : Char → Char) : Formatting :=
  let (n, f) := f.nextNatural
  let digits := (Nat.toDigits base n).map form
  let octal : Bool := base = 8 && d.alternate && n ≠ 0 && decide (d.digits.getD 0 ≤ digits.length)
  f.write (d.number (if d.alternate && n ≠ 0 && base = 16 then mark else [])
    (if octal then '0' :: digits else digits))

/-- Writes a number of floating point in a style. -/
def writeReal (f : Formatting) (d : Directive) (style : NumberStyle) (upper : Bool) :
    Formatting :=
  let (x, f) := f.nextReal
  let text := x.magnitude.text style d.digits d.alternate
  let isNumber := match x.magnitude with
    | .finite _ _ => true
    | _ => false
  let (mark, text) := if style = .hexadecimal && isNumber then text.splitAt 2 else ([], text)
  let shown (cs : List Char) : List Char := if upper then cs.map Char.toUpper else cs
  f.write (d.signed isNumber (d.sign x.negative ++ shown mark) (shown text))

/-- Writes the next argument as a directive says, which is written as `directive` and its letter. -/
def convert (f : Formatting) (d : Directive) (directive : List Char) (letter : Char) :
    Formatting :=
  match letter with
  | 's' =>
    let (a, f) := f.next
    let cs := (a.getD "").toList
    f.write (d.pad (cs.take (d.digits.getD cs.length)))
  | 'b' =>
    let (a, f) := f.next
    let cs := (a.getD "").toList
    let (written, stop) := unescape (cs.length + 1) cs
    { f.write (d.pad (written.take (d.digits.getD written.length))) with ended := stop }
  | 'c' =>
    let (a, f) := f.next
    f.write (d.pad [((a.getD "").toList.headD (Char.ofNat 0))])
  | 'd' | 'i' =>
    let (n, f) := f.nextInteger
    f.write (d.number (d.sign (n < 0)) (Nat.toDigits 10 n.natAbs))
  | 'u' => f.writeNatural d 10 [] id
  | 'o' => f.writeNatural d 8 [] id
  | 'x' => f.writeNatural d 16 ['0', 'x'] id
  | 'X' => f.writeNatural d 16 ['0', 'X'] Char.toUpper
  | 'f' | 'F' => f.writeReal d .fixed (letter = 'F')
  | 'e' | 'E' => f.writeReal d .scientific (letter = 'E')
  | 'g' | 'G' => f.writeReal d .general (letter = 'G')
  | 'a' | 'A' => f.writeReal d .hexadecimal (letter = 'A')
  | c => f.breakOff (String.ofList (directive ++ [c]) ++ ": invalid directive")

/-- A number of a directive, which an argument may give. -/
def directiveNumber (f : Formatting) (cs : List Char) : Option Int × Formatting × List Char :=
  match cs with
  | '*' :: rest =>
    let (n, f) := f.nextInteger
    (some n, f, rest)
  | _ =>
    let digits := cs.takeWhile Char.isDigit
    (if digits.isEmpty then none else some (digitsValue digits), f, cs.drop digits.length)

/-- Goes through a format once. -/
def through : Nat → Formatting → List Char → Formatting
  | 0, f, _ => f
  | _, f, [] => f
  | fuel + 1, f, c :: cs =>
    if f.ended then f
    else if c = '\\' then
      let (written, rest) := escaped cs
      through fuel (f.write written) rest
    else if c ≠ '%' then through fuel (f.write [c]) cs
    else
      match cs with
      | '%' :: rest => through fuel (f.write ['%']) rest
      | _ =>
        let flags := cs.takeWhile (['-', '0', '+', ' ', '#'].contains ·)
        let (width, f, rest) := f.directiveNumber (cs.drop flags.length)
        let width := width.getD 0
        let (digits, f, rest) : Option Int × Formatting × List Char :=
          match rest with
          | '.' :: rest =>
            let (n, f, rest) := f.directiveNumber rest
            (some (n.getD 0), f, rest)
          | _ => (none, f, rest)
        let digits := (digits.filter (0 ≤ ·)).map Int.toNat
        let d : Directive :=
          ⟨flags.contains '-' || decide (width < 0), flags.contains '0', flags.contains '+',
            flags.contains ' ', flags.contains '#', width.natAbs, digits⟩
        match rest with
        | [] => f.breakOff "missing format character"
        | letter :: after =>
          let directive := '%' :: cs.take (cs.length - rest.length)
          through fuel (f.convert d directive letter) after

/-- Goes through a format, and again while arguments are left that it takes. -/
def repeatedly (format : List Char) : Nat → Formatting → Formatting
  | 0, f => f
  | tries + 1, f =>
    let after := through (format.length + 1) f format
    if after.ended || after.arguments.isEmpty || after.arguments.length = f.arguments.length then
      after
    else repeatedly format tries after

end Formatting

/-- What a format makes of arguments. -/
def formatted (format : String) (arguments : List String) : Formatting :=
  Formatting.repeatedly format.toList (arguments.length + 1) ⟨[], arguments, [], false, none⟩

end AgentConsole.Shell
