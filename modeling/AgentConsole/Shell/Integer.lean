import AgentConsole.Text.Numeral

/-!
# Integers

Whole numbers of 64 bits as they are typed: blanks, a sign, and digits. `scanInteger` reads as many
characters as fit, and `integer?` and `natural?` refuse what has anything else but blanks behind.
-/

namespace AgentConsole.Shell

open AgentConsole.Text

/-- The character is a blank of any kind. -/
def isSpace (c : Char) : Bool :=
  c = ' ' || (9 ≤ c.toNat && c.toNat ≤ 13)

/-- The value of a digit in a base up to 36. -/
def digitIn? (base : Nat) (c : Char) : Option Nat :=
  let value :=
    if c.isDigit then c.toNat - '0'.toNat
    else if c.isAlpha then c.toLower.toNat - 'a'.toNat + 10
    else base
  if value < base then some value else none

/-- The value of the digits in front, and what follows them. -/
def digitsIn (base : Nat) (cs : List Char) : Nat × List Char :=
  let digits := cs.takeWhile fun c => (digitIn? base c).isSome
  (digits.foldl (fun n c => n * base + (digitIn? base c).getD 0) 0, cs.drop digits.length)

/-- A number without its sign: in hexadecimal after `0x`, in octal after a zero. -/
def numeral (cs : List Char) : Nat × List Char :=
  match cs with
  | '0' :: x :: d :: rest =>
    if (x = 'x' || x = 'X') && (digitIn? 16 d).isSome then digitsIn 16 (d :: rest)
    else digitsIn 8 cs
  | '0' :: _ => digitsIn 8 cs
  | _ => digitsIn 10 cs

/-- The least number that is too large. -/
def integerLimit : Int := Nat.pow 2 63

/-- The number of 64 bits that has the same last bits. -/
def wrap64 (n : Int) : Int :=
  Int.bmod n (Nat.pow 2 64)

/-- What was read of a number. -/
structure Scan where
  value : Int
  rest : List Char
  /-- There was a digit. -/
  found : Bool
  /-- The number has no 64 bits; the value is the nearest one that has. -/
  clamped : Bool

/-- Reads a number at the front of a text; `anyBase` says that it need not be decimal. -/
def scanInteger (anyBase : Bool) (cs : List Char) : Scan :=
  let start := cs.dropWhile isSpace
  let (negative, digits) : Bool × List Char :=
    match start with
    | '-' :: rest => (true, rest)
    | '+' :: rest => (false, rest)
    | _ => (false, start)
  if !digits.head?.any Char.isDigit then ⟨0, cs, false, false⟩
  else
    let (n, rest) := if anyBase then numeral digits else digitsIn 10 digits
    let value : Int := if negative then -n else n
    if value ≥ integerLimit then ⟨integerLimit - 1, rest, true, true⟩
    else if value < -integerLimit then ⟨-integerLimit, rest, true, true⟩
    else ⟨value, rest, true, false⟩

/-- Reads a number at the front of a text in any base, as one of 64 bits without a sign; with a minus
sign it counts down from the least number that is too large. -/
def scanUnsigned (cs : List Char) : Scan :=
  let scan := scanInteger true cs
  if !scan.clamped then { scan with value := scan.value % (countLimit : Int) }
  else
    let start := cs.dropWhile isSpace
    let negative := start.head? = some '-'
    let digits := if negative || start.head? = some '+' then start.drop 1 else start
    let n := (numeral digits).1
    if n ≥ countLimit then { scan with value := countLimit - 1 }
    else { scan with value := if negative then countLimit - n else n, clamped := false }

/-- The number a text is; where any base will do, a text of blanks is zero. -/
def integer? (anyBase : Bool) (s : String) : Option Int :=
  let scan := scanInteger anyBase s.toList
  if scan.clamped || !scan.rest.all isSpace || (!anyBase && !scan.found) then none
  else some scan.value

/-- The number a text is, if it is none below zero and has at most 31 bits. -/
def natural? (s : String) : Option Nat :=
  match integer? false s with
  | some (.ofNat n) => if n < Nat.pow 2 31 then some n else none
  | _ => none

end AgentConsole.Shell
