import AgentConsole.Text.Blank
import AgentConsole.Time.Instant

/-!
# Reading instants

`Instant.read?` reads the texts of `Instant.write` and looser ones: fewer digits, blanks around
the parts, a space or a small letter between day and time, other offsets than universal time, and
more digits of a fraction than count.
-/

namespace AgentConsole.Time

open AgentConsole.Text

/-- A number of up to `width` digits, blanks in front. -/
def readNumber? (width : Nat) (cs : List Char) : Option (Nat × List Char) :=
  let cs := trimStart cs
  let digits := (cs.take width).takeWhile Char.isDigit
  if digits.isEmpty then none else some (digitsValue digits, cs.drop digits.length)

/-- A number with a sign in front and any count of digits after it. -/
def readSigned? (cs : List Char) : Option (Nat × List Char) :=
  let digits := cs.takeWhile Char.isDigit
  if digits.isEmpty then none else some (digitsValue digits, cs.dropWhile Char.isDigit)

/-- A year: up to four digits, or more after a sign. -/
def readYear? (cs : List Char) : Option (Int × List Char) :=
  match trimStart cs with
  | '-' :: rest => (readSigned? rest).map fun p => (-(p.1 : Int), p.2)
  | '+' :: rest => (readSigned? rest).map fun p => ((p.1 : Int), p.2)
  | cs => (readNumber? 4 cs).map fun p => ((p.1 : Int), p.2)

/-- The mark `c`, blanks in front. -/
def readMark? (c : Char) (cs : List Char) : Option (List Char) :=
  match trimStart cs with
  | d :: rest => if d = c then some rest else none
  | [] => none

/-- A day. -/
def readDate? (cs : List Char) : Option (Date × List Char) := do
  let (year, cs) ← readYear? cs
  let (month, cs) ← readNumber? 2 (← readMark? '-' cs)
  let (day, cs) ← readNumber? 2 (← readMark? '-' cs)
  return (← Date.of? year month day, cs)

/-- The fraction of a second in nanoseconds; digits after the ninth are passed over. -/
def readFraction? : List Char → Option (Nat × List Char)
  | '.' :: cs =>
    let digits := cs.takeWhile Char.isDigit
    if digits.isEmpty then none
    else
      let counted := digits.take 9
      some (digitsValue counted * Nat.pow 10 (9 - counted.length), cs.dropWhile Char.isDigit)
  | cs => some (0, cs)

/-- A time of day. -/
def readClock? (cs : List Char) : Option (Clock × List Char) := do
  let (hour, cs) ← readNumber? 2 cs
  let (minute, cs) ← readNumber? 2 (← readMark? ':' cs)
  let (second, cs) ← readNumber? 2 (← readMark? ':' cs)
  let (nano, cs) ← readFraction? cs
  return (← Clock.of? hour minute second nano, cs)

/-- Two digits. -/
def readPair? : List Char → Option (Nat × List Char)
  | a :: b :: cs =>
    if a.isDigit && b.isDigit then some (digitsValue [a, b], cs) else none
  | _ => none

/-- Hours and minutes of an offset, in minutes. -/
def readSpan? (cs : List Char) : Option (Nat × List Char) := do
  let (hours, cs) ← readPair? cs
  let (minutes, cs) ← readPair? (cs.dropWhile fun c => c = ':' || isBlank c)
  if hours < 24 ∧ minutes < 60 then return (hours * 60 + minutes, cs) else none

/-- The minutes that local clocks are ahead of universal time. -/
def readOffset? (cs : List Char) : Option (Int × List Char) :=
  if (cs.take 3).map Char.toLower = ['u', 't', 'c'] then some (0, cs.drop 3)
  else
    match cs with
    | [] => none
    | c :: rest =>
      if c = 'Z' || c = 'z' then some (0, rest)
      else if c = '+' then (readSpan? rest).map fun p => ((p.1 : Int), p.2)
      else if c = '-' || c = '−' then (readSpan? rest).map fun p => (-(p.1 : Int), p.2)
      else none

/-- Reads a moment; nothing but blanks may follow it. -/
def Instant.read? (s : String) : Option Instant := do
  let (date, cs) ← readDate? s.toList
  let cs ←
    match cs with
    | c :: rest => if c = 'T' || c = 't' || c = ' ' then some rest else none
    | [] => none
  let (clock, cs) ← readClock? cs
  let (offset, cs) ← readOffset? (trimStart cs)
  if cs.all isBlank then Instant.ofLocal? date clock offset else none

end AgentConsole.Time
