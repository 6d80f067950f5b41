import AgentConsole.Text.Numeral

/-!
# Instants

A moment in universal time: a day of the calendar, and a time of day down to the nanosecond. The
second is sixty in a leap second. `Instant.write` gives the shortest exact text: no fraction for a
whole second, else three, six or nine digits.
-/

namespace AgentConsole.Time

open AgentConsole.Text

/-- The year has a 29 February. -/
def isLeapYear (year : Int) : Bool :=
  year % 4 == 0 && (year % 100 != 0 || year % 400 == 0)

/-- How many days a month has; none outside January to December. -/
def daysIn (year : Int) (month : Nat) : Nat :=
  match month with
  | 2 => if isLeapYear year then 29 else 28
  | 4 | 6 | 9 | 11 => 30
  | 1 | 3 | 5 | 7 | 8 | 10 | 12 => 31
  | _ => 0

/-- The first and the last year of the calendar. -/
def firstYear : Int := -262143

/-- The last year of the calendar. -/
def lastYear : Int := 262142

/-- The calendar has this day. -/
def isDay (year : Int) (month day : Nat) : Prop :=
  firstYear ≤ year ∧ year ≤ lastYear ∧ 1 ≤ day ∧ day ≤ daysIn year month

instance (year : Int) (month day : Nat) : Decidable (isDay year month day) := by
  unfold isDay
  infer_instance

/-- A day of the calendar. -/
structure Date where
  year : Int
  month : Nat
  day : Nat
  valid : isDay year month day
  deriving DecidableEq, Repr

namespace Date

/-- The day with these numbers, if the calendar has it. -/
def of? (year : Int) (month day : Nat) : Option Date :=
  if h : isDay year month day then some ⟨year, month, day, h⟩ else none

/-- The day after, but for the last day of the calendar. -/
def next? (d : Date) : Option Date :=
  if d.day < daysIn d.year d.month then of? d.year d.month (d.day + 1)
  else if d.month < 12 then of? d.year (d.month + 1) 1
  else of? (d.year + 1) 1 1

/-- The day before, but for the first day of the calendar. -/
def previous? (d : Date) : Option Date :=
  if 1 < d.day then of? d.year d.month (d.day - 1)
  else if 1 < d.month then of? d.year (d.month - 1) (daysIn d.year (d.month - 1))
  else of? (d.year - 1) 12 31

/-- The year in four digits, in more with a sign where four do not do. -/
def writeYear (year : Int) : String :=
  if 0 ≤ year && year ≤ 9999 then padded 4 year.natAbs
  else (if year < 0 then "-" else "+") ++ padded 4 year.natAbs

/-- Year, month and day with hyphens between them. -/
def write (d : Date) : String :=
  writeYear d.year ++ "-" ++ padded 2 d.month ++ "-" ++ padded 2 d.day

end Date

/-- A time of day. -/
structure Clock where
  hour : Nat
  minute : Nat
  second : Nat
  nano : Nat
  hour_lt : hour < 24
  minute_lt : minute < 60
  second_le : second ≤ 60
  nano_lt : nano < 1000000000
  deriving DecidableEq, Repr

namespace Clock

/-- The time of day with these numbers, if there is one. -/
def of? (hour minute second nano : Nat) : Option Clock :=
  if h : hour < 24 ∧ minute < 60 ∧ second ≤ 60 ∧ nano < 1000000000 then
    some ⟨hour, minute, second, nano, h.1, h.2.1, h.2.2.1, h.2.2.2⟩
  else none

/-- The fraction of a second, as thousandths, millionths or billionths. -/
def writeFraction (nano : Nat) : String :=
  if nano = 0 then ""
  else if nano % 1000000 = 0 then "." ++ padded 3 (nano / 1000000)
  else if nano % 1000 = 0 then "." ++ padded 6 (nano / 1000)
  else "." ++ padded 9 nano

/-- Hour, minute and second with colons between them. -/
def writeSeconds (c : Clock) : String :=
  padded 2 c.hour ++ ":" ++ padded 2 c.minute ++ ":" ++ padded 2 c.second

/-- The time of day with its fraction. -/
def write (c : Clock) : String :=
  c.writeSeconds ++ writeFraction c.nano

end Clock

/-- A moment in universal time. -/
structure Instant where
  date : Date
  clock : Clock
  deriving DecidableEq, Repr

namespace Instant

/-- The moment as text, `Z` for universal time at the end. -/
def write (t : Instant) : String :=
  t.date.write ++ "T" ++ t.clock.write ++ "Z"

theorem minute_of_day_lt {minutes : Int} (h : 0 ≤ minutes ∧ minutes < 1440) :
    minutes.toNat / 60 < 24 ∧ minutes.toNat % 60 < 60 := by
  omega

/-- The day and clock with their minute of the day moved to `minutes`, which may lie in the day
before or the day after. -/
def atMinute? (date : Date) (clock : Clock) (minutes : Int) : Option Instant :=
  let onDay (date? : Option Date) (minutes : Int) : Option Instant :=
    if h : 0 ≤ minutes ∧ minutes < 1440 then
      date?.map fun date =>
        ⟨date, { clock with
          hour := minutes.toNat / 60
          minute := minutes.toNat % 60
          hour_lt := (minute_of_day_lt h).1
          minute_lt := (minute_of_day_lt h).2 }⟩
    else none
  if minutes < 0 then onDay date.previous? (minutes + 1440)
  else if minutes < 1440 then onDay (some date) minutes
  else onDay date.next? (minutes - 1440)

/-- The moment at which clocks `offset` minutes ahead of universal time show this day and time. -/
def ofLocal? (date : Date) (clock : Clock) (offset : Int) : Option Instant :=
  atMinute? date clock (clock.hour * 60 + clock.minute - offset)

end Instant

end AgentConsole.Time
