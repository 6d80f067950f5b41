/-!
# Numerals

Numbers up to 2⁶⁴ − 1 as they are typed: an optional plus sign, then ASCII digits.
-/

namespace AgentConsole.Text

/-- The least number that is too large. -/
def countLimit : Nat := 18446744073709551616

/-- The value of a digit. -/
def digitValue (c : Char) : Nat :=
  c.toNat - '0'.toNat

/-- The value of decimal digits. -/
def digitsValue (cs : List Char) : Nat :=
  cs.foldl (fun n c => n * 10 + digitValue c) 0

/-- Without the plus sign a number may start with. -/
def dropPlus : List Char → List Char
  | '+' :: cs => cs
  | cs => cs

/-- Reads a number below `countLimit`; refuses signs but one plus, blanks and an empty text. -/
def count? (s : String) : Option Nat :=
  let digits := dropPlus s.toList
  if !digits.isEmpty && digits.all Char.isDigit && digitsValue digits < countLimit then
    some (digitsValue digits)
  else none

theorem count?_lt {s : String} {n : Nat} (h : count? s = some n) : n < countLimit := by
  simp only [count?, Option.ite_none_right_eq_some, Bool.and_eq_true, decide_eq_true_eq,
    Option.some.injEq] at h
  exact h.2 ▸ h.1.2

/-- The number in at least `width` digits, zeros in front. -/
def padded (width n : Nat) : String :=
  let digits := Nat.toDigits 10 n
  String.ofList (List.replicate (width - digits.length) '0' ++ digits)

end AgentConsole.Text
