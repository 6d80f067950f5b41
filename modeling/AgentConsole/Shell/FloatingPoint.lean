import AgentConsole.Shell.Integer

/-!
# Numbers of floating point

Numbers with a significand of 53 bits, as they are typed and as they are written. Both are exact: a
text stands for the nearest such number (`nearest`), and what is written of a number is rounded
once (`roundedQuotient`), where a half goes to the even neighbour.
-/

namespace AgentConsole.Shell

open AgentConsole.Text

/-- A number without its sign. -/
inductive Magnitude where
  /-- The significand times two to the exponent. -/
  | finite (significand : Nat) (exponent : Int)
  | infinite
  | undefined
  deriving DecidableEq, Repr

/-- A number of floating point. -/
structure FloatingPoint where
  negative : Bool
  magnitude : Magnitude
  deriving DecidableEq, Repr

/-- The nearest whole number to a quotient, and of two as near the even one. -/
def roundedQuotient (numerator denominator : Nat) : Nat :=
  let whole := numerator / denominator
  let rest := numerator % denominator
  if 2 * rest > denominator || (2 * rest = denominator && whole % 2 = 1) then whole + 1 else whole

/-- The numerator and the denominator of a number times a power of a base. -/
def timesPower (base : Nat) (exponent : Int) (ratio : Nat × Nat) : Nat × Nat :=
  if exponent ≥ 0 then (ratio.1 * Nat.pow base exponent.toNat, ratio.2)
  else (ratio.1, ratio.2 * Nat.pow base (-exponent).toNat)

/-- The quotient is not below a power of a base. -/
def reachesPower (base : Nat) (exponent : Int) (ratio : Nat × Nat) : Bool :=
  let (n, d) := timesPower base (-exponent) ratio
  d ≤ n

/-- The greatest power of a base that a quotient is not below; `guess` is below it by less than
four. -/
def exponentFrom (base : Nat) (ratio : Nat × Nat) (guess : Int) : Int :=
  guess + ([1, 2, 3, 4].filter fun (n : Nat) => reachesPower base (guess + n) ratio).length

/-- The power of two in a quotient that is not zero. -/
def binaryExponent (ratio : Nat × Nat) : Int :=
  exponentFrom 2 ratio ((ratio.1.log2 : Int) - ratio.2.log2 - 2)

/-- The power of ten in a quotient that is not zero. -/
def decimalExponent (ratio : Nat × Nat) : Int :=
  exponentFrom 10 ratio ((binaryExponent ratio * 30103).fdiv 100000 - 2)

/-- The nearest number to a quotient, and whether it is out of range. -/
def nearest (ratio : Nat × Nat) : Magnitude × Bool :=
  if ratio.1 = 0 then (.finite 0 0, false)
  else
    let power := binaryExponent ratio
    let exponent := max (power - 52) (-1074)
    let (n, d) := timesPower 2 (-exponent) ratio
    let significand := roundedQuotient n d
    if power ≥ 1024 || (exponent = 971 && significand = Nat.pow 2 53) then (.infinite, true)
    else (.finite significand exponent, power < -1022 && significand * d ≠ n)

/-! ## Reading -/

/-- What was read of a number of floating point. -/
structure RealScan where
  value : FloatingPoint
  rest : List Char
  /-- There was a number. -/
  found : Bool
  outOfRange : Bool

/-- Beyond this power of ten or two every number is out of range. -/
def exponentLimit : Nat := 20000

/-- An exponent after its letter, no farther from zero than `exponentLimit`; none without digits. -/
def scanExponent (letter : Char) (cs : List Char) : Option (Int × List Char) :=
  match cs with
  | c :: rest =>
    if c.toLower = letter then
      let (negative, digits) : Bool × List Char :=
        match rest with
        | '-' :: rest => (true, rest)
        | '+' :: rest => (false, rest)
        | _ => (false, rest)
      let written := digits.takeWhile Char.isDigit
      if written.isEmpty then none
      else
        let n : Int := (min (digitsValue written) exponentLimit : Nat)
        some (if negative then -n else n, digits.drop written.length)
    else none
  | [] => none

/-- A number without sign in a base, with a point and an exponent, as a quotient; none without
digits. -/
def scanDigits (base : Nat) (cs : List Char) : Option ((Nat × Nat) × List Char) :=
  let isDigit (c : Char) : Bool := (digitIn? base c).isSome
  let whole := cs.takeWhile isDigit
  let (fraction, rest) : List Char × List Char :=
    match cs.drop whole.length with
    | '.' :: rest => (rest.takeWhile isDigit, rest.dropWhile isDigit)
    | rest => ([], rest)
  if whole.isEmpty && fraction.isEmpty then none
  else
    let (letter, root, perDigit) : Char × Nat × Nat :=
      if base = 16 then ('p', 2, 4) else ('e', 10, 1)
    let (exponent, rest) := (scanExponent letter rest).getD (0, rest)
    let significand := (digitsIn base (whole ++ fraction)).1
    let shift : Int := exponent - (fraction.length * perDigit : Nat)
    some (if significand = 0 then (0, 1) else timesPower root shift (significand, 1), rest)

/-- A text starts with a word, in letters of either case. -/
def startsWithWord (word : String) (cs : List Char) : Bool :=
  word.toList.isPrefixOf (cs.map Char.toLower)

/-- The number at the front of a text. -/
def scanReal (cs : List Char) : RealScan :=
  let start := cs.dropWhile isSpace
  let (negative, body) : Bool × List Char :=
    match start with
    | '-' :: rest => (true, rest)
    | '+' :: rest => (false, rest)
    | _ => (false, start)
  let give (magnitude : Magnitude) (rest : List Char) (outOfRange : Bool) : RealScan :=
    ⟨⟨negative, magnitude⟩, rest, true, outOfRange⟩
  let plain : RealScan :=
    match scanDigits 10 body with
    | some (ratio, rest) =>
      let (magnitude, outOfRange) := nearest ratio
      give magnitude rest outOfRange
    | none => ⟨⟨false, .finite 0 0⟩, cs, false, false⟩
  if startsWithWord "infinity" body then give .infinite (body.drop 8) false
  else if startsWithWord "inf" body then give .infinite (body.drop 3) false
  else if startsWithWord "nan" body then give .undefined (body.drop 3) false
  else if startsWithWord "0x" body then
    match scanDigits 16 (body.drop 2) with
    | some (ratio, rest) =>
      let (magnitude, outOfRange) := nearest ratio
      give magnitude rest outOfRange
    | none => plain
  else plain

/-! ## Writing -/

/-- How a number of floating point is written. -/
inductive NumberStyle where
  | fixed
  | scientific
  /-- As one of these, whichever is shorter. -/
  | general
  | hexadecimal
  deriving DecidableEq, Repr

/-- The last so many digits of a number after a point; without digits the point is left out, unless
it is always to be there. -/
def withPoint (base places n : Nat) (pointed : Bool) : List Char :=
  let digits := Nat.toDigits base n
  let digits := List.replicate (places + 1 - digits.length) '0' ++ digits
  let whole := digits.take (digits.length - places)
  whole ++ if places = 0 && !pointed then [] else '.' :: digits.drop (digits.length - places)

/-- A quotient with so many digits after the point. -/
def fixedText (ratio : Nat × Nat) (places : Nat) (pointed : Bool) : List Char :=
  withPoint 10 places (roundedQuotient (ratio.1 * Nat.pow 10 places) ratio.2) pointed

/-- A quotient rounded to one digit and so many more: these digits, and the power of ten of the
first. -/
def scientificDigits (ratio : Nat × Nat) (places : Nat) : Nat × Int :=
  if ratio.1 = 0 then (0, 0)
  else
    let exponent := decimalExponent ratio
    let (n, d) := timesPower 10 (places - exponent) ratio
    let digits := roundedQuotient n d
    if digits = Nat.pow 10 (places + 1) then (Nat.pow 10 places, exponent + 1)
    else (digits, exponent)

/-- An exponent with its sign and its digits, of which there are at least so many. -/
def exponentText (letter : Char) (width : Nat) (exponent : Int) : List Char :=
  letter :: (if exponent < 0 then '-' else '+') :: (padded width exponent.natAbs).toList

/-- A quotient as digits with one before the point, times a power of ten. -/
def scientificText (ratio : Nat × Nat) (places : Nat) (pointed : Bool) : List Char :=
  let (digits, exponent) := scientificDigits ratio places
  withPoint 10 places digits pointed ++ exponentText 'e' 2 exponent

/-- Without zeros at the end, behind a point, and without the point if nothing is left there. -/
def withoutLastZeros (cs : List Char) : List Char :=
  if cs.contains '.' then
    let kept := cs.reverse.dropWhile (· = '0')
    (if kept.head? = some '.' then kept.drop 1 else kept).reverse
  else cs

/-- A quotient with so many digits in all, as it is shorter to write. -/
def generalText (ratio : Nat × Nat) (digits : Nat) (pointed : Bool) : List Char :=
  let digits := max digits 1
  let (_, exponent) := scientificDigits ratio (digits - 1)
  let shorten (cs : List Char) : List Char := if pointed then cs else withoutLastZeros cs
  if -4 ≤ exponent && exponent < digits then
    shorten (fixedText ratio (digits - 1 - exponent).toNat pointed)
  else
    let (shown, exponent) := scientificDigits ratio (digits - 1)
    shorten (withPoint 10 (digits - 1) shown pointed) ++ exponentText 'e' 2 exponent

/-- A number in hexadecimal digits, times a power of two; as many digits as it needs, unless it is
said how many. -/
def hexadecimalText (significand : Nat) (exponent : Int) (places : Option Nat) (pointed : Bool) :
    List Char :=
  let shift := if significand = 0 then 0 else min (52 - significand.log2) (exponent + 1074).toNat
  let m := significand * Nat.pow 2 shift
  let power : Int := if significand = 0 then 0 else exponent - shift + 52
  let body :=
    match places with
    | none =>
      let written := withoutLastZeros (withPoint 16 13 m true)
      if pointed && !written.contains '.' then written ++ ['.'] else written
    | some p =>
      if p < 13 then withPoint 16 p (roundedQuotient m (Nat.pow 2 (52 - 4 * p))) pointed
      else withPoint 16 13 m true ++ List.replicate (p - 13) '0'
  '0' :: 'x' :: body ++ exponentText 'p' 1 power

/-- A number without its sign, with so many digits as its notation understands it; `pointed` says
that it keeps its point and its zeros. -/
def Magnitude.text (m : Magnitude) (style : NumberStyle) (places : Option Nat) (pointed : Bool) :
    List Char :=
  match m with
  | .infinite => "inf".toList
  | .undefined => "nan".toList
  | .finite significand exponent =>
    let ratio := timesPower 2 exponent (significand, 1)
    match style with
    | .fixed => fixedText ratio (places.getD 6) pointed
    | .scientific => scientificText ratio (places.getD 6) pointed
    | .general => generalText ratio (places.getD 6) pointed
    | .hexadecimal => hexadecimalText significand exponent places pointed

end AgentConsole.Shell
