import AgentConsole.Shell.Line

/-!
# Series of numbers

What `seq` writes. The numbers are quotients, so that no step is rounded; what is written of them
has as many digits after the point as the first number and the step have.
-/

namespace AgentConsole.Shell

open AgentConsole.Text

/-- A number of a series as it was typed. -/
structure SeriesNumber where
  /-- None if it has no end. -/
  ratio : Option (Int × Nat)
  negative : Bool
  /-- How wide it is, without an exponent. -/
  width : Nat
  /-- How many digits there are after the point; none if that cannot be said. -/
  places : Option Nat

/-- How wide a number is as it was typed, and how many digits it has after the point. -/
def typedSize (cs : List Char) : Nat × Option Nat :=
  let isExponent (c : Char) : Bool := c = 'e' || c = 'E'
  if cs.any fun c => c = 'x' || c = 'X' then (0, if cs.contains 'p' then none else some 0)
  else
    let body := cs.takeWhile (!isExponent ·)
    let whole := body.takeWhile (· ≠ '.')
    let fraction := (body.drop (whole.length + 1)).length
    let pointed := body.contains '.'
    let noDigit := !whole.getLast?.any Char.isDigit
    let width : Int := body.length +
      if !pointed then 0 else if fraction = 0 then -1 else if noDigit then 1 else 0
    match cs.drop body.length with
    | [] => (width.toNat, some fraction)
    | _ :: exponent =>
      let n : Int := (integer? false (String.ofList exponent)).getD 0
      if n < 0 then
        let extra : Int := if !pointed || fraction = 0 then 1 else 0
        ((width + extra - n).toNat, some (fraction + n.natAbs))
      else
        let places := fraction - min fraction n.toNat
        let point : Int := if pointed && places = 0 && fraction > 0 then 1 else 0
        ((width - point + (n.toNat - min fraction n.toNat : Nat)).toNat, some places)

/-- Reads a number of a series; a failure is a complaint. -/
def seriesNumber (a : String) : Except String SeriesNumber :=
  let cs := a.toList.dropWhile fun c => isSpace c || c = '+'
  let (negative, body) : Bool × List Char :=
    match cs with
    | '-' :: rest => (true, rest)
    | _ => (false, cs)
  let scan := scanReal cs
  let invalid := "invalid floating point argument: " ++ inQuotes a
  if !scan.found || !scan.rest.isEmpty then .error invalid
  else
    match scan.value.magnitude with
    | .undefined => .error ("invalid 'not-a-number' argument: " ++ inQuotes a)
    | .infinite => .ok ⟨none, negative, 0, some 0⟩
    | .finite _ _ =>
      let (width, places) := typedSize cs
      let scanned :=
        if startsWithWord "0x" body then scanDigits 16 (body.drop 2) else scanDigits 10 body
      match scanned with
      | some ((n, d), _) =>
        .ok ⟨some (if negative then -(n : Int) else n, d), negative, width, places⟩
      | none => .error invalid

/-- How the numbers of a series are written. -/
structure SeriesForm where
  before : List Char
  directive : Directive
  letter : Char
  after : List Char

/-- A format with its directive taken out, and doubled percent signs made single ones; what it was
read up to is `done`, backwards. -/
def percentFree (done : List Char) : List Char → List Char × Option (List Char)
  | '%' :: '%' :: cs => percentFree ('%' :: done) cs
  | '%' :: cs => (done.reverse, some cs)
  | c :: cs => percentFree (c :: done) cs
  | [] => (done.reverse, none)

/-- Reads the format of a series. -/
def seriesForm (format : String) : Except String SeriesForm := do
  let shown := "format " ++ inQuotes format
  match percentFree [] format.toList with
  | (_, none) => throw (shown ++ " has no % directive")
  | (before, some cs) =>
    let flags := cs.takeWhile ("-+#0 '".toList.contains ·)
    let rest := cs.drop flags.length
    let width := rest.takeWhile Char.isDigit
    let rest := rest.drop width.length
    let (digits, rest) : Option Nat × List Char :=
      match rest with
      | '.' :: rest =>
        (some (digitsValue (rest.takeWhile Char.isDigit)), rest.dropWhile Char.isDigit)
      | _ => (none, rest)
    let rest := if rest.head? = some 'L' then rest.drop 1 else rest
    match rest with
    | [] => throw (shown ++ " ends in %")
    | letter :: rest =>
      if !"efgaEFGA".toList.contains letter then
        throw (shown ++ " has unknown %" ++ String.ofList [letter] ++ " directive")
      match percentFree [] rest with
      | (_, some _) => throw (shown ++ " has too many % directives")
      | (after, none) =>
        let directive : Directive :=
          ⟨flags.contains '-', flags.contains '0', flags.contains '+', flags.contains ' ',
            flags.contains '#', digitsValue width, digits⟩
        return ⟨before, directive, letter, after⟩

/-- The form that fits the numbers of a series; `wide` says that all are as wide. -/
def usualForm (wide : Bool) (first step last : SeriesNumber) : SeriesForm :=
  let plain (width : Nat) (digits : Option Nat) (letter : Char) : SeriesForm :=
    ⟨[], ⟨false, true, false, false, false, width, digits⟩, letter, []⟩
  match first.places, step.places, last.places with
  | some p, some q, some r =>
    let places := max p q
    let firstWidth := first.width + (places - p) + (if p = 0 && places > 0 then 1 else 0)
    let lastWidth : Int := (last.width : Int) + places - r +
      (if r > 0 && places = 0 then -1 else if r = 0 && places > 0 then 1 else 0)
    plain (if wide then max firstWidth lastWidth.toNat else 0) (some places) 'f'
  | _, _, _ => plain 0 none 'g'

/-- A quotient in a form. -/
def SeriesForm.text (f : SeriesForm) (n : Int) (d : Nat) (negative : Bool) : List Char :=
  let y := f.directive
  let ratio := (n.natAbs, d)
  let digits := y.digits.getD 6
  let lower := f.letter.toLower
  let text : List Char :=
    if lower = 'f' then fixedText ratio digits y.alternate
    else if lower = 'e' then scientificText ratio digits y.alternate
    else if lower = 'g' then generalText ratio digits y.alternate
    else ((nearest ratio).1).text .hexadecimal y.digits y.alternate
  let text := if f.letter.isUpper then text.map Char.toUpper else text
  f.before ++ y.signed true (y.sign negative) text ++ f.after

/-- How many numbers there are from one to another by steps, all as quotients; the step is not
zero. -/
def seriesCount (first step last : Int × Nat) : Nat :=
  let distance := (last.1 * first.2 - first.1 * last.2) * step.2
  let unit := step.1 * first.2 * last.2
  let (distance, unit) := if unit < 0 then (-distance, -unit) else (distance, unit)
  if distance < 0 then 0 else (distance / unit).toNat + 1

/-- More numbers than anybody waits for. -/
def seriesLimit : Nat := 1000000

/-- The arguments with the options apart: a negative number is no option. -/
def seriesArguments (arguments : List String) : List String :=
  let isNumber (a : String) : Bool :=
    match a.toList with
    | '-' :: c :: _ => c = '.' || c.isDigit
    | _ => false
  let options := arguments.takeWhile (!isNumber ·)
  if options.length = arguments.length || options.contains "--" then arguments
  else options ++ "--" :: arguments.drop options.length

/-- Writes a series of numbers. -/
def seq (s : Start) : Effect :=
  let switches := [valued 'f' "format", valued 's' "separator", flag 'w' "equal-width"]
  { s with arguments := seriesArguments s.arguments }.withOptions switches fun o =>
    let one : SeriesNumber := ⟨some (1, 1), false, 1, some 0⟩
    let run (first step last : String) : Effect :=
      let typed (a : String) : Except String SeriesNumber :=
        if a.isEmpty then .ok one else seriesNumber a
      let read : Except (String × Bool) (SeriesNumber × SeriesNumber × SeriesNumber) := do
        let hinted (e : String) : String × Bool := (e, true)
        let first ← (typed first).mapError hinted
        let step ← (typed step).mapError hinted
        let last ← (seriesNumber last).mapError hinted
        return (first, step, last)
      match read, (o.value? 'f').mapM seriesForm with
      | _, .error words => s.fails 1 [words]
      | .error (words, _), _ => s.refuses words
      | .ok (first, increment, last), .ok given =>
        let form := given.getD (usualForm (o.has 'w') first increment last)
        let separator := ((o.value? 's').getD "\n").toList
        let (a, b) := first.ratio.getD (1, 1)
        let (c, d) := increment.ratio.getD (1, 1)
        if c = 0 then s.refuses ("invalid Zero increment value: " ++ inQuotes step)
        else
          let shown (count : Nat) : List Char :=
            let texts := (List.range count).map fun (i : Nat) =>
              let n := a * d + (i : Int) * c * b
              form.text n (b * d) (if i = 0 then first.negative else n < 0)
            if texts.isEmpty then [] else separator.intercalate texts ++ ['\n']
          match last.ratio with
          | some l =>
            let count := seriesCount (a, b) (c, d) l
            if count > seriesLimit then { s.prints (shown s.supply) with delay := none }
            else s.prints (shown count)
          | none =>
            if last.negative == decide (c < 0) then
              { s.prints (shown s.supply) with delay := none }
            else s.prints []
    if o.has 'w' && o.has 'f' then
      s.refuses "format string may not be specified when printing equal width strings"
    else
      match o.operands with
      | [] => s.refuses "missing operand"
      | [last] => run "" "" last
      | [first, last] => run first "" last
      | [first, step, last] => run first step last
      | _ :: _ :: _ :: extra :: _ => s.refuses ("extra operand " ++ inQuotes extra)

end AgentConsole.Shell
