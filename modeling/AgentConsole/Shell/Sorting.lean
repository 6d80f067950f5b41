import AgentConsole.Shell.Line

/-!
# Lines in order

The utilities that sort lines, and those that work on sorted lines. Lines are compared by keys, each
of which is a part of the line with an order of its own (`SortKey`), and lines that have the same
keys as they are.
-/

namespace AgentConsole.Shell

open AgentConsole.Text AgentConsole.Files

/-- How parts of lines are compared. -/
structure SortOrder where
  /-- The letter of a comparison of values: numbers, sizes, months or versions. -/
  values : Option Char
  folds : Bool
  onlyWords : Bool
  onlyShown : Bool
  reversed : Bool
  deriving DecidableEq, Repr

/-- Octet by octet. -/
def SortOrder.plain : SortOrder :=
  ⟨none, false, false, false, false⟩

/-- An order with a letter for it added; none if there is no such letter. -/
def SortOrder.with? (y : SortOrder) (letter : Char) : Option SortOrder :=
  match letter with
  | 'n' | 'g' | 'h' | 'M' | 'V' => some { y with values := some letter }
  | 'f' => some { y with folds := true }
  | 'd' => some { y with onlyWords := true }
  | 'i' => some { y with onlyShown := true }
  | 'r' => some { y with reversed := true }
  | _ => none

/-- A place in a line: so many fields, and so many characters behind them. -/
structure KeyPlace where
  fields : Nat
  chars : Nat
  skipsBlanks : Bool

/-- A part of a line with its order. -/
structure SortKey where
  start : KeyPlace
  stop : Option KeyPlace
  /-- None if it is compared as the whole line is. -/
  order : Option SortOrder

/-- Blanks between fields. -/
def isFieldBlank (c : Char) : Bool :=
  c = ' ' || c = '\t' || c = '\n'

/-- The rest of a line after so many fields, each of which ends with a separator. -/
def afterSeparated (separator : Char) : Nat → List Char → List Char
  | 0, cs => cs
  | n + 1, cs => afterSeparated separator n ((cs.dropWhile (· ≠ separator)).drop 1)

/-- The rest of a line after so many fields, each of which starts with blanks. -/
def afterBlankFields : Nat → List Char → List Char
  | 0, cs => cs
  | n + 1, cs => afterBlankFields n ((cs.dropWhile isFieldBlank).dropWhile (!isFieldBlank ·))

/-- The rest of a line from where a key starts. -/
def KeyPlace.from (p : KeyPlace) (separator : Option Char) (line : List Char) : List Char :=
  let rest :=
    match separator with
    | some c => afterSeparated c p.fields line
    | none => afterBlankFields p.fields line
  let rest := if p.skipsBlanks then rest.dropWhile isFieldBlank else rest
  rest.drop p.chars

/-- The rest of a line from where a key stops. -/
def KeyPlace.upTo (p : KeyPlace) (separator : Option Char) (line : List Char) : List Char :=
  if p.chars = 0 then
    match separator with
    | some c => (afterSeparated c p.fields line).dropWhile (· ≠ c)
    | none => afterBlankFields (p.fields + 1) line
  else p.from separator line

/-- The part of a line that a key compares. -/
def SortKey.part (k : SortKey) (separator : Option Char) (line : List Char) : List Char :=
  let rest := k.start.from separator line
  match k.stop with
  | none => rest
  | some p => rest.take (rest.length - (p.upTo separator line).length)

/-! ## Comparing -/

/-- Compares octet by octet. -/
def compareOctets : List Char → List Char → Ordering
  | [], [] => .eq
  | [], _ => .lt
  | _, [] => .gt
  | a :: as, b :: bs => if a = b then compareOctets as bs else compare a.toNat b.toNat

/-- A number at the front of a text as a whole number of units, `places` behind its point. -/
def scaledNumber (places : Nat) (cs : List Char) : Int :=
  let cs := cs.dropWhile isFieldBlank
  let (negative, cs) : Bool × List Char :=
    match cs with
    | '-' :: rest => (true, rest)
    | _ => (false, cs)
  let whole := cs.takeWhile Char.isDigit
  let fraction :=
    match cs.drop whole.length with
    | '.' :: rest => rest.takeWhile Char.isDigit
    | _ => []
  let fraction := (fraction ++ List.replicate (places - fraction.length) '0').take places
  let n : Int := (digitsValue (whole ++ fraction) : Nat)
  if negative then -n else n

/-- Compares numbers at the front of texts. -/
def compareNumbers (a b : List Char) : Ordering :=
  let places := max a.length b.length
  compare (scaledNumber places a) (scaledNumber places b)

/-- The rank of the letter behind a number: the sizes it stands for grow with it. -/
def sizeRank (cs : List Char) : Int :=
  let cs := cs.dropWhile isFieldBlank
  let negative := cs.head? = some '-'
  let digits := if negative then cs.drop 1 else cs
  let rest := digits.dropWhile fun c => c.isDigit || c = '.'
  let letter := rest.headD ' '
  let letter := if letter = 'k' then 'K' else letter
  let rank : Int := ((("KMGTPEZYRQ".toList.findIdx? (· = letter)).map (· + 1)).getD 0 : Nat)
  if scaledNumber digits.length digits = 0 then 0 else if negative then -rank else rank

/-- Compares numbers of floating point; what is no number comes first. -/
def compareReals (a b : List Char) : Ordering :=
  let value (cs : List Char) : Int × Int × Nat :=
    let scan := scanReal cs
    if !scan.found then (0, 0, 1)
    else
      match scan.value.magnitude with
      | .undefined => (1, 0, 1)
      | .infinite => (if scan.value.negative then 2 else 4, 0, 1)
      | .finite significand exponent =>
        let (n, d) := timesPower 2 exponent (significand, 1)
        (3, if scan.value.negative then -(n : Int) else n, d)
  let (ka, na, da) := value a
  let (kb, nb, db) := value b
  if ka ≠ kb then compare ka kb else compare (na * db) (nb * da)

/-- The number of the month a text starts with; zero if it starts with none. -/
def monthNumber (cs : List Char) : Nat :=
  let name := String.ofList (((cs.dropWhile isFieldBlank).take 3).map Char.toUpper)
  let months := ["JAN", "FEB", "MAR", "APR", "MAY", "JUN", "JUL", "AUG", "SEP", "OCT", "NOV", "DEC"]
  ((months.findIdx? (· = name)).map (· + 1)).getD 0

/-- The rank of a character among those of versions. -/
def versionRank (c : Char) : Nat :=
  if c = '~' then 0 else if c.isDigit then 1 else if c.isAlpha then c.toNat + 2 else c.toNat + 400

/-- Compares versions: runs of digits by their values, and what is between them by ranks. -/
def compareVersions : Nat → List Char → List Char → Ordering
  | 0, _, _ => .eq
  | fuel + 1, a, b =>
    let (wordsA, restA) := a.span (!·.isDigit)
    let (wordsB, restB) := b.span (!·.isDigit)
    let ranks (cs : List Char) (length : Nat) : List Nat :=
      cs.map versionRank ++ List.replicate (length - cs.length) 1
    let length := max wordsA.length wordsB.length
    let words := compareLex compare (ranks wordsA length) (ranks wordsB length)
    if words ≠ .eq then words
    else
      let (digitsA, restA) := restA.span Char.isDigit
      let (digitsB, restB) := restB.span Char.isDigit
      let numbers := compare (digitsValue digitsA) (digitsValue digitsB)
      if numbers ≠ .eq then numbers
      else if restA.isEmpty && restB.isEmpty then .eq
      else compareVersions fuel restA restB
where
  /-- Compares lists of one length by the first place where they differ. -/
  compareLex (f : Nat → Nat → Ordering) : List Nat → List Nat → Ordering
    | x :: xs, y :: ys => if f x y = .eq then compareLex f xs ys else f x y
    | _, _ => .eq

/-- Compares two parts of lines. -/
def SortOrder.compare (y : SortOrder) (a b : List Char) : Ordering :=
  let result : Ordering :=
    match y.values with
    | some 'n' => compareNumbers a b
    | some 'g' => compareReals a b
    | some 'h' =>
      if sizeRank a ≠ sizeRank b then Ord.compare (sizeRank a) (sizeRank b) else compareNumbers a b
    | some 'M' => Ord.compare (monthNumber a) (monthNumber b)
    | some _ => compareVersions (a.length + b.length + 1) a b
    | none =>
      let seen (cs : List Char) : List Char :=
        let cs := if y.onlyWords then
          cs.filter fun c => c.isAlphanum || c = ' ' || c = '\t' else cs
        let cs := if y.onlyShown then cs.filter isShown else cs
        if y.folds then cs.map Char.toUpper else cs
      compareOctets (seen a) (seen b)
  if y.reversed then result.swap else result

/-- How lines are sorted. -/
structure Sorting where
  separator : Option Char
  keys : List SortKey
  /-- The order of keys that have none, and of whole lines. -/
  order : SortOrder
  /-- Blanks in front do not count. -/
  skipsBlanks : Bool
  stable : Bool
  unique : Bool

/-- Compares two lines by their keys. -/
def Sorting.compareKeys (y : Sorting) (a b : List Char) : Ordering :=
  let whole : SortKey := ⟨⟨0, 0, y.skipsBlanks⟩, none, none⟩
  let keys := if y.keys.isEmpty then [whole] else y.keys
  keys.foldl (fun result k =>
    if result ≠ .eq then result
    else (k.order.getD y.order).compare (k.part y.separator a) (k.part y.separator b)) .eq

/-- Compares two lines. -/
def Sorting.compare (y : Sorting) (a b : List Char) : Ordering :=
  let result := y.compareKeys a b
  if result ≠ .eq || y.stable || y.unique then result
  else if y.order.reversed then (compareOctets a b).swap
  else compareOctets a b

/-- One line of each run of lines that have the same keys. -/
def Sorting.firsts (y : Sorting) : List (List Char) → List (List Char)
  | a :: b :: lines =>
    if y.compareKeys a b = .eq then y.firsts (a :: lines) else a :: y.firsts (b :: lines)
  | lines => lines
  termination_by lines => lines.length

/-- Lines in order. -/
def Sorting.sort (y : Sorting) (lines : List (List Char)) : List (List Char) :=
  let sorted := lines.mergeSort fun a b => y.compare a b ≠ .gt
  if y.unique then y.firsts sorted else sorted

/-- The lines of sorted texts, merged. -/
def Sorting.merge (y : Sorting) (texts : List (List (List Char))) : List (List Char) :=
  let merged := texts.foldl
    (fun done lines => List.merge done lines fun a b => y.compare a b ≠ .gt) []
  if y.unique then y.firsts merged else merged

/-- The number and the text of the first line that does not come after the one before it. -/
def Sorting.disorder? (y : Sorting) (number : Nat) : List (List Char) → Option (Nat × List Char)
  | a :: b :: lines =>
    let result := y.compare a b
    if result = .gt || (y.unique && result = .eq) then some (number + 1, b)
    else y.disorder? (number + 1) (b :: lines)
  | _ => none

/-! ## Reading keys -/

/-- What is wrong with a key, and the text that shows it. -/
def keyFault {α : Type} (words shown : String) : Except String α :=
  .error (words ++ ": invalid field specification " ++ inQuotes shown)

/-- Reads a number of a key. -/
def keyNumber (what : String) (cs : List Char) : Except String (Nat × List Char) :=
  let digits := cs.takeWhile Char.isDigit
  if digits.isEmpty then
    .error ("invalid number " ++ what ++ ": invalid count at start of " ++
      inQuotes (String.ofList cs))
  else .ok (digitsValue digits, cs.drop digits.length)

/-- Reads a key such as `2,3nr`. -/
def readKey (shown : String) : Except String SortKey := do
  let isOption (c : Char) : Bool := "bdfgiMhnRrV".toList.contains c
  let (field, cs) ← keyNumber "at field start" shown.toList
  if field = 0 then keyFault "field number is zero" shown
  let (char, cs) ←
    match cs with
    | '.' :: rest => keyNumber "after '.'" rest
    | _ => pure (1, cs)
  if char = 0 then keyFault "character offset is zero" shown
  let first := cs.takeWhile isOption
  let cs := cs.drop first.length
  let (stop, second, cs) ←
    match cs with
    | ',' :: rest =>
      let (field, cs) ← keyNumber "after ','" rest
      if field = 0 then keyFault "field number is zero" shown
      let (char, cs) ←
        match cs with
        | '.' :: rest => keyNumber "after '.'" rest
        | _ => pure (0, cs)
      let letters := cs.takeWhile isOption
      pure (some (⟨field - 1, char, letters.contains 'b'⟩ : KeyPlace), letters,
        cs.drop letters.length)
    | _ => pure (none, [], cs)
  if !cs.isEmpty then keyFault "stray character in field spec" shown
  let letters := first ++ second
  let order := letters.foldl (fun y c => (y.with? c).getD y) SortOrder.plain
  return ⟨⟨field - 1, char - 1, first.contains 'b'⟩, stop,
    if letters.isEmpty then none else some order⟩

/-- The way to sort that options ask for. -/
def sorting? (o : Options) : Except String Sorting := do
  let keys ← (o.values 'k').mapM readKey
  let separator ←
    match (o.value? 't').map (·.toList) with
    | none => pure none
    | some [] => .error "empty tab"
    | some [c] => pure (some c)
    | some ['\\', '0'] => pure (some (Char.ofNat 0))
    | some cs => .error ("multi-character tab " ++ inQuotes (String.ofList cs))
  let order := o.given.foldl (fun y g => (y.with? g.1).getD y) SortOrder.plain
  let blanks := o.has 'b'
  let keys := keys.map fun k =>
    if blanks && k.order.isNone then
      { k with start := { k.start with skipsBlanks := true },
               stop := k.stop.map fun p => { p with skipsBlanks := true } }
    else k
  return ⟨separator, keys, order, blanks, o.has 's', o.has 'u'⟩

/-- Sorts lines. -/
def sort (s : Start) : Effect :=
  let letters := [flag 'b' "ignore-leading-blanks", flag 'd' "dictionary-order",
    flag 'f' "ignore-case", flag 'g' "general-numeric-sort", flag 'i' "ignore-nonprinting",
    flag 'M' "month-sort", flag 'h' "human-numeric-sort", flag 'n' "numeric-sort",
    flag 'R' "random-sort", flag 'r' "reverse", flag 'V' "version-sort",
    ⟨'c', "check", .maybe⟩, flag 'C', valued 'k' "key", flag 'm' "merge", valued 'o' "output",
    flag 's' "stable", valued 'S' "buffer-size", valued 't' "field-separator",
    valued 'T' "temporary-directory", flag 'u' "unique", flag 'z' "zero-terminated",
    valued (wordOnly 0) "parallel"]
  s.withOptions letters (fun o =>
    match sorting? o with
    | .error words => s.fails 2 [words]
    | .ok y =>
      let failed := o.names.findSome? fun name =>
        match contentOf s name with
        | .error .isDirectory => some ("read failed: " ++ quotedName name ++ ": Is a directory")
        | .error e => some ("cannot read: " ++ quotedName name ++ ": " ++ e.words)
        | .ok _ => none
      match failed with
      | some words => s.fails 2 [words]
      | none =>
        let ending := if o.has 'z' then Char.ofNat 0 else '\n'
        let texts := o.names.map fun name => linesOf ((contentOf s name).toOption.getD []) ending
        let effect : Effect :=
          if o.has 'c' || o.has 'C' then
            match y.disorder? 1 texts.flatten with
            | none => s.prints []
            | some (n, line) =>
              if o.has 'C' then s.writes [] 1
              else
                let place := quotedName (o.names.headD "-") ++ ":" ++ toString n
                s.fails 1 [place ++ ": disorder: " ++ String.ofList line]
          else
            let lines := if o.has 'm' then y.merge texts else y.sort texts.flatten
            let out := unlines lines ending
            match o.value? 'o' with
            | none => s.prints out
            | some name =>
              match s.disk.writeFile (unspell name) (toOctets out) false with
              | .ok disk => { s.prints [] with disk }
              | .error e => s.fails 2 ["open failed: " ++ quotedName name ++ ": " ++ e.words]
        if o.names.contains "-" then effect.reading s else effect)
    2

/-! ## Sorted lines -/

/-- The runs of lines that are the same by a measure, each with all its lines. -/
def runsBy (measure : List Char → List Char) (lines : List (List Char)) :
    List (List (List Char)) :=
  (lines.foldl (fun runs line =>
    match runs with
    | (l :: ls) :: rest =>
      if measure l = measure line then (line :: l :: ls) :: rest else [line] :: runs
    | _ => [line] :: runs) ([] : List (List (List Char)))).reverse.map List.reverse

/-- Leaves one of each run of equal lines. -/
def uniq (s : Start) : Effect :=
  let switches := [flag 'c' "count", flag 'd' "repeated", ⟨wordOnly 0, "all-repeated", .maybe⟩,
    flag 'D', valued 'f' "skip-fields", ⟨wordOnly 1, "group", .maybe⟩, flag 'i' "ignore-case",
    valued 's' "skip-chars", flag 'u' "unique", flag 'z' "zero-terminated",
    valued 'w' "check-chars"]
  s.withOptions switches fun o =>
    let number (letter : Char) (words : String) : Except String (Option Nat) :=
      match o.value? letter with
      | none => .ok none
      | some written =>
        match natural? written with
        | some n => .ok (some n)
        | none => .error (written ++ ": invalid number of " ++ words)
    let numbers : Except String (Option Nat × Option Nat × Option Nat) := do
      return (← number 'f' "fields to skip", ← number 's' "bytes to skip",
        ← number 'w' "bytes to compare")
    match numbers, o.operands with
    | .error words, _ => s.fails 1 [words]
    | .ok _, _ :: _ :: extra :: _ => s.refuses ("extra operand " ++ inQuotes extra)
    | .ok (fields, chars, width), operands =>
      let ending := if o.has 'z' then Char.ofNat 0 else '\n'
      let measure (line : List Char) : List Char :=
        let rest := (afterBlankFields (fields.getD 0) line).drop (chars.getD 0)
        let rest := rest.take (width.getD rest.length)
        if o.has 'i' then rest.map Char.toUpper else rest
      let name := operands.headD "-"
      match contentOf s name with
      | .error e =>
        let reading := "error reading " ++ inShellQuotes name ++ ": " ++ e.words
        s.fails 1 [if e = .isDirectory then reading else usualComplaint name e]
      | .ok text =>
        let runs := runsBy measure (linesOf text ending)
        let all := (o.value? (wordOnly 0)).or (if o.has 'D' then some "" else none)
        let shown : List (List Char) :=
          match o.value? (wordOnly 1), all with
          | some _, _ => [[]].intercalate runs
          | none, some method =>
            let groups := runs.filter (·.length > 1)
            let spaced := [[]].intercalate groups
            if method = "separate" then spaced
            else if method = "prepend" && !groups.isEmpty then [] :: spaced
            else groups.flatten
          | none, none =>
            let chosen := runs.filter fun run =>
              (!o.has 'd' || run.length > 1) && (!o.has 'u' || run.length = 1)
            chosen.map fun run =>
              (if o.has 'c' then column 7 run.length ++ [' '] else []) ++ run.headD []
        let out := unlines shown ending
        let effect : Effect :=
          match operands[1]? with
          | none | some "-" => s.prints out
          | some target =>
            match s.disk.writeFile (unspell target) (toOctets out) false with
            | .ok disk => { s.prints [] with disk }
            | .error e => s.fails 1 [usualComplaint target e]
        if name = "-" then effect.reading s else effect

/-- The lines of two texts, each with the column it is in: only in the first, only in the second, or
in both. -/
def commonLines : Nat → List (List Char) → List (List Char) → List (Nat × List Char)
  | 0, _, _ => []
  | fuel + 1, a :: as, b :: bs =>
    match compareOctets a b with
    | .lt => (0, a) :: commonLines fuel as (b :: bs)
    | .gt => (1, b) :: commonLines fuel (a :: as) bs
    | .eq => (2, a) :: commonLines fuel as bs
  | _, as, [] => as.map ((0, ·))
  | _, [], bs => bs.map ((1, ·))

/-- The lines are in order. -/
def inOrder (lines : List (List Char)) : Bool :=
  (lines.zip lines.tail).all fun p => compareOctets p.1 p.2 ≠ .gt

/-- Compares sorted files line by line. -/
def comm (s : Start) : Effect :=
  let switches := [flag '1', flag '2', flag '3', flag 'z' "zero-terminated",
    flag (wordOnly 0) "check-order", flag (wordOnly 1) "nocheck-order",
    valued (wordOnly 2) "output-delimiter", flag (wordOnly 3) "total"]
  s.withOptions switches fun o =>
    match o.operands with
    | [] => s.refuses "missing operand"
    | [one] => s.refuses ("missing operand after " ++ inQuotes one)
    | _ :: _ :: extra :: _ => s.refuses ("extra operand " ++ inQuotes extra)
    | [first, second] =>
      match contentOf s first, contentOf s second with
      | .error e, _ => s.fails 1 [usualComplaint first e]
      | _, .error e => s.fails 1 [usualComplaint second e]
      | .ok a, .ok b =>
        let (a, b) := (linesOf a, linesOf b)
        let separator := ((o.value? (wordOnly 2)).getD "\t").toList
        let rows := commonLines (a.length + b.length + 1) a b
        let hidden (column : Nat) : Bool := o.has (Char.ofNat ('1'.toNat + column))
        let indent (column : Nat) : List Char :=
          ((List.range column).filter (!hidden ·)).flatMap fun _ => separator
        let lines := (rows.filter fun r => !hidden r.1).map fun r => indent r.1 ++ r.2
        let count (column : Nat) : List Char := (toString (rows.countP (·.1 = column))).toList
        let totals := if o.has (wordOnly 3) then
          [separator.intercalate [count 0, count 1, count 2, "total".toList]] else []
        let wrong := if o.has (wordOnly 1) || (rows.all (·.1 = 2)) then [] else
          ((if inOrder a then [] else [s.complaint "file 1 is not in sorted order"]) ++
          (if inOrder b then [] else [s.complaint "file 2 is not in sorted order"]))
        let last := if wrong.isEmpty then [] else [s.complaint "input is not in sorted order"]
        let effect := s.writes (wrong ++ [.said (unlines (lines ++ totals))] ++ last)
          (if wrong.isEmpty then 0 else 1)
        if o.operands.contains "-" then effect.reading s else effect

end AgentConsole.Shell
