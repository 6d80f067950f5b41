import AgentConsole.Shell.Expression
import AgentConsole.Shell.Line

/-!
# Showing files

The utilities that copy files to the output: whole, their first or last parts, with numbers before
their lines, or the other way round; and the one that counts what is in them.
-/

namespace AgentConsole.Shell

open AgentConsole.Text AgentConsole.Files

/-! ## Whole files -/

/-- How far lines have been copied. -/
structure Copying where
  /-- How many lines have a number. -/
  numbered : Nat
  atStart : Bool
  /-- The line before was empty. -/
  afterEmpty : Bool

/-- How files are copied. -/
structure CopyStyle where
  numbers : Bool
  /-- Empty lines have no numbers. -/
  onlyFull : Bool
  /-- Of empty lines in a row one is left. -/
  squeezes : Bool
  marksEnds : Bool
  marksTabs : Bool
  marksOthers : Bool

/-- A character that cannot be shown, as signs for it. -/
def marked (c : Char) : List Char :=
  let low (n : Nat) : List Char :=
    if n < 32 then ['^', Char.ofNat (n + 64)] else if n = 127 then ['^', '?'] else [Char.ofNat n]
  if c.toNat < 128 then low c.toNat else 'M' :: '-' :: low (c.toNat - 128)

/-- Copies characters: what is written, backwards, onto `done`, and how far it got. -/
def copyChars (y : CopyStyle) : Copying → List Char → List Char → List Char × Copying
  | s, done, [] => (done, s)
  | s, done, c :: cs =>
    let isEnd := c = '\n'
    let empty := s.atStart && isEnd
    if y.squeezes && empty && s.afterEmpty then copyChars y s done cs
    else
      let numbers := y.numbers && s.atStart && !(empty && y.onlyFull)
      let number := if numbers then column 6 (s.numbered + 1) ++ ['\t'] else []
      let shown : List Char :=
        if isEnd then if y.marksEnds then ['$', '\n'] else ['\n']
        else if c = '\t' then if y.marksTabs then ['^', 'I'] else [c]
        else if y.marksOthers || (c = '\r' && y.marksEnds && cs.head? = some '\n') then marked c
        else [c]
      let s : Copying :=
        { numbered := if numbers then s.numbered + 1 else s.numbered
          atStart := isEnd
          afterEmpty := empty }
      copyChars y s (shown.reverse ++ number.reverse ++ done) cs

/-- Copies files to the output. -/
def cat (s : Start) : Effect :=
  let switches := [flag 'b' "number-nonblank", flag 'n' "number", flag 's' "squeeze-blank",
    flag 'v' "show-nonprinting", flag 'E' "show-ends", flag 'T' "show-tabs", flag 'A' "show-all",
    flag 'e', flag 't', flag 'u']
  s.withOptions switches fun o =>
    let any (letters : String) : Bool := letters.toList.any o.has
    let style : CopyStyle :=
      ⟨any "bn", o.has 'b', o.has 's', any "EAe", any "TAt", any "vAet"⟩
    if o.given.all (·.1 = 'u') then s.filters o.names usualComplaint id
    else
      s.gathers o.names usualComplaint (⟨0, true, false⟩ : Copying)
        (fun kept _ text =>
          let (done, kept) := copyChars style kept [] text
          (done.reverse, kept))
        fun _ => []

/-- Copies files with their lines the other way round. -/
def tac (s : Start) : Effect :=
  s.withOptions [] fun o =>
    let complaint (name : String) (e : IoError) : String :=
      if e = .isDirectory then quotedName name ++ ": read error: Invalid argument"
      else "failed to open " ++ inShellQuotes name ++ " for reading: " ++ e.words
    s.filters o.names complaint fun text => (itemsOf false text).reverse.flatten

/-! ## Parts of files -/

/-- Which part of a file is meant: so many lines or octets. -/
structure Portion where
  octets : Bool
  /-- The sign before the number, if it has one. -/
  sign : Option Char
  count : Nat

/-- Reads a count of lines or octets, which may have a sign. -/
def portion? (octets : Bool) (cs : List Char) : Option Portion :=
  match cs with
  | '-' :: rest => (sized? rest).map fun n => ⟨octets, some '-', n⟩
  | '+' :: rest => (sized? rest).map fun n => ⟨octets, some '+', n⟩
  | _ => (sized? cs).map fun n => ⟨octets, none, n⟩

/-- A count that stands in front with letters behind it, written out as options. -/
def countInFront (arguments : List String) : Except String (List String) :=
  match arguments with
  | a :: rest =>
    match a.toList with
    | '-' :: d :: ds =>
      if !d.isDigit then .ok arguments
      else
        let digits := (d :: ds).takeWhile Char.isDigit
        let letters := (d :: ds).drop digits.length
        let units := letters.filter (['c', 'b', 'k', 'm', 'l'].contains ·)
        let unit := if units.getLast?.any (· ≠ 'l') then "-c" else "-n"
        let factor := ((units.filter (· ≠ 'l')).getLast?.filter (· ≠ 'c')).toList
        let others := (letters.filter (['q', 'v'].contains ·)).map fun c => String.ofList ['-', c]
        match letters.find? fun c => !"cbkmlqv".toList.contains c with
        | some wrong => .error ("invalid trailing option -- " ++ String.ofList [wrong])
        | none => .ok (unit :: String.ofList (digits ++ factor) :: others ++ rest)
    | _ => .ok arguments
  | [] => .ok []

/-- A count from the start or the end that is the only argument before a file, written out as
options. -/
def countBeforeFile (arguments : List String) : Except String (List String) :=
  match arguments with
  | a :: rest =>
    let lone : Bool :=
      match rest with
      | [] => true
      | [name] => !(name.startsWith "-" && name.length > 1)
      | "--" :: others => others.length < 2
      | _ => false
    let expand (sign : Char) (cs : List Char) : Except String (List String) :=
      let digits := cs.takeWhile Char.isDigit
      let (unit, factor, letters) : String × Nat × List Char :=
        match cs.drop digits.length with
        | 'b' :: letters => ("-c", 512, letters)
        | 'c' :: letters => ("-c", 1, letters)
        | 'l' :: letters => ("-n", 1, letters)
        | letters => ("-n", 1, letters)
      let count := (if digits.isEmpty then 10 else digitsValue digits) * factor
      if !(letters = [] || letters = ['f']) then .ok arguments
      else if count ≥ countLimit then
        .error ("invalid number: " ++ inQuotes a ++ ": Numerical result out of range")
      else
        let follows := if letters.isEmpty then [] else ["-f"]
        let written := (toString count).toList
        .ok (unit :: String.ofList (if sign = '+' then '+' :: written else written) ::
          follows ++ rest)
    match lone, a.toList with
    | true, '+' :: cs => expand '+' cs
    | true, ['-'] | true, ['-', 'c'] => .ok arguments
    | true, '-' :: cs => expand '-' cs
    | _, _ => .ok arguments
  | [] => .ok []

/-- Goes through parts of files, each after its name if there are several; `part` gives the part of
a text that is meant. -/
def parts (s : Start) (o : Options) (part : List Char → List Char) : Effect :=
  let headed := (o.names.length > 1 || o.has 'v') && o.last? ['q', 'v'] ≠ some 'q'
  let title (first : Bool) (name : String) : List Char :=
    if headed then
      (if first then [] else ['\n']) ++
        ("==> " ++ (if name = "-" then "standard input" else name) ++ " <==\n").toList
    else []
  let complaint (name : String) (e : IoError) : String :=
    if e = .isDirectory then "error reading " ++ inShellQuotes name ++ ": " ++ e.words
    else "cannot open " ++ inShellQuotes name ++ " for reading: " ++ e.words
  s.gathers o.names complaint true (fun first name text => (title first name ++ part text, false))
    fun _ => []

/-- The portion that options ask for; else what is wrong with it. -/
def askedPortion (o : Options) : Except String Portion :=
  match o.last? ['n', 'c'] with
  | none => .ok ⟨false, none, 10⟩
  | some letter =>
    let octets := letter = 'c'
    let written := (o.value? letter).getD ""
    let bare := if written.startsWith "-" then String.ofList (written.toList.drop 1) else written
    let words := "invalid number of " ++ (if octets then "bytes: " else "lines: ") ++ inQuotes bare
    match portion? octets (written.toList.dropWhile isSpace) with
    | some p =>
      if p.count < countLimit then .ok p
      else .error (words ++ ": Value too large for defined data type")
    | none => .error words

/-- The digits as options, which make no sense, and neither does what is written behind them. -/
def digitSwitches : List Switch :=
  "0123456789".toList.map fun c => ⟨c, "", .maybe⟩

/-- Goes through parts of files as the arguments ask for; `misplaced` is done about a digit that is
an option. -/
def portions (s : Start) (switches : List Switch) (misplaced : String → Effect)
    (go : Options → Portion → Effect) : Effect :=
  let usual := [valued 'n' "lines", valued 'c' "bytes", flag 'q' "quiet", flag 'q' "silent",
    flag 'v' "verbose", flag 'z' "zero-terminated"]
  s.withOptions (usual ++ digitSwitches ++ switches) fun o =>
    match o.given.find? fun g => g.1.isDigit with
    | some (digit, _) => misplaced (String.ofList [digit])
    | none =>
      match askedPortion o with
      | .error words => s.fails 1 [words]
      | .ok p => go o p

/-- The first lines. -/
def head (s : Start) : Effect :=
  match countInFront s.arguments with
  | .error words => s.refuses words
  | .ok arguments =>
    let misplaced (digit : String) : Effect := s.refuses ("invalid trailing option -- " ++ digit)
    portions { s with arguments } [] misplaced fun o p =>
      let part (text : List Char) : List Char :=
        let items := itemsOf p.octets text (if o.has 'z' then Char.ofNat 0 else '\n')
        if p.sign = some '-' then (items.take (items.length - p.count)).flatten
        else (items.take p.count).flatten
      let effect := parts s o part
      if o.names.contains "-" then { effect with taken := (part s.input).length } else effect

/-- The last lines. -/
def tail (s : Start) : Effect :=
  match countBeforeFile s.arguments with
  | .error words => s.fails 1 [words]
  | .ok arguments =>
    let switches := [flag 'f' "follow", flag 'F', valued 's' "sleep-interval",
      valued (wordOnly 0) "pid"]
    let misplaced (digit : String) : Effect :=
      s.fails 1 ["option used in invalid context -- " ++ digit]
    portions { s with arguments } switches misplaced fun o p =>
      let part (text : List Char) : List Char :=
        let items := itemsOf p.octets text (if o.has 'z' then Char.ofNat 0 else '\n')
        if p.sign = some '+' then (items.drop (p.count - 1)).flatten
        else (items.drop (items.length - p.count)).flatten
      let effect := parts s o part
      let isOpen := o.names.any fun n => n ≠ "-" && s.disk.hasFile (unspell n)
      if !(o.has 'f' || o.has 'F') then effect
      else if isOpen || o.has 'F' then { effect with delay := none }
      else if o.names.contains "-" then effect
      else
        { effect with pieces := effect.pieces ++ [s.complaint "no files remaining"], status := 1 }

/-! ## Numbered lines -/

/-- Which lines of a section have numbers. -/
inductive Numbered where
  | all
  | full
  | no
  | matching (e : Expression)

/-- How lines are numbered. -/
structure Numbering where
  width : Nat
  separator : List Char
  first : Int
  step : Int
  /-- The number stands at the left. -/
  left : Bool
  zeros : Bool
  /-- So many empty lines in a row count as one, where all are numbered. -/
  joined : Nat
  /-- The sign that is written several times in a line that starts a section. -/
  sign : List Char
  restarts : Bool
  /-- The lines with numbers in a header, a body and a footer. -/
  sections : List Numbered

/-- A number in its column. -/
def Numbering.number (y : Numbering) (n : Int) : List Char :=
  let d : Directive := ⟨y.left, y.zeros, false, false, false, y.width, none⟩
  d.number (d.sign (n < 0)) (Nat.toDigits 10 n.natAbs)

/-- How far lines have been numbered. -/
structure NumberingState where
  next : Int
  /-- The section under way: a header, a body or a footer. -/
  current : Nat
  /-- How many empty lines came last. -/
  empty : Nat

/-- The section that a line starts, if it does: there are three signs for a header. -/
def Numbering.sectionOf? (y : Numbering) (line : List Char) : Option Nat :=
  let marks := [y.sign ++ y.sign ++ y.sign, y.sign ++ y.sign, y.sign]
  if y.sign.isEmpty then none else marks.findIdx? (· = line)

/-- Numbers a line. -/
def Numbering.line (y : Numbering) (s : NumberingState) (line : List Char) :
    List Char × NumberingState :=
  match y.sectionOf? line with
  | some n =>
    (['\n'], { s with current := n, next := if y.restarts then y.first else s.next })
  | none =>
    let empty := if line.isEmpty then s.empty + 1 else 0
    let wanted : Bool :=
      match (y.sections[s.current]?).getD .no with
      | .all => !line.isEmpty || decide (empty ≥ y.joined)
      | .full => !line.isEmpty
      | .no => false
      | .matching e => e.occurs line
    if wanted then
      (y.number s.next ++ y.separator ++ line ++ ['\n'],
        { s with next := s.next + y.step, empty := 0 })
    else
      (List.replicate (y.width + y.separator.length) ' ' ++ line ++ ['\n'], { s with empty })

/-- Numbers the lines of files. -/
def numberLines (s : Start) (o : Options) (y : Numbering) : Effect :=
  s.gathers o.names usualComplaint (⟨y.first, 1, 0⟩ : NumberingState)
    (fun kept _ text =>
      let (done, kept) := (linesOf text).foldl (fun (done, kept) line =>
        let (shown, kept) := y.line kept line
        (shown :: done, kept)) (([] : List (List Char)), kept)
      (done.reverse.flatten, kept))
    fun _ => []

/-- The options of `nl` as they are read: a complaint, and whether it comes with a hint. -/
def numbering? (o : Options) : Except (String × Bool) Numbering := do
  let style (letter : Char) (place usual : String) : Except (String × Bool) Numbered :=
    let written := (o.value? letter).getD usual
    match written.toList with
    | ['a'] => .ok .all
    | ['t'] => .ok .full
    | ['n'] => .ok .no
    | 'p' :: pattern =>
      match Expression.read {} pattern with
      | .ok (e, _) => .ok (.matching e)
      | .error words => .error (words, false)
    | _ => .error ("invalid " ++ place ++ " numbering style: " ++ inQuotes written, true)
  let number (letter : Char) (words : String) (least usual : Int) : Except (String × Bool) Int :=
    match o.value? letter with
    | none => .ok usual
    | some written =>
      match integer? false written with
      | none => .error (words ++ ": " ++ inQuotes written, false)
      | some n =>
        if n < least then
          .error (words ++ ": " ++ inQuotes written ++ ": Numerical result out of range", false)
        else .ok n
  let header ← style 'h' "header" "n"
  let body ← style 'b' "body" "t"
  let footer ← style 'f' "footer" "n"
  let first ← number 'v' "invalid starting line number" (-integerLimit) 1
  let step ← number 'i' "invalid line number increment" (-integerLimit) 1
  let joined ← number 'l' "invalid line number of blank lines" 1 1
  let width ← number 'w' "invalid line number field width" 1 6
  let form := (o.value? 'n').getD "rn"
  if !(["ln", "rn", "rz"].contains form) then
    throw ("invalid line numbering format: " ++ inQuotes form, true)
  let sign :=
    match (o.value? 'd').map (·.toList) with
    | none => ['\\', ':']
    | some [c] => [c, ':']
    | some cs => cs
  return ⟨width.toNat, ((o.value? 's').getD "\t").toList, first, step, form = "ln", form = "rz",
    joined.toNat, sign, !o.has 'p', [header, body, footer]⟩

/-- Numbers lines. -/
def nl (s : Start) : Effect :=
  let switches := [valued 'h' "header-numbering", valued 'b' "body-numbering",
    valued 'f' "footer-numbering", valued 'v' "starting-line-number", valued 'i' "line-increment",
    flag 'p' "no-renumber", valued 'l' "join-blank-lines", valued 's' "number-separator",
    valued 'w' "number-width", valued 'n' "number-format", valued 'd' "section-delimiter"]
  s.withOptions switches fun o =>
    match numbering? o with
    | .ok y => numberLines s o y
    | .error (words, true) => s.refuses words
    | .error (words, false) => s.fails 1 [words]

/-! ## Counts -/

/-- How wide a line is where it is shown, with tabs to every eighth column. -/
def shownWidth (line : List Char) : Nat :=
  line.foldl (fun width c =>
    if c = '\t' then (width / 8 + 1) * 8 else if isShown c then width + 1 else width) 0

/-- What is counted in a text: lines, words, characters, octets and the widest line. -/
def countsOf (letters : List Char) (text : List Char) : List Nat :=
  letters.map fun letter =>
    match letter with
    | 'l' => text.count '\n'
    | 'w' => (wordsIn text).length
    | 'L' => (((splitAtChar '\n' text).flatMap fun line =>
        (splitAtChar '\r' line).flatMap (splitAtChar (Char.ofNat 12))).map
          shownWidth).foldl max 0
    | _ => text.length

/-- The counts of several texts together. -/
def totalCounts (letters : List Char) (counts : List (List Nat)) : List Nat :=
  counts.foldl (fun total row =>
    (letters.zip (total.zip row)).map fun (letter, n, m) =>
      if letter = 'L' then max n m else n + m) (letters.map fun _ => 0)

/-- Counts lines, words and octets. -/
def wc (s : Start) : Effect :=
  let switches := [flag 'l' "lines", flag 'w' "words", flag 'm' "chars", flag 'c' "bytes",
    flag 'L' "max-line-length", valued (wordOnly 0) "total"]
  s.withOptions switches fun o =>
    let wanted := "lwmcL".toList.filter o.has
    let letters := if wanted.isEmpty then ['l', 'w', 'c'] else wanted
    let contents := o.names.map fun name => (name, contentOf s name)
    let size (name : String) : Option Nat :=
      if name = "-" then s.inputSize
      else
        match s.disk.entry? (unspell name) with
        | some (.file octets _) => some octets.length
        | _ => none
    let known := o.names.filter fun name => name = "-" || s.disk.has (unspell name)
    let least := if known.all fun name => (size name).isSome then 1 else 7
    let total := (known.filterMap size).foldl (· + ·) 0
    let width := if letters.length = 1 && o.names.length = 1 then 1
      else max least (toString total).length
    let row (ns : List Nat) (name : String) : Piece :=
      .said ([' '].intercalate (ns.map (column width)) ++
        (if name.isEmpty then [] else ' ' :: name.toList) ++ ['\n'])
    let shownName (name : String) : String := if o.operands.isEmpty then "" else name
    let pieces := contents.flatMap fun c =>
      match c.2 with
      | .ok text => [row (countsOf letters text) (shownName c.1)]
      | .error e =>
        s.complaint (usualComplaint c.1 e) ::
          if e = .isDirectory then [row (letters.map fun _ => 0) c.1] else []
    let counted := contents.filterMap fun c => c.2.toOption.map (countsOf letters)
    let showsTotal :=
      match (o.value? (wordOnly 0)).getD "auto" with
      | "never" => false
      | "always" => true
      | _ => decide (o.names.length > 1)
    let pieces := if showsTotal then pieces ++ [row (totalCounts letters counted) "total"]
      else pieces
    let effect := s.writes pieces (if pieces.any (·.isComplaint) then 1 else 0)
    if o.names.contains "-" then effect.reading s else effect

end AgentConsole.Shell
