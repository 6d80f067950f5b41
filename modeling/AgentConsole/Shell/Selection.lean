import AgentConsole.Shell.Expression
import AgentConsole.Shell.FileTool

/-!
# Selected lines

What `grep` writes: the lines of files in which an expression matches, or the matches themselves,
or how many there are; with lines around them, if they are asked for.
-/

namespace AgentConsole.Shell

open AgentConsole.Files AgentConsole.Text

/-- What is looked for in lines. -/
structure Sought where
  expression : Expression
  /-- A match is a word, or several. -/
  words : Bool
  /-- A match is a whole line. -/
  whole : Bool

/-- What is between two spots is a match: it must be as is asked for at its ends. -/
def Sought.fits (q : Sought) (s t : Spot) : Bool :=
  let outside (c : Option Char) : Bool := !c.any isWordPart
  (!q.whole || (s.passed = 0 && t.rest.isEmpty)) &&
    (!q.words || (outside s.last && outside t.rest.head?))

/-- The first match from a spot on, the longest one there; `count` is not below how many spots there
are. -/
def Sought.searchFrom (q : Sought) : Nat → Spot → Option (Spot × Spot)
  | 0, _ => none
  | count + 1, s =>
    match (q.expression.waysFrom s).find? (q.fits s) with
    | some t => some (s, t)
    | none => if s.rest.isEmpty then none else searchFrom q count (s.skip 1)

/-- Something that is sought is in a line. -/
def Sought.isIn (q : Sought) (line : List Char) : Bool :=
  (q.searchFrom (line.length + 1) (.start line)).isSome

/-- The matches in a line from a spot on that are not empty: where they start, and what they are. -/
def Sought.matchesFrom (q : Sought) : Nat → Spot → List (Nat × List Char)
  | 0, _ => []
  | count + 1, s =>
    match q.searchFrom (s.rest.length + 1) s with
    | none => []
    | some (start, stop) =>
      if start.passed < stop.passed then
        (start.passed, start.upTo stop) :: matchesFrom q count stop
      else if stop.rest.isEmpty then []
      else matchesFrom q count (stop.skip 1)

/-- How selected lines are shown. -/
structure SelectionStyle where
  inverted : Bool
  matchesOnly : Bool
  named : Bool
  numbered : Bool
  offsets : Bool
  /-- The sign that follows the name of a file, unless it is the usual one. -/
  nameEnd : Option Char
  ending : Char
  before : Nat
  after : Nat
  /-- A mark stands between lines that do not follow each other. -/
  parted : Bool
  limit : Option Nat

/-- A line with its number and where it starts. -/
structure NumberedLine where
  number : Nat
  offset : Nat
  text : List Char

/-- Lines with their numbers. -/
def numberedLines (ending : Char) (text : List Char) : List NumberedLine :=
  let step (state : List NumberedLine × Nat × Nat) (line : List Char) :
      List NumberedLine × Nat × Nat :=
    let (done, number, offset) := state
    (⟨number, offset, line⟩ :: done, number + 1, offset + line.length + 1)
  ((linesOf text ending).foldl step ([], 1, 0)).1.reverse

/-- What stands before a line that is shown; `sign` follows each part of it. -/
def SelectionStyle.label (y : SelectionStyle) (name : String) (sign : Char)
    (number offset : Nat) : List Char :=
  (if y.named then name.toList ++ [y.nameEnd.getD sign] else []) ++
  (if y.numbered then (toString number).toList ++ [sign] else []) ++
  (if y.offsets then (toString offset).toList ++ [sign] else [])

/-- What is seen of a text so far. -/
structure Selecting where
  /-- What is shown, the last first. -/
  shown : List (List Char)
  /-- How many lines are selected. -/
  count : Nat
  /-- The lines that may be shown before the next selected one, the last first. -/
  waiting : List NumberedLine
  /-- How many lines more are shown after the last selected one. -/
  following : Nat
  /-- The number of the last line that is shown. -/
  last : Nat
  /-- Something was shown before, in this text or in another. -/
  any : Bool
  /-- How much of the text was needed. -/
  used : Nat

/-- Goes on by one line. -/
def SelectionStyle.step (y : SelectionStyle) (q : Sought) (name : String) (s : Selecting)
    (line : NumberedLine) : Selecting :=
  let ended := y.limit.any (s.count ≥ ·)
  let selected := !ended && q.isIn line.text != y.inverted
  let put (sign : Char) (l : NumberedLine) : List Char :=
    y.label name sign l.number l.offset ++ l.text ++ [y.ending]
  if selected then
    let kept := s.waiting.take y.before
    let first := line.number - kept.length
    let apart := s.any && (s.last = 0 || first > s.last + 1)
    let gap := if y.parted && apart then [['-', '-', '\n']] else []
    let here : List (List Char) :=
      if y.matchesOnly then
        if y.inverted then []
        else
          ((q.matchesFrom (line.text.length + 1) (.start line.text)).map fun (start, found) =>
            y.label name ':' line.number (line.offset + start) ++ found ++ [y.ending]).reverse
      else [put ':' line]
    let around := if y.matchesOnly then [] else kept.map (put '-')
    { s with
      shown := here ++ around ++ gap ++ s.shown
      count := s.count + 1
      waiting := []
      following := y.after
      last := line.number
      any := true
      used := line.offset + line.text.length + 1 }
  else if s.following > 0 then
    { s with
      shown := (if y.matchesOnly then [] else [put '-' line]) ++ s.shown
      following := s.following - 1
      last := line.number }
  else if ended then s
  else { s with waiting := (line :: s.waiting).take y.before }

/-- Goes through a text. -/
def SelectionStyle.select (y : SelectionStyle) (q : Sought) (name : String) (any : Bool)
    (text : List Char) : Selecting :=
  (numberedLines y.ending text).foldl (y.step q name) ⟨[], 0, [], 0, 0, any, 0⟩

/-- What is looked for, as options and the first argument say; else a complaint. The second result
are warnings, and the third are the names of the files. -/
def soughtBy (s : Start) (o : Options) :
    Except String (Option (Sought × List String × List String)) := do
  let listed := (o.values 'e').map (·.toList)
  let fromFiles ← (o.values 'f').mapM fun name =>
    match contentOf s name with
    | .ok text => .ok (linesOf text)
    | .error e => .error (name ++ ": " ++ e.words)
  let given := o.has 'e' || o.has 'f'
  let folded := o.has 'i' || o.has 'y'
  match given, o.operands with
  | false, [] => return none
  | _, _ =>
    let texts := if given then listed else [(o.operands.headD "").toList]
    let patterns := texts.flatMap (splitAtChar '\n' ·) ++ fromFiles.flatten
    let names := if given then o.operands else o.operands.drop 1
    let fixed := o.last? ['E', 'F', 'G'] = some 'F'
    let extended := o.has 'E' || o.has 'P'
    let dialect : Dialect := { extended, lenient := true, folded }
    let read ← patterns.mapM fun cs =>
      if fixed then .ok (Expression.ofText folded cs, []) else Expression.read dialect cs
    let expressions := read.map (·.1)
    let expression :=
      match expressions with
      | [] => Expression.one (.ranges false [])
      | e :: es => es.foldl .either e
    return some (⟨expression, o.has 'w', o.has 'x'⟩, read.flatMap (·.2), names)

/-- The arguments with counts of lines around written out as an option. -/
def contextArguments (arguments : List String) : List String :=
  arguments.flatMap fun a =>
    match a.toList with
    | '-' :: d :: ds => if (d :: ds).all Char.isDigit then ["-C", String.ofList (d :: ds)] else [a]
    | _ => [a]

/-- How lines are shown, as options say; else a complaint. -/
def selectionStyle (o : Options) (several : Bool) : Except String SelectionStyle := do
  let count (written : String) : Except String Nat :=
    match count? written with
    | some n => .ok n
    | none => .error (written ++ ": invalid context length argument")
  let context ← (o.value? 'C').mapM count
  let after ← (o.value? 'A').mapM count
  let before ← (o.value? 'B').mapM count
  let limit ← (o.value? 'm').mapM fun written =>
    match integer? false written with
    | some n => .ok (if n < 0 then none else some n.toNat)
    | none => .error "invalid max count"
  let matchers := ((o.given.map (·.1)).filter ['E', 'F', 'G', 'P'].contains).eraseDups
  if matchers.length > 1 then throw "conflicting matchers specified"
  let around := context.getD 0
  return {
    inverted := o.has 'v'
    matchesOnly := o.has 'o'
    named := if o.has 'H' || o.has 'h' then o.last? ['H', 'h'] = some 'H' else several
    numbered := o.has 'n'
    offsets := o.has 'b'
    nameEnd := if o.has 'Z' then some (Char.ofNat 0) else none
    ending := if o.has 'z' then Char.ofNat 0 else '\n'
    before := before.getD around
    after := after.getD around
    parted := ['A', 'B', 'C'].any o.has
    limit := limit.join }

/-- What is written of one file: the pieces, whether something is selected, and how much of the text
was needed. -/
def selectionOf (s : Start) (o : Options) (y : SelectionStyle) (q : Sought) (name : String)
    (any : Bool) (text : List Char) : List Piece × Bool × Nat :=
  let shownName := if name = "-" then "(standard input)" else name
  let listing := o.has 'l' || o.has 'L' || o.has 'q'
  let result := { y with limit := if listing then some 1 else y.limit }.select q shownName any text
  let found := result.count > 0
  let used := if y.limit.any (result.count ≥ ·) || listing then result.used else text.length
  let listed : List Piece :=
    [.said (shownName.toList ++ [if o.has 'Z' then Char.ofNat 0 else '\n'])]
  let binary := text.contains (Char.ofNat 0) && !o.has 'a' && !o.has 'z'
  let pieces : List Piece :=
    if o.has 'q' then []
    else if o.has 'l' then if found then listed else []
    else if o.has 'L' then if found then [] else listed
    else if o.has 'c' then
      let label := if y.named then shownName.toList ++ [y.nameEnd.getD ':'] else []
      [.said (label ++ (toString result.count).toList ++ ['\n'])]
    else if binary then
      if found then [s.complaint (shownName ++ ": binary file matches")] else []
    else [.said result.shown.reverse.flatten]
  (pieces, if o.has 'L' then !found else found, used)

/-- Writes the lines of files in which something is found. -/
def grep (s : Start) : Effect :=
  let switches := [flag 'E' "extended-regexp", flag 'F' "fixed-strings", flag 'G' "basic-regexp",
    flag 'P' "perl-regexp",
    valued 'e' "regexp", valued 'f' "file", flag 'i' "ignore-case", flag 'y',
    flag 'v' "invert-match", flag 'w' "word-regexp", flag 'x' "line-regexp", flag 'c' "count",
    flag 'L' "files-without-match", flag 'l' "files-with-matches", valued 'm' "max-count",
    flag 'o' "only-matching", flag 'q' "quiet", flag 'q' "silent", flag 's' "no-messages",
    flag 'b' "byte-offset", flag 'H' "with-filename", flag 'h' "no-filename",
    flag 'n' "line-number", flag 'Z' "null", valued 'A' "after-context",
    valued 'B' "before-context", valued 'C' "context", flag 'a' "text", flag 'z' "null-data",
    flag 'r' "recursive", flag 'R' "dereference-recursive", flag 'T' "initial-tab",
    flag 'U' "binary", ⟨wordOnly 0, "color", .maybe⟩, ⟨wordOnly 0, "colour", .maybe⟩,
    valued (wordOnly 1) "include", valued (wordOnly 2) "exclude", valued (wordOnly 3) "exclude-dir",
    valued 'd' "directories"]
  let usage := "Usage: grep [OPTION]... PATTERNS [FILE]..."
  let hint := "\nTry '" ++ s.name ++ " --help' for more information.\n"
  let arguments := contextArguments s.arguments
  match readOptions switches true (arguments.length + 1) arguments with
  | .error words => s.refuses (words ++ "\n" ++ usage) 2
  | .ok o =>
    let action := o.value? 'd'
    let recursive := o.has 'r' || o.has 'R' || action = some "recurse"
    match selectionStyle o false, soughtBy s o with
    | .error words, _ => s.fails 2 [words]
    | .ok _, .error words => s.fails 2 [words]
    | .ok _, .ok none => s.writes [⟨true, (usage ++ hint).toList⟩] 2
    | .ok y, .ok (some (q, warnings, names)) =>
      let unnamed := names.isEmpty
      let roots := if unnamed then [if recursive then "." else "-"] else names
      let fits (letter : Char) (path : String) : Bool :=
        (o.values letter).any fun p =>
          patternMatches (p.toList.map fun c => (c, false)) (lastName path).toList
      let wanted (path : String) : Bool :=
        ((o.values (wordOnly 1)).isEmpty || fits (wordOnly 1) path) && !fits (wordOnly 2) path
      let isInside (path : String) : Bool := (segments path).dropLast.any (fits (wordOnly 3))
      let files := if !recursive then roots else roots.flatMap fun root =>
        match s.disk.find (unspell root) with
        | .ok l =>
          if s.disk.isDirectoryAt l then
            let below := (pathsBelow s.disk l root).reverse.filter (·.2 ≠ .directory)
            (below.map fun p => if unnamed then String.ofList (p.1.toList.drop 2) else p.1).filter
              fun path => !isInside path
          else [root]
        | .error _ => [root]
      let files := files.filter fun path =>
        wanted path && !(action = some "skip" && s.disk.hasDirectory (unspell path))
      let several := names.length > 1 ||
        (recursive && roots.any fun root => s.disk.hasDirectory (unspell root))
      let y := if o.has 'H' || o.has 'h' then y else { y with named := several }
      let first := warnings.map fun words => s.complaint ("warning: " ++ words)
      let (pieces, found, wrong, used) := files.foldl (fun (pieces, found, wrong, used) name =>
        if o.has 'q' && found then (pieces, found, wrong, used)
        else
          match contentOf s name with
          | .error e =>
            let said := if o.has 's' then [] else [s.complaint (name ++ ": " ++ e.words)]
            (pieces ++ said, found, true, used)
          | .ok text =>
            let shown := pieces.any fun (p : Piece) => !p.isComplaint && !p.text.isEmpty
            let (more, here, needed) := selectionOf s o y q name shown text
            (pieces ++ more, found || here, wrong, if name = "-" then used + needed else used))
        (first, false, false, 0)
      let status := if wrong && !(o.has 'q' && found) then 2 else if found then 0 else 1
      { s.writes pieces status with taken := used }

end AgentConsole.Shell
