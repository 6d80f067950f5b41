import AgentConsole.Shell.Line

/-!
# Columns

The utilities that cut lines into pieces, put lines side by side and break them.
-/

namespace AgentConsole.Shell

open AgentConsole.Text AgentConsole.Files

/-! ## Cutting -/

/-- Positions from one on, up to another or to the end. -/
abbrev Positions := List (Nat × Option Nat)

/-- A list of positions under way. -/
structure PositionsRead where
  done : Positions
  /-- Where the range under way starts, after its dash. -/
  start : Option Nat
  value : Nat
  /-- There is a number before the dash, and behind it. -/
  before : Bool
  behind : Bool

/-- Ends one item of a list of positions. -/
def PositionsRead.close (r : PositionsRead) (zero : String) : Except String PositionsRead :=
  let add (p : Nat × Option Nat) : Except String PositionsRead :=
    .ok ⟨r.done ++ [p], none, 0, false, false⟩
  match r.start with
  | none => if r.value = 0 then .error zero else add (r.value, some r.value)
  | some start =>
    if !r.before && !r.behind then .error "invalid range with no endpoint: -"
    else if !r.behind then add (start, none)
    else if r.value < start then .error "invalid decreasing range"
    else add (start, some r.value)

/-- Reads a list of positions such as `1-3,5,7-`, of fields or of characters. -/
def readPositions (fields : Bool) : PositionsRead → List Char → Except String Positions
  | r, cs =>
    let zero := (if fields then "fields" else "byte/character positions") ++ " are numbered from 1"
    match cs with
    | [] => (r.close zero).map (·.done)
    | c :: rest =>
      if c = '-' then
        if r.start.isSome then
          .error (if fields then "invalid field range" else "invalid byte or character range")
        else if r.before && r.value = 0 then .error zero
        else
          let start := if r.before then r.value else 1
          readPositions fields { r with start := some start, value := 0 }
            rest
      else if c = ',' || c = ' ' || c = '\t' then
        match r.close zero with
        | .ok r => readPositions fields r rest
        | .error words => .error words
      else if c.isDigit then
        let value := r.value * 10 + digitValue c
        if value ≥ countLimit then
          .error ((if fields then "field number " else "byte/character offset ") ++
            inQuotes (String.ofList (Nat.toDigits 10 r.value ++ cs.takeWhile Char.isDigit)) ++
            " is too large")
        else
          readPositions fields
            { r with value, before := r.before || r.start.isNone,
                     behind := r.behind || r.start.isSome } rest
      else
        .error ((if fields then "invalid field value " else "invalid byte/character position ") ++
          inQuotes (String.ofList cs))

/-- Positions in order, with those that overlap made one. -/
def mergePositions (ps : Positions) : Positions :=
  let sorted := ps.mergeSort fun a b => a.1 ≤ b.1
  (sorted.foldl (fun done p =>
    match done with
    | (start, none) :: rest => (start, none) :: rest
    | (start, some stop) :: rest =>
      if p.1 ≤ stop then (start, p.2.map (max stop)) :: rest else p :: done
    | [] => [p]) []).reverse

/-- The positions between others, which are in order; `from` is the first that may be one. -/
def complementFrom (start : Nat) : Positions → Positions
  | [] => [(start, none)]
  | (a, b) :: rest =>
    (if start < a then [(start, some (a - 1))] else []) ++
      match b with
      | none => []
      | some b => complementFrom (b + 1) rest

/-- Those of a list that stand at positions, range by range. -/
def selectRanges {α : Type} (ps : Positions) (xs : List α) : List (List α) :=
  (ps.map fun p => (xs.take (p.2.getD xs.length)).drop (p.1 - 1)).filter (!·.isEmpty)

/-- What `cut` takes of a line; none if nothing is to be written for it. -/
def cutLine (o : Options) (fields : Bool) (ps : Positions) (line : List Char) :
    Option (List Char) :=
  let output := (o.value? (wordOnly 1)).map (·.toList)
  if fields then
    let separator := ((o.value? 'd').getD "\t").toList.headD (Char.ofNat 0)
    match splitAtChar separator line with
    | [_] => if o.has 's' then none else some line
    | pieces => some ((output.getD [separator]).intercalate (selectRanges ps pieces).flatten)
  else some ((output.getD []).intercalate (selectRanges ps line))

/-- Cuts lines. -/
def cut (s : Start) : Effect :=
  let switches := [valued 'b' "bytes", valued 'c' "characters", valued 'f' "fields",
    valued 'd' "delimiter", flag 's' "only-delimited", flag 'n', flag 'z' "zero-terminated",
    flag (wordOnly 0) "complement", valued (wordOnly 1) "output-delimiter"]
  s.withOptions switches fun o =>
    let lists := o.given.filter fun g => ['b', 'c', 'f'].contains g.1
    match lists with
    | [] =>
      s.refuses "you must specify a list of bytes, characters, or fields"
    | _ :: _ :: _ => s.refuses "only one list may be specified"
    | [(letter, list)] =>
      let fields := letter = 'f'
      if (o.values 'd').any (·.length > 1) then
        s.refuses "the delimiter must be a single character"
      else if !fields && o.has 'd' then
        s.refuses "an input delimiter may be specified only when operating on fields"
      else if !fields && o.has 's' then
        s.refuses ("suppressing non-delimited lines makes sense\n\tonly when operating on fields")
      else
        match readPositions fields ⟨[], none, 0, false, false⟩ list.toList with
        | .error words => s.refuses words
        | .ok ps =>
          let ps := mergePositions ps
          let ps := if o.has (wordOnly 0) then complementFrom 1 ps else ps
          let ending := if o.has 'z' then Char.ofNat 0 else '\n'
          s.filters o.names usualComplaint fun text =>
            unlines ((linesOf text ending).filterMap (cutLine o fields ps)) ending

/-! ## Side by side -/

/-- The characters between columns; one that is empty is none. -/
def columnSeparators (fuel : Nat) (cs : List Char) : List (List Char) :=
  match fuel, cs with
  | 0, _ | _, [] => []
  | fuel + 1, '\\' :: c :: rest =>
    let one : List Char :=
      if c = '0' then [] else (escaped [c]).1.drop (if (escaped [c]).1.length > 1 then 1 else 0)
    one :: columnSeparators fuel rest
  | fuel + 1, c :: rest => [c] :: columnSeparators fuel rest

/-- Puts texts behind each other with separators between them, over and over. -/
def joinWith (separators : List (List Char)) (n : Nat) : List (List Char) → List Char
  | [] => []
  | [x] => x
  | x :: xs =>
    let separator := (separators[n % separators.length]?).getD []
    x ++ separator ++ joinWith separators (n + 1) xs

/-- Takes the next line of each of some files, and leaves what follows it. Where `shared` says so a
file goes on with what is left by the last of its kind. -/
def nextLines (shared : Nat → Bool) (left : List (List (List Char))) :
    List (Option (List Char)) × List (List (List Char)) :=
  let input := (left.zipIdx.find? fun p => shared p.2).map (·.1)
  let (row, rest, input) := left.zipIdx.foldl (fun (row, rest, input) (lines, n) =>
    let own : List (List Char) := if shared n then input else lines
    (own.head? :: row, own.tail :: rest, if shared n then own.tail else input))
    (([] : List (Option (List Char))), ([] : List (List (List Char))), input.getD [])
  let rest := rest.reverse.zipIdx.map fun (lines, n) => if shared n then input else lines
  (row.reverse, rest)

/-- The rows of files side by side; some of the files share their lines. -/
def pasteRows (separators : List (List Char)) (shared : Nat → Bool) :
    Nat → List (List (List Char)) → List (List Char)
  | 0, _ => []
  | fuel + 1, left =>
    let (row, left) := nextLines shared left
    if row.all Option.isNone then []
    else joinWith separators 0 (row.map (·.getD [])) :: pasteRows separators shared fuel left

/-- Puts the lines of files side by side, or all lines of each in one. -/
def paste (s : Start) : Effect :=
  s.withOptions [valued 'd' "delimiters", flag 's' "serial", flag 'z' "zero-terminated"] fun o =>
    let written := ((o.value? 'd').getD "\t").toList
    let separators := columnSeparators written.length written
    let separators := if separators.isEmpty then [[]] else separators
    if o.has 's' then
      s.filters o.names usualComplaint fun text =>
        joinWith separators 0 (linesOf text) ++ ['\n']
    else
      match o.names.find? fun name => (contentOf s name).isOk = false with
      | some name =>
        s.fails 1 [usualComplaint name (match contentOf s name with
          | .error e => e
          | .ok _ => .notFound)]
      | none =>
        let texts := o.names.map fun name => linesOf ((contentOf s name).toOption.getD [])
        let count := (texts.map List.length).foldl (· + ·) 1
        let shared (n : Nat) : Bool := o.names[n]? = some "-"
        let effect := s.prints (unlines (pasteRows separators shared count texts))
        if o.names.contains "-" then effect.reading s else effect

/-! ## Other lines -/

/-- Turns lines round. -/
def rev (s : Start) : Effect :=
  s.withOptions [] fun o =>
    s.filters o.names (fun name e => "cannot open " ++ name ++ ": " ++ e.words) fun text =>
      (itemsOf false text).flatMap fun line =>
        if line.getLast? = some '\n' then line.dropLast.reverse ++ ['\n'] else line.reverse

/-- Where a line is after a character, in columns or in octets. -/
def columnAfter (octets : Bool) (place : Nat) (c : Char) : Nat :=
  if octets then place + 1
  else if c = Char.ofNat 8 then place - 1
  else if c = '\r' then 0
  else if c = '\t' then (place / 8 + 1) * 8
  else place + 1

/-- Breaks a line that is wider than so many columns; `piece` is the piece under way, backwards. -/
def foldLine (octets atBlanks : Bool) (width : Nat) : Nat → List Char → Nat → List Char → List Char
  | 0, piece, _, cs => piece.reverse ++ cs
  | _, piece, _, [] => piece.reverse
  | fuel + 1, piece, place, c :: cs =>
    let next := columnAfter octets place c
    if next ≤ width || piece.isEmpty then foldLine octets atBlanks width fuel (c :: piece) next cs
    else
      let kept := piece.dropWhile fun d => d ≠ ' ' && d ≠ '\t'
      if atBlanks && !kept.isEmpty then
        let moved := (piece.take (piece.length - kept.length)).reverse
        kept.reverse ++ '\n' :: foldLine octets atBlanks width fuel [] 0 (moved ++ c :: cs)
      else piece.reverse ++ '\n' :: foldLine octets atBlanks width fuel [] 0 (c :: cs)

/-- Breaks lines. -/
def fold (s : Start) : Effect :=
  let arguments :=
    match s.arguments with
    | a :: rest =>
      match a.toList with
      | '-' :: d :: ds =>
        if (d :: ds).all Char.isDigit then "-w" :: String.ofList (d :: ds) :: rest
        else s.arguments
      | _ => s.arguments
    | [] => []
  let switches := [flag 'b' "bytes", flag 's' "spaces", valued 'w' "width"]
  { s with arguments }.withOptions switches fun o =>
    let written := (o.value? 'w').getD "80"
    match natural? written with
    | some (n + 1) =>
      s.filters o.names usualComplaint fun text =>
        (itemsOf false text).flatMap fun (line : List Char) =>
          let body := if line.getLast? = some '\n' then line.dropLast else line
          foldLine (o.has 'b') (o.has 's') (n + 1) (3 * body.length + 3) [] 0 body ++
            line.drop body.length
    | _ => s.fails 1 ["invalid number of columns: " ++ inQuotes written]

/-- The stops of tabs: columns, or every so many columns. -/
def nextStop (stops : List Nat) (place : Nat) : Nat :=
  match stops with
  | [n] => (place / n + 1) * n
  | _ => (stops.find? (place < ·)).getD (place + 1)

/-- Puts blanks in the place of tabs. -/
def expandLine (stops : List Nat) (onlyFirst : Bool) : Nat → Bool → List Char → List Char
  | _, _, [] => []
  | place, leading, c :: cs =>
    if c = '\n' then c :: expandLine stops onlyFirst 0 true cs
    else if c = '\t' && (leading || !onlyFirst) then
      let stop := nextStop stops place
      List.replicate (stop - place) ' ' ++ expandLine stops onlyFirst stop leading cs
    else c :: expandLine stops onlyFirst (place + 1) (leading && c = ' ') cs

/-- Puts blanks in the place of tabs. -/
def expand (s : Start) : Effect :=
  s.withOptions [flag 'i' "initial", valued 't' "tabs"] fun o =>
    let written := (o.value? 't').getD "8"
    match (splitAtChar ',' (written.toList.map fun c => if c = ' ' then ',' else c)).mapM
        (fun cs => natural? (String.ofList cs)) with
    | some stops =>
      if stops.contains 0 then s.fails 1 ["tab size cannot be 0"]
      else s.filters o.names usualComplaint (expandLine stops (o.has 'i') 0 true)
    | none =>
      let wrong := written.toList.dropWhile fun c => c.isDigit || c = ',' || c = ' '
      s.fails 1 ["tab size contains invalid character(s): " ++ inQuotes (String.ofList wrong)]

end AgentConsole.Shell
