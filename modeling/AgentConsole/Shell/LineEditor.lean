import AgentConsole.Shell.EditScript
import AgentConsole.Shell.FileTool

/-!
# The line editor

What `sed` does. The instructions are carried out for one line after the other (`Editing.step`); a
line that is changed is put out at the end of the instructions, unless it was said otherwise.
-/

namespace AgentConsole.Shell

open AgentConsole.Text AgentConsole.Files

/-- A line that is still to come. -/
structure ComingLine where
  text : List Char
  /-- It has an end. -/
  ended : Bool
  /-- The file it is in, by its number among the files, and its name. -/
  file : Nat × String

/-- Something that is put out after the line under way. -/
inductive Appended where
  | text (cs : List Char)
  | file (name : String)

/-- Where a stretch of lines is that an instruction is for. -/
inductive StretchState where
  | outside
  | inside
  /-- It ends at the line with this number. -/
  | until (line : Nat)
  deriving DecidableEq, Repr

/-- The state of the editor. -/
structure Editing where
  line : List Char
  /-- The line has an end. -/
  ended : Bool
  file : Nat × String
  held : List Char
  number : Nat
  coming : List ComingLine
  /-- How many characters have come from the input. -/
  taken : Nat
  /-- What was put out, the last first. -/
  out : List (List Char)
  /-- The end of the last line that was put out is missing. -/
  openEnd : Bool
  /-- What was put out when a file ended, for every file that is edited in place. -/
  results : List (Nat × List Char)
  appended : List Appended
  replaced : Bool
  /-- The expression that was used last. -/
  last : Option Expression
  stretches : List StretchState
  /-- The instruction that comes next. -/
  place : Nat
  disk : Disk
  /-- How much was read of files line by line. -/
  readLines : List (String × Nat)
  complaints : List String
  /-- The status it ends with, once it does. -/
  done : Option Nat

/-- What is the same all the time. -/
structure EditorSettings where
  edits : List Edit
  silent : Bool
  /-- Every file is edited on its own. -/
  separate : Bool
  /-- What is put out goes into the files that are edited. -/
  inPlace : Bool
  wrap : Nat
  ending : Char

/-! ## Replacing -/

/-- A letter in a form. -/
def LetterCase.apply (form : LetterCase) (c : Char) : Char :=
  match form with
  | .as => c
  | .upper => c.toUpper
  | .lower => c.toLower

/-- The text of a replacement; `all` is the form of all letters, and `one` that of the next. -/
def replacementText (whole : List Char) (groups : List (Nat × List Char)) :
    LetterCase → LetterCase → List Replacement → List Char
  | _, _, [] => []
  | _, _, .letters form :: parts => replacementText whole groups form .as parts
  | all, _, .nextLetter form :: parts => replacementText whole groups all form parts
  | all, one, .text cs :: parts => shaped all one cs parts
  | all, one, .group n :: parts =>
    shaped all one (if n = 0 then whole else (groups.lookup n).getD []) parts
where
  /-- A text in a form, and what follows it. -/
  shaped (all one : LetterCase) (cs : List Char) (parts : List Replacement) : List Char :=
    match cs with
    | [] => replacementText whole groups all one parts
    | c :: cs =>
      (if one = .as then all.apply c else one.apply c) :: cs.map all.apply ++
        replacementText whole groups all .as parts

/-- The rest of a line from a spot on with matches replaced, and whether any was. A match that is
empty and where the last one ended is none. -/
def Substitution.from (u : Substitution) (e : Expression) :
    Nat → Nat → Bool → Spot → List Char × Bool
  | 0, _, _, s => (s.rest, false)
  | fuel + 1, count, adjacent, s =>
    match e.search s with
    | none => (s.rest, false)
    | some (start, stop) =>
      let before := s.upTo start
      let found := start.upTo stop
      let after (count : Nat) (adjacent : Bool) : List Char × Bool :=
        if found.isEmpty then
          match stop.rest with
          | [] => ([], false)
          | c :: _ =>
            let (more, changed) := u.from e fuel count false (stop.skip 1)
            (c :: more, changed)
        else u.from e fuel count adjacent stop
      if adjacent && found.isEmpty && before.isEmpty then after count false
      else if count + 1 < u.start then
        let (more, changed) := after (count + 1) true
        (before ++ found ++ more, changed)
      else
        let put := replacementText found stop.groups .as .as u.replacement
        if !u.everywhere then (before ++ put ++ stop.rest, true)
        else (before ++ put ++ (after (count + 1) true).1, true)

/-! ## Output -/

namespace Editing

/-- Puts a text out, after the missing end of the line before. -/
def emit (s : Editing) (cs : List Char) (openEnd : Bool := false) : Editing :=
  { s with
    out := cs :: (if s.openEnd then ['\n'] :: s.out else s.out)
    openEnd }

/-- Puts a line out, with its end if the line under way has one. -/
def emitLine (s : Editing) (y : EditorSettings) (cs : List Char) : Editing :=
  s.emit (if s.ended then cs ++ [y.ending] else cs) (!s.ended)

/-- Complains. -/
def complain (s : Editing) (words : String) : Editing :=
  { s with complaints := words :: s.complaints }

/-- Puts out what was appended to the line under way. -/
def flush (s : Editing) : Editing :=
  let put (s : Editing) (a : Appended) : Editing :=
    match a with
    | .text cs => s.emit cs
    | .file name => s.emit (ofOctets ((s.disk.read (unspell name)).toOption.getD []))
  { s.appended.foldl put s with appended := [] }

/-- Writes a line into a file, or where the name of it says. -/
def writeTo (s : Editing) (y : EditorSettings) (name : String) (cs : List Char) : Editing :=
  match name with
  | "/dev/stdout" => s.emitLine y cs
  | "/dev/stderr" => s.complain (String.ofList cs)
  | _ =>
    match s.disk.writeFile (unspell name) (toOctets (cs ++ [y.ending])) true with
    | .ok disk => { s with disk }
    | .error _ => s

/-! ## Lines -/

/-- There is no line after this one, in any file or in its own. -/
def isLast (s : Editing) (y : EditorSettings) : Bool :=
  match s.coming with
  | [] => true
  | l :: _ => y.separate && l.file.1 ≠ s.file.1

/-- Keeps what was put out for a file that is edited in place. -/
def closeFile (s : Editing) (y : EditorSettings) : Editing :=
  if y.inPlace then
    let result := (s.file.1, s.out.reverse.flatten)
    { s with results := result :: s.results, out := [], openEnd := false }
  else s

/-- Goes on to the next line, if there is one: it comes in place of the line under way, or after
it. -/
def advance (s : Editing) (y : EditorSettings) (joining : Bool) : Option Editing :=
  match s.coming with
  | [] => none
  | l :: coming =>
    let isNew := s.number > 0 && l.file.1 ≠ s.file.1
    let s := if isNew && y.separate then s.closeFile y else s
    some { s with
      line := if joining then s.line ++ y.ending :: l.text else l.text
      ended := l.ended
      file := l.file
      number := if isNew && y.separate then 1 else s.number + 1
      stretches := if isNew && y.separate then s.stretches.map fun _ => .outside else s.stretches
      coming
      taken :=
        if l.file.2 = "-" then s.taken + l.text.length + (if l.ended then 1 else 0) else s.taken }

/-- Starts the instructions again for the next line, or ends. -/
def startCycle (s : Editing) (y : EditorSettings) : Editing :=
  let s := s.flush
  match s.advance y false with
  | some s => { s with place := 0, replaced := false }
  | none => { s.closeFile y with done := some 0 }

/-- Ends the instructions for the line under way. -/
def endCycle (s : Editing) (y : EditorSettings) : Editing :=
  (if y.silent then s else s.emitLine y s.line).startCycle y

/-- The expression that is meant, which is then the last one that was used. -/
def use (s : Editing) (e : Option Expression) : Option (Expression × Editing) :=
  match e with
  | some e => some (e, { s with last := some e })
  | none => s.last.map fun e => (e, s)

/-- Ends since there is no last expression. -/
def noExpression (s : Editing) : Editing :=
  { s.complain "no previous regular expression" with done := some 1 }

/-- The line under way is at an address. -/
def isAt (s : Editing) (y : EditorSettings) (a : Address) : Bool × Editing :=
  match a with
  | .line n => (s.number = n, s)
  | .every first step =>
    (if step = 0 then s.number = first
      else s.number ≥ first && (s.number - first) % step = 0, s)
  | .last => (s.isLast y, s)
  | .matching e =>
    match s.use e with
    | some (e, s) => (e.occurs s.line, s)
    | none => (false, s.noExpression)

/-- The stretch of an instruction, by the place of that. -/
def withStretch (s : Editing) (place : Nat) (state : StretchState) : Editing :=
  { s with stretches := s.stretches.set place state }

/-- The instruction is for the line under way. -/
def isFor (s : Editing) (y : EditorSettings) (place : Nat) (e : Edit) : Bool × Editing :=
  let state := (s.stretches[place]?).getD .outside
  let (fits, s) : Bool × Editing :=
    match e.start, e.stop, state with
    | none, _, _ => (true, s)
    | some a, none, _ => s.isAt y a
    | some _, some _, .until n =>
      (s.number ≤ n, if s.number ≥ n then s.withStretch place .outside else s)
    | some _, some stop, .inside =>
      match stop with
      | .at a =>
        let (ends, s) := s.isAt y a
        (true, if ends then s.withStretch place .outside else s)
      | _ => (true, s)
    | some a, some stop, .outside =>
      let zero : Bool := match a with
        | .line 0 => decide (s.number = 1)
        | _ => false
      let (starts, s) := s.isAt y a
      let untilLine (n : Nat) : Editing :=
        if n > s.number then s.withStretch place (.until n) else s
      if zero then
        match stop with
        | .at a =>
          let (ends, s) := s.isAt y a
          (true, if ends then s else s.withStretch place .inside)
        | _ => (true, s)
      else if !starts then (false, s)
      else
        (true, match stop with
          | .at (.line n) => untilLine n
          | .at _ => s.withStretch place .inside
          | .after n => untilLine (s.number + n)
          | .multiple n => if n = 0 then s else untilLine ((s.number / n + 1) * n))
  (fits != e.negated, s)

/-! ## Instructions -/

/-- A line as it can be read without doubt, in pieces that are so wide. -/
def shownLine (width : Nat) (cs : List Char) : List Char :=
  let pieces : List (List Char) := cs.map fun c =>
    if c = '\\' then ['\\', '\\'] else if isShown c then [c] else escapeOf c
  let step (state : List (List Char) × Nat) (piece : List Char) : List (List Char) × Nat :=
    let (done, used) := state
    if width > 1 && used + piece.length > width - 1 then
      (piece :: ['\\', '\n'] :: done, piece.length)
    else (piece :: done, used + piece.length)
  ((pieces.foldl step ([], 0)).1.reverse).flatten ++ ['$', '\n']

/-- The first line of a text. -/
def firstLine (ending : Char) (cs : List Char) : List Char :=
  cs.takeWhile (· ≠ ending)

/-- Replaces matches in the line under way. -/
def substitute (s : Editing) (y : EditorSettings) (u : Substitution) : Editing :=
  match s.use u.expression with
  | none => s.noExpression
  | some (e, s) =>
    let (line, changed) := u.from e (2 * s.line.length + 3) 0 false (.start s.line)
    if !changed then s
    else
      let s := { s with line, replaced := true }
      let s := if u.printed then s.emitLine y line else s
      match u.file with
      | some name => s.writeTo y name line
      | none => s

/-- Ends after the line under way. -/
def quit (s : Editing) (y : EditorSettings) (code : Nat) (silently : Bool) : Editing :=
  let s := if silently then s else (if y.silent then s else s.emitLine y s.line).flush
  { s.closeFile y with done := some code }

/-- Carries out an instruction for the line under way. -/
def act (s : Editing) (y : EditorSettings) (place : Nat) (e : Edit) : Editing :=
  match e.action with
  | .enter _ | .nothing => s
  | .jump condition target =>
    match condition with
    | none => { s with place := target }
    | some expected =>
      let s' := { s with replaced := false }
      if s.replaced = expected then { s' with place := target } else s'
  | .append text => { s with appended := s.appended ++ [.text text] }
  | .insert text => if text.isEmpty then s else s.emit text
  | .change text =>
    let goesOn := (s.stretches[place]?).any (· ≠ .outside) && !e.negated
    (if goesOn || text.isEmpty then s else s.emit text).startCycle y
  | .delete => s.startCycle y
  | .deleteFirst =>
    let first := firstLine y.ending s.line
    if first.length = s.line.length then s.startCycle y
    else
      { s.flush with
        line := s.line.drop (first.length + 1), place := 0, replaced := false }
  | .print => s.emitLine y s.line
  | .printFirst => s.emit (firstLine y.ending s.line ++ [y.ending])
  | .next =>
    if s.coming.isEmpty then s.endCycle y
    else
      let shown := (if y.silent then s else s.emitLine y s.line).flush
      (shown.advance y false).getD shown
  | .join =>
    if s.coming.isEmpty then s.endCycle y else (s.flush.advance y true).getD s
  | .hold appending =>
    { s with held := if appending then s.held ++ y.ending :: s.line else s.line }
  | .get appending =>
    { s with line := if appending then s.line ++ y.ending :: s.held else s.held }
  | .exchange => { s with line := s.held, held := s.line }
  | .number => s.emit ((toString s.number).toList ++ ['\n'])
  | .list width => s.emit (shownLine (width.getD y.wrap) s.line)
  | .fileName => s.emit (s.file.2.toList ++ ['\n'])
  | .empty => { s with line := [] }
  | .quit code silently => s.quit y code silently
  | .readFile name => { s with appended := s.appended ++ [.file name] }
  | .readLine name =>
    let count := (s.readLines.lookup name).getD 0
    let lines := ((s.disk.read (unspell name)).toOption.map (linesOf <| ofOctets ·)).getD []
    match lines[count]? with
    | some line =>
      { s with
        appended := s.appended ++ [.text (line ++ ['\n'])]
        readLines := (name, count + 1) :: s.readLines.filter (·.1 ≠ name) }
    | none => s
  | .write name firstOnly =>
    s.writeTo y name (if firstOnly then firstLine y.ending s.line else s.line)
  | .substitute u => s.substitute y u
  | .replaceChars pairs => { s with line := s.line.map fun c => (pairs.lookup c).getD c }

/-- Takes one step. -/
def step (s : Editing) (y : EditorSettings) : Editing :=
  match y.edits[s.place]? with
  | none => s.endCycle y
  | some e =>
    let place := s.place
    let (fits, s) := s.isFor y place e
    let s := { s with place := place + 1 }
    if s.done.isSome then s
    else if fits then s.act y place e
    else
      match e.action with
      | .enter past => { s with place := past }
      | _ => s

/-- Takes steps up to the end, so many at most. -/
def run (y : EditorSettings) : Nat → Editing → Editing
  | 0, s => s
  | fuel + 1, s => if s.done.isSome then s else run y fuel (s.step y)

end Editing

/-- How many steps the editor takes before it is plain that it never ends. -/
def editLimit : Nat := 3000000

/-! ## The utility -/

/-- The lines of a text that is edited. -/
def comingLines (ending : Char) (file : Nat × String) (text : List Char) : List ComingLine :=
  (itemsOf false text ending).map fun item =>
    if item.getLast? = some ending then ⟨item.dropLast, true, file⟩ else ⟨item, false, file⟩

/-- The scripts that are given, joined, and where each of them ends: how many characters there are
up to there, and the name of its file if it has one. -/
def joinScripts (scripts : List (Option String × List Char)) :
    List Char × List (Option String × Nat) :=
  scripts.foldl (fun (text, ends) (file, script) =>
    let text := if ends.isEmpty then script else text ++ '\n' :: script
    (text, ends ++ [(file, text.length)])) ([], [])

/-- A complaint about scripts. -/
def editComplaint (text : List Char) (ends : List (Option String × Nat)) (f : EditFault) : String :=
  match f.left with
  | none => f.words
  | some left =>
    let passed := text.length - left
    let index := (ends.findIdx? fun e => passed ≤ e.2).getD (ends.length - 1)
    let start := if index = 0 then 0 else ((ends[index - 1]?).map (·.2 + 1)).getD 0
    match (ends[index]?).bind (·.1) with
    | some file =>
      let line := ((text.take passed).drop start).count '\n' + 1
      "file " ++ file ++ " line " ++ toString line ++ ": " ++ f.words
    | none =>
      let number := ((ends.take (index + 1)).filter (·.1.isNone)).length
      "-e expression #" ++ toString number ++ ", char " ++ toString (passed - start) ++ ": " ++
        f.words

/-- Empties the files that instructions write; else which one cannot be written. -/
def emptyWritten (d : Disk) (edits : List Edit) : Except String Disk :=
  let names := edits.filterMap fun e =>
    match e.action with
    | .write name _ => some name
    | .substitute u => u.file
    | _ => none
  names.foldlM (fun d name =>
    if name = "/dev/stdout" || name = "/dev/stderr" then .ok d
    else
      (d.writeFile (unspell name) [] false).mapError fun e =>
        "couldn't open file " ++ name ++ ": " ++ e.words) d

/-- Puts what was edited into the files, after a copy of them if one is asked for. -/
def settleFiles (d : Disk) (names : List String) (ending : String)
    (results : List (Nat × List Char)) : Disk :=
  results.reverse.foldl (fun d (n, text) =>
    let name := (names[n]?).getD ""
    let backup :=
      if ending.toList.contains '*' then
        join (directoryOf name) (ending.replace "*" (lastName name))
      else name ++ ending
    let old := (d.read (unspell name)).toOption.getD []
    let d := if ending.isEmpty then d else
      ((d.writeFile (unspell backup) old false).toOption).getD d
    ((d.writeFile (unspell name) (toOctets text) false).toOption).getD d) d

/-- Edits lines. -/
def sed (s : Start) : Effect :=
  let switches := [flag 'n' "quiet", flag 'n' "silent", valued 'e' "expression", valued 'f' "file",
    flag 'E' "regexp-extended", flag 'r', ⟨'i', "in-place", .maybe⟩, flag 's' "separate",
    flag 'u' "unbuffered", flag 'z' "null-data", valued 'l' "line-length",
    flag (wordOnly 0) "posix", flag (wordOnly 1) "debug", flag (wordOnly 2) "sandbox"]
  let usage := "Usage: sed [OPTION]... \x7bscript-only-if-no-other-script\x7d [input-file]...\n\n"
  match readOptions switches true (s.arguments.length + 1) s.arguments with
  | .error words => s.writes [s.complaint words, ⟨true, usage.toList⟩] 1
  | .ok o =>
    let given := o.given.filter fun g => g.1 = 'e' || g.1 = 'f'
    let scripts : Except String (List (Option String × List Char)) :=
      if given.isEmpty then .ok [(none, (o.operands.headD "").toList)]
      else
        given.mapM fun (letter, value) =>
          if letter = 'e' then .ok (none, value.toList)
          else
            match contentOf s value with
            | .ok text => .ok (some value, text)
            | .error e => .error ("couldn't open file " ++ value ++ ": " ++ e.words)
    let operands := if given.isEmpty then o.operands.drop 1 else o.operands
    let names := if operands.isEmpty then ["-"] else operands
    let dialect : Dialect := { extended := o.has 'E' || o.has 'r', escapes := true }
    match given.isEmpty && o.operands.isEmpty, scripts with
    | true, _ => s.writes [⟨true, usage.toList⟩] 1
    | false, .error words => s.fails 1 [words]
    | false, .ok scripts =>
      let (text, ends) := joinScripts scripts
      match editsOf dialect text with
      | .error f => s.fails f.status [editComplaint text ends f]
      | .ok (edits, silent) =>
        match emptyWritten s.disk edits with
        | .error words => s.fails 4 [words]
        | .ok disk =>
          let inPlace := o.has 'i'
          let y : EditorSettings :=
            ⟨edits, silent || o.has 'n', o.has 's' || inPlace, inPlace,
              ((o.value? 'l').bind (count? ·)).getD 70, if o.has 'z' then Char.ofNat 0 else '\n'⟩
          let opened := names.zipIdx.map fun (name, n) =>
            match contentOf s name with
            | .ok text => (comingLines y.ending (n, name) text, none)
            | .error .isDirectory =>
              ([], some (if inPlace then "couldn't edit " ++ name ++ ": not a regular file"
                else "couldn't read " ++ name ++ ": Is a directory"))
            | .error e => ([], some ("can't read " ++ name ++ ": " ++ e.words))
          let missing := opened.filterMap (·.2)
          let start : Editing :=
            { line := [], ended := true, file := (0, names.headD "-"), held := [], number := 0
              coming := opened.flatMap (·.1), taken := 0, out := [], openEnd := false, results := []
              appended := [], replaced := false, last := none
              stretches := edits.map fun _ => .outside, place := 0, disk, readLines := []
              complaints := [], done := none }
          let last :=
            if start.coming.isEmpty then { start with done := some 0 }
            else (start.startCycle y).run y editLimit
          let disk := if inPlace then
            settleFiles last.disk names ((o.value? 'i').getD "") last.results else last.disk
          let complaints := missing ++ last.complaints.reverse
          let status := (last.done.getD 0)
          let status := if status = 0 && !missing.isEmpty then 2 else status
          let effect := s.writes
            (complaints.map s.complaint ++ [.said last.out.reverse.flatten]) status
          let quit := !last.coming.isEmpty && last.done.isSome
          { effect with
            disk
            delay := if last.done.isSome then some 0 else none
            taken :=
              if !names.contains "-" then 0 else if quit then last.taken else s.input.length }

end AgentConsole.Shell
