import AgentConsole.Shell.Cursor

/-!
# Reading words

Words with their quotes and references, and the documents behind a line. The commands that a word
holds are read by `nested`, which comes from where commands are read.
-/

namespace AgentConsole.Shell

/-- Where parts of a word stand, and so what ends them. -/
inductive Place where
  | word
  | quotes
  | braces
  | arithmetic
  | document
  deriving DecidableEq, Repr

/-- What is known of where parts stand. -/
structure Setting where
  place : Place
  quoted : Bool
  /-- There are braces around. -/
  inBraces : Bool := false
  /-- References stand for themselves. -/
  literal : Bool := false
  /-- The document around. -/
  document : Option Awaited := none

/-- A document ends here if its mark is next; what is left is then what is left of it. -/
def endDocument (document : Option Awaited) : Read Unit := do
  match document with
  | none => return ()
  | some a =>
    if a.stripped then pass ((← left).takeWhile (· = '\t')).length
    let cs ← left
    let line := cs.takeWhile (· ≠ '\n')
    if line = a.mark then
      pass line.length
      let after ← left
      let lines := if after.isEmpty then 0 else 1
      modify fun c => { c with rest := [], line := c.line + lines, beyond := after.drop 1 }

/-- The text up to a backquote, which is passed over. -/
def upToBackquote (quoted : Bool) : Nat → List Char → Read (List Char)
  | 0, _ => tooDeep
  | fuel + 1, done => do
    match ← peek with
    | [] => complain "Syntax error: EOF in backquote substitution"
    | '\\' :: c :: _ =>
      pass 2
      let stays := !(['\\', '\x60', '$'].contains c || (quoted && c = '"'))
      upToBackquote quoted fuel (c :: if stays then '\\' :: done else done)
    | c :: _ =>
      pass 1
      if c = '\x60' then return done.reverse
      else upToBackquote quoted fuel (if c = aliasEnd then done else c :: done)

/-- What a sign after the name of a parameter says; none if no sign is known. -/
def changeOf? (emptyToo : Bool) (c : Char) : Option Change :=
  match c with
  | '\x7d' => some .plain
  | '-' => some (.fallback emptyToo)
  | '+' => some (.alternative emptyToo)
  | '?' => some (.require emptyToo)
  | '=' => some (.assign emptyToo)
  | _ => none

/-- Passes over a character where a sign is expected; the end of a line does not count there. -/
def passChangeSign : Read Unit := do
  let line := (← get).line
  pass 1
  modify fun c => { c with line }

/-- Reads the sign after the name of a parameter in braces. -/
def readChange : Read Change := do
  match ← peek with
  | [] => return .wrong
  | '\x7d' :: _ => return .plain
  | ':' :: _ =>
    pass 1
    match ← peek with
    | '\x7d' :: _ => return .plain
    | c :: _ =>
      passChangeSign
      return (changeOf? true c).getD .wrong
    | [] => return .wrong
  | '#' :: _ =>
    pass 1
    return .dropStart (← accept '#')
  | '%' :: _ =>
    pass 1
    return .dropEnd (← accept '%')
  | c :: _ =>
    passChangeSign
    return (changeOf? false c).getD .wrong

/-- Reads the name of a parameter, if one is next; without braces a number has one digit. -/
def readName (inBraces : Bool) : Read (Option String) := do
  match ← peek with
  | [] => return none
  | c :: _ =>
    if startsName c then return some (String.ofList (← takeRun isNamePart))
    else if c.isDigit && inBraces then return some (String.ofList (← takeRun Char.isDigit))
    else if isSpecial c then
      pass 1
      return some (String.ofList [c])
    else return none

/-- Reads what stands in braces before an argument: a parameter, and what is made of it. -/
def readBraced : Read (String × Change) := do
  let start ← get
  let named : Read (String × Change) := do
    match ← readName true with
    | some name => return (name, ← readChange)
    | none =>
      if (← peek).head? = some '\n' then passChangeSign
      return ("", .wrong)
  if ← accept '#' then
    match ← peek with
    | c :: _ =>
      if isNamePart c then return ((← readName true).getD "", .length)
      else
        passChangeSign
        match ← peek with
        | '\x7d' :: _ =>
          if c = '\x7d' then
            set start
            named
          else if isSpecial c then return (String.ofList [c], .length)
          else return ("", .wrong)
        | _ =>
          set start
          named
    | [] => return ("#", .wrong)
  else named

/-- Stops at the end of a script in braces. -/
def openBraces {α : Type} (s : Setting) : Read α :=
  if s.quoted && s.document.isNone then unterminated
  else complain "Syntax error: Missing '\x7d'"

mutual

/-- Reads the parts of a word up to what ends them, which stays. In arithmetic, `parens` counts the
parentheses that are open. -/
def readParts (nested : Read Command) : Nat → Setting → Nat → Word → Read Word
  | 0, _, _, _ => tooDeep
  | fuel + 1, s, parens, done => do
    let add (part : Part) : Read Word := readParts nested fuel s parens (part :: done)
    let plain (c : Char) : Read Word := do
      pass 1
      add (.text [c] s.quoted)
    match ← peek with
    | [] =>
      if s.place = .arithmetic then complain "Syntax error: Missing '))'"
      return done.reverse
    | c :: cs =>
      if c = '\n' then
        if s.place = .word then return done.reverse
        else
          pass 1
          endDocument s.document
          add (.text [c] s.quoted)
      else if c = aliasEnd then
        if s.place = .word then return done.reverse
        else
          pass 1
          readParts nested fuel s parens done
      else if c = '\\' then
        match cs with
        | [] =>
          pass 1
          add (.text ['\\'] true)
        | d :: _ =>
          pass 2
          let stays := s.quoted && !(['\\', '\x60', '$'].contains d) &&
            (d ≠ '"' || (s.document.isSome && !s.inBraces)) && (d ≠ '\x7d' || !s.inBraces)
          add (.text (if stays then ['\\', d] else [d]) true)
      else if c = '\'' && !s.quoted then
        let inside := cs.takeWhile (· ≠ '\'')
        pass (inside.length + 1)
        if (← left).isEmpty then unterminated
        pass 1
        add (.text (inside.filter (· ≠ aliasEnd)) true)
      else if c = '"' then
        if s.place = .quotes then return done.reverse
        else if s.quoted && s.place ≠ .braces then plain c
        else
          pass 1
          let inside ← readParts nested fuel { s with place := .quotes, quoted := true } 0 []
          if !(← accept '"') then
            if s.document.isNone then unterminated else openBraces s
          readParts nested fuel s parens (inside.reverse ++ .text [] true :: done)
      else if c = '$' && !s.literal then
        pass 1
        add (← readReference nested fuel s)
      else if c = '\x60' && !s.literal then
        pass 1
        let text ← upToBackquote s.quoted ((← left).length + 2) []
        let outer ← get
        set { outer with rest := text, line := 1, pushed := none, awaited := [] }
        let command ← nested
        modify fun inner =>
          { outer with documents := inner.documents, fresh := inner.fresh }
        add (.substitution command s.quoted)
      else if c = '\x7d' && s.place = .braces then return done.reverse
      else if s.place = .word && isMeta c then return done.reverse
      else if s.place = .arithmetic && c = '(' then
        pass 1
        readParts nested fuel s (parens + 1) (.text [c] true :: done)
      else if s.place = .arithmetic && c = ')' then
        match parens with
        | parens + 1 =>
          pass 1
          readParts nested fuel s parens (.text [c] true :: done)
        | 0 =>
          pass 1
          if ← accept ')' then return done.reverse else add (.text [c] true)
      else plain c

/-- Reads a reference, after its dollar sign. -/
def readReference (nested : Read Command) : Nat → Setting → Read Part
  | 0, _ => tooDeep
  | fuel + 1, s => do
    if ← accept '(' then
      if ← accept '(' then
        let inner := { s with place := Place.arithmetic, quoted := true, inBraces := false }
        let expression ← readParts nested fuel inner 0 []
        return .arithmetic expression s.quoted
      else
        let outer ← get
        set { outer with pushed := none, awaited := [] }
        let command ← nested
        match (← get).pushed with
        | some (.operator ")") =>
          modify fun inner => { inner with pushed := none, awaited := outer.awaited }
          return .substitution command s.quoted
        | token => unexpected (token.getD .ending) "\")\""
    else if ← accept '\x7b' then
      let (name, change) ← readBraced
      let inner := { s with place := Place.braces, inBraces := true }
      let inner := if change.hasPattern then { inner with quoted := false } else inner
      let argument ← readParts nested fuel inner 0 []
      if !(← accept '\x7d') then openBraces inner
      return .parameter name change argument s.quoted
    else
      match ← readName false with
      | some name => return .parameter name .plain [] s.quoted
      | none => return .text ['$'] true

end

/-- The name and the value of a word that assigns. -/
def assignment? (w : Word) : Option (String × Word) :=
  let chars := (w.takeWhile fun p => match p with
    | .text [_] false => true
    | _ => false).flatMap fun p => match p with
    | .text cs _ => cs
    | _ => []
  let name := chars.takeWhile isNamePart
  match chars.drop name.length with
  | '=' :: _ =>
    if name.head?.any startsName then some (String.ofList name, w.drop (name.length + 1)) else none
  | _ => none

/-- The text of a word without quotes and references, if it has none. -/
def plainText? (w : Word) : Option String := do
  let texts ← w.mapM fun (p : Part) => match p with
    | .text cs false => some cs
    | _ => none
  return String.ofList texts.flatten

/-- The text of a word that is not expanded, and whether any of it is quoted. -/
def literalText (w : Word) : List Char × Bool :=
  (w.flatMap fun (p : Part) => match p with
    | .text cs _ => cs
    | _ => [],
   w.any fun (p : Part) => match p with
    | .text _ quoted => quoted
    | _ => false)

/-- The lines of a document in which nothing stands for anything else. -/
def readVerbatim (a : Awaited) : Nat → List Char → Read (List Char)
  | 0, _ => tooDeep
  | fuel + 1, done => do
    endDocument (some a)
    let cs ← left
    let line := cs.takeWhile (· ≠ '\n')
    pass line.length
    match ← left with
    | [] => return done ++ line
    | _ =>
      pass 1
      readVerbatim a fuel (done ++ line ++ ['\n'])

/-- Reads the documents that start here. -/
def readDocuments (nested : Read Command) (fuel : Nat) : Read Unit := do
  let awaited := (← get).awaited
  modify fun c => { c with awaited := [] }
  for a in awaited do
    modify fun c => { c with beyond := [] }
    let body ←
      if a.verbatim then
        let text ← readVerbatim a ((← left).length + 2) []
        pure [Part.text text true]
      else
        endDocument (some a)
        readParts nested fuel { place := .document, quoted := true, document := some a } 0 []
    modify fun c =>
      { c with rest := c.beyond, beyond := [], documents := (a.number, body) :: c.documents }

end AgentConsole.Shell
