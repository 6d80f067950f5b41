import AgentConsole.Shell.Integer
import AgentConsole.Shell.Pattern

/-!
# Expressions

The expressions of line editors, which may match any part of a line: of the ways that start first
the longest wins. `Expression.ends` gives all the ways from one spot, longer ones first, and of two
that are as long the one that gives more to the parts in front.
-/

namespace AgentConsole.Shell

/-- A place between two characters. -/
inductive Edge where
  | textStart
  | textEnd
  | lineStart
  | lineEnd
  | wordStart
  | wordEnd
  /-- The start or the end of a word. -/
  | wordEdge
  /-- Neither the start nor the end of a word. -/
  | noWordEdge
  deriving DecidableEq, Repr

/-- The character can be in a word. -/
def isWordPart (c : Char) : Bool :=
  c.isAlphanum || c = '_'

/-- The place between two characters, of which there may be none, is as an edge says. -/
def Edge.fits (e : Edge) (before after : Option Char) : Bool :=
  let left := before.any isWordPart
  let right := after.any isWordPart
  match e with
  | textStart => before.isNone
  | textEnd => after.isNone
  | lineStart => before.all (· = '\n')
  | lineEnd => after.all (· = '\n')
  | wordStart => !left && right
  | wordEnd => left && !right
  | wordEdge => left != right
  | noWordEdge => left == right

/-- An expression. -/
inductive Expression where
  | empty
  | one (set : CharSet)
  | edge (e : Edge)
  | next (first second : Expression)
  | either (first second : Expression)
  /-- What it matches is kept under a number. -/
  | group (number : Nat) (inside : Expression)
  | times (least : Nat) (most : Option Nat) (body : Expression)
  /-- What a group has matched, once more. -/
  | again (number : Nat) (folded : Bool)
  deriving Repr

/-- How far a text has been matched, and what the groups have matched. -/
structure Spot where
  passed : Nat
  last : Option Char
  rest : List Char
  groups : List (Nat × List Char)

namespace Spot

/-- The start of a text. -/
def start (text : List Char) : Spot :=
  ⟨0, none, text, []⟩

/-- What stands between a spot and a later one. -/
def upTo (s t : Spot) : List Char :=
  s.rest.take (t.passed - s.passed)

/-- So many characters on. -/
def skip (s : Spot) (count : Nat) : Spot :=
  { s with
    passed := s.passed + count
    last := if count = 0 then s.last else s.rest[count - 1]?
    rest := s.rest.drop count }

/-- The spot with what a group has matched. -/
def keep (s : Spot) (number : Nat) (cs : List Char) : Spot :=
  { s with groups := (number, cs) :: s.groups.filter (·.1 ≠ number) }

end Spot

/-- One of spots that are at the same place is enough, unless what the groups have matched matters
and differs. -/
def withoutRepeats (groupsMatter : Bool) : List Spot → List Spot
  | [] => []
  | s :: spots =>
    match withoutRepeats groupsMatter spots with
    | [] => [s]
    | t :: rest =>
      if s.passed = t.passed && (!groupsMatter || s.groups = t.groups) then s :: rest
      else s :: t :: rest

/-- Puts ways together; longer ones come first. -/
def mergeWays (groupsMatter : Bool) (ways : List (List Spot)) : List Spot :=
  ways.foldr (fun spots others =>
    withoutRepeats groupsMatter (spots.merge others fun s t => decide (t.passed ≤ s.passed))) []

/-- All that is reached from spots by steps, at least and at most so many; steps that are not asked
for have to lead on. -/
def stepsFrom (groupsMatter : Bool) (step : Spot → List Spot) :
    Nat → Nat → Option Nat → List Spot → List (List Spot)
  | 0, _, _, spots => [spots]
  | fuel + 1, least, most, spots =>
    let here := if least = 0 then [spots] else []
    if most = some 0 || spots.isEmpty then here
    else
      let onward (s : Spot) : List Spot :=
        (step s).filter fun t => least > 0 || decide (t.passed > s.passed)
      here ++ stepsFrom groupsMatter step fuel (least - 1) (most.map (· - 1))
        (mergeWays groupsMatter (spots.map onward))

namespace Expression

/-- What a group has matched is matched again somewhere. -/
def hasAgain : Expression → Bool
  | next first second | either first second => first.hasAgain || second.hasAgain
  | group _ inside => inside.hasAgain
  | times _ _ body => body.hasAgain
  | again _ _ => true
  | _ => false

/-- There is a group in the expression. -/
def hasGroup : Expression → Bool
  | next first second | either first second => first.hasGroup || second.hasGroup
  | group _ _ => true
  | times _ _ body => body.hasGroup
  | _ => false

/-- Where the ways to match from a spot end. -/
def ends (groupsMatter : Bool) : Expression → Spot → List Spot
  | empty, s => [s]
  | one set, s =>
    match s.rest with
    | c :: _ => if set.has c then [s.skip 1] else []
    | [] => []
  | edge e, s => if e.fits s.last s.rest.head? then [s] else []
  | next first second, s =>
    mergeWays groupsMatter ((first.ends groupsMatter s).map (second.ends groupsMatter))
  | either first second, s =>
    mergeWays groupsMatter [first.ends groupsMatter s, second.ends groupsMatter s]
  | group number inside, s =>
    (inside.ends groupsMatter s).map fun t => t.keep number (s.upTo t)
  | times least most body, s =>
    match body with
    | one set =>
      let run := (s.rest.takeWhile set.has).length
      let count := min run (most.getD run)
      (List.range (count + 1 - least)).map fun n => s.skip (count - n)
    | _ =>
      mergeWays groupsMatter
        (stepsFrom groupsMatter (body.ends groupsMatter) (least + s.rest.length + 1) least most
          [s])
  | again number folded, s =>
    match s.groups.lookup number with
    | some cs =>
      let fold (cs : List Char) : List Char := if folded then cs.map Char.toLower else cs
      if (fold cs).isPrefixOf (fold s.rest) then [s.skip cs.length] else []
    | none => []

/-- The ways to match from a spot on, where no group has matched yet. -/
def waysFrom (e : Expression) (s : Spot) : List Spot :=
  e.ends e.hasAgain { s with groups := [] }

/-- The end of the longest way to match from a spot. -/
def match? (e : Expression) (s : Spot) : Option Spot :=
  (e.waysFrom s).head?

/-- The first spot from one on where an expression matches, and where that ends; `count` is not
below how many spots there are. -/
def searchFrom (e : Expression) : Nat → Spot → Option (Spot × Spot)
  | 0, _ => none
  | count + 1, s =>
    match e.match? s with
    | some t => some (s, t)
    | none => if s.rest.isEmpty then none else searchFrom e count (s.skip 1)

/-- The first match from a spot on, and where it ends. -/
def search (e : Expression) (s : Spot) : Option (Spot × Spot) :=
  e.searchFrom (s.rest.length + 1) s

/-- The expression matches somewhere in a text. -/
def occurs (e : Expression) (text : List Char) : Bool :=
  (e.search (.start text)).isSome

/-- The expression that stands for a text. -/
def ofText (folded : Bool) (cs : List Char) : Expression :=
  cs.foldr (fun c e => next (one (if folded then (CharSet.exactly c).folded else .exactly c)) e)
    empty

/-- The expression that matches what another does as a whole text. -/
def whole (e : Expression) : Expression :=
  next (edge .textStart) (next e (edge .textEnd))

end Expression

/-! ## Reading -/

/-- How expressions are written. -/
structure Dialect where
  /-- Signs have a meaning by themselves; otherwise some have one after a backslash. -/
  extended : Bool := false
  /-- Signs stand for themselves where they would make no sense. -/
  lenient : Bool := false
  /-- Letters after a backslash stand for characters that are hard to write. -/
  escapes : Bool := false
  /-- Every line has a start and an end, not only the text. -/
  lines : Bool := false
  /-- Capital letters and small ones are the same. -/
  folded : Bool := false

/-- A character that is written by its number in some base, and what follows it; so many digits at
most. -/
def numberedChar? (base most : Nat) (cs : List Char) : Option (Char × List Char) :=
  let digits := (cs.take most).takeWhile fun c => (digitIn? base c).isSome
  if digits.isEmpty then none
  else some (Char.ofNat ((digitsIn base digits).1 % 256), cs.drop digits.length)

/-- The character that is written after a backslash, if it is hard to write, and what follows. -/
def hardChar? (c : Char) (rest : List Char) : Option (Char × List Char) :=
  match c with
  | 'n' => some ('\n', rest)
  | 't' => some ('\t', rest)
  | 'r' => some ('\r', rest)
  | 'f' => some (Char.ofNat 12, rest)
  | 'v' => some (Char.ofNat 11, rest)
  | 'a' => some (Char.ofNat 7, rest)
  | 'd' => numberedChar? 10 3 rest
  | 'o' => numberedChar? 8 3 rest
  | 'x' => numberedChar? 16 2 rest
  | 'c' =>
    match rest with
    | c :: rest => some (Char.ofNat (c.toUpper.toNat ^^^ 64), rest)
    | [] => none
  | _ => none

/-- What is said of a class that has lost its outer brackets. -/
def looseClassWords : String :=
  "character class syntax is [[:space:]], not [:space:]"

/-- What is wrong with brackets that are not closed. -/
def openBracketWords : String :=
  "Unmatched [, [^, [:, [., or [="

/-- Reads one member of a set in brackets: a character, or a class as ranges. -/
def bracketMember (y : Dialect) (cs : List Char) :
    Except String ((Char ⊕ List (Char × Char)) × List Char) :=
  match cs with
  | [] => .error openBracketWords
  | '[' :: sign :: rest =>
    if sign = ':' || sign = '.' || sign = '=' then
      let name := rest.takeWhile (· ≠ sign)
      match rest.drop name.length with
      | _ :: ']' :: rest =>
        if sign = ':' then
          match classRanges? name with
          | some ranges => .ok (.inr ranges, rest)
          | none => .error "Invalid character class name"
        else
          match name with
          | [c] => .ok (.inl c, rest)
          | _ => .error "Invalid collation character"
      | _ => .error openBracketWords
    else .ok (.inl '[', sign :: rest)
  | '\\' :: c :: rest =>
    match if y.escapes then hardChar? c rest else none with
    | some (c, rest) => .ok (.inl c, rest)
    | none => .ok (.inl '\\', c :: rest)
  | c :: rest => .ok (.inl c, rest)

/-- Reads the members of a set in brackets up to its end, onto the ranges read before. -/
def bracketMembers (y : Dialect) : Nat → Bool → List (Char × Char) → List Char →
    Except String (List (Char × Char) × List Char)
  | 0, _, _, _ => .error openBracketWords
  | fuel + 1, first, done, cs => do
    match cs, first with
    | ']' :: rest, false => return (done, rest)
    | _, _ =>
      let (member, rest) ← bracketMember y cs
      match member, rest with
      | .inr ranges, _ => bracketMembers y fuel false (ranges ++ done) rest
      | .inl a, '-' :: b :: more =>
        if b = ']' then bracketMembers y fuel false ((a, a) :: done) rest
        else
          match ← bracketMember y (b :: more) with
          | (.inl b, rest) =>
            if b < a then throw "Invalid range end"
            bracketMembers y fuel false ((a, b) :: done) rest
          | (.inr _, _) => throw "Invalid range end"
      | .inl a, _ => bracketMembers y fuel false ((a, a) :: done) rest

/-- Reads a set in brackets, after its opening bracket. -/
def bracketSet (y : Dialect) (cs : List Char) : Except String (CharSet × List Char) := do
  let (negated, inside) : Bool × List Char :=
    match cs with
    | '^' :: rest => (true, rest)
    | _ => (false, cs)
  if inside.isEmpty then throw "Invalid regular expression"
  let (ranges, rest) ← bracketMembers y (inside.length + 1) true [] inside
  let written := inside.take (inside.length - rest.length - 1)
  if written.length > 2 && written.head? = some ':' && written.getLast? = some ':' then
    throw looseClassWords
  return (.ranges negated ranges, rest)

/-- A number among bounds: `none` if it is missing, and a failure if it is no number. -/
def boundNumber (cs : List Char) : Except Unit (Option Nat) :=
  if cs.isEmpty then .ok none
  else if cs.all Char.isDigit then
    .ok (some (digitsIn 10 cs).1)
  else .error ()

/-- What bounds in braces say. -/
inductive Bounds where
  | times (least : Nat) (most : Option Nat) (rest : List Char)
  | wrong (words : String)
  /-- They are no bounds at all. -/
  | none

/-- How often something may come at most. -/
def repeatLimit : Nat := 32767

/-- Reads bounds, after their opening brace. -/
def readBounds (y : Dialect) (cs : List Char) : Bounds :=
  let isEnd (cs : List Char) : Bool :=
    if y.extended then cs.head? = some '\x7d' else ['\\', '\x7d'].isPrefixOf cs
  let rec upToEnd : List Char → List Char → Option (List Char × List Char)
    | done, [] => if isEnd [] then some (done.reverse, []) else .none
    | done, c :: cs =>
      if isEnd (c :: cs) then some (done.reverse, cs.drop (if y.extended then 0 else 1))
      else upToEnd (c :: done) cs
  let invalid := "Invalid content of \\\x7b\\\x7d"
  match upToEnd [] cs with
  | .none => if y.extended && y.lenient then .none else .wrong "Unmatched \\\x7b"
  | some (inside, rest) =>
    let first := inside.takeWhile (· ≠ ',')
    let second := inside.drop first.length
    match boundNumber first, boundNumber (second.drop 1) with
    | .ok .none, .ok most =>
      if second.isEmpty then .wrong invalid
      else if most.any (· > repeatLimit) then .wrong "Regular expression too big"
      else .times 0 most rest
    | .ok (some least), .ok most =>
      let most := if second.isEmpty then some least else most
      if most.any (· < least) then .wrong invalid
      else if most.getD least > repeatLimit then .wrong "Regular expression too big"
      else .times least most rest
    | _, _ => if y.extended && y.lenient then .none else .wrong invalid

/-- A sign of an expression. -/
inductive Sign where
  | opening
  | closing
  | bar
  /-- The sign of a repetition as it is written: `*`, `+`, `?` or an opening brace. -/
  | times (sign : Char)
  /-- What a group has matched. -/
  | again (number : Nat)
  | edge (e : Edge)
  | one (set : CharSet)
  deriving Repr

/-- The characters that a letter after a backslash stands for. -/
def letterSet? (c : Char) : Option CharSet :=
  let letters := [('a', 'z'), ('A', 'Z'), ('0', '9'), ('_', '_')]
  let blanks := [(' ', ' '), ('\t', '\r')]
  match c with
  | 'w' => some (.ranges false letters)
  | 'W' => some (.ranges true letters)
  | 's' => some (.ranges false blanks)
  | 'S' => some (.ranges true blanks)
  | _ => none

/-- The edge that a sign after a backslash stands for. -/
def letterEdge? (c : Char) : Option Edge :=
  match c with
  | '<' => some .wordStart
  | '>' => some .wordEnd
  | 'b' => some .wordEdge
  | 'B' => some .noWordEdge
  | '\x60' => some .textStart
  | '\'' => some .textEnd
  | _ => none

/-- The sign that a character is where it has a meaning. -/
def signOf? (c : Char) : Option Sign :=
  match c with
  | '(' => some .opening
  | ')' => some .closing
  | '|' => some .bar
  | '+' | '?' | '\x7b' => some (.times c)
  | _ => none

/-- Reads the next sign, if there is one; `first` says that the start of a line can be meant. -/
def readSign (y : Dialect) (first : Bool) (cs : List Char) :
    Except String (Option (Sign × List Char)) := do
  let plain (c : Char) (rest : List Char) : Option (Sign × List Char) :=
    some (.one (.exactly c), rest)
  match cs with
  | [] => return none
  | ['\\'] => throw "Trailing backslash"
  | '\\' :: c :: rest =>
    match letterSet? c, letterEdge? c, if y.escapes then hardChar? c rest else none with
    | some set, _, _ => return some (.one set, rest)
    | none, some e, _ => return some (.edge e, rest)
    | none, none, some (c, rest) => return plain c rest
    | none, none, none =>
      if '1' ≤ c && c ≤ '9' then return some (.again (c.toNat - '0'.toNat), rest)
      else
        match if y.extended then none else signOf? c with
        | some sign => return some (sign, rest)
        | none => return plain c rest
  | '.' :: rest => return some (.one .any, rest)
  | '[' :: rest =>
    let (set, rest) ← bracketSet y rest
    return some (.one set, rest)
  | '*' :: rest => return some (.times '*', rest)
  | '^' :: rest =>
    if y.extended || first then
      return some (.edge (if y.lines then .lineStart else .textStart), rest)
    else return plain '^' rest
  | '$' :: rest =>
    let last := rest.isEmpty || ['\\', ')'].isPrefixOf rest || ['\\', '|'].isPrefixOf rest
    if y.extended || last then return some (.edge (if y.lines then .lineEnd else .textEnd), rest)
    else return plain '$' rest
  | c :: rest =>
    match if y.extended then signOf? c else none with
    | some sign => return some (sign, rest)
    | none => return plain c rest

/-- How far an expression was read. -/
structure ExpressionReading where
  rest : List Char
  /-- How many groups have begun. -/
  groups : Nat
  /-- The groups that have ended. -/
  ended : List Nat
  /-- What is said of it that is no reason to stop. -/
  warnings : List String

/-- Reading an expression. -/
abbrev ReadExpression := StateT ExpressionReading (Except String)

/-- What is said of a repetition that follows nothing. -/
def startWords (sign : Char) : String :=
  (if sign = '\x7b' then "\x7b...\x7d" else String.ofList [sign]) ++ " at start of expression"

/-- Reads the signs of repetitions that follow something; `warns` says that they follow nothing but
edges. -/
def readRepeats (y : Dialect) (warns : Bool) : Nat → Expression → ReadExpression Expression
  | 0, e => return e
  | fuel + 1, e => do
    let s ← get
    match ← readSign y false s.rest with
    | some (.times sign, rest) =>
      let go (least : Nat) (most : Option Nat) (rest : List Char) : ReadExpression Expression := do
        set { s with rest, warnings := s.warnings ++ if warns then [startWords sign] else [] }
        readRepeats y warns fuel (.times least most e)
      match sign with
      | '*' => go 0 none rest
      | '+' => go 1 none rest
      | '?' => go 0 (some 1) rest
      | _ =>
        match readBounds y rest with
        | .times least most rest => go least most rest
        | .wrong words => throw words
        | .none => return e
    | _ => return e

mutual

/-- Reads ways with bars between them, up to the end of a group that is `deep` in others. -/
def readEither (y : Dialect) : Nat → Nat → ReadExpression Expression
  | 0, _ => throw "Memory exhausted"
  | fuel + 1, deep => do
    let way ← readWay y fuel deep true .empty
    let s ← get
    match ← readSign y false s.rest with
    | some (.bar, rest) =>
      set { s with rest }
      return .either way (← readEither y fuel deep)
    | _ => return way

/-- Reads one way onto what was read of it; `first` says that nothing was, or only edges. -/
def readWay (y : Dialect) : Nat → Nat → Bool → Expression → ReadExpression Expression
  | 0, _, _, _ => throw "Memory exhausted"
  | fuel + 1, deep, first, done => do
    let s ← get
    let add (e : Expression) (rest : List Char) : ReadExpression Expression := do
      set { s with rest }
      let e ← readRepeats y false (rest.length + 1) e
      readWay y fuel deep false (.next done e)
    let literal (c : Char) (rest : List Char) : ReadExpression Expression :=
      add (.ofText y.folded [c]) rest
    match ← readSign y first s.rest with
    | none | some (.bar, _) => return done
    | some (.one set, rest) => add (.one (if y.folded then set.folded else set)) rest
    | some (.edge e, rest) =>
      set { s with rest }
      if y.lenient && y.extended then
        let e ← readRepeats y first (rest.length + 1) (.edge e)
        readWay y fuel deep first (.next done e)
      else readWay y fuel deep true (.next done (.edge e))
    | some (.again n, rest) =>
      if s.ended.contains n then add (.again n y.folded) rest else throw "Invalid back reference"
    | some (.opening, rest) =>
      let number := s.groups + 1
      set { s with rest, groups := number }
      let inside ← readEither y fuel (deep + 1)
      let s ← get
      match ← readSign y false s.rest with
      | some (.closing, rest) =>
        set { s with ended := number :: s.ended }
        let s ← get
        set { s with rest }
        let e ← readRepeats y false (rest.length + 1) (.group number inside)
        readWay y fuel deep false (.next done e)
      | _ => throw "Unmatched ( or \\("
    | some (.closing, rest) =>
      if deep > 0 then return done
      else if y.lenient && y.extended then literal ')' rest
      else throw "Unmatched ) or \\)"
    | some (.times sign, rest) =>
      let skipped (rest : List Char) : ReadExpression Expression := do
        set { s with rest, warnings := s.warnings ++ [startWords sign] }
        readWay y fuel deep first done
      if !first then literal sign rest
      else if !y.extended then
        if sign = '\x7b' && !y.lenient then throw "Invalid preceding regular expression"
        else literal sign rest
      else if !y.lenient then throw "Invalid preceding regular expression"
      else if sign ≠ '\x7b' then skipped rest
      else
        match readBounds y rest with
        | .times _ _ rest => skipped rest
        | .wrong words => throw words
        | .none => literal sign rest

end

/-- Reads an expression, with what is said of it; else what is wrong with it. -/
def Expression.read (y : Dialect) (cs : List Char) : Except String (Expression × List String) := do
  let (e, s) ← (readEither y (2 * cs.length + 4) 0).run ⟨cs, 0, [], []⟩
  return (e, s.warnings)

end AgentConsole.Shell
