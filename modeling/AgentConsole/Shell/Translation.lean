import AgentConsole.Shell.Expression
import AgentConsole.Shell.Line

/-!
# Characters for others

What `tr` makes of a text: characters of a set are replaced, left out, or not repeated. A set is
written with ranges, classes, escapes and fillings.
-/

namespace AgentConsole.Shell

open AgentConsole.Text

/-- A part of a set. -/
inductive SetPart where
  | chars (cs : List Char)
  /-- The capital letters or the small ones, which may stand for each other. -/
  | letters (capital : Bool)
  | named (name : List Char)
  /-- A character so many times, or as often as needed. -/
  | filling (c : Char) (count : Option Nat)

/-- The characters of a set as they are written, and which ones are escaped. -/
def unescapeSet : Nat → List Char → List (Char × Bool)
  | 0, _ => []
  | _, [] => []
  | fuel + 1, c :: cs =>
    if c ≠ '\\' then (c, false) :: unescapeSet fuel cs
    else
      match cs with
      | [] => [('\\', true)]
      | d :: rest =>
        let digits := (cs.take 3).takeWhile isOctal
        if !digits.isEmpty then
          (Char.ofNat ((digitsIn 8 digits).1 % 256), true) ::
            unescapeSet fuel (cs.drop digits.length)
        else
          let simple : Char :=
            if d = 'b' then Char.ofNat 8
            else if "afnrtv".toList.contains d then ((hardChar? d []).map (·.1)).getD d
            else d
          (simple, true) :: unescapeSet fuel rest

/-- A set ends in a backslash that escapes nothing. -/
def endsOpen (cs : List Char) : Bool :=
  (cs.reverse.takeWhile (· = '\\')).length % 2 = 1

/-- The characters of a range. -/
def charRange (a b : Char) : List Char :=
  (List.range (b.toNat + 1 - a.toNat)).map fun n => Char.ofNat (a.toNat + n)

/-- The text of characters up to the end of a construct, two signs that are not escaped, and what
follows it. -/
def upToClose (sign : Char) : List Char → List (Char × Bool) →
    Option (List Char × List (Char × Bool))
  | done, (c, false) :: (d, false) :: rest =>
    if c = sign && d = ']' then some (done.reverse, rest)
    else upToClose sign (c :: done) ((d, false) :: rest)
  | done, (c, _) :: rest => upToClose sign (c :: done) rest
  | _, [] => none

/-- The number of times in a filling: in octal after a zero; none for as often as needed. -/
def fillingCount? (digits : List Char) : Option (Option Nat) :=
  if digits.isEmpty then some none
  else if !digits.all Char.isDigit then none
  else
    let n := if digits.head? = some '0' then (digitsIn 8 digits).1 else digitsValue digits
    some (if n = 0 then none else some n)

/-- A construct in brackets at the front, and what follows it. -/
def readConstruct (cs : List (Char × Bool)) :
    Except String (Option (SetPart × List (Char × Bool))) :=
  match cs with
  | ('[', false) :: (':', false) :: rest =>
    match upToClose ':' [] rest with
    | some (name, rest) =>
      let part : SetPart :=
        if name = "upper".toList then .letters true
        else if name = "lower".toList then .letters false
        else .named name
      if (classRanges? name).isSome then .ok (some (part, rest))
      else .error ("invalid character class " ++ inQuotes (String.ofList name))
    | none => .ok none
  | ('[', false) :: ('=', false) :: rest =>
    match upToClose '=' [] rest with
    | some ([c], rest) => .ok (some (.chars [c], rest))
    | some (name, _) =>
      .error (String.ofList name ++ ": equivalence class operand must be a single character")
    | none => .ok none
  | ('[', false) :: (c, _) :: ('*', false) :: rest =>
    let digits := (rest.takeWhile (· ≠ (']', false))).map (·.1)
    match rest.drop digits.length with
    | _ :: after =>
      match fillingCount? digits with
      | some count => .ok (some (.filling c count, after))
      | none =>
        .error ("invalid repeat count " ++ inQuotes (String.ofList digits) ++
          " in [c*n] construct")
    | [] => .ok none
  | _ => .ok none

/-- The parts of a set. -/
def setParts : Nat → List (Char × Bool) → Except String (List SetPart)
  | 0, _ => .ok []
  | _, [] => .ok []
  | fuel + 1, (c, escaped) :: cs => do
    match ← readConstruct ((c, escaped) :: cs) with
    | some (part, rest) => return part :: (← setParts fuel rest)
    | none =>
      match cs with
      | ('-', false) :: (d, _) :: rest =>
        if d < c then
          throw ("range-endpoints of '" ++ String.ofList [c, '-', d] ++
            "' are in reverse collating sequence order")
        return .chars (charRange c d) :: (← setParts fuel rest)
      | _ => return .chars [c] :: (← setParts fuel cs)

/-- The characters of a part, where it has a length of its own. -/
def SetPart.members : SetPart → List Char
  | chars cs => cs
  | letters capital => if capital then charRange 'A' 'Z' else charRange 'a' 'z'
  | named name =>
    (List.range 256).map Char.ofNat |>.filter fun c =>
      (CharSet.ranges false ((classRanges? name).getD [])).has c
  | filling c count => List.replicate (count.getD 0) c

/-- Where the parts of case letters start among the characters of a set. -/
def letterPlaces (parts : List SetPart) : List Nat :=
  (parts.foldl (fun (place, found) (part : SetPart) =>
    let found := match part with
      | .letters _ => place :: found
      | _ => found
    (place + part.members.length, found)) (0, ([] : List Nat))).2

/-- The characters of a set that has to be so long; the filling without a count makes it so. -/
def filledMembers (parts : List SetPart) (length : Nat) : List Char :=
  let known := (parts.map fun p => p.members.length).foldl (· + ·) 0
  parts.flatMap fun (part : SetPart) => match part with
    | .filling c none => List.replicate (length - known) c
    | part => part.members

/-- A text without repetitions of characters of a set. -/
def squeeze (set : List Char) (cs : List Char) : List Char :=
  cs.foldr (fun c out => if out.head? = some c && set.contains c then out else c :: out) []

/-- A text with the characters of one set replaced by those of another, the last of which stands
for all that are missing; of a character that comes several times the last one counts. -/
def replaceChars (source target : List Char) (cs : List Char) : List Char :=
  let last := target.getLast?
  let pairs := (source.zipIdx.map fun p => (p.1, ((target[p.2]?).or last).getD p.1)).reverse
  cs.map fun c => (pairs.lookup c).getD c

/-- What a set is replaced by: its characters, unless it cannot be one. -/
def replacingSet (sourceParts targetParts : List SetPart) (source : List Char)
    (complemented truncated : Bool) : Except String (List Char) := do
  let isNamed (p : SetPart) : Bool := match p with
    | .named _ => true
    | _ => false
  let isOpen (p : SetPart) : Bool := match p with
    | .filling _ none => true
    | _ => false
  if targetParts.countP isOpen > 1 then
    throw "only one [c*] repeat construct may appear in string2"
  if targetParts.any isNamed then
    throw ("when translating, the only character classes that may appear in\n" ++
      "string2 are 'upper' and 'lower'")
  if !(letterPlaces targetParts).all ((letterPlaces sourceParts).contains ·) then
    throw "misaligned [:upper:] and/or [:lower:] construct"
  let target := filledMembers targetParts source.length
  if target.isEmpty && !truncated then
    throw "when not truncating set1, string2 must be non-empty"
  if complemented && sourceParts.any isNamed && target.eraseDups.length > 1 then
    throw ("when translating with complemented character classes,\n" ++
      "string2 must map all characters in the domain to one")
  return target

/-- Replaces characters of the input, or leaves them out. -/
def tr (s : Start) : Effect :=
  let switches := [flag 'd' "delete", flag 's' "squeeze-repeats", flag 'c' "complement",
    flag 'C', flag 't' "truncate-set1"]
  s.withOptions switches fun o =>
    let complemented := o.has 'c' || o.has 'C'
    let after (words hint : String) (a : String) : Effect :=
      s.refuses (words ++ " " ++ inQuotes a ++ (if hint.isEmpty then "" else "\n" ++ hint))
    let parsed (a : String) : Except String (List SetPart) :=
      let cs := unescapeSet (a.length + 1) a.toList
      setParts (cs.length + 1) cs
    let warnings := (o.operands.filter fun a => endsOpen a.toList).map fun _ =>
      s.complaint "warning: an unescaped backslash at end of string is not portable"
    let finish (out : Except String (List Char)) : Effect :=
      match out with
      | .ok out => (s.writes (warnings ++ [.said out])).reading s
      | .error words => s.writes (warnings ++ [s.complaint words]) 1
    let sourceOf (parts : List SetPart) : Except String (List Char) := do
      if parts.any fun (p : SetPart) => match p with
          | .filling _ _ => true
          | _ => false then
        throw "the [c*] repeat construct may not appear in string1"
      let members := parts.flatMap SetPart.members
      return if complemented then
        ((List.range 256).map Char.ofNat).filter (!members.contains ·) else members
    match o.operands with
    | [] => s.refuses "missing operand"
    | [first] =>
      if o.has 'd' == o.has 's' then
        after "missing operand after" (if o.has 'd' then
          "Two strings must be given when both deleting and squeezing repeats."
          else "Two strings must be given when translating.") first
      else
        finish do
          let set ← sourceOf (← parsed first)
          return if o.has 'd' then s.input.filter (!set.contains ·) else squeeze set s.input
    | [first, second] =>
      if o.has 'd' && !o.has 's' then
        after "extra operand"
          "Only one string may be given when deleting without squeezing repeats." second
      else
        finish do
          let sourceParts ← parsed first
          let targetParts ← parsed second
          let source ← sourceOf sourceParts
          if o.has 'd' then
            let kept := s.input.filter (!source.contains ·)
            return squeeze (filledMembers targetParts 0) kept
          else
            let target ← replacingSet sourceParts targetParts source complemented (o.has 't')
            let source := if o.has 't' then source.take target.length else source
            let out := replaceChars source target s.input
            return if o.has 's' then squeeze target out else out
    | _ :: _ :: extra :: _ => after "extra operand" "" extra

end AgentConsole.Shell
