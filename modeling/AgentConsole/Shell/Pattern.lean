/-!
# Patterns

Patterns of file names, which have to match a whole text.
-/

namespace AgentConsole.Shell

/-- What one character of a text can be. -/
inductive CharSet where
  | any
  | exactly (c : Char)
  /-- In one of the ranges, or in none of them. -/
  | ranges (negated : Bool) (ranges : List (Char × Char))
  deriving DecidableEq, Repr

/-- The character is one of the set. -/
def CharSet.has (s : CharSet) (c : Char) : Bool :=
  match s with
  | any => true
  | exactly d => c = d
  | ranges negated rs => (rs.any fun r => r.1 ≤ c && c ≤ r.2) != negated

/-- A range with the letters of it in the other case. -/
def foldedRange (r : Char × Char) : List (Char × Char) :=
  let part (first last : Char) (shift : Char → Char) : List (Char × Char) :=
    let low := if r.1 < first then first else r.1
    let high := if last < r.2 then last else r.2
    if low ≤ high then [(shift low, shift high)] else []
  r :: part 'a' 'z' Char.toUpper ++ part 'A' 'Z' Char.toLower

/-- The set with the letters of it in either case. -/
def CharSet.folded (s : CharSet) : CharSet :=
  match s with
  | any => any
  | exactly c => ranges false (foldedRange (c, c))
  | ranges negated rs => ranges negated (rs.flatMap foldedRange)

/-- The ranges of a named class, if there is one of that name. -/
def classRanges? (name : List Char) : Option (List (Char × Char)) :=
  match String.ofList name with
  | "alpha" => some [('a', 'z'), ('A', 'Z')]
  | "digit" => some [('0', '9')]
  | "xdigit" => some [('0', '9'), ('a', 'f'), ('A', 'F')]
  | "alnum" => some [('a', 'z'), ('A', 'Z'), ('0', '9')]
  | "upper" => some [('A', 'Z')]
  | "lower" => some [('a', 'z')]
  | "space" => some [(' ', ' '), ('\t', '\r')]
  | "blank" => some [(' ', ' '), ('\t', '\t')]
  | "punct" => some [('!', '/'), (':', '@'), ('[', '\x60'), ('\x7b', '~')]
  | "graph" => some [('!', '~')]
  | "print" => some [(' ', '~')]
  | "cntrl" => some [(Char.ofNat 0, Char.ofNat 31), (Char.ofNat 127, Char.ofNat 127)]
  | _ => none

/-- The members of a set in brackets, onto those read; what follows its end, if it has one. -/
def readMembers : Nat → List (Char × Char) → List Char → Option (List (Char × Char) × List Char)
  | 0, _, _ => none
  | _, _, [] => none
  | fuel + 1, done, cs =>
    match cs with
    | '[' :: ':' :: rest =>
      let name := rest.takeWhile (· ≠ ':')
      match rest.drop name.length with
      | ':' :: ']' :: rest => readMembers fuel ((classRanges? name).getD [] ++ done) rest
      | _ => readMembers fuel (('[', '[') :: done) (':' :: rest)
    | ']' :: rest => if done.isEmpty then readMembers fuel [(']', ']')] rest else some (done, rest)
    | a :: '-' :: b :: rest =>
      if b = ']' then readMembers fuel ((a, a) :: done) ('-' :: b :: rest)
      else readMembers fuel ((a, b) :: done) rest
    | a :: rest => readMembers fuel ((a, a) :: done) rest
    | [] => none

/-- A set in brackets, after its opening bracket. -/
def readSet (cs : List Char) : Option (CharSet × List Char) :=
  match cs with
  | '!' :: rest | '^' :: rest =>
    (readMembers (rest.length + 1) [] rest).map fun p => (.ranges true p.1, p.2)
  | _ => (readMembers (cs.length + 1) [] cs).map fun p => (.ranges false p.1, p.2)

/-- A piece of a pattern: one character, or any number of any. -/
inductive Glob where
  | one (set : CharSet)
  | star
  deriving DecidableEq, Repr

/-- The pieces of a pattern. What is quoted stands for itself. -/
def globOf : Nat → List (Char × Bool) → List Glob
  | 0, _ => []
  | _, [] => []
  | fuel + 1, (c, quoted) :: cs =>
    if quoted then .one (.exactly c) :: globOf fuel cs
    else if c = '*' then .star :: globOf fuel cs
    else if c = '?' then .one .any :: globOf fuel cs
    else if c = '[' then
      match readSet (cs.map (·.1)) with
      | some (set, rest) => .one set :: globOf fuel (cs.drop (cs.length - rest.length))
      | none => .one (.exactly c) :: globOf fuel cs
    else .one (.exactly c) :: globOf fuel cs

/-- The pieces match the whole text. -/
def globMatches : List Glob → List Char → Bool
  | [], [] => true
  | [], _ :: _ => false
  | .one _ :: _, [] => false
  | .one set :: ps, c :: cs => set.has c && globMatches ps cs
  | .star :: ps, [] => globMatches ps []
  | .star :: ps, c :: cs => globMatches ps (c :: cs) || globMatches (.star :: ps) cs
  termination_by ps cs => ps.length + cs.length

/-- The pattern matches the whole text. -/
def patternMatches (pattern : List (Char × Bool)) (cs : List Char) : Bool :=
  globMatches (globOf (pattern.length + 1) pattern) cs

end AgentConsole.Shell
