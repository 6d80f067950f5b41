import AgentConsole.Shell.Expression
import AgentConsole.Shell.OctetText
import AgentConsole.Shell.Utility

/-!
# Calculations

What `expr` makes of its arguments, each of which is one value or one sign. Signs that bind more
loosely come first in `signLevels`, and signs of one level are taken from left to right.
-/

namespace AgentConsole.Shell

open AgentConsole.Text

/-- Calculating, over the arguments that are left and the one before them, up to a complaint. -/
abbrev Calculate := StateT (List String × String) (Except String)

/-- Passes over so many arguments. -/
def passArguments (count : Nat) : Calculate Unit :=
  modify fun (rest, before) => (rest.drop count, ((rest.take count).getLast?).getD before)

/-- The signs between values, from those that bind most loosely. -/
def signLevels : List (List String) :=
  [["|"], ["&"], ["<", "<=", "=", "==", "!=", ">=", ">"], ["+", "-"], ["*", "/", "%"], [":"]]

/-- The whole number a value is, of any size: digits, with a minus sign or without. -/
def wholeNumber? (value : String) : Option Int :=
  let (negative, digits) : Bool × List Char :=
    match value.toList with
    | '-' :: rest => (true, rest)
    | cs => (false, cs)
  if digits.isEmpty || !digits.all Char.isDigit then none
  else
    let n : Int := (digitsValue digits : Nat)
    some (if negative then -n else n)

/-- The value is empty or zero. -/
def isNull (value : String) : Bool :=
  value.isEmpty || wholeNumber? value = some 0

/-- What an expression matches at the front of a text: what its group did, if it has one, or else
how much. -/
def matchValue (text pattern : String) : Calculate String := do
  let (e, _) ← Expression.read { lenient := true } pattern.toList
  match e.match? (.start text.toList) with
  | some t =>
    return if e.hasGroup then String.ofList ((t.groups.lookup 1).getD []) else toString t.passed
  | none => return if e.hasGroup then "" else "0"

/-- What a sign makes of two values. -/
def signValue (sign a b : String) : Calculate String := do
  let numbers (f : Int → Int → Int) : Calculate String :=
    match wholeNumber? a, wholeNumber? b with
    | some m, some n => return toString (f m n)
    | _, _ => throw "non-integer argument"
  let quotient (f : Int → Int → Int) : Calculate String :=
    if wholeNumber? b = some 0 && (wholeNumber? a).isSome then throw "division by zero"
    else numbers f
  let (below, equal) : Bool × Bool :=
    match wholeNumber? a, wholeNumber? b with
    | some m, some n => (m < n, m = n)
    | _, _ => (a ≠ b && notAfter a.toList b.toList, a = b)
  let truth (holds : Bool) : Calculate String := return if holds then "1" else "0"
  match sign with
  | "|" => return if !isNull a then a else if !isNull b then b else "0"
  | "&" => return if isNull a || isNull b then "0" else a
  | "<" => truth below
  | "<=" => truth (below || equal)
  | "=" | "==" => truth equal
  | "!=" => truth (!equal)
  | ">=" => truth (!below)
  | ">" => truth (!below && !equal)
  | "+" => numbers (· + ·)
  | "-" => numbers (· - ·)
  | "*" => numbers (· * ·)
  | "/" => quotient Int.tdiv
  | "%" => quotient Int.tmod
  | _ => matchValue a b

/-- Part of a text: so many characters from a place on, where the first has the place one. -/
def partOf (text start count : String) : String :=
  match wholeNumber? start, wholeNumber? count with
  | some m, some n =>
    if m < 1 then "" else String.ofList ((text.toList.drop (m.toNat - 1)).take n.toNat)
  | _, _ => ""

/-- Where the first character of a text is that is one of those sought; zero if none is. -/
def placeOf (text sought : String) : String :=
  toString (((text.toList.findIdx? (sought.toList.contains ·)).map (· + 1)).getD 0)

/-- The next argument, just as it is. -/
def nextArgument : Calculate String := do
  match ← get with
  | ([], before) => throw ("syntax error: missing argument after " ++ inQuotes before)
  | (a :: _, _) =>
    passArguments 1
    return a

mutual

/-- A value with the signs of these levels in it; nothing is calculated that does not count. -/
def valueAt : Nat → Bool → List (List String) → Calculate String
  | 0, _, _ => return ""
  | fuel + 1, counts, [] => do
    let value : Calculate String := valueAt fuel counts []
    match ← nextArgument with
    | "(" =>
      let value ← valueAt fuel counts signLevels
      match ← get with
      | (")" :: _, _) =>
        passArguments 1
        return value
      | (a :: _, _) => throw ("syntax error: expecting ')' instead of " ++ inQuotes a)
      | ([], before) => throw ("syntax error: expecting ')' after " ++ inQuotes before)
    | ")" => throw "syntax error: unexpected ')'"
    | "+" => nextArgument
    | "length" => return toString (← value).length
    | "match" =>
      let text ← value
      let pattern ← value
      if counts then matchValue text pattern else return ""
    | "index" => return placeOf (← value) (← value)
    | "substr" => return partOf (← value) (← value) (← value)
    | a => return a
  | fuel + 1, counts, signs :: tighter => do
    let first ← valueAt fuel counts tighter
    signsAfter fuel counts signs tighter first

/-- A value with the signs of a level that come after it. -/
def signsAfter : Nat → Bool → List String → List (List String) → String → Calculate String
  | 0, _, _, _, first => return first
  | fuel + 1, counts, signs, tighter, first => do
    match (← get).1 with
    | sign :: _ =>
      if signs.contains sign then
        passArguments 1
        let needed := (sign ≠ "|" || isNull first) && (sign ≠ "&" || !isNull first)
        let second ← valueAt fuel (counts && needed) tighter
        let value ← if counts then signValue sign first second else pure first
        signsAfter fuel counts signs tighter value
      else return first
    | [] => return first

end

/-- Calculates. -/
def expr (s : Start) : Effect :=
  let arguments := if s.arguments.head? = some "--" then s.arguments.drop 1 else s.arguments
  if arguments.isEmpty then s.refuses "missing operand" 2
  else
    match (valueAt (9 * arguments.length + 9) true signLevels).run (arguments, "") with
    | .error complaint => s.fails 2 [complaint]
    | .ok (value, [], _) =>
      { s.prints (value.toList ++ ['\n']) with status := if isNull value then 1 else 0 }
    | .ok (_, a :: _, _) => s.fails 2 ["syntax error: unexpected argument " ++ inQuotes a]

end AgentConsole.Shell
