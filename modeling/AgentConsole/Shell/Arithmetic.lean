import AgentConsole.Shell.Cursor
import AgentConsole.Shell.Integer

/-!
# Arithmetic

Whole numbers of 64 bits, with the operators and precedences of the command language. A name
stands for the number its value is written as. What does not count is read, but nothing in it is
looked up, set or divided.
-/

namespace AgentConsole.Shell

/-- A sign, name or number of an expression. -/
inductive Term where
  | number (n : Int)
  | name (s : String)
  | sign (s : String)
  /-- A character that no expression has. -/
  | stray
  deriving DecidableEq, Repr

/-- The signs, longer ones first. -/
def arithmeticSigns : List String :=
  ["<<=", ">>=", "<<", ">>", "<=", ">=", "==", "!=", "&&", "||", "+=", "-=", "*=", "/=", "%=",
    "&=", "|=", "^=", "+", "-", "*", "/", "%", "<", ">", "=", "!", "~", "&", "|", "^", "?", ":",
    "(", ")"]

/-- The terms of an expression, up to a stray character. -/
def termsOf : Nat → List Char → List Term
  | 0, _ => []
  | _, [] => []
  | fuel + 1, c :: cs =>
    if c = ' ' || c = '\t' || c = '\n' then termsOf fuel cs
    else if c.isDigit then
      let scan := scanInteger true (c :: cs)
      .number scan.value :: termsOf fuel scan.rest
    else if startsName c then
      .name (String.ofList (c :: cs.takeWhile isNamePart)) ::
        termsOf fuel (cs.dropWhile isNamePart)
    else
      match arithmeticSigns.find? fun s => s.toList.isPrefixOf (c :: cs) with
      | some s => .sign s :: termsOf fuel ((c :: cs).drop s.length)
      | none => [.stray]

/-- The terms that are left, and the variables. -/
structure Sums where
  rest : List Term
  bindings : List (String × String)
  /-- The names of the variables that keep their values. -/
  fixed : List String

/-- Why an expression has no value. -/
inductive SumError where
  /-- The value of a name is no number. -/
  | noNumber (value : String)
  | readOnly (name : String)
  | wrong (words : String)
  deriving DecidableEq, Repr

/-- The error in words, for an expression. -/
def SumError.message (expression : String) : SumError → String
  | noNumber value => "Illegal number: " ++ value
  | readOnly name => name ++ ": is read only"
  | wrong words => "arithmetic expression: " ++ words ++ ": \"" ++ expression ++ "\""

/-- Evaluating, up to an error. -/
abbrev Sum := StateT Sums (Except SumError)

/-- How loosely a sign binds the numbers around it; none for other terms. -/
def looseness? (t : Term) : Option Nat :=
  match t with
  | .sign s =>
    if ["*", "/", "%"].contains s then some 0
    else if ["+", "-"].contains s then some 1
    else if ["<<", ">>"].contains s then some 2
    else if ["<", "<=", ">", ">="].contains s then some 3
    else if ["==", "!="].contains s then some 4
    else if s = "&" then some 5
    else if s = "^" then some 6
    else if s = "|" then some 7
    else none
  | _ => none

/-- Looser than any sign. -/
def loosest : Nat := 8

/-- One for what holds, else zero. -/
def truth (b : Bool) : Int :=
  if b then 1 else 0

/-- An operation on bits. -/
def onBits (f : UInt64 → UInt64 → UInt64) (a b : Int) : Int :=
  wrap64 (f (UInt64.ofInt a) (UInt64.ofInt b)).toNat

/-- The power of two by which a shift multiplies or divides. -/
def shiftFactor (b : Int) : Int :=
  Nat.pow 2 (b % 64).toNat

/-- What a sign makes of two numbers. -/
def applySign (s : String) (a b : Int) : Except SumError Int :=
  match s with
  | "+" => .ok (wrap64 (a + b))
  | "-" => .ok (wrap64 (a - b))
  | "*" => .ok (wrap64 (a * b))
  | "/" => if b = 0 then .error (.wrong "division by zero") else .ok (wrap64 (a.tdiv b))
  | "%" => if b = 0 then .error (.wrong "division by zero") else .ok (wrap64 (a.tmod b))
  | "<" => .ok (truth (a < b))
  | ">" => .ok (truth (a > b))
  | "<=" => .ok (truth (a ≤ b))
  | ">=" => .ok (truth (a ≥ b))
  | "==" => .ok (truth (a = b))
  | "!=" => .ok (truth (a ≠ b))
  | "&" => .ok (onBits (· &&& ·) a b)
  | "|" => .ok (onBits (· ||| ·) a b)
  | "^" => .ok (onBits (· ^^^ ·) a b)
  | "<<" => .ok (wrap64 (a * shiftFactor b))
  | ">>" => .ok (a.fdiv (shiftFactor b))
  | _ => .error (.wrong "expecting EOF")

/-- The number a name stands for. -/
def nameValue (name : String) : Sum Int := do
  match (← get).bindings.lookup name with
  | none => return 0
  | some s =>
    match integer? true s with
    | some n => return n
    | none => throw (.noNumber s)

/-- Gives a name a number. -/
def setName (name : String) (n : Int) : Sum Int := do
  if (← get).fixed.contains name then throw (.readOnly name)
  modify fun s =>
    { s with bindings := (name, toString n) :: s.bindings.filter (·.1 ≠ name) }
  return n

/-- Passes over a sign if it comes next. -/
def passSign (s : String) : Sum Bool := do
  let state ← get
  match state.rest with
  | .sign t :: rest =>
    if t = s then
      set { state with rest }
      return true
    else return false
  | _ => return false

/-- The sign that is done before an assignment, if the term assigns. -/
def assignSign? (t : Term) : Option String :=
  match t with
  | .sign s =>
    if ["=", "+=", "-=", "*=", "/=", "%=", "&=", "|=", "^=", "<<=", ">>="].contains s then
      some (String.ofList s.toList.dropLast)
    else none
  | _ => none

mutual

/-- An assignment, or a choice. -/
def sumAssignment : Nat → Bool → Sum Int
  | 0, _ => throw (.wrong "expecting EOF")
  | fuel + 1, counts => do
    let state ← get
    let assigned : Option (String × String × List Term) :=
      match state.rest with
      | .name name :: t :: rest => (assignSign? t).map fun s => (name, s, rest)
      | _ => none
    match assigned with
    | some (name, sign, rest) =>
      set { state with rest }
      let value ← sumAssignment fuel counts
      if !counts then return value
      else if sign.isEmpty then setName name value
      else setName name (← liftM (applySign sign (← nameValue name) value))
    | none => sumChoice fuel counts

/-- A choice between two numbers, or one of several joined by `||`. -/
def sumChoice : Nat → Bool → Sum Int
  | 0, _ => throw (.wrong "expecting EOF")
  | fuel + 1, counts => do
    let condition ← sumEither fuel counts
    if ← passSign "?" then
      let yes ← sumAssignment fuel (counts && condition ≠ 0)
      if !(← passSign ":") then throw (.wrong "expecting ':'")
      let no ← sumChoice fuel (counts && condition = 0)
      return if condition ≠ 0 then yes else no
    else return condition

/-- Numbers joined by `||`. -/
def sumEither : Nat → Bool → Sum Int
  | 0, _ => throw (.wrong "expecting EOF")
  | fuel + 1, counts => do
    let first ← sumBoth fuel counts
    if ← passSign "||" then
      let second ← sumEither fuel (counts && first = 0)
      return truth (first ≠ 0 || second ≠ 0)
    else return first

/-- Numbers joined by `&&`. -/
def sumBoth : Nat → Bool → Sum Int
  | 0, _ => throw (.wrong "expecting EOF")
  | fuel + 1, counts => do
    let first ← sumSigns fuel counts loosest
    if ← passSign "&&" then
      let second ← sumBoth fuel (counts && first ≠ 0)
      return truth (first ≠ 0 && second ≠ 0)
    else return first

/-- Numbers with signs between them that bind less loosely. -/
def sumSigns : Nat → Bool → Nat → Sum Int
  | 0, _, _ => throw (.wrong "expecting EOF")
  | fuel + 1, counts, level => do
    let first ← sumPrimary fuel counts
    sumRest fuel counts level first

/-- What follows a number. -/
def sumRest : Nat → Bool → Nat → Int → Sum Int
  | 0, _, _, _ => throw (.wrong "expecting EOF")
  | fuel + 1, counts, level, first => do
    let state ← get
    match state.rest with
    | .sign s :: rest =>
      match looseness? (.sign s) with
      | some p =>
        if p < level then
          set { state with rest }
          let second ← sumSigns fuel counts p
          let value ← if counts then liftM (applySign s first second) else pure second
          sumRest fuel counts level value
        else return first
      | none => return first
    | _ => return first

/-- A number with the signs in front of it. -/
def sumPrimary : Nat → Bool → Sum Int
  | 0, _ => throw (.wrong "expecting EOF")
  | fuel + 1, counts => do
    let state ← get
    match state.rest with
    | .number n :: rest =>
      set { state with rest }
      return n
    | .name name :: rest =>
      set { state with rest }
      if counts then nameValue name else return 0
    | .sign s :: rest =>
      set { state with rest }
      if s = "(" then
        let value ← sumAssignment fuel counts
        if ← passSign ")" then return value else throw (.wrong "expecting ')'")
      else if ["-", "+", "!", "~"].contains s then
        let value ← sumPrimary fuel counts
        return if s = "-" then wrap64 (-value)
          else if s = "!" then truth (value = 0)
          else if s = "~" then -value - 1
          else value
      else throw (.wrong "expecting primary")
    | _ => throw (.wrong "expecting primary")

end

/-- The value of an expression, and the variables after it. -/
def evaluate (bindings : List (String × String)) (fixed : List String) (cs : List Char) :
    Except SumError (Int × List (String × String)) :=
  let terms := termsOf (cs.length + 1) cs
  match (sumAssignment (8 * terms.length + 8) true).run ⟨terms, bindings, fixed⟩ with
  | .ok (n, s) =>
    if s.rest.isEmpty then .ok (n, s.bindings) else .error (.wrong "expecting EOF")
  | .error e => .error e

end AgentConsole.Shell
