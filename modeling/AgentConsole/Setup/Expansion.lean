import AgentConsole.Setup.Environment
import AgentConsole.Text.Alphanumeric

/-!
# Path expansion

A configured path may name variables, as `$name`, `${name}` or `${name:-fallback}`, and may start
with a tilde for the home directory. `pieces` cuts it into plain characters and references, once
and from left to right; `fill?` puts the values in, and none if a reference has neither value nor
fallback, where the path keeps all of its references.
-/

namespace AgentConsole.Setup

open AgentConsole.Text

/-- A part of a path. -/
inductive Piece where
  | plain (c : Char)
  | reference (name : List Char) (fallback : Option (List Char))
  deriving DecidableEq, Repr

/-- The character can stand in a name that has no braces. -/
def isNameChar (c : Char) : Bool :=
  isAlphanumeric c || c = '_'

/-- What comes before and after the first `:-`. -/
def splitFallback : List Char → Option (List Char × List Char)
  | [] => none
  | c :: cs =>
    if c = ':' ∧ cs.head? = some '-' then some ([], cs.tail)
    else (splitFallback cs).map fun p => (c :: p.1, p.2)

/-- The reference written between braces; a name is there before the first `:-`, or that is part
of the name. -/
def braced (inside : List Char) : Piece :=
  match splitFallback inside with
  | some (c :: name, fallback) => .reference (c :: name) (some fallback)
  | _ => .reference inside none

/-- The parts of a path. -/
def pieces : List Char → List Piece
  | [] => []
  | c :: cs =>
    if c ≠ '$' then .plain c :: pieces cs
    else
      match cs with
      | [] => [.plain '$']
      | d :: rest =>
        if d = '$' then .plain '$' :: pieces rest
        else if d = '\x7b' then
          if rest.contains '\x7d' then
            have : (rest.dropWhile (· ≠ '\x7d')).tail.length ≤ rest.length := by
              have := (List.dropWhile_sublist (l := rest) (· ≠ '\x7d')).length_le
              simp only [List.length_tail]
              omega
            braced (rest.takeWhile (· ≠ '\x7d')) :: pieces (rest.dropWhile (· ≠ '\x7d')).tail
          else .plain '$' :: .plain '\x7b' :: pieces rest
        else if isNameChar d then
          have := (List.dropWhile_sublist (l := rest) isNameChar).length_le
          .reference (d :: rest.takeWhile isNameChar) none :: pieces (rest.dropWhile isNameChar)
        else .plain '$' :: pieces (d :: rest)
  termination_by cs => cs.length
  decreasing_by all_goals simp only [List.length_cons]; omega

/-- What a part stands for. -/
def Piece.value? (env : Environment) : Piece → Option (List Char)
  | .plain c => some [c]
  | .reference name fallback =>
    match env.get? (String.ofList name) with
    | some value => some value.toList
    | none => fallback

/-- The parts with their values put in, if all have one. -/
def fill? (env : Environment) (ps : List Piece) : Option (List Char) :=
  (ps.mapM (Piece.value? env)).map List.flatten

/-- Puts the home directory for a leading tilde that is alone or before a slash. -/
def expandTilde (env : Environment) (path : String) : String :=
  match path.toList with
  | '~' :: rest =>
    if rest.isEmpty || rest.head? = some '/' then env.home ++ String.ofList rest else path
  | _ => path

/-- The path with its variables and its tilde expanded. A tilde that a variable brought in at the
front stays. -/
def expandPath (env : Environment) (path : String) : String :=
  match fill? env (pieces path.toList) with
  | none => expandTilde env path
  | some filled =>
    if path.toList.head? ≠ some '~' ∧ filled.head? = some '~' then String.ofList filled
    else expandTilde env (String.ofList filled)

end AgentConsole.Setup
