import AgentConsole.Json.Number
import AgentConsole.Json.Quoted

/-!
# Values nobody asked for

`passValue` passes over one value of any kind and depth with a list of the brackets still open,
and `wrongKind` says what is wrong with a value that stands where another kind was asked for.
-/

namespace AgentConsole.Json

/-- Passes over the letters of a word such as `null`. -/
def passWord : List Char → List Char → Except Fault (List Char)
  | [], cs => .ok cs
  | _ :: _, [] => .error .truncated
  | w :: ws, c :: cs => if c = w then passWord ws cs else .error .malformed

/-- Passes over a value that has no brackets. -/
def passScalar : List Char → Except Fault (List Char)
  | [] => .error .truncated
  | c :: cs =>
    if c = 'n' then passWord ['u', 'l', 'l'] cs
    else if c = 't' then passWord ['r', 'u', 'e'] cs
    else if c = 'f' then passWord ['a', 'l', 's', 'e'] cs
    else if c = '"' then passLiteral cs
    else if c = '-' then passNumber cs
    else passNumber (c :: cs)

/-- Passes over the colon between a name and its value. -/
def passColon (cs : List Char) : Except Fault (List Char) :=
  match dropGaps cs with
  | [] => .error .truncated
  | c :: rest => if c = ':' then .ok rest else .error .malformed

/-- Passes over a name and its colon. -/
def passName (cs : List Char) : Except Fault (List Char) :=
  match dropGaps cs with
  | [] => .error .truncated
  | c :: rest =>
    if c = '"' then
      match passLiteral rest with
      | .error f => .error f
      | .ok rest => passColon rest
    else .error .malformed

theorem passWord_le {ws cs rest : List Char} (h : passWord ws cs = .ok rest) :
    rest.length ≤ cs.length := by
  fun_induction passWord ws cs with
  | case1 =>
    simp only [Except.ok.injEq] at h
    simp [h]
  | case2 => simp at h
  | case3 ws c cs ih =>
    have := ih h
    simp only [List.length_cons]
    omega
  | case4 => simp at h

theorem passScalar_shorter {cs rest : List Char} (h : passScalar cs = .ok rest) :
    rest.length < cs.length := by
  unfold passScalar at h
  split at h
  · simp at h
  · next c cs =>
    simp only [List.length_cons]
    split at h
    · exact Nat.lt_succ_of_le (passWord_le h)
    split at h
    · exact Nat.lt_succ_of_le (passWord_le h)
    split at h
    · exact Nat.lt_succ_of_le (passWord_le h)
    split at h
    · exact Nat.lt_succ_of_lt (passLiteral_shorter h)
    split at h
    · exact Nat.lt_succ_of_lt (passNumber_shorter h)
    · exact passNumber_shorter h

theorem passColon_shorter {cs rest : List Char} (h : passColon cs = .ok rest) :
    rest.length < cs.length := by
  unfold passColon at h
  split at h
  · simp at h
  · next hc =>
    split at h
    · simp only [Except.ok.injEq] at h
      exact h ▸ length_lt_of_dropGaps hc
    · simp at h

theorem passName_shorter {cs rest : List Char} (h : passName cs = .ok rest) :
    rest.length < cs.length := by
  unfold passName at h
  split at h
  · simp at h
  · next hc =>
    have := length_lt_of_dropGaps hc
    split at h
    · split at h
      · simp at h
      · next hl =>
        have := passLiteral_shorter hl
        have := passColon_shorter h
        omega
    · simp at h

/-- What an open bracket holds. -/
inductive Bracket where
  | list
  | object
  deriving DecidableEq, Repr

/-- The bracket a character opens. -/
def Bracket.opened? (c : Char) : Option Bracket :=
  if c = '[' then some .list else if c = '{' then some .object else none

/-- The character that closes a bracket. -/
def Bracket.closing : Bracket → Char
  | .list => ']'
  | .object => '}'

/-- Passes over what stands before a value in a bracket: in an object its name. -/
def Bracket.passLabel : Bracket → List Char → Except Fault (List Char)
  | .list, cs => .ok cs
  | .object, cs => passName cs

/-- What is left after the closing bracket, if it comes at once. -/
def Bracket.closed? (bracket : Bracket) (cs : List Char) : Option (List Char) :=
  match dropGaps cs with
  | [] => none
  | c :: rest => if c = bracket.closing then some rest else none

theorem Bracket.passLabel_le {bracket : Bracket} {cs rest : List Char}
    (h : bracket.passLabel cs = .ok rest) : rest.length ≤ cs.length := by
  cases bracket with
  | list =>
    simp only [passLabel, Except.ok.injEq] at h
    simp [h]
  | object => exact Nat.le_of_lt (passName_shorter h)

theorem Bracket.closed?_shorter {bracket : Bracket} {cs rest : List Char}
    (h : bracket.closed? cs = some rest) : rest.length < cs.length := by
  unfold closed? at h
  split at h
  · simp at h
  · next hc =>
    split at h
    · simp only [Option.some.injEq] at h
      exact h ▸ length_lt_of_dropGaps hc
    · simp at h

mutual

/-- Passes over a value and what else the open brackets hold, innermost first. -/
def passValue (brackets : List Bracket) (cs : List Char) : Except Fault (List Char) :=
  match hc : dropGaps cs with
  | [] => .error .truncated
  | c :: rest =>
    have := length_lt_of_dropGaps hc
    match Bracket.opened? c with
    | none =>
      match hs : passScalar (dropGaps cs) with
      | .error f => .error f
      | .ok rest' =>
        have := passScalar_shorter hs
        have := length_dropGaps_le cs
        passRest brackets rest'
    | some bracket =>
      match hb : bracket.closed? rest with
      | some rest' =>
        have := Bracket.closed?_shorter hb
        passRest brackets rest'
      | none =>
        match hl : bracket.passLabel rest with
        | .error f => .error f
        | .ok rest' =>
          have := Bracket.passLabel_le hl
          passValue (bracket :: brackets) rest'
  termination_by cs.length

/-- Passes over what comes after a value in the open brackets. -/
def passRest (brackets : List Bracket) (cs : List Char) : Except Fault (List Char) :=
  match brackets with
  | [] => .ok cs
  | bracket :: outer =>
    match hc : dropGaps cs with
    | [] => .error .truncated
    | c :: rest =>
      have := length_lt_of_dropGaps hc
      if c = ',' then
        match hl : bracket.passLabel rest with
        | .error f => .error f
        | .ok rest' =>
          have := Bracket.passLabel_le hl
          passValue (bracket :: outer) rest'
      else if c = bracket.closing then passRest outer rest
      else .error .malformed
  termination_by cs.length

end

mutual

theorem passValue_shorter {brackets : List Bracket} {cs rest : List Char}
    (h : passValue brackets cs = .ok rest) : rest.length < cs.length := by
  rw [passValue] at h
  split at h
  · simp at h
  · next hc =>
    have := length_lt_of_dropGaps hc
    split at h
    · split at h
      · simp at h
      · next hs =>
        have := passScalar_shorter hs
        have := length_dropGaps_le cs
        have := passRest_le h
        omega
    · split at h
      · next hb =>
        have := Bracket.closed?_shorter hb
        have := passRest_le h
        omega
      · split at h
        · simp at h
        · next hl =>
          have := Bracket.passLabel_le hl
          have := passValue_shorter h
          omega
  termination_by cs.length

theorem passRest_le {brackets : List Bracket} {cs rest : List Char}
    (h : passRest brackets cs = .ok rest) : rest.length ≤ cs.length := by
  cases brackets with
  | nil =>
    simp only [passRest, Except.ok.injEq] at h
    simp [h]
  | cons bracket outer =>
    rw [passRest] at h
    split at h
    · simp at h
    · next hc =>
      have := length_lt_of_dropGaps hc
      split at h
      · split at h
        · simp at h
        · next hl =>
          have := Bracket.passLabel_le hl
          have := passValue_shorter h
          omega
      · split at h
        · have := passRest_le h
          omega
        · simp at h
  termination_by cs.length

end

/-- What is wrong with a word that stands where another kind of value was asked for. -/
def wrongWord (word cs : List Char) : Fault :=
  match passWord word cs with
  | .ok _ => .mismatch
  | .error f => f

/-- What is wrong with a number that stands where another kind of value was asked for. -/
def wrongNumber (cs : List Char) : Fault :=
  match number cs with
  | .ok (n, _) => if n.fitsDouble then .mismatch else .malformed
  | .error f => f

/-- What is wrong with a value that stands where another kind of value was asked for. A value
without brackets is read to its end first, of a list or an object only the bracket is. -/
def wrongKind : List Char → Fault
  | [] => .truncated
  | c :: cs =>
    if c = 'n' then wrongWord ['u', 'l', 'l'] cs
    else if c = 't' then wrongWord ['r', 'u', 'e'] cs
    else if c = 'f' then wrongWord ['a', 'l', 's', 'e'] cs
    else if c = '-' then wrongNumber cs
    else if c.isDigit then wrongNumber (c :: cs)
    else if c = '"' then
      match literal cs with
      | .ok _ => .mismatch
      | .error f => f
    else if c = '[' ∨ c = '{' then .mismatch
    else .malformed

end AgentConsole.Json
