import AgentConsole.Proofs.Json.Grammar
import AgentConsole.Proofs.Json.Record

/-!
# Passing over values

A value of any depth is passed over in one go (`Writes.passed`): each of its brackets is put on the
list of open ones and taken off again, and what is in them is passed over in between. Where another
kind of value was asked for, what is wrong with it is told from the value alone
(`wrongKind_written`).
-/

namespace AgentConsole.Json

variable {brackets : List Bracket} {bracket : Bracket} {c : Char}
variable {cs gap rest tail : List Char} {v : Value}

section Steps

theorem passValue_scalar (hc : dropGaps cs = c :: tail) (ho : Bracket.opened? c = none)
    (hs : passScalar (c :: tail) = .ok rest) : passValue brackets cs = passRest brackets rest := by
  rw [← hc] at hs
  rw [passValue]
  split
  · simp_all
  · rename_i hc'
    obtain ⟨rfl, rfl⟩ := List.cons.inj (hc'.symm.trans hc)
    split
    · split
      · simp_all
      · rename_i rest' hs'
        obtain rfl : rest' = rest := by simpa [hs] using hs'.symm
        rfl
    · simp_all

theorem passValue_closed (hc : dropGaps cs = c :: tail) (ho : Bracket.opened? c = some bracket)
    (hb : bracket.closed? tail = some rest) : passValue brackets cs = passRest brackets rest := by
  rw [passValue]
  split
  · simp_all
  · rename_i hc'
    obtain ⟨rfl, rfl⟩ := List.cons.inj (hc'.symm.trans hc)
    split
    · simp_all
    · rename_i bracket' ho'
      obtain rfl : bracket' = bracket := by simpa [ho] using ho'.symm
      split
      · rename_i rest' hb'
        obtain rfl : rest' = rest := by simpa [hb] using hb'.symm
        rfl
      · simp_all

theorem passValue_opened (hc : dropGaps cs = c :: tail) (ho : Bracket.opened? c = some bracket)
    (hb : bracket.closed? tail = none) (hl : bracket.passLabel tail = .ok rest) :
    passValue brackets cs = passValue (bracket :: brackets) rest := by
  rw [passValue]
  split
  · simp_all
  · rename_i hc'
    obtain ⟨rfl, rfl⟩ := List.cons.inj (hc'.symm.trans hc)
    split
    · simp_all
    · rename_i bracket' ho'
      obtain rfl : bracket' = bracket := by simpa [ho] using ho'.symm
      split
      · simp_all
      · split <;> simp_all

theorem passRest_comma (hc : dropGaps cs = ',' :: tail) (hl : bracket.passLabel tail = .ok rest) :
    passRest (bracket :: brackets) cs = passValue (bracket :: brackets) rest := by
  rw [passRest]
  split
  · simp_all
  · rename_i hc'
    obtain ⟨rfl, rfl⟩ := List.cons.inj (hc'.symm.trans hc)
    rw [if_pos rfl]
    split <;> simp_all

theorem passRest_closing (hc : dropGaps cs = bracket.closing :: rest) :
    passRest (bracket :: brackets) cs = passRest brackets rest := by
  have hcomma : bracket.closing ≠ ',' := by cases bracket <;> decide
  rw [passRest]
  split
  · simp_all
  · rename_i hc'
    obtain ⟨rfl, rfl⟩ := List.cons.inj (hc'.symm.trans hc)
    rw [if_neg hcomma, if_pos rfl]

end Steps

/-- What is in a bracket is passed over together with the end of the bracket. -/
def PassedIn (bracket : Bracket) (cs : List Char) : Prop :=
  ∀ brackets rest, bracket.closed? (cs ++ rest) = none ∧
    ∃ tail, bracket.passLabel (cs ++ rest) = .ok tail ∧
      passValue (bracket :: brackets) tail = passRest brackets rest

/-- What is written is passed over. -/
def Passed : Phrase → List Char → Prop
  | .value _, cs => ∀ brackets gap rest, (∀ c ∈ gap, isGap c) → Stops rest →
      passValue brackets (gap ++ (cs ++ rest)) = passRest brackets rest
  | .items _, cs => PassedIn .list cs
  | .fields _, cs => PassedIn .object cs

section Values

variable {name : Option String} {label gap' : List Char}

theorem passWord_append (ws rest : List Char) : passWord ws (ws ++ rest) = .ok rest := by
  induction ws with
  | nil => rfl
  | cons w ws ih => simp [passWord, ih]

theorem passNumber_written {n : Number} (h : WritesNumber n cs) (hstop : Stops rest) :
    passNumber (cs ++ rest) = .ok rest := by
  rw [passNumber, number_written h hstop]

theorem passColon_gap (hg : ∀ c ∈ gap, isGap c) (rest : List Char) :
    passColon (gap ++ ':' :: rest) = .ok rest := by
  rw [passColon, dropGaps_gap hg rfl]
  rfl

theorem WritesName.quoted_append (h : WritesName name label) : ∃ gap ns cs gap',
    (∀ c ∈ gap, isGap c) ∧ (∀ c ∈ gap', isGap c) ∧ Body ns cs ∧
    name = (textOf ns).map String.ofList ∧
    ∀ rest, label ++ rest = gap ++ '"' :: (cs ++ '"' :: (gap' ++ ':' :: rest)) := by
  obtain ⟨hg, hg', hb⟩ := h
  exact ⟨_, _, _, _, hg, hg', hb, rfl, fun rest => by simp⟩

theorem passName_written (h : WritesName name label) (rest : List Char) :
    passName (label ++ rest) = .ok rest := by
  obtain ⟨gap, ns, cs, gap', hg, hg', hb, -, happend⟩ := h.quoted_append
  rw [happend, passName, dropGaps_gap hg rfl]
  simp only [if_true, passLiteral_body hb, passColon_gap hg']

theorem closed?_object_name (h : WritesName name label) (rest : List Char) :
    Bracket.object.closed? (label ++ rest) = none := by
  obtain ⟨gap, ns, cs, gap', hg, -, -, -, happend⟩ := h.quoted_append
  rw [happend, Bracket.closed?, dropGaps_gap hg rfl]
  rfl

theorem closed?_list_value (hg : ∀ c ∈ gap, isGap c) (h : Writes (.value v) cs)
    (rest : List Char) : Bracket.list.closed? (gap ++ (cs ++ rest)) = none := by
  obtain ⟨c, tail, rfl, hc, hlist, -⟩ := h.head
  rw [List.cons_append, Bracket.closed?, dropGaps_gap hg hc]
  simp [Bracket.closing, hlist]

theorem closed?_gap (hg : ∀ c ∈ gap, isGap c) (rest : List Char) :
    bracket.closed? (gap ++ bracket.closing :: rest) = some rest := by
  have hc : isGap bracket.closing = false := by cases bracket <;> decide
  rw [Bracket.closed?, dropGaps_gap hg hc]
  simp

theorem passScalar_digit (hc : c.isDigit) : passScalar (c :: cs) = passNumber (c :: cs) := by
  have hne {d : Char} (hd : ¬d.isDigit) : c ≠ d := ne_of_isDigit hc hd
  simp [passScalar, hne (show ¬ 'n'.isDigit by decide), hne (show ¬ 't'.isDigit by decide),
    hne (show ¬ 'f'.isDigit by decide), hne (show ¬ '"'.isDigit by decide),
    hne (show ¬ '-'.isDigit by decide)]

theorem opened?_digit (hc : c.isDigit) : Bracket.opened? c = none := by
  simp [Bracket.opened?, ne_of_isDigit hc (show ¬ '['.isDigit by decide),
    ne_of_isDigit hc (show ¬ '\x7b'.isDigit by decide)]

/-- A value without brackets in it is passed over. -/
theorem passed_scalar (ho : Bracket.opened? c = none) (hc : isGap c = false)
    (hs : ∀ rest, Stops rest → passScalar (c :: (cs ++ rest)) = .ok rest) :
    Passed (.value v) (c :: cs) :=
  fun _ _ rest hg hstop => passValue_scalar (dropGaps_gap hg hc _) ho (hs rest hstop)

theorem isGap_closing : isGap bracket.closing = false := by cases bracket <;> decide

theorem passed_empty (bracket : Bracket) (ho : Bracket.opened? c = some bracket)
    (hc : isGap c = false) (hg : ∀ c ∈ gap, isGap c) :
    Passed (.value v) (c :: (gap ++ [bracket.closing])) := by
  intro brackets gap₀ rest hg₀ _
  rw [List.cons_append, List.append_assoc]
  exact passValue_closed (dropGaps_gap hg₀ hc _) ho (closed?_gap hg rest)

theorem PassedIn.opened (h : PassedIn bracket cs) (ho : Bracket.opened? c = some bracket)
    (hc : isGap c = false) : Passed (.value v) (c :: cs) := by
  intro brackets gap rest hg _
  obtain ⟨hclosed, tail, hlabel, hpass⟩ := h brackets rest
  rw [← hpass]
  exact passValue_opened (dropGaps_gap hg hc _) ho hclosed hlabel

section Inside

variable (bracket label)
variable (hl : ∀ rest, bracket.passLabel (label ++ rest) = .ok rest)
  (hclosed : ∀ rest, bracket.closed? (label ++ (gap ++ (cs ++ rest))) = none)
  (hg : ∀ c ∈ gap, isGap c) (hg' : ∀ c ∈ gap', isGap c) (h : Passed (.value v) cs)

include hl hclosed hg hg' h

theorem passedIn_last :
    PassedIn bracket (label ++ (gap ++ (cs ++ (gap' ++ [bracket.closing])))) := by
  intro brackets rest
  have hstop : Stops (gap' ++ bracket.closing :: rest) :=
    stops_append hg' (stops_cons (by cases bracket <;> simp [Bracket.closing]))
  simp only [List.append_assoc, List.cons_append, List.nil_append]
  exact ⟨hclosed _, _, hl _, (h _ _ _ hg hstop).trans
    (passRest_closing (dropGaps_gap hg' isGap_closing rest))⟩

theorem passedIn_more {cs' : List Char} (h' : PassedIn bracket cs') :
    PassedIn bracket (label ++ (gap ++ (cs ++ (gap' ++ ',' :: cs')))) := by
  intro brackets rest
  obtain ⟨-, tail, hlabel, hpass⟩ := h' brackets rest
  have hstop : Stops (gap' ++ ',' :: (cs' ++ rest)) := stops_append hg' (stops_cons (by simp))
  simp only [List.append_assoc, List.cons_append]
  refine ⟨hclosed _, _, hl _, (h _ _ _ hg hstop).trans ?_⟩
  rw [← hpass]
  exact passRest_comma (dropGaps_gap hg' rfl _) hlabel

end Inside

/-- What is written is passed over, whatever brackets are open. -/
theorem Writes.passed {p : Phrase} (h : Writes p cs) : Passed p cs := by
  induction h with
  | nullWord => exact passed_scalar rfl rfl fun rest _ => passWord_append ['u', 'l', 'l'] rest
  | trueWord => exact passed_scalar rfl rfl fun rest _ => passWord_append ['r', 'u', 'e'] rest
  | falseWord => exact passed_scalar rfl rfl fun rest _ => passWord_append ['a', 'l', 's', 'e'] rest
  | number hn =>
    obtain ⟨c, tail, rfl, hc⟩ := hn.head
    refine passed_scalar (opened?_digit hc) (not_isGap_of_isDigit hc) fun rest hstop => ?_
    rw [passScalar_digit hc]
    exact passNumber_written hn hstop
  | negative hn => exact passed_scalar rfl rfl fun rest hstop => passNumber_written hn hstop
  | string hb =>
    refine passed_scalar rfl rfl fun rest _ => ?_
    rw [List.append_assoc]
    exact passLiteral_body hb rest
  | emptyList hg => exact passed_empty .list rfl rfl hg
  | list _ ih => exact PassedIn.opened ih rfl rfl
  | emptyObject hg => exact passed_empty .object rfl rfl hg
  | object _ ih => exact PassedIn.opened ih rfl rfl
  | lastItem hg hg' hv ih =>
    exact passedIn_last .list [] (fun _ => rfl) (closed?_list_value hg hv) hg hg' ih
  | item hg hg' hv _ ih ih' =>
    exact passedIn_more .list [] (fun _ => rfl) (closed?_list_value hg hv) hg hg' ih ih'
  | lastField hl hg hg' hv ih =>
    exact passedIn_last .object _ (passName_written hl) (fun _ => closed?_object_name hl _)
      hg hg' ih
  | field hl hg hg' hv _ ih ih' =>
    exact passedIn_more .object _ (passName_written hl) (fun _ => closed?_object_name hl _)
      hg hg' ih ih'

end Values

/-- What is wrong with a value of the wrong kind: a number too great for a double and a string that
is no text are not even JSON to whoever reads them. -/
def Value.fault : Value → Fault
  | .number n => if n.fitsDouble then .mismatch else .malformed
  | .string none => .malformed
  | _ => .mismatch

section Wrong

variable {n : Number}

theorem wrongWord_append (word rest : List Char) : wrongWord word (word ++ rest) = .mismatch := by
  rw [wrongWord, passWord_append]

theorem wrongNumber_written (h : WritesNumber n cs) (hstop : Stops rest) :
    wrongNumber (cs ++ rest) = (Value.number n).fault := by
  rw [wrongNumber, number_written h hstop]
  rfl

theorem literal_body {ns : List Nat} (h : Body ns cs) (rest : List Char) :
    literal (cs ++ '"' :: rest) =
      match textOf ns with
      | some text => .ok (String.ofList text, rest)
      | none => .error .malformed := by
  rw [literal, literalOnto_body h]
  rcases textOf ns <;> rfl

theorem wrongKind_digit (hc : c.isDigit) : wrongKind (c :: cs) = wrongNumber (c :: cs) := by
  have hne {d : Char} (hd : ¬d.isDigit) : c ≠ d := ne_of_isDigit hc hd
  simp [wrongKind, hc, hne (show ¬ 'n'.isDigit by decide), hne (show ¬ 't'.isDigit by decide),
    hne (show ¬ 'f'.isDigit by decide), hne (show ¬ '-'.isDigit by decide)]

/-- What is wrong with a value is told from the value, whatever comes behind it. -/
theorem wrongKind_written (h : Writes (.value v) cs) (hstop : Stops rest) :
    wrongKind (cs ++ rest) = v.fault := by
  cases h with
  | nullWord => exact wrongWord_append ['u', 'l', 'l'] rest
  | trueWord => exact wrongWord_append ['r', 'u', 'e'] rest
  | falseWord => exact wrongWord_append ['a', 'l', 's', 'e'] rest
  | number hn =>
    obtain ⟨c, tail, rfl, hc⟩ := hn.head
    exact (wrongKind_digit hc).trans (wrongNumber_written hn hstop)
  | negative hn => exact wrongNumber_written hn hstop
  | @string ns cs hb =>
    have hread := literal_body hb rest
    rw [List.cons_append, List.append_assoc, List.singleton_append]
    rcases htext : textOf ns with _ | text <;> rw [htext] at hread <;>
      simp [wrongKind, hread, Value.fault]
  | emptyList => rfl
  | list => rfl
  | emptyObject => rfl
  | object => rfl

end Wrong

end AgentConsole.Json
