import AgentConsole.Json.Reader
import AgentConsole.Text.Numeral

/-!
# Numbers

No record here holds a number; one that stands where something else was asked for is still read,
to tell a number of the wrong kind from a broken one.
-/

namespace AgentConsole.Json

open AgentConsole.Text

/-- A number without its sign: `significand` times ten to the `exponent`. -/
structure Number where
  significand : Nat
  exponent : Int

/-- The whole part: a zero, or digits that start with none. -/
def wholePart : List Char → Except Fault (List Char × List Char)
  | [] => .error .truncated
  | c :: cs =>
    if !c.isDigit then .error .malformed
    else if c = '0' then
      if (cs.takeWhile Char.isDigit).isEmpty then .ok (['0'], cs) else .error .malformed
    else .ok (c :: cs.takeWhile Char.isDigit, cs.dropWhile Char.isDigit)

/-- At least one digit. -/
def someDigits (cs : List Char) : Except Fault (List Char × List Char) :=
  if (cs.takeWhile Char.isDigit).isEmpty then
    if cs.isEmpty then .error .truncated else .error .malformed
  else .ok (cs.takeWhile Char.isDigit, cs.dropWhile Char.isDigit)

/-- The digits after a point, if there is one. -/
def fractionPart : List Char → Except Fault (List Char × List Char)
  | '.' :: cs => someDigits cs
  | cs => .ok ([], cs)

/-- The exponent, if there is one. -/
def exponentPart : List Char → Except Fault (Int × List Char)
  | [] => .ok (0, [])
  | c :: cs =>
    if c = 'e' || c = 'E' then
      match cs with
      | '-' :: cs' => (someDigits cs').map fun p => (-(digitsValue p.1 : Int), p.2)
      | '+' :: cs' => (someDigits cs').map fun p => ((digitsValue p.1 : Int), p.2)
      | _ => (someDigits cs).map fun p => ((digitsValue p.1 : Int), p.2)
    else .ok (0, c :: cs)

/-- Takes in digits as long as the significand stays below `2 ^ 64`: the significand, and how many
of the digits are left. -/
def takeDigits (significand : Nat) : List Char → Nat × Nat
  | [] => (significand, 0)
  | c :: cs =>
    if significand * 10 + digitValue c < countLimit then
      takeDigits (significand * 10 + digitValue c) cs
    else (significand, cs.length + 1)

/-- The number with these digits before and after its point. A digit that the significand has no
room for counts for its place before the point, and not at all behind it. -/
def Number.ofDigits (whole fraction : List Char) (exponent : Int) : Number :=
  let (significand, left) := takeDigits 0 whole
  let (significand, unread) := takeDigits significand fraction
  ⟨significand, exponent + left - (fraction.length - unread : Nat)⟩

/-- Reads a number, after its sign. -/
def number (cs : List Char) : Except Fault (Number × List Char) := do
  let (whole, cs) ← wholePart cs
  let (fraction, cs) ← fractionPart cs
  let (exponent, cs) ← exponentPart cs
  return (.ofDigits whole fraction exponent, cs)

/-- The nearest number with a significand of 53 bits; of two as near, the one with an even
significand. -/
def nearestDouble (n : Nat) : Nat :=
  let unit := Nat.pow 2 (n.log2 - 52)
  let whole := n / unit
  let rest := n % unit
  if 2 * rest > unit || (2 * rest = unit && whole % 2 = 1) then (whole + 1) * unit else whole * unit

/-- Half a unit above the greatest number with a 53-bit significand and an exponent of 1023: from
here on a number has no such neighbour. -/
def doubleLimit : Nat := Nat.pow 2 1024 - Nat.pow 2 970

/-- The number is not too great for a double, when its significand and the power of ten are each
brought to the nearest double before they are multiplied. -/
def Number.fitsDouble (n : Number) : Bool :=
  if n.significand = 0 || n.exponent < 0 then true
  else if n.exponent > 308 then false
  else
    nearestDouble n.significand * nearestDouble (Nat.pow 10 n.exponent.natAbs) < doubleLimit

/-- Passes over a number, after its sign; a number cut short is malformed. -/
def passNumber (cs : List Char) : Except Fault (List Char) :=
  match number cs with
  | .error _ => .error .malformed
  | .ok (_, rest) => .ok rest

theorem wholePart_shorter {cs digits rest : List Char} (h : wholePart cs = .ok (digits, rest)) :
    rest.length < cs.length := by
  unfold wholePart at h
  split at h
  · simp at h
  · next c cs =>
    have := length_dropWhile_le Char.isDigit cs
    split at h
    · simp at h
    · split at h
      · split at h
        · simp only [Except.ok.injEq, Prod.mk.injEq] at h
          simp [← h.2]
        · simp at h
      · simp only [Except.ok.injEq, Prod.mk.injEq] at h
        rw [← h.2, List.length_cons]
        omega

theorem someDigits_le {cs digits rest : List Char} (h : someDigits cs = .ok (digits, rest)) :
    rest.length ≤ cs.length := by
  unfold someDigits at h
  split at h
  · split at h <;> simp at h
  · simp only [Except.ok.injEq, Prod.mk.injEq] at h
    rw [← h.2]
    exact length_dropWhile_le _ cs

theorem fractionPart_le {cs digits rest : List Char} (h : fractionPart cs = .ok (digits, rest)) :
    rest.length ≤ cs.length := by
  unfold fractionPart at h
  split at h
  · have := someDigits_le h
    simp only [List.length_cons]
    omega
  · simp only [Except.ok.injEq, Prod.mk.injEq] at h
    simp [← h.2]

theorem someDigits_map_le {α : Type} {f : List Char × List Char → α × List Char}
    (hf : ∀ p, (f p).2 = p.2) {cs rest : List Char} {a : α}
    (h : (someDigits cs).map f = .ok (a, rest)) : rest.length ≤ cs.length := by
  cases hd : someDigits cs with
  | error e => simp [hd, Except.map] at h
  | ok p =>
    simp only [hd, Except.map, Except.ok.injEq] at h
    have hp := hf p
    rw [h] at hp
    have : p.2.length ≤ cs.length := someDigits_le hd
    rw [show rest = p.2 from hp]
    exact this

theorem exponentPart_le {cs rest : List Char} {e : Int} (h : exponentPart cs = .ok (e, rest)) :
    rest.length ≤ cs.length := by
  unfold exponentPart at h
  split at h
  · simp only [Except.ok.injEq, Prod.mk.injEq] at h
    simp [← h.2]
  · split at h
    · split at h <;> refine Nat.le_trans (someDigits_map_le ?_ h) ?_ <;>
        simp [Nat.le_add_right_of_le]
    · simp only [Except.ok.injEq, Prod.mk.injEq] at h
      simp [← h.2]

theorem number_shorter {cs rest : List Char} {n : Number} (h : number cs = .ok (n, rest)) :
    rest.length < cs.length := by
  unfold number at h
  cases hw : wholePart cs with
  | error f => simp [hw, bind, Except.bind] at h
  | ok w =>
    cases hf : fractionPart w.2 with
    | error f => simp [hw, hf, bind, Except.bind] at h
    | ok d =>
      cases he : exponentPart d.2 with
      | error f => simp [hw, hf, he, bind, Except.bind] at h
      | ok e =>
        simp only [hw, hf, he, bind, Except.bind, pure, Except.pure, Except.ok.injEq,
          Prod.mk.injEq] at h
        have : w.2.length < cs.length := wholePart_shorter hw
        have : d.2.length ≤ w.2.length := fractionPart_le hf
        have : e.2.length ≤ d.2.length := exponentPart_le he
        rw [← h.2]
        omega

theorem passNumber_shorter {cs rest : List Char} (h : passNumber cs = .ok rest) :
    rest.length < cs.length := by
  unfold passNumber at h
  split at h
  · simp at h
  · next hn =>
    simp only [Except.ok.injEq] at h
    exact h ▸ number_shorter hn

end AgentConsole.Json
