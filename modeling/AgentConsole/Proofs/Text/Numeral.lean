import AgentConsole.Text.Blank
import AgentConsole.Text.Numeral

/-!
# Reading padded numbers

A number that was padded with zeros is the value of its digits again (`digitsValue_padded`), and as
long as the width has room for it, it takes up just that (`length_padded`). A number that is not too
large is read as it is written (`count?_toString`).
-/

namespace AgentConsole.Text

variable {width n : Nat} {c : Char}

theorem ofDigitChars_padded (width n : Nat) :
    Nat.ofDigitChars 10 (padded width n).toList 0 = n := by
  simp [padded, Nat.ofDigitChars_append, Nat.ofDigitChars_replicate_zero,
    Nat.ofDigitChars_ten_toDigits]

theorem underscore_not_mem_padded (width n : Nat) : '_' ∉ (padded width n).toList := by
  simp [padded, Nat.underscore_not_in_toDigits]

theorem digitsValue_padded (width n : Nat) : digitsValue (padded width n).toList = n := by
  have hstep : (fun (n : Nat) c => n * 10 + digitValue c) =
      fun n c => 10 * n + (c.toNat - '0'.toNat) := by
    funext n c
    rw [Nat.mul_comm, digitValue]
  rw [digitsValue, hstep]
  exact ofDigitChars_padded width n

theorem isDigit_of_mem_padded (h : c ∈ (padded width n).toList) : c.isDigit := by
  simp only [padded, String.toList_ofList, List.mem_append, List.mem_replicate] at h
  rcases h with ⟨-, rfl⟩ | h
  · rfl
  · exact Nat.isDigit_of_mem_toDigits (by decide) (by decide) h

theorem padded_ne_nil (width n : Nat) : (padded width n).toList ≠ [] := by
  have hpos : 0 < (Nat.toDigits 10 n).length := Nat.length_toDigits_pos
  intro h
  have hl := congrArg List.length h
  simp only [padded, String.toList_ofList, List.length_append, List.length_nil] at hl
  omega

/-- A number that the width has room for takes up the width. -/
theorem length_padded (hw : 0 < width) (h : n < Nat.pow 10 width) :
    (padded width n).toList.length = width := by
  have hle := (Nat.length_toDigits_le_iff (b := 10) (n := n) (by decide) hw).2 h
  simp only [padded, String.toList_ofList, List.length_append, List.length_replicate]
  omega

theorem toString_eq_padded (n : Nat) : toString n = padded 0 n := by
  simp [padded, Nat.repr_eq_ofList_toDigits]

theorem dropPlus_padded (width n : Nat) : dropPlus (padded width n).toList = (padded width n).toList := by
  unfold dropPlus
  split
  · next cs hp =>
    have hplus : '+' ∈ (padded width n).toList := hp ▸ List.mem_cons_self
    exact absurd (isDigit_of_mem_padded hplus) (by decide)
  · rfl

/-- A number that is not too large is read as it is written. -/
theorem count?_toString (h : n < countLimit) : count? (toString n) = some n := by
  have hall : (padded 0 n).toList.all Char.isDigit :=
    List.all_eq_true.2 fun c hc => isDigit_of_mem_padded hc
  unfold count?
  simp only [toString_eq_padded, dropPlus_padded, digitsValue_padded, hall, h, decide_true,
    Bool.and_true]
  rw [if_pos]
  simpa using padded_ne_nil 0 n

/-- A digit is no blank. -/
theorem isBlank_of_isDigit (h : c.isDigit) : isBlank c = false := by
  simp only [Char.isDigit, Bool.and_eq_true, decide_eq_true_eq] at h
  obtain ⟨hlo, hhi⟩ := h
  have hlo : 48 ≤ c.toNat := hlo
  have hhi : c.toNat ≤ 57 := hhi
  simp only [isBlank, Bool.or_eq_false_iff, Bool.and_eq_false_iff, decide_eq_false_iff_not,
    beq_eq_false_iff_ne]
  omega

theorem trimStart_of_not_isBlank {cs : List Char} (h : isBlank c = false) :
    trimStart (c :: cs) = c :: cs := by
  rw [trimStart, List.dropWhile_cons, h]
  rfl

/-- There is no blank in front of a padded number. -/
theorem trimStart_padded (width n : Nat) (rest : List Char) :
    trimStart ((padded width n).toList ++ rest) = (padded width n).toList ++ rest := by
  cases hp : (padded width n).toList with
  | nil => exact absurd hp (padded_ne_nil width n)
  | cons c cs =>
    have hc : c ∈ (padded width n).toList := hp ▸ List.mem_cons_self
    exact trimStart_of_not_isBlank (isBlank_of_isDigit (isDigit_of_mem_padded hc))

/-- The digits of a padded number are followed by what is no digit. -/
theorem takeWhile_padded (width n : Nat) {rest : List Char}
    (hr : rest.head?.all fun c => !c.isDigit) :
    ((padded width n).toList ++ rest).takeWhile Char.isDigit = (padded width n).toList ∧
      ((padded width n).toList ++ rest).dropWhile Char.isDigit = rest := by
  have hall : ∀ c ∈ (padded width n).toList, c.isDigit := fun c hc => isDigit_of_mem_padded hc
  rw [List.takeWhile_append_of_pos hall, List.dropWhile_append_of_pos hall]
  cases rest with
  | nil => simp
  | cons c rest =>
    have hc : c.isDigit = false := by simpa using hr
    simp [hc]

end AgentConsole.Text
