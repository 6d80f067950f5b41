import AgentConsole.Text.Blank
import Mathlib.Data.List.TakeWhile

/-!
# Trimming

Nothing is left of a text by trimming just when it is all blank (`trimChars_eq_nil_iff`), and what
is left of another one neither starts nor ends with a blank (`trimChars_eq_self_iff`). The text is
what is left of it between blanks (`exists_trimChars`), and any blanks around it make no difference
(`trimChars_between`).
-/

namespace AgentConsole.Text

variable {cs front back : List Char}

/-- Trimming leaves nothing just of what is all blank. -/
theorem trimChars_eq_nil_iff : trimChars cs = [] ↔ ∀ c ∈ cs, isBlank c := by
  rw [trimChars, trimEnd, List.reverse_eq_nil_iff, List.dropWhile_eq_nil_iff, trimStart]
  constructor
  · intro h c hc
    rw [← List.takeWhile_append_dropWhile (p := isBlank) (l := cs)] at hc
    rcases List.mem_append.1 hc with hc | hc
    · exact List.all_eq_true.1 List.all_takeWhile c hc
    · exact h c (List.mem_reverse.2 hc)
  · intro h c hc
    exact h c ((List.dropWhile_sublist isBlank).mem (List.mem_reverse.1 hc))

theorem trim_eq_iff {text trimmed : String} :
    trim text = trimmed ↔ trimChars text.toList = trimmed.toList := by
  rw [trim, ← String.ofList_inj, String.ofList_toList]

theorem trim_ofList_eq_empty_iff : trim (String.ofList cs) = "" ↔ ∀ c ∈ cs, isBlank c := by
  rw [trim_eq_iff, String.toList_ofList, String.toList_empty, trimChars_eq_nil_iff]

/-- Trimming leaves nothing just of a text that is all blank. -/
theorem trim_eq_empty_iff {text : String} : trim text = "" ↔ isAllBlank text := by
  rw [isAllBlank, List.all_eq_true, ← trim_ofList_eq_empty_iff, String.ofList_toList]

/-- No blank is left at the end. -/
theorem not_isBlank_of_trimChars {c : Char} (h : c ∈ (trimChars cs).getLast?) : ¬isBlank c := by
  rw [trimChars, trimEnd, List.getLast?_reverse] at h
  have hd := List.head?_dropWhile_not isBlank (trimStart cs).reverse
  rw [h] at hd
  simpa using hd

/-- What is trimmed is all blank only if nothing is left of it. -/
theorem forall_isBlank_trimChars : (∀ c ∈ trimChars cs, isBlank c) ↔ ∀ c ∈ cs, isBlank c := by
  refine Iff.trans ?_ trimChars_eq_nil_iff
  constructor
  · intro h
    by_contra hne
    have hlast := List.getLast?_eq_some_getLast hne
    exact not_isBlank_of_trimChars hlast (h _ (List.getLast_mem hne))
  · intro h
    simp [h]

section Between

theorem trimEnd_append (hb : ∀ c ∈ back, isBlank c) (cs : List Char) :
    trimEnd (cs ++ back) = trimEnd cs := by
  have hback : ∀ c ∈ back.reverse, isBlank c := fun c hc => hb c (List.mem_reverse.1 hc)
  rw [trimEnd, List.reverse_append, List.dropWhile_append_of_pos hback, trimEnd]

theorem exists_trimEnd (cs : List Char) : ∃ back, cs = trimEnd cs ++ back ∧ ∀ c ∈ back, isBlank c := by
  refine ⟨(cs.reverse.takeWhile isBlank).reverse, ?_,
    fun c hc => List.mem_takeWhile_imp (List.mem_reverse.1 hc)⟩
  rw [trimEnd, ← List.reverse_append, List.takeWhile_append_dropWhile, List.reverse_reverse]

/-- A text is what trimming leaves of it, between blanks. -/
theorem exists_trimChars (cs : List Char) : ∃ front back, cs = front ++ trimChars cs ++ back ∧
    (∀ c ∈ front, isBlank c) ∧ ∀ c ∈ back, isBlank c := by
  obtain ⟨back, hback, hb⟩ := exists_trimEnd (trimStart cs)
  refine ⟨cs.takeWhile isBlank, back, ?_, fun c hc => List.mem_takeWhile_imp hc, hb⟩
  rw [List.append_assoc, trimChars, ← hback, trimStart, List.takeWhile_append_dropWhile]

/-- Blanks around a text make no difference to what trimming leaves of it. -/
theorem trimChars_between (hf : ∀ c ∈ front, isBlank c) (hb : ∀ c ∈ back, isBlank c)
    (cs : List Char) : trimChars (front ++ cs ++ back) = trimChars cs := by
  have hstart : trimStart (front ++ cs ++ back) = trimStart (cs ++ back) := by
    rw [List.append_assoc, trimStart, List.dropWhile_append_of_pos hf, trimStart]
  rw [trimChars, hstart, trimStart, List.dropWhile_append]
  split_ifs with hnil
  · have hall : back.dropWhile isBlank = [] := List.dropWhile_eq_nil_iff.2 hb
    rw [hall, trimChars, trimStart, List.isEmpty_iff.1 hnil]
  · exact trimEnd_append hb _

theorem trimChars_behind (hf : ∀ c ∈ front, isBlank c) (cs : List Char) :
    trimChars (front ++ cs) = trimChars cs := by
  have h : trimChars (front ++ cs ++ []) = trimChars cs := trimChars_between hf (by simp) cs
  rwa [List.append_nil] at h

theorem trimChars_trimEnd (cs : List Char) : trimChars (trimEnd cs) = trimChars cs := by
  obtain ⟨back, hback, hb⟩ := exists_trimEnd cs
  have h : trimChars ([] ++ trimEnd cs ++ back) = trimChars (trimEnd cs) :=
    trimChars_between (by simp) hb _
  rw [List.nil_append, ← hback] at h
  exact h.symm

/-- What is left by trimming is left by trimming again. -/
theorem trimChars_trimChars (cs : List Char) : trimChars (trimChars cs) = trimChars cs := by
  obtain ⟨front, back, hcs, hf, hb⟩ := exists_trimChars cs
  exact ((congrArg trimChars hcs).trans (trimChars_between hf hb _)).symm

/-- No blank is left in front. -/
theorem not_isBlank_of_head_trimChars {c : Char} (h : c ∈ (trimChars cs).head?) : ¬isBlank c := by
  obtain ⟨back, hback, -⟩ := exists_trimEnd (trimStart cs)
  have hd := List.head?_dropWhile_not isBlank cs
  have hstart : (trimStart cs).head? = some c := by
    rw [hback, List.head?_append, ← trimChars, Option.mem_def.1 h]
    rfl
  rw [← trimStart, hstart] at hd
  simpa using hd

/-- Trimming leaves all of a text that neither starts nor ends with a blank. -/
theorem trimChars_eq_self_iff : trimChars cs = cs ↔
    (∀ c ∈ cs.head?, ¬isBlank c) ∧ ∀ c ∈ cs.getLast?, ¬isBlank c := by
  constructor
  · intro h
    rw [← h]
    exact ⟨fun c hc => not_isBlank_of_head_trimChars hc, fun c hc => not_isBlank_of_trimChars hc⟩
  · rintro ⟨hhead, hlast⟩
    obtain ⟨front, back, hcs, hf, hb⟩ := exists_trimChars cs
    have hfront : front = [] := by
      cases front with
      | nil => rfl
      | cons c front =>
        exact (hhead c (congrArg List.head? hcs) (hf c List.mem_cons_self)).elim
    have hback : back = [] := by
      by_contra hne
      have hmem := congrArg List.getLast? hcs
      rw [List.getLast?_append, List.getLast?_eq_some_getLast hne] at hmem
      exact hlast _ hmem (hb _ (List.getLast_mem hne))
    rw [hfront, hback, List.nil_append, List.append_nil] at hcs
    exact hcs.symm

end Between

end AgentConsole.Text
