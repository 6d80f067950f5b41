import AgentConsole.Mention
import Mathlib.Data.List.TakeWhile

/-!
# How a mention is read

Blanks may stand in a command as well as in front of it, so a text can start with a mention in more
than one way (`Reading`). The one that is chosen has the most blanks in front of the command, and
the command goes on to the end of its line (`Choice`). There is never more than one such
(`Choice.unique`), and `mentionAt?` finds it whenever there is something to read
(`choice_of_mentionAt?`, `not_readable_of_mentionAt?`).
-/

namespace AgentConsole

open AgentConsole.Text

/-- The text starts with a mark, some blanks, and something of a line for a command. -/
structure Reading (cs blanks command rest : List Char) : Prop where
  text : cs = mark.toList ++ (blanks ++ (command ++ rest))
  some_blank : blanks ≠ []
  all_blank : ∀ c ∈ blanks, isBlank c
  some_command : command ≠ []
  one_line : '\n' ∉ command

/-- The text starts with something that can be read as a mention. -/
def Readable (cs : List Char) : Prop :=
  ∃ blanks command rest, Reading cs blanks command rest

/-- The text is read with as many blanks as it can be, and to the end of a line. -/
structure Choice (cs blanks command rest : List Char) : Prop extends
    Reading cs blanks command rest where
  whole_line : ∀ c ∈ rest.head?, c = '\n'
  most_blanks : ∀ {blanks' command' rest'}, Reading cs blanks' command' rest' →
    blanks'.length ≤ blanks.length

variable {cs r blanks command rest whole : List Char} {n k : Nat}

theorem newline_notMem_mark : '\n' ∉ mark.toList := by decide

section Line

theorem lineOf_append_rest (cs : List Char) : lineOf cs ++ cs.dropWhile (· ≠ '\n') = cs :=
  List.takeWhile_append_dropWhile

theorem newline_notMem_lineOf (cs : List Char) : '\n' ∉ lineOf cs := fun h => by
  simpa using List.mem_takeWhile_imp h

theorem newline_after_line (cs : List Char) : ∀ c ∈ (cs.dropWhile (· ≠ '\n')).head?, c = '\n' := by
  intro c hc
  have h := List.head?_dropWhile_not (· ≠ '\n') cs
  rw [hc] at h
  simpa using h

/-- What is on a line before its end is all of that line. -/
theorem lineOf_append {line : List Char} (hl : '\n' ∉ line) (hr : ∀ c ∈ r.head?, c = '\n') :
    lineOf (line ++ r) = line := by
  have hline : ∀ c ∈ line, decide (c ≠ '\n') = true := fun c hc =>
    decide_eq_true fun he => hl (he ▸ hc)
  rw [lineOf, List.takeWhile_append_of_pos hline]
  cases r with
  | nil => simp
  | cons c r => simp [hr c rfl]

theorem lineOf_eq_nil_iff : lineOf cs = [] ↔ ∀ c ∈ cs.head?, c = '\n' := by
  cases cs <;> simp [lineOf]

end Line

section Split

theorem lastSplit_succ (cs : List Char) (n : Nat) : lastSplit cs (n + 1) =
    if lineOf (cs.drop (n + 1)) = [] then lastSplit cs n
    else some (cs.take (n + 1), cs.drop (n + 1)) := by
  rw [lastSplit]
  cases hd : cs.drop (n + 1) with
  | nil => simp [lineOf]
  | cons c rest => by_cases hc : c = '\n' <;> simp [lineOf, hc]

theorem lastSplit_eq_none (h : lastSplit cs n = none) (h₁ : 1 ≤ k) (hk : k ≤ n) :
    lineOf (cs.drop k) = [] := by
  induction n with
  | zero => omega
  | succ n ih =>
    rw [lastSplit_succ] at h
    split_ifs at h with hl
    rcases Nat.lt_or_eq_of_le hk with hk | rfl
    · exact ih h (Nat.le_of_lt_succ hk)
    · exact hl

/-- The text is split at the last point from which a line goes on. -/
theorem lastSplit_eq_some {p : List Char × List Char} (h : lastSplit cs n = some p) :
    ∃ k, 1 ≤ k ∧ k ≤ n ∧ p = (cs.take k, cs.drop k) ∧ lineOf (cs.drop k) ≠ [] ∧
      ∀ j, j ≤ n → lineOf (cs.drop j) ≠ [] → j ≤ k := by
  induction n with
  | zero => cases h
  | succ n ih =>
    rw [lastSplit_succ] at h
    split_ifs at h with hl
    · obtain ⟨k, h₁, hk, hp, hline, hlast⟩ := ih h
      refine ⟨k, h₁, Nat.le_succ_of_le hk, hp, hline, fun j hj hne => ?_⟩
      rcases Nat.lt_or_eq_of_le hj with hj | rfl
      · exact hlast j (Nat.le_of_lt_succ hj) hne
      · exact (hne hl).elim
    · exact ⟨n + 1, by omega, le_rfl, (Option.some.inj h).symm, hl, fun j hj _ => hj⟩

end Split

section Places

/-- Blanks of a reading are among the blanks behind the mark, and something of a line follows. -/
theorem Reading.place (h : Reading (mark.toList ++ r) blanks command rest) :
    1 ≤ blanks.length ∧ blanks.length ≤ (r.takeWhile isBlank).length ∧
      lineOf (r.drop blanks.length) ≠ [] := by
  obtain rfl := List.append_cancel_left h.text
  refine ⟨List.length_pos_iff.2 h.some_blank, ?_, ?_⟩
  · rw [List.takeWhile_append_of_pos h.all_blank, List.length_append]
    exact Nat.le_add_right _ _
  · rw [List.drop_left, Ne, lineOf_eq_nil_iff]
    obtain ⟨c, command, rfl⟩ := List.exists_cons_of_ne_nil h.some_command
    intro hall
    exact h.one_line (hall c rfl ▸ List.mem_cons_self)

/-- A point among the blanks from which a line goes on gives a reading. -/
theorem reading_of_place (h₁ : 1 ≤ k) (hk : k ≤ (r.takeWhile isBlank).length)
    (hl : lineOf (r.drop k) ≠ []) :
    Reading (mark.toList ++ r) (r.take k) (lineOf (r.drop k))
      ((r.drop k).dropWhile (· ≠ '\n')) where
  text := by rw [lineOf_append_rest, List.take_append_drop]
  some_blank := fun h => by
    rcases List.take_eq_nil_iff.1 h with rfl | rfl
    · omega
    · exact hl (by simp [lineOf])
  all_blank := fun c hc => by
    have hlength : (r.take k).length ≤ (r.takeWhile isBlank).length :=
      (List.length_take_le k r).trans hk
    have htake : r.take k <+: r := List.take_prefix k r
    have hrun : r.takeWhile isBlank <+: r := List.takeWhile_prefix isBlank
    have hle := List.prefix_of_prefix_length_le htake hrun hlength
    exact List.mem_takeWhile_imp (hle.subset hc)
  some_command := hl
  one_line := newline_notMem_lineOf _

end Places

section Choice

variable {blanks' command' rest' : List Char}

/-- The blanks of any reading are the first of those that are chosen. -/
theorem Choice.first_blanks (h : Choice cs blanks command rest)
    (h' : Reading cs blanks' command' rest') : blanks' <+: blanks := by
  have htext := List.append_cancel_left (h'.text.symm.trans h.text)
  refine List.prefix_of_prefix_length_le (List.prefix_append _ (command' ++ rest')) ?_
    (h.most_blanks h')
  rw [htext]
  exact List.prefix_append _ _

/-- There is one choice at most. -/
theorem Choice.unique (h : Choice cs blanks command rest) (h' : Choice cs blanks' command' rest') :
    blanks = blanks' ∧ command = command' ∧ rest = rest' := by
  obtain rfl : blanks = blanks' :=
    (h'.first_blanks h.toReading).eq_of_length_le (h.most_blanks h'.toReading)
  have hrest := List.append_cancel_left (List.append_cancel_left (h.text.symm.trans h'.text))
  have hcommand : command = command' := by
    rw [← lineOf_append h.one_line h.whole_line, hrest,
      lineOf_append h'.one_line h'.whole_line]
  subst hcommand
  exact ⟨rfl, rfl, List.append_cancel_left hrest⟩

end Choice

/-- The command found behind a mark is the one that is chosen. -/
theorem choice_of_commandAfter? (h : commandAfter? r = some (blanks, command)) :
    ∃ rest, Choice (mark.toList ++ r) blanks command rest := by
  obtain ⟨p, hp, hpair⟩ := Option.map_eq_some_iff.1 h
  obtain ⟨k, h₁, hk, rfl, hl, hlast⟩ := lastSplit_eq_some hp
  simp only [Prod.mk.injEq] at hpair
  obtain ⟨rfl, rfl⟩ := hpair
  refine ⟨_, reading_of_place h₁ hk hl, newline_after_line _, fun h => ?_⟩
  obtain ⟨-, hle, hne⟩ := h.place
  have hrun : r.takeWhile isBlank <+: r := List.takeWhile_prefix isBlank
  rw [List.length_take_of_le (hk.trans hrun.length_le)]
  exact hlast _ hle hne

/-- What is read as a mention is the choice. -/
theorem choice_of_mentionAt? (h : mentionAt? cs = some (whole, command, rest)) :
    ∃ blanks, whole = mark.toList ++ blanks ++ command ∧ Choice cs blanks command rest := by
  unfold mentionAt? at h
  split at h
  · cases h
  next r hr =>
  obtain rfl := after?_eq_some_iff.1 hr
  split at h
  · cases h
  next blanks command' hc =>
  simp only [Option.some.injEq, Prod.mk.injEq] at h
  obtain ⟨rfl, rfl, rfl⟩ := h
  obtain ⟨rest, hchoice⟩ := choice_of_commandAfter? hc
  refine ⟨blanks, rfl, ?_⟩
  have htext : mark.toList ++ r = mark.toList ++ blanks ++ command' ++ rest := by
    rw [hchoice.text, List.append_assoc, List.append_assoc]
  rwa [htext, List.drop_left, ← htext]

/-- Where no mention is found nothing can be read as one. -/
theorem not_readable_of_mentionAt? (h : mentionAt? cs = none) : ¬Readable cs := by
  rintro ⟨blanks, command, rest, hread⟩
  obtain rfl := hread.text
  obtain ⟨h₁, hk, hl⟩ := hread.place
  unfold mentionAt? at h
  rw [after?_eq_some_iff.2 rfl] at h
  simp only at h
  split at h
  · next hc => exact hl (lastSplit_eq_none (Option.map_eq_none_iff.1 hc) h₁ hk)
  · cases h

end AgentConsole
