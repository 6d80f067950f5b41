import AgentConsole.Proofs.Mention.Lines
import AgentConsole.Proofs.Text.Blank

/-!
# Mentions without a word

A mention has a blank command just when only blanks follow its mark, up to the end of the text
(`trim_command_eq_empty_iff`), so no other mention comes after it (`start_le_of_blankBehind`). And a
text from which its mark is taken away is blank if the mark was all there was to it
(`trim_stripMention_eq_empty_iff`).
-/

namespace AgentConsole

open AgentConsole.Text

variable {cs blanks command rest : List Char} {text : String} {m n : Mention}

/-- Behind the mark of the mention there are only blanks. -/
def BlankBehind (text : String) (m : Mention) : Prop :=
  ∃ before tail, text.toList = before ++ (mark.toList ++ tail) ∧ octets before = m.start ∧
    ∀ c ∈ tail, isBlank c

/-- If the command that is chosen is blank then so is all that follows it: else it would be among
the blanks in front of a command on another line. -/
theorem Choice.forall_isBlank (h : Choice cs blanks command rest) (hc : ∀ c ∈ command, isBlank c) :
    ∀ c ∈ blanks ++ (command ++ rest), isBlank c := by
  have hfront : ∀ c ∈ blanks ++ command, isBlank c := fun c hmem =>
    (List.mem_append.1 hmem).elim (h.all_blank c) (hc c)
  have hrest : ∀ c ∈ rest, c = '\n' := by
    by_contra hsome
    cases hr : rest with
    | nil => simp [hr] at hsome
    | cons c r =>
      obtain rfl : c = '\n' := h.whole_line c (by rw [hr]; rfl)
      have hr' : ∃ c ∈ r, c ≠ '\n' := by simpa [hr] using hsome
      obtain ⟨command', rest', hread⟩ := reading_over_newline hfront hr'
      have htext : mark.toList ++ (blanks ++ command) ++ '\n' :: r = cs := by
        rw [h.text, hr, List.append_assoc, List.append_assoc]
      have hle := h.most_blanks (htext ▸ hread)
      simp only [List.length_append, List.length_cons] at hle
      omega
  intro c hmem
  rw [← List.append_assoc] at hmem
  rcases List.mem_append.1 hmem with hmem | hmem
  · exact hfront c hmem
  · rw [hrest c hmem]
    decide

/-- A mention has a blank command just when there are only blanks behind its mark. -/
theorem trim_command_eq_empty_iff (hm : m ∈ findMentions text) :
    trim m.command = "" ↔ BlankBehind text m := by
  obtain ⟨before, here, blanks, command, rest, htext, hc, rfl⟩ :=
    (scan_findMentions text).read m hm
  simp only [mentionBehind, trim_ofList_eq_empty_iff, forall_isBlank_trimChars]
  constructor
  · intro h
    refine ⟨before, blanks ++ (command ++ rest), ?_, (Nat.zero_add _).symm, hc.forall_isBlank h⟩
    rw [htext, hc.text]
  · rintro ⟨before', tail, htext', hstart, htail⟩ c hmem
    obtain ⟨rfl, rfl⟩ := eq_of_octets_eq (htext'.symm.trans htext) (by simpa using hstart)
    rw [List.append_cancel_left hc.text] at htail
    exact htail c (List.mem_append_right _ (List.mem_append_left _ hmem))

/-- No mention comes after one with only blanks behind its mark. -/
theorem start_le_of_blankBehind (hm : m ∈ findMentions text) (h : BlankBehind text m)
    (hn : n ∈ findMentions text) : n.start ≤ m.start := by
  by_contra hlt
  have hscan := scan_findMentions text
  obtain ⟨before, tail, htext, hstart, htail⟩ := h
  have hstop : m.stop ≤ n.start := by
    by_contra hover
    have hn' := (hscan.read n hn).bounds.2.1
    obtain rfl := hscan.eq_of_over hm hn ⟨by omega, by omega⟩ ⟨le_rfl, hn'⟩
    exact hlt le_rfl
  obtain ⟨before', here, blanks, command, rest, htext', hc, rfl⟩ := hscan.read n hn
  simp only [mentionBehind, Nat.zero_add] at hstop hlt
  obtain ⟨mid, rfl, hmid⟩ := exists_between (htext.symm.trans htext') (by omega)
  have hmark : octets mark.toList ≤ octets mid := by
    obtain ⟨before', here', blanks', command', rest', -, -, rfl⟩ := hscan.read m hm
    simp only [mentionBehind, octets_append] at hstart hstop
    omega
  obtain ⟨gap, -, htail'⟩ := exists_between hmid hmark
  have hsign : '@' ∈ tail := by
    rw [htail', hc.text]
    exact List.mem_append_right _ (List.mem_append_left _ (by decide))
  exact absurd (htail _ hsign) (by decide)

/-- With its mark taken away a text is blank if it was, or if the mark was all there was to it. -/
theorem trim_stripMention_eq_empty_iff {text : String} :
    trim (stripMention text) = "" ↔ trim text = "" ∨ trim text = mark := by
  have hmark : trim text = mark ↔ trimChars text.toList = mark.toList := trim_eq_iff
  have hempty : trim text = "" ↔ trimChars text.toList = [] := trim_eq_iff
  unfold stripMention
  cases hr : after? mark.toList (trimChars text.toList) with
  | none =>
    have hne : trim text ≠ mark := fun he => by
      rw [hmark.1 he, after?_eq_some_iff.2 (List.append_nil _).symm] at hr
      cases hr
    simp [hne]
  | some rest =>
    have htext := after?_eq_some_iff.1 hr
    have hnonempty : mark.toList ++ rest ≠ [] := by simp [mark]
    simp only [trim_ofList_eq_empty_iff, forall_isBlank_trimChars]
    rw [hmark, hempty, htext, List.append_right_eq_self, or_iff_right hnonempty]
    constructor
    · -- A trimmed text does not end with a blank.
      intro h
      by_contra hne
      have hlast : rest.getLast hne ∈ (trimChars text.toList).getLast? := by
        rw [htext, List.getLast?_append_of_ne_nil _ hne, List.getLast?_eq_some_getLast hne]
        rfl
      exact not_isBlank_of_trimChars hlast (h _ (List.getLast_mem hne))
    · rintro rfl
      simp

end AgentConsole
