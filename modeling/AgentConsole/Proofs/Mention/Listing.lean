import AgentConsole.Proofs.Mention.Scan
import AgentConsole.Proofs.Text.Utf8

/-!
# Listing mentions and picking one

An octet of a text is on the line whose number is told by the ends of lines in front of it
(`lineNumber_octets`), since no character but the end of a line has its octet. So the line listed
with a mention is one of the text and has a mark where the mention starts (`markedAt_start`), and as
mentions go from left to right the numbers of their lines do not fall (`listing_findMentions`). What
is picked by a number is what the list has under it, for numbers of a machine as well
(`picking_of_mentions`).
-/

namespace AgentConsole

open AgentConsole.Text

/-- The lines of a text, without their ends. -/
def lines (text : String) : List (List Char) :=
  text.toList.splitOn '\n'

/-- The line with this number has a mark that starts at this octet of the text. -/
def MarkedAt (text : String) (number place : Nat) : Prop :=
  ∃ before after, (lines text)[number - 1]? = some (before ++ (mark.toList ++ after)) ∧
    place = octets (((lines text).take (number - 1)).flatMap (· ++ ['\n'])) + octets before

/-- How a mention is listed: with its number, its command and the number of its line. -/
def listed (number : Nat) (command : String) (line : Nat) : String :=
  "  " ++ toString number ++ ". " ++ command ++ "  (line " ++ toString line ++ ")"

/-- The mentions of a text are listed one by one, numbered from one, each with its command and with
the number of a line that has its mark, and these numbers do not fall. -/
structure Listing (text : String) (ms : List Mention) (numbers : List Nat)
    (entries : List String) : Prop where
  lengths : numbers.length = ms.length ∧ entries.length = ms.length
  ordered : numbers.Pairwise (· ≤ ·)
  entry : ∀ i m, ms[i]? = some m → ∃ line, numbers[i]? = some line ∧
    entries[i]? = some (listed (i + 1) m.command line) ∧
    1 ≤ line ∧ line ≤ (lines text).length ∧ MarkedAt text line m.start

/-- A number picks the mention that has it, counted from one, and fails if none has it; without a
number the only mention is picked, if there is just one. Machine numbers, which have a greatest one
in front of zero, pick by the place they count down to. -/
structure Picking (ms : List Mention) : Prop where
  picked : ∀ number, 1 ≤ number → number ≤ ms.length →
    ∃ m, ms[number - 1]? = some m ∧ selectMention ms (some number) = .ok (some m)
  failed : ∀ number, number = 0 ∨ ms.length < number →
    selectMention ms (some number) = .error ⟨number, ms.length⟩
  single : ∀ m, selectMention ms none = .ok (some m) ↔ ms = [m]
  unpicked : selectMention ms none = .ok none ↔ ms.length ≠ 1
  wrapped : ms.length < UInt64.size → ∀ number : UInt64,
    selectMention ms (some number.toNat) =
      match ms[(number - 1).toNat]? with
      | some m => .ok (some m)
      | none => .error ⟨number.toNat, ms.length⟩

variable {text : String} {cs before here : List Char} {c : Char} {i j number : Nat}
variable {m : Mention} {ms : List Mention}

section Octets

/-- The octets of a character beyond ASCII are all beyond ASCII. -/
theorem not_ascii_of_mem_encode {b : UInt8} (h : 127 < c.val.toNat)
    (hb : b ∈ String.utf8EncodeChar c) : ¬b < 0x80 := by
  unfold String.utf8EncodeChar at hb
  simp only at hb
  split_ifs at hb with h₁ h₂ h₃
  · omega
  · simp only [List.mem_cons, List.not_mem_nil, or_false] at hb
    rcases hb with rfl | rfl <;> exact Utf8.not_ascii (by omega) (by omega)
  · simp only [List.mem_cons, List.not_mem_nil, or_false] at hb
    rcases hb with rfl | rfl | rfl <;> exact Utf8.not_ascii (by omega) (by omega)
  · simp only [List.mem_cons, List.not_mem_nil, or_false] at hb
    rcases hb with rfl | rfl | rfl | rfl <;> exact Utf8.not_ascii (by omega) (by omega)

/-- No character but the end of a line has its octet. -/
theorem filter_encode (c : Char) :
    (String.utf8EncodeChar c).filter (· = 10) = if c = '\n' then [10] else [] := by
  split_ifs with h
  · subst h
    decide
  · refine List.filter_eq_nil_iff.2 fun b hb he => ?_
    obtain rfl : b = 10 := by simpa using he
    rcases Nat.lt_or_ge 127 c.val.toNat with hc | hc
    · exact not_ascii_of_mem_encode hc hb (by decide)
    · -- The one octet of an ASCII character is the character.
      unfold String.utf8EncodeChar at hb
      simp only [if_pos hc, List.mem_singleton] at hb
      have hn := congrArg UInt8.toNat hb
      rw [UInt8.toNat_ofNat_of_lt' (Nat.lt_of_le_of_lt hc (by decide))] at hn
      exact h ((Char.ofNat_toNat c).symm.trans (congrArg Char.ofNat hn.symm))

theorem length_encode (cs : List Char) : (cs.flatMap String.utf8EncodeChar).length = octets cs := by
  induction cs with
  | nil => rfl
  | cons c cs ih =>
    rw [List.flatMap_cons, List.length_append, String.length_utf8EncodeChar, ih, octets]

theorem length_filter_encode (cs : List Char) :
    ((cs.flatMap String.utf8EncodeChar).filter (· = 10)).length = cs.count '\n' := by
  induction cs with
  | nil => rfl
  | cons c cs ih =>
    rw [List.flatMap_cons, List.filter_append, List.length_append, ih, filter_encode,
      List.count_cons]
    by_cases hc : c = '\n' <;> simp [hc, Nat.add_comm]

/-- The line of a place is told by the ends of lines in front of it. -/
theorem lineNumber_octets (h : text.toList = before ++ here) :
    lineNumber text (octets before) = before.count '\n' + 1 := by
  rw [lineNumber, Utf8.encode, h, List.flatMap_append, ← length_encode before, List.take_left,
    length_filter_encode]

theorem lineNumber_mono (text : String) (h : i ≤ j) : lineNumber text i ≤ lineNumber text j :=
  Nat.succ_le_succ (((List.take_sublist_take_left h).filter _).length_le)

end Octets

section Lines

theorem head?_splitOn (cs : List Char) : (cs.splitOn '\n')[0]? = some (lineOf cs) := by
  by_cases h : '\n' ∈ cs
  · obtain ⟨line, rest, rfl, hl⟩ := List.eq_append_cons_of_mem h
    rw [List.splitOn_append_cons_self_of_not_mem hl, lineOf_append hl (by simp)]
    rfl
  · have hline : lineOf cs = cs := by simpa using lineOf_append (r := []) h (by simp)
    rw [List.splitOn_eq_singleton h, hline]
    rfl

/-- A place behind so many ends of lines is on the line behind as many lines: in front of it are
those lines, and the start of its own. -/
theorem exists_lead (before here : List Char) : ∃ lead,
    before = (((before ++ here).splitOn '\n').take (before.count '\n')).flatMap (· ++ ['\n']) ++
      lead ∧
    ((before ++ here).splitOn '\n')[before.count '\n']? = some (lead ++ lineOf here) := by
  by_cases h : '\n' ∈ before
  · obtain ⟨line, rest, rfl, hl⟩ := List.eq_append_cons_of_mem h
    obtain ⟨lead, hrest, hline⟩ := exists_lead rest here
    have hcount : (line ++ '\n' :: rest).count '\n' = rest.count '\n' + 1 := by
      rw [List.count_append, List.count_eq_zero_of_not_mem hl, List.count_cons_self, Nat.zero_add]
    rw [List.append_assoc, List.cons_append, List.splitOn_append_cons_self_of_not_mem hl, hcount]
    refine ⟨lead, ?_, by simpa using hline⟩
    rw [List.take_succ_cons, List.flatMap_cons, List.append_assoc, List.append_assoc, ← hrest]
    rfl
  · refine ⟨before, ?_, ?_⟩
    · rw [List.count_eq_zero_of_not_mem h]
      rfl
    · have hfront : ∀ c ∈ before, decide (c ≠ '\n') = true := fun c hc =>
        decide_eq_true fun he => h (he ▸ hc)
      rw [List.count_eq_zero_of_not_mem h, head?_splitOn, lineOf,
        List.takeWhile_append_of_pos hfront]
      rfl
  termination_by before.length

theorem exists_lineOf_mark (cs : List Char) : ∃ after, lineOf (mark.toList ++ cs) =
    mark.toList ++ after := by
  have hmark : ∀ c ∈ mark.toList, decide (c ≠ '\n') = true := fun c hc =>
    decide_eq_true fun he => newline_notMem_mark (he ▸ hc)
  exact ⟨lineOf cs, List.takeWhile_append_of_pos hmark⟩

/-- The line of a mention has its mark, where the mention starts. -/
theorem markedAt_start (hm : m ∈ findMentions text) :
    1 ≤ lineNumber text m.start ∧ lineNumber text m.start ≤ (lines text).length ∧
      MarkedAt text (lineNumber text m.start) m.start := by
  obtain ⟨before, here, blanks, command, rest, htext, hc, rfl⟩ := (scan_findMentions text).read m hm
  obtain ⟨after, hafter⟩ := exists_lineOf_mark (blanks ++ (command ++ rest))
  obtain ⟨lead, hfront, hline⟩ := exists_lead before here
  rw [← htext] at hfront hline
  rw [hc.text, hafter] at hline
  have hnumber := lineNumber_octets htext
  simp only [mentionBehind, Nat.zero_add]
  refine ⟨by omega, ?_, lead, after, ?_, ?_⟩
  · rw [hnumber]
    exact (List.getElem?_eq_some_iff.1 hline).1
  · rw [hnumber]
    exact hline
  · rw [hnumber, ← octets_append]
    exact congrArg octets hfront

end Lines

/-- The mentions of a text as they are listed. -/
theorem listing_findMentions (text : String) :
    Listing text (findMentions text) ((findMentions text).map fun m => lineNumber text m.start)
      (listMentions text (findMentions text)) where
  lengths := by simp [listMentions]
  ordered := List.pairwise_map.2
    ((scan_findMentions text).increasing.imp fun hlt => lineNumber_mono text hlt.le)
  entry := fun i m hm => by
    refine ⟨lineNumber text m.start, ?_, ?_, markedAt_start (List.mem_of_getElem? hm)⟩
    · rw [List.getElem?_map, hm]
      rfl
    · rw [listMentions, List.getElem?_map, List.getElem?_zipIdx, hm, Option.map_some, Nat.zero_add]
      rfl

section Picking

theorem selectMention_of_getElem? (h : ms[i]? = some m) :
    selectMention ms (some (i + 1)) = .ok (some m) := by
  simp [selectMention, h]

theorem selectMention_eq_error (h : number = 0 ∨ ms.length < number) :
    selectMention ms (some number) = .error ⟨number, ms.length⟩ := by
  cases number with
  | zero => rfl
  | succ i =>
    have hnone : ms[i]? = none := List.getElem?_eq_none (by omega)
    simp [selectMention, hnone]

theorem selectMention_none (ms : List Mention) :
    selectMention ms none = .ok (if ms.length = 1 then ms.head? else none) :=
  rfl

/-- Counted down from zero is a machine number's greatest, where no mention is. -/
theorem selectMention_toNat (hms : ms.length < UInt64.size) (number : UInt64) :
    selectMention ms (some number.toNat) =
      match ms[(number - 1).toNat]? with
      | some m => .ok (some m)
      | none => .error ⟨number.toNat, ms.length⟩ := by
  rcases eq_or_ne number 0 with rfl | hne
  · have hnone : ms[((0 : UInt64) - 1).toNat]? = none :=
      List.getElem?_eq_none (Nat.le_of_lt_succ hms)
    rw [hnone]
    rfl
  · have hpos : 1 ≤ number.toNat := Nat.pos_of_ne_zero fun h => hne (UInt64.toNat_inj.1 h)
    obtain ⟨i, hi⟩ := Nat.exists_eq_add_of_le' hpos
    have hle : (1 : UInt64) ≤ number := UInt64.le_iff_toNat_le.2 hpos
    have hprev : (number - 1).toNat = i := by
      rw [UInt64.toNat_sub_of_le _ _ hle, hi]
      rfl
    rw [hi, hprev]
    rfl

/-- Picking among any mentions. -/
theorem picking_of_mentions (ms : List Mention) : Picking ms where
  picked := fun number h₁ hn => by
    obtain ⟨i, rfl⟩ := Nat.exists_eq_add_of_le' h₁
    have hi : ms[i]? = some ms[i] := List.getElem?_eq_getElem hn
    exact ⟨ms[i], hi, selectMention_of_getElem? hi⟩
  failed := fun _ => selectMention_eq_error
  single := fun m => by
    rcases ms with _ | ⟨n, _ | ⟨n', ms⟩⟩ <;> simp [selectMention_none]
  unpicked := by
    rcases ms with _ | ⟨n, _ | ⟨n', ms⟩⟩ <;> simp [selectMention_none]
  wrapped := selectMention_toNat

end Picking

end AgentConsole
