import AgentConsole.Proofs.Mention.Scan

/-!
# Mentions and lines

The blanks behind a mark may go on over the end of a line, so the mentions of two texts with the end
of a line between them are not always those of the one and then those of the other. They are unless
the first text ends with a mark that only blanks follow and that no mention reaches over, and the
second one has more than ends of lines to offer (`findMentions_lines`): then the mark takes its
command from there. The reason is that a reading that uses something behind the end of the line has
nothing but blanks in front of it (`Reading.of_newline`).
-/

namespace AgentConsole

open AgentConsole.Text

/-- The mention when so many octets are put in front of the text. -/
def Mention.shift (k : Nat) (m : Mention) : Mention :=
  { m with start := m.start + k, stop := m.stop + k }

/-- The text ends with a mark that only blanks follow, and no mention reaches over that mark. -/
def LeavesOpen (text : String) : Prop :=
  ∃ before blanks, text.toList = before ++ (mark.toList ++ blanks) ∧ (∀ c ∈ blanks, isBlank c) ∧
    ∀ m ∈ findMentions text, octets before ≤ m.start ∨ m.stop ≤ octets before

variable {offset k : Nat} {cs r before here blanks command rest : List Char} {a b : String}
variable {m : Mention} {ms ns : List Mention}

section Shift

theorem IsRead.shift (k : Nat) (h : IsRead offset cs m) : IsRead (offset + k) cs (m.shift k) := by
  obtain ⟨before, here, blanks, command, rest, htext, hc, rfl⟩ := h
  refine ⟨before, here, blanks, command, rest, htext, hc, ?_⟩
  simp only [Mention.shift, mentionBehind, Mention.mk.injEq, true_and]
  omega

theorem Scan.shift (k : Nat) (h : Scan offset cs ms) :
    Scan (offset + k) cs (ms.map (Mention.shift k)) where
  apart := List.pairwise_map.2 (h.apart.imp fun hle => Nat.add_le_add_right hle k)
  read := fun m hm => by
    obtain ⟨n, hn, rfl⟩ := List.mem_map.1 hm
    exact (h.read n hn).shift k
  complete := fun htext hr => by
    obtain ⟨m, hm, hstart, hstop⟩ := h.complete htext hr
    refine ⟨m.shift k, List.mem_map_of_mem hm, ?_, ?_⟩ <;> simp only [Mention.shift] <;> omega

end Shift

section Newline

/-- A command does not start at the end of a line. -/
theorem Reading.command_append_ne (h : Reading cs blanks command rest) :
    command ++ rest ≠ '\n' :: r := by
  obtain ⟨c, command, rfl⟩ := List.exists_cons_of_ne_nil h.some_command
  intro he
  exact h.one_line ((List.cons.inj he).1 ▸ List.mem_cons_self)

/-- What is read at the start of a line and what follows it is read on that line, or it goes over
the end of the line, with nothing but blanks behind the mark on it. -/
theorem Reading.of_newline (h : Reading (cs ++ '\n' :: r) blanks command rest) :
    (∃ command' rest', Reading cs blanks command' rest') ∨
      ∃ tail, cs = mark.toList ++ tail ∧ (∀ c ∈ tail, isBlank c) ∧ ∃ c ∈ r, c ≠ '\n' := by
  have htext := h.text
  rw [← List.append_assoc] at htext
  rcases List.append_eq_append_iff.1 htext with ⟨mid, hcut, hmid⟩ | ⟨mid, rfl, hmid⟩
  · -- The command is behind the end of the line, which is one of the blanks.
    right
    cases mid with
    | nil => exact (h.command_append_ne hmid.symm).elim
    | cons c mid =>
      obtain ⟨rfl, rfl⟩ := List.cons.inj hmid
      have hcommand : ∃ c ∈ mid ++ (command ++ rest), c ≠ '\n' := by
        obtain ⟨c, command, rfl⟩ := List.exists_cons_of_ne_nil h.some_command
        exact ⟨c, by simp, fun he => h.one_line (he ▸ List.mem_cons_self)⟩
      rcases List.append_eq_append_iff.1 hcut with ⟨tail, rfl, rfl⟩ | ⟨tail, hmark, htail⟩
      · exact ⟨tail, rfl, fun c hc => h.all_blank c (List.mem_append_left _ hc), hcommand⟩
      · cases tail with
        | nil => exact ⟨[], by simpa using hmark.symm, by simp, hcommand⟩
        | cons c tail =>
          obtain ⟨rfl, -⟩ := List.cons.inj htail
          refine (newline_notMem_mark ?_).elim
          rw [hmark]
          exact List.mem_append_right _ List.mem_cons_self
  · left
    cases mid with
    | nil => exact (h.command_append_ne hmid).elim
    | cons c mid =>
      refine ⟨lineOf (c :: mid), (c :: mid).dropWhile (· ≠ '\n'), ?_, h.some_blank, h.all_blank, ?_,
        newline_notMem_lineOf _⟩
      · rw [lineOf_append_rest, List.append_assoc]
      · rw [Ne, lineOf_eq_nil_iff]
        intro hall
        obtain rfl := hall c rfl
        exact h.command_append_ne hmid

/-- What is chosen on a line is chosen with more lines behind it, unless blanks are all there is
behind the mark and the other lines have something to say. -/
theorem Choice.newline (h : Choice cs blanks command rest)
    (hr : ∀ tail, cs = mark.toList ++ tail → (∀ c ∈ tail, isBlank c) → ∀ c ∈ r, c = '\n') :
    Choice (cs ++ '\n' :: r) blanks command (rest ++ '\n' :: r) where
  text := by
    rw [h.text]
    simp
  some_blank := h.some_blank
  all_blank := h.all_blank
  some_command := h.some_command
  one_line := h.one_line
  whole_line := by
    cases rest with
    | nil => simp
    | cons c rest => exact h.whole_line
  most_blanks := fun hread => by
    rcases hread.of_newline with ⟨command', rest', hread⟩ | ⟨tail, htail, hblank, c, hc, hne⟩
    · exact h.most_blanks hread
    · exact (hne (hr tail htail hblank c hc)).elim

/-- A mark that is left open is read with what follows on other lines. -/
theorem reading_over_newline (hb : ∀ c ∈ blanks, isBlank c) (hr : ∃ c ∈ r, c ≠ '\n') :
    ∃ command rest, Reading (mark.toList ++ blanks ++ '\n' :: r)
      (blanks ++ '\n' :: r.takeWhile (· = '\n')) command rest := by
  have hgoes : r.dropWhile (· = '\n') ≠ [] := by
    obtain ⟨c, hc, hne⟩ := hr
    intro hnil
    exact hne (by simpa using List.dropWhile_eq_nil_iff.1 hnil c hc)
  obtain ⟨c, rest, hrest⟩ := List.exists_cons_of_ne_nil hgoes
  have hc : c ≠ '\n' := by
    have h := List.head?_dropWhile_not (· = '\n') r
    rw [hrest] at h
    simpa using h
  refine ⟨[c], rest, ?_, by simp, ?_, by simp, by simpa using hc.symm⟩
  · have hsplit := List.takeWhile_append_dropWhile (p := (· = '\n')) (l := r)
    rw [hrest] at hsplit
    rw [List.append_assoc, List.append_assoc, List.cons_append, List.singleton_append, hsplit]
  · intro c hc
    rcases List.mem_append.1 hc with hc | hc
    · exact hb c hc
    · rcases List.mem_cons.1 hc with rfl | hc
      · decide
      · obtain rfl : c = '\n' := by simpa using List.mem_takeWhile_imp hc
        decide

end Newline

section Lines

theorem toList_lines (a b : String) : (a ++ "\n" ++ b).toList = a.toList ++ '\n' :: b.toList := by
  simp

/-- Over a mark with nothing but blanks behind it there is a mention from further in front. -/
theorem over_of_not_leavesOpen (h : ¬LeavesOpen a) {tail : List Char}
    (htext : a.toList = before ++ (mark.toList ++ tail)) (ht : ∀ c ∈ tail, isBlank c) :
    ∃ m ∈ findMentions a, m.start < octets before ∧ octets before < m.stop := by
  by_contra hnone
  refine h ⟨before, tail, htext, ht, fun m hm => ?_⟩
  by_contra hover
  exact hnone ⟨m, hm, by omega, by omega⟩

/-- The mentions of a text are read there with more lines behind it. -/
theorem IsRead.newline (h : ¬LeavesOpen a ∨ ∀ c ∈ r, c = '\n') (hm : m ∈ findMentions a) :
    IsRead 0 (a.toList ++ '\n' :: r) m := by
  have hscan := scan_findMentions a
  obtain ⟨before, here, blanks, command, rest, htext, hc, rfl⟩ := hscan.read m hm
  refine ⟨before, here ++ '\n' :: r, blanks, command, rest ++ '\n' :: r, ?_, ?_, rfl⟩
  · rw [htext, List.append_assoc]
  · refine hc.newline fun tail htail ht => h.resolve_left fun hopen => ?_
    obtain ⟨n, hn, hstart, hstop⟩ := over_of_not_leavesOpen hopen (htail ▸ htext) ht
    have hlt := (hscan.read _ hm).bounds.2.1
    simp only [mentionBehind, Nat.zero_add] at hm hlt
    obtain rfl := hscan.eq_of_over hn hm ⟨hstart.le, hstop⟩ ⟨le_rfl, hlt⟩
    exact lt_irrefl _ hstart

/-- The mentions of a text and those of what follows it on other lines are a scan of both. -/
theorem scan_lines (h : ¬LeavesOpen a ∨ ∀ c ∈ b.toList, c = '\n') :
    Scan 0 (a.toList ++ '\n' :: b.toList)
      (findMentions a ++ (findMentions b).map (Mention.shift (a.utf8ByteSize + 1))) := by
  have ha := scan_findMentions a
  have hb := (scan_findMentions b).shift (a.utf8ByteSize + 1)
  rw [Nat.zero_add, ← octets_toList] at hb
  rw [← octets_toList]
  have hfront : octets (a.toList ++ ['\n']) = octets a.toList + 1 := octets_append _ _
  refine ⟨List.pairwise_append.2 ⟨ha.apart, hb.apart, fun m hm n hn => ?_⟩, fun m hm => ?_, ?_⟩
  · have hstop := (ha.read m hm).bounds.2.2
    have hstart := (hb.read n hn).bounds.1
    omega
  · rcases List.mem_append.1 hm with hm | hm
    · exact .newline h hm
    · have hread := hb.read m hm
      rw [← hfront, ← Nat.zero_add (octets _)] at hread
      simpa using hread.append _
  · intro before here htext hr
    rcases Nat.lt_or_ge (octets a.toList) (octets before) with hlt | hge
    · -- The place is behind the end of the line.
      rw [← List.singleton_append, ← List.append_assoc] at htext
      obtain ⟨mid, rfl, hmid⟩ := exists_between htext (by omega)
      obtain ⟨m, hm, hover⟩ := hb.complete hmid hr
      rw [octets_append, hfront, Nat.zero_add]
      exact ⟨m, List.mem_append_right _ hm, hover⟩
    · obtain ⟨mid, hmid, rfl⟩ := exists_between htext.symm hge
      obtain ⟨blanks, command, rest, hread⟩ := hr
      rcases hread.of_newline with ⟨command', rest', hread⟩ | ⟨tail, rfl, ht, c, hc, hne⟩
      · obtain ⟨m, hm, hover⟩ := ha.complete hmid ⟨_, _, _, hread⟩
        exact ⟨m, List.mem_append_left _ hm, hover⟩
      · have hopen := h.resolve_right fun hall => hne (hall c hc)
        obtain ⟨m, hm, hstart, hstop⟩ := over_of_not_leavesOpen hopen hmid ht
        exact ⟨m, List.mem_append_left _ hm, by omega, by omega⟩

/-- A mark that is left open takes its command from the lines that follow. -/
theorem over_of_leavesOpen (h : LeavesOpen a) (hr : ∃ c ∈ b.toList, c ≠ '\n') :
    ∃ m ∈ findMentions (a ++ "\n" ++ b), m ∉ findMentions a ∧ m.start ≤ a.utf8ByteSize := by
  obtain ⟨before, blanks, htext, hblank, hover⟩ := h
  obtain ⟨command, rest, hread⟩ := reading_over_newline hblank hr
  have hscan := scan_findMentions (a ++ "\n" ++ b)
  have hlines : (a ++ "\n" ++ b).toList =
      before ++ (mark.toList ++ blanks ++ '\n' :: b.toList) := by
    rw [toList_lines, htext, List.append_assoc]
  obtain ⟨m, hm, hstart, hstop⟩ := hscan.complete hlines ⟨_, _, _, hread⟩
  have hsize : a.utf8ByteSize = octets before + (octets mark.toList + octets blanks) := by
    rw [← octets_toList, htext, octets_append, octets_append]
  refine ⟨m, hm, fun hma => ?_, by omega⟩
  -- A mention of `a` that starts at the mark has fewer blanks than it can have in both texts.
  have hstart' : m.start = octets before := by
    have := hover m hma
    omega
  have hle := ((scan_findMentions a).read m hma).bounds.2.2
  obtain ⟨before', here, blanks', command', rest', htext', hc, rfl⟩ := hscan.read m hm
  simp only [mentionBehind, Nat.zero_add] at hstart'
  obtain ⟨rfl, rfl⟩ := eq_of_octets_eq (htext'.symm.trans hlines) hstart'
  obtain ⟨more, rfl⟩ := hc.first_blanks hread
  have hnewline : octets ('\n' :: b.toList.takeWhile (· = '\n')) ≠ 0 :=
    mt octets_eq_zero.1 (List.cons_ne_nil _ _)
  rw [octets_toList, hsize] at hle
  simp only [mentionBehind, octets_append] at hle
  omega

/-- The mentions of two texts with the end of a line between them are those of the one, and those of
the other moved behind it, just when the first text leaves no mark open or the other one holds
nothing but ends of lines. -/
theorem findMentions_lines (a b : String) :
    findMentions (a ++ "\n" ++ b) =
        findMentions a ++ (findMentions b).map (Mention.shift (a.utf8ByteSize + 1)) ↔
      ¬LeavesOpen a ∨ ∀ c ∈ b.toList, c = '\n' := by
  constructor
  · intro h
    by_contra hno
    obtain ⟨hopen, hall⟩ := not_or.1 hno
    obtain ⟨m, hm, hnot, hle⟩ := over_of_leavesOpen (not_not.1 hopen) (by simpa using hall)
    rw [h, List.mem_append] at hm
    obtain ⟨n, -, rfl⟩ := List.mem_map.1 (hm.resolve_left hnot)
    simp only [Mention.shift] at hle
    omega
  · intro h
    refine (scan_findMentions _).unique ?_
    rw [toList_lines]
    exact scan_lines h

/-- A mark that is alone on its line takes the next line for its command. -/
theorem command_on_next_line : findMentions ("@dev-agent" ++ "\n" ++ "x") = [⟨"x", 0, 12⟩] ∧
    findMentions "@dev-agent" ++
      (findMentions "x").map (Mention.shift ("@dev-agent".utf8ByteSize + 1)) = [] := by
  decide +kernel

end Lines

end AgentConsole
