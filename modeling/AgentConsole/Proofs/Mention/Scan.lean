import AgentConsole.Proofs.Mention.Reading
import Mathlib.Data.List.Pairwise
import Mathlib.Data.String.Basic

/-!
# The leftmost scan of a text

The mentions of a text lie one after the other, each is read as it has to be at its place, and
wherever something can be read as a mention there is a mention that starts there or reaches over
that place (`Scan`). This determines them (`Scan.unique`): of two scans, a mention of the one starts
where the other has a mention, since what reaches over its start would start before it in both. So
`findMentions` is described in full by what it promises of a text and its octets (`leftmost_scan`).
-/

namespace AgentConsole

open AgentConsole.Text

/-- The mention that is read behind `before` in a text that starts at `offset`. -/
def mentionBehind (offset : Nat) (before blanks command : List Char) : Mention where
  command := String.ofList (trimChars command)
  start := offset + octets before
  stop := offset + octets (before ++ (mark.toList ++ blanks ++ command))

/-- The mention is read somewhere in the text, which starts at `offset`. -/
def IsRead (offset : Nat) (cs : List Char) (m : Mention) : Prop :=
  ∃ before here blanks command rest, cs = before ++ here ∧ Choice here blanks command rest ∧
    m = mentionBehind offset before blanks command

/-- The mentions of a text that starts at `offset`, from left to right, none left out. -/
structure Scan (offset : Nat) (cs : List Char) (ms : List Mention) : Prop where
  apart : ms.Pairwise fun m n => m.stop ≤ n.start
  read : ∀ m ∈ ms, IsRead offset cs m
  complete : ∀ {before here}, cs = before ++ here → Readable here →
    ∃ m ∈ ms, m.start ≤ offset + octets before ∧ offset + octets before < m.stop

variable {offset : Nat} {cs before here blanks command rest whole : List Char}
variable {m n : Mention} {ms ns : List Mention}

section Octets

theorem octets_eq_utf8Len (cs : List Char) : octets cs = String.utf8Len cs := by
  induction cs with
  | nil => rfl
  | cons c cs ih => rw [octets, ih, String.utf8Len_cons, Nat.add_comm]

theorem octets_toList (text : String) : octets text.toList = text.utf8ByteSize := by
  rw [octets_eq_utf8Len, String.utf8Len_toList]

theorem octets_eq_zero : octets cs = 0 ↔ cs = [] := by
  rw [octets_eq_utf8Len, String.utf8Len_eq_zero]

/-- Of two points of a text the one behind no fewer octets is not in front of the other. -/
theorem exists_between {before' here' : List Char} (h : before ++ here = before' ++ here')
    (ho : octets before ≤ octets before') :
    ∃ mid, before' = before ++ mid ∧ here = mid ++ here' := by
  rcases List.append_eq_append_iff.1 h with hmid | ⟨mid, rfl, rfl⟩
  · exact hmid
  · rw [octets_append] at ho
    obtain rfl : mid = [] := octets_eq_zero.1 (by omega)
    exact ⟨[], by simp, rfl⟩

theorem eq_of_octets_eq {before' here' : List Char} (h : before ++ here = before' ++ here')
    (ho : octets before = octets before') : before = before' ∧ here = here' := by
  obtain ⟨mid, rfl, rfl⟩ := exists_between h ho.le
  rw [octets_append] at ho
  obtain rfl : mid = [] := octets_eq_zero.1 (by omega)
  simp

end Octets

section Bounds

theorem not_readable_nil : ¬Readable [] := by
  rintro ⟨blanks, command, rest, h⟩
  exact h.some_blank (List.append_eq_nil_iff.1 (List.append_eq_nil_iff.1 h.text.symm).2).1

theorem octets_pos_of_ne_nil (h : cs ≠ []) : 0 < octets cs :=
  Nat.pos_of_ne_zero (mt octets_eq_zero.1 h)

/-- A mention is not empty, and lies within the text it is read in. -/
theorem IsRead.bounds (h : IsRead offset cs m) :
    offset ≤ m.start ∧ m.start < m.stop ∧ m.stop ≤ offset + octets cs := by
  obtain ⟨before, here, blanks, command, rest, rfl, hc, rfl⟩ := h
  have hcommand := octets_pos_of_ne_nil hc.some_command
  have htext := hc.text
  subst htext
  simp only [mentionBehind, octets_append]
  omega

/-- Two mentions of a scan that lie over one place are the same. -/
theorem Scan.eq_of_over (h : Scan offset cs ms) (hm : m ∈ ms) (hn : n ∈ ms) {p : Nat}
    (hmp : m.start ≤ p ∧ p < m.stop) (hnp : n.start ≤ p ∧ p < n.stop) : m = n := by
  by_contra hne
  have hsymm : ms.Pairwise fun m n => m.stop ≤ n.start ∨ n.stop ≤ m.start := h.apart.imp .inl
  have : Std.Symm fun m n : Mention => m.stop ≤ n.start ∨ n.stop ≤ m.start :=
    ⟨fun _ _ => Or.symm⟩
  rcases hsymm.forall hm hn hne with h | h <;> omega

/-- What is read at one place is one mention. -/
theorem IsRead.eq_of_start (hm : IsRead offset cs m) (hn : IsRead offset cs n)
    (h : m.start = n.start) : m = n := by
  obtain ⟨before, here, blanks, command, rest, rfl, hc, rfl⟩ := hm
  obtain ⟨before', here', blanks', command', rest', htext, hc', rfl⟩ := hn
  simp only [mentionBehind] at h
  obtain ⟨rfl, rfl⟩ := eq_of_octets_eq htext (by omega)
  obtain ⟨rfl, rfl, rfl⟩ := hc.unique hc'
  rfl

/-- There is a mention over the start of whatever is read. -/
theorem Scan.over_start (h : Scan offset cs ms) (hn : IsRead offset cs n) :
    ∃ m ∈ ms, m.start ≤ n.start ∧ n.start < m.stop := by
  obtain ⟨before, here, blanks, command, rest, htext, hc, rfl⟩ := hn
  exact h.complete htext ⟨blanks, command, rest, hc.toReading⟩

end Bounds

section Unique

/-- Each mention of a scan is in every scan, by induction on where it starts. -/
theorem Scan.mem (h : Scan offset cs ms) (h' : Scan offset cs ns) (hm : m ∈ ms) : m ∈ ns := by
  induction hk : m.start using Nat.strongRecOn generalizing m with
  | ind k ih =>
    subst hk
    obtain ⟨n, hn, hnm, hmn⟩ := h'.over_start (h.read m hm)
    rcases Nat.lt_or_eq_of_le hnm with hlt | heq
    · -- What reaches over the start of `n` starts before `m`, so it is in both scans, and is `n`.
      obtain ⟨m', hm', hm'n, hnm'⟩ := h.over_start (h'.read n hn)
      have hm'ns := ih m'.start (by omega) hm' rfl
      have hstop := (h'.read n hn).bounds.2.1
      obtain rfl := h'.eq_of_over hm'ns hn ⟨hm'n, hnm'⟩ ⟨le_rfl, hstop⟩
      have hstop' := (h.read m hm).bounds.2.1
      obtain rfl := h.eq_of_over hm' hm ⟨hnm, hmn⟩ ⟨le_rfl, hstop'⟩
      omega
    · obtain rfl := (h'.read n hn).eq_of_start (h.read m hm) heq
      exact hn

theorem Scan.increasing (h : Scan offset cs ms) : ms.Pairwise fun m n => m.start < n.start :=
  h.apart.imp_of_mem fun hm _ hle => (h.read _ hm).bounds.2.1.trans_le hle

/-- A text has one scan. -/
theorem Scan.unique (h : Scan offset cs ms) (h' : Scan offset cs ns) : ms = ns := by
  have hnodup {ms : List Mention} (h : Scan offset cs ms) : ms.Nodup :=
    h.increasing.imp fun hlt he => by simp [he] at hlt
  have hperm : ms.Perm ns := (List.perm_ext_iff_of_nodup (hnodup h) (hnodup h')).2
    fun m => ⟨fun hm => h.mem h' hm, fun hm => h'.mem h hm⟩
  exact hperm.eq_of_pairwise (fun m n _ _ hmn hnm => absurd hmn hnm.asymm) h.increasing
    h'.increasing

end Unique

section Found

theorem scan_nil (offset : Nat) : Scan offset [] [] where
  apart := .nil
  read := fun _ h => by cases h
  complete := fun htext hr => by
    obtain ⟨-, rfl⟩ := List.append_eq_nil_iff.1 htext.symm
    exact (not_readable_nil hr).elim

theorem IsRead.append (whole : List Char) (h : IsRead (offset + octets whole) rest m) :
    IsRead offset (whole ++ rest) m := by
  obtain ⟨before, here, blanks, command, rest, rfl, hc, rfl⟩ := h
  refine ⟨whole ++ before, here, blanks, command, rest, (List.append_assoc ..).symm, hc, ?_⟩
  simp [mentionBehind, octets_append, Nat.add_assoc]

/-- A character at which nothing can be read is passed over. -/
theorem Scan.skip {c : Char} (hc : ¬Readable (c :: cs)) (h : Scan (offset + c.utf8Size) cs ms) :
    Scan offset (c :: cs) ms where
  apart := h.apart
  read := fun m hm => (h.read m hm).append [c]
  complete := fun {before here} htext hr => by
    cases before with
    | nil => exact (hc (htext ▸ hr)).elim
    | cons c' before =>
      obtain ⟨rfl, hcs⟩ : c = c' ∧ cs = before ++ here := List.cons.inj htext
      simpa [octets, Nat.add_assoc] using h.complete hcs hr

/-- What is read is a mention, and the scan goes on behind it. -/
theorem Scan.found (hc : Choice cs blanks command rest)
    (hwhole : whole = mark.toList ++ blanks ++ command) (h : Scan (offset + octets whole) rest ms) :
    Scan offset cs (mentionBehind offset [] blanks command :: ms) := by
  subst hwhole
  have htext : cs = mark.toList ++ blanks ++ command ++ rest := by
    rw [hc.text, List.append_assoc, List.append_assoc]
  refine ⟨List.pairwise_cons.2 ⟨fun m hm => (h.read m hm).bounds.1, h.apart⟩, ?_, ?_⟩
  · intro m hm
    rcases List.mem_cons.1 hm with rfl | hm
    · exact ⟨[], cs, blanks, command, rest, rfl, hc, rfl⟩
    · rw [htext]
      exact (h.read m hm).append _
  · intro before here hbefore hr
    rcases Nat.lt_or_ge (octets before) (octets (mark.toList ++ blanks ++ command)) with hlt | hge
    · refine ⟨_, List.mem_cons_self, Nat.le_add_right _ _, ?_⟩
      exact Nat.add_lt_add_left hlt offset
    · obtain ⟨mid, rfl, hrest⟩ := exists_between (htext.symm.trans hbefore) hge
      obtain ⟨m, hm, hover⟩ := h.complete hrest hr
      rw [octets_append, ← Nat.add_assoc]
      exact ⟨m, List.mem_cons_of_mem _ hm, hover⟩

/-- What is found from `offset` on, behind what was found before, is the scan. -/
theorem scan_mentionsFrom (found : List Mention) (offset : Nat) (cs : List Char) :
    ∃ ms, mentionsFrom found offset cs = found.reverse ++ ms ∧ Scan offset cs ms := by
  fun_induction mentionsFrom found offset cs with
  | case1 found offset cs whole command rest hm _ stop ih =>
    obtain ⟨ms, hms, hscan⟩ := ih
    obtain ⟨blanks, hwhole, hc⟩ := choice_of_mentionAt? hm
    refine ⟨_, ?_, hscan.found hc hwhole⟩
    rw [hms]
    simp [mentionBehind, stop, octets, hwhole]
  | case2 found offset hm => exact ⟨[], (List.append_nil _).symm, scan_nil offset⟩
  | case3 found offset c cs hm ih =>
    obtain ⟨ms, hms, hscan⟩ := ih
    exact ⟨ms, hms, hscan.skip (not_readable_of_mentionAt? hm)⟩

theorem scan_findMentions (text : String) : Scan 0 text.toList (findMentions text) := by
  obtain ⟨ms, hms, hscan⟩ := scan_mentionsFrom [] 0 text.toList
  rwa [findMentions, hms]

end Found

/-- The mentions of a text are within its bounds and start and stop at characters; they lie one
after the other; what stands there is a mark, blanks, as many as there can be, and something of a
line up to its end, and that without the blanks around it is the command; and whatever can be read
is read, or lies behind the start of a mention and in front of its end. -/
structure LeftmostScan (text : String) (ms : List Mention) : Prop where
  bounds : ∀ m ∈ ms, m.start < m.stop ∧ m.stop ≤ text.utf8ByteSize ∧
    String.Pos.Raw.IsValid text ⟨m.start⟩ ∧ String.Pos.Raw.IsValid text ⟨m.stop⟩
  apart : ms.Pairwise fun m n => m.stop ≤ n.start
  read : ∀ m ∈ ms, ∃ before here blanks command rest, text.toList = before ++ here ∧
    Choice here blanks command rest ∧ m.start = octets before ∧
    m.stop = m.start + octets (mark.toList ++ blanks ++ command) ∧
    String.Pos.Raw.extract text ⟨m.start⟩ ⟨m.stop⟩ =
      String.ofList (mark.toList ++ blanks ++ command) ∧
    m.command = trim (String.ofList command)
  complete : ∀ before here, text.toList = before ++ here → Readable here →
    ∃ m ∈ ms, m.start ≤ octets before ∧ octets before < m.stop

section Text

variable {text : String}

theorem isValid_of_append (h : text.toList = before ++ rest) :
    String.Pos.Raw.IsValid text ⟨octets before⟩ := by
  refine String.Pos.Raw.isValid_iff_exists_append.2 ⟨.ofList before, .ofList rest, ?_, ?_⟩
  · rw [← String.ofList_append, ← h, String.ofList_toList]
  · rw [String.rawEndPos_ofList, octets_eq_utf8Len]

theorem extract_of_append (h : text.toList = before ++ (whole ++ rest)) :
    String.Pos.Raw.extract text ⟨octets before⟩ ⟨octets before + octets whole⟩ =
      String.ofList whole := by
  have htext : text = String.ofList (before ++ whole ++ rest) := by
    rw [List.append_assoc, ← h, String.ofList_toList]
  rw [htext, octets_eq_utf8Len, octets_eq_utf8Len, String.extract_of_valid]

/-- What a scan says of a text, said of its octets. -/
theorem Scan.leftmost (h : Scan 0 text.toList ms) : LeftmostScan text ms where
  bounds := fun m hm => by
    obtain ⟨-, hlt, hle⟩ := (h.read m hm).bounds
    obtain ⟨before, here, blanks, command, rest, htext, hc, rfl⟩ := h.read m hm
    rw [octets_toList, Nat.zero_add] at hle
    refine ⟨hlt, hle, ?_, ?_⟩
    · simpa [mentionBehind] using isValid_of_append htext
    · have hcut : text.toList = before ++ (mark.toList ++ blanks ++ command) ++ rest := by
        rw [htext, hc.text]
        simp
      simpa [mentionBehind] using isValid_of_append hcut
  apart := h.apart
  read := fun m hm => by
    obtain ⟨before, here, blanks, command, rest, htext, hc, rfl⟩ := h.read m hm
    have hwhole : text.toList = before ++ ((mark.toList ++ blanks ++ command) ++ rest) := by
      rw [htext, hc.text, List.append_assoc, List.append_assoc]
    refine ⟨before, here, blanks, command, rest, htext, hc, ?_, ?_, ?_, ?_⟩
    · exact Nat.zero_add _
    · simp [mentionBehind, octets_append]
    · rw [← extract_of_append hwhole]
      simp [mentionBehind, octets_append]
    · rw [trim, String.toList_ofList]
      rfl
  complete := fun before here htext hr => by simpa using h.complete htext hr

theorem LeftmostScan.scan (h : LeftmostScan text ms) : Scan 0 text.toList ms where
  apart := h.apart
  read := fun m hm => by
    obtain ⟨before, here, blanks, command, rest, htext, hc, hstart, hstop, -, hcommand⟩ :=
      h.read m hm
    refine ⟨before, here, blanks, command, rest, htext, hc, ?_⟩
    obtain ⟨mcommand, start, stop⟩ := m
    simp only at hstart hstop hcommand
    rw [mentionBehind, Nat.zero_add, Nat.zero_add, octets_append, hstop, hstart, hcommand, trim,
      String.toList_ofList]
  complete := fun htext hr => by simpa using h.complete _ _ htext hr

end Text

/-- The mentions found in a text are its leftmost scan, and it has no other. -/
theorem leftmost_scan (text : String) (ms : List Mention) :
    LeftmostScan text ms ↔ ms = findMentions text := by
  constructor
  · intro h
    exact h.scan.unique (scan_findMentions text)
  · rintro rfl
    exact (scan_findMentions text).leftmost

/-- Blanks go on over the end of a line, and a mark in a command is part of it. -/
example : findMentions "é@dev-agent\n a @dev-agent b\n" = [⟨"a @dev-agent b", 2, 28⟩] := by
  decide +kernel

end AgentConsole
