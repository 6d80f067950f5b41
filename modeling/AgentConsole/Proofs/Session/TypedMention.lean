import AgentConsole.Proofs.Mention.Scan
import AgentConsole.Proofs.Session.Acceptance
import AgentConsole.Proofs.Session.Closing

/-!
# Mentions typed and mentions written

The agent can be addressed at the prompt and in a file. A line that starts with a mark is one
mention, all of it (`findMentions_line`), and the command found in it is what is left of the line
when its mark is taken away (`stripMention_mark`). So it is the same request whether the line is
typed or found, as long as it is about the same file (`typed_as_written`).
-/

namespace AgentConsole

open AgentConsole.Agent AgentConsole.Text

variable {r : List Char} {c : String}

section Line

/-- Of a mark with a line behind it that starts with a blank and says something, all is read. -/
theorem choice_of_line (hb : r.takeWhile isBlank ≠ []) (hw : r.dropWhile isBlank ≠ [])
    (hl : '\n' ∉ r) :
    Choice (mark.toList ++ r) (r.takeWhile isBlank) (r.dropWhile isBlank) [] where
  text := by rw [List.append_nil, List.takeWhile_append_dropWhile]
  some_blank := hb
  all_blank := fun c hc => List.mem_takeWhile_imp hc
  some_command := hw
  one_line := fun h => hl ((List.dropWhile_sublist isBlank).mem h)
  whole_line := by simp
  most_blanks := fun h => h.place.2.1

theorem toList_line (c : String) : (mark ++ " " ++ c).toList = mark.toList ++ ' ' :: c.toList := by
  simp

/-- A line with a command behind a mark is one mention. -/
theorem findMentions_line (hl : '\n' ∉ c.toList) (hw : trim c ≠ "") :
    findMentions (mark ++ " " ++ c) = [⟨trim c, 0, (mark ++ " " ++ c).utf8ByteSize⟩] := by
  have hblank : isBlank ' ' := by decide
  have hword : (' ' :: c.toList).dropWhile isBlank ≠ [] := by
    rw [Ne, List.dropWhile_eq_nil_iff, List.forall_mem_cons, ← trimChars_eq_nil_iff]
    exact fun h => hw (trim_eq_iff.2 h.2)
  have hchoice := choice_of_line (by rw [List.takeWhile_cons_of_pos hblank]; simp) hword
    (by simpa using hl)
  have hcommand : trimChars ((' ' :: c.toList).dropWhile isBlank) = trimChars c.toList := by
    have hrun : ∀ c' ∈ (' ' :: c.toList).takeWhile isBlank, isBlank c' :=
      fun _ => List.mem_takeWhile_imp
    have hspace : ∀ c' ∈ [' '], isBlank c' := by simpa using hblank
    rw [← trimChars_behind hrun, List.takeWhile_append_dropWhile]
    exact trimChars_behind hspace c.toList
  have hfound : Scan 0 (mark.toList ++ ' ' :: c.toList) [_] := (scan_nil _).found hchoice rfl
  have hmention : mentionBehind 0 [] ((' ' :: c.toList).takeWhile isBlank)
      ((' ' :: c.toList).dropWhile isBlank) = ⟨trim c, 0, (mark ++ " " ++ c).utf8ByteSize⟩ := by
    rw [mentionBehind, ← octets_toList, toList_line, List.append_assoc,
      List.takeWhile_append_dropWhile, List.nil_append, Nat.zero_add, Nat.zero_add, hcommand]
    rfl
  rw [hmention] at hfound
  refine (scan_findMentions _).unique ?_
  rwa [toList_line]

/-- Of a text that starts with a mark all that is behind it is left, without the blanks around. -/
theorem stripMention_mark (r : List Char) :
    stripMention (String.ofList (mark.toList ++ r)) = String.ofList (trimChars r) := by
  have hmark : mark.toList.reverse.dropWhile isBlank = mark.toList.reverse := by decide
  have htrim : trimChars (mark.toList ++ r) = mark.toList ++ trimEnd r := by
    have hstart : trimStart (mark.toList ++ r) = mark.toList ++ r :=
      List.dropWhile_cons_of_neg (by decide)
    rw [trimChars, hstart, trimEnd, List.reverse_append, List.dropWhile_append]
    split_ifs with hnil
    · rw [hmark, List.reverse_reverse, trimEnd, List.isEmpty_iff.1 hnil, List.reverse_nil,
        List.append_nil]
    · rw [List.reverse_append, List.reverse_reverse, trimEnd]
  rw [stripMention, String.toList_ofList, htrim, after?_eq_some_iff.2 rfl]
  exact congrArg String.ofList (trimChars_trimEnd r)

end Line

namespace Session

variable {s : Session} {x : Submission}

theorem conversation_submit (hb : trim x.essence ≠ "") (hc : s.isClosed = false) :
    (s.submit x).1.conversation = ⟨s.conversation.history ++ [⟨.user, x.said⟩],
      x.newFile?.or s.conversation.file, s.conversation.epoch⟩ := by
  rw [submit, if_neg (mt trim_eq_empty_iff.2 hb), if_neg (by simp [hc])]
  exact asked_eq s.conversation x

theorem trim_trim (text : String) : trim (trim text) = trim text := by
  rw [trim_eq_iff, trim, String.toList_ofList, trimChars_trimChars]

theorem stripMention_line (c : String) : stripMention (mark ++ " " ++ c) = trim c := by
  have hspace : ∀ c' ∈ [' '], isBlank c' := List.forall_mem_singleton.2 (by decide)
  rw [← String.ofList_toList (s := mark ++ " " ++ c), toList_line, stripMention_mark]
  exact congrArg String.ofList (trimChars_behind hspace c.toList)

theorem trim_line_ne (c : String) : trim (mark ++ " " ++ c) ≠ "" := by
  rw [Ne, trim_eq_empty_iff, isAllBlank, toList_line, List.all_eq_true]
  intro h
  exact absurd (h '@' (List.mem_append_left _ (by decide))) (by decide)

/-- A line with a command behind a mark is found as one mention, with the command that is left of
the line when its mark is taken away. To type the line in a conversation about a file makes the same
request as to ask for that mention in the file, and says the same if the command is trimmed. -/
theorem typed_as_written (hl : '\n' ∉ c.toList) (hw : trim c ≠ "") :
    let text := mark ++ " " ++ c
    findMentions text = [⟨trim c, 0, text.utf8ByteSize⟩] ∧ stripMention text = trim c ∧
    ∀ (s : Session) (file : Attachment), s.conversation.file = some file →
      let typed := s.submit (.prompt text)
      let written := s.submit (.mention (trim c) file)
      typed.2 = written.2 ∧ typed.1.queue = written.1.queue ∧
      (s.isClosed = false → typed.2 = .ok s.accepted ∧
        typed.1.queue = s.queue ++ [⟨s.accepted,
          ⟨trim c, classify (trim c), file.content, file.path⟩, s.conversation.epoch⟩] ∧
        typed.1.conversation.history = s.conversation.history ++ [⟨.user, text⟩] ∧
        written.1.conversation.history =
          s.conversation.history ++ [⟨.user, mark ++ " " ++ trim c⟩] ∧
        (trim c = c → typed.1.conversation = written.1.conversation)) := by
  intro text
  have hstrip := stripMention_line c
  refine ⟨findMentions_line hl hw, hstrip, fun s file hfile => ?_⟩
  have hjob : s.jobOf (.prompt text) = s.jobOf (.mention (trim c) file) := by
    simp only [jobOf, Submission.request, hstrip, text, hfile, Option.map_some, Option.getD_some]
  have htyped : trim (Submission.prompt text).essence ≠ "" := trim_line_ne c
  have hwritten : trim (Submission.mention (trim c) file).essence ≠ "" := by
    rw [Submission.essence, trim_trim]
    exact hw
  cases hc : s.isClosed with
  | true =>
    rw [submit_of_isClosed htyped hc, submit_of_isClosed hwritten hc]
    exact ⟨rfl, rfl, fun h => by cases h⟩
  | false =>
    obtain ⟨htok, htqueue⟩ := submit_of_not_isClosed htyped hc
    obtain ⟨hwok, hwqueue⟩ := submit_of_not_isClosed hwritten hc
    have htconversation := conversation_submit htyped hc
    have hwconversation := conversation_submit hwritten hc
    refine ⟨htok.trans hwok.symm, ?_, fun _ => ⟨htok, ?_, ?_, ?_, fun he => ?_⟩⟩
    · rw [htqueue, hwqueue, hjob]
    · rw [htqueue, hjob]
      rfl
    · rw [htconversation]
      rfl
    · rw [hwconversation]
      rfl
    · rw [htconversation, hwconversation, he, hfile]
      rfl

theorem typed_as_written_sample :
    findMentions "@dev-agent \u00a0EXPLAIN @dev-agent x\t" =
      [⟨"EXPLAIN @dev-agent x", 0, 34⟩] ∧
    ∃ s : Session, s.conversation.file = some sampleFile ∧ s.queue = [] ∧
      (s.submit (.prompt "@dev-agent \u00a0EXPLAIN @dev-agent x\t")).1.queue =
        [⟨0, ⟨"EXPLAIN @dev-agent x", .explain, "int a;", "/src/a.c"⟩, 0⟩] ∧
      (s.submit (.mention "EXPLAIN @dev-agent x" sampleFile)).1.queue =
        [⟨0, ⟨"EXPLAIN @dev-agent x", .explain, "int a;", "/src/a.c"⟩, 0⟩] := by
  have htext : mark ++ " " ++ "\u00a0EXPLAIN @dev-agent x\t" =
      "@dev-agent \u00a0EXPLAIN @dev-agent x\t" := by decide +kernel
  have htrim : trim "\u00a0EXPLAIN @dev-agent x\t" = "EXPLAIN @dev-agent x" := by decide +kernel
  have hintent : classify "EXPLAIN @dev-agent x" = .explain := by decide +kernel
  obtain ⟨hfound, -, hsame⟩ := typed_as_written (c := "\u00a0EXPLAIN @dev-agent x\t")
    (by decide) (by rw [htrim]; decide)
  let s := ((new sampleHost sampleWorkspace).setFile sampleFile).finishDeeds
  obtain ⟨-, hqueue, hopen⟩ := hsame s sampleFile rfl
  obtain ⟨-, htyped, -⟩ := hopen rfl
  rw [htext, htrim, hintent] at htyped
  rw [htext, htrim] at hqueue hfound
  exact ⟨hfound, s, rfl, rfl, htyped, hqueue ▸ htyped⟩

end Session

end AgentConsole
