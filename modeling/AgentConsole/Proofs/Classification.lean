import AgentConsole.Console.Task
import AgentConsole.Proofs.Session.Transition
import AgentConsole.Proofs.Text.Blank
import AgentConsole.Proofs.Text.Lowercase
import Mathlib.Data.Bool.AllAny

/-!
# The intent of a command

The intent is read off two phrases in the command itself, up to the case of ASCII letters
(`intent_of_phrases`): lower case of other characters neither brings a phrase about nor takes one
away. A mark in front and the blanks around it make no difference (`hasPhrase_stripMention`), since
neither phrase starts or ends with a blank, or starts with what ends the mark (`Detached`). So a
prompt is sent with the intent that is told of it as it was typed (`intent_as_typed`).
-/

namespace AgentConsole

open AgentConsole.Agent AgentConsole.Console AgentConsole.Files AgentConsole.Text

/-- The phrase neither starts nor ends with a blank, is not in the mark, and no start of it ends the
mark. -/
structure Detached (phrase : List Char) : Prop where
  ne_nil : phrase ≠ []
  no_blank_first : ∀ c ∈ phrase.head?, ¬isBlank c
  no_blank_last : ∀ c ∈ phrase.getLast?, ¬isBlank c
  not_in_mark : ¬phrase <:+: mark.toList
  no_start : ∀ start ∈ phrase.inits, start ≠ [] → ¬start <:+ mark.toList

variable {phrase front back cs : List Char} {text : String}

section Phrases

theorem plain_pseudoCode : Plain "pseudo code".toList where
  ascii := List.all_iff_forall_prop.1 (by decide)
  small := List.all_iff_forall_prop.1 (by decide)
  no_kelvin := by decide
  no_last_dotted := by decide

theorem plain_explain : Plain "explain".toList where
  ascii := List.all_iff_forall_prop.1 (by decide)
  small := List.all_iff_forall_prop.1 (by decide)
  no_kelvin := by decide
  no_last_dotted := by decide

theorem classify_eq (text : String) : classify text =
    if HasPhrase "pseudo code" text then .pseudoCode
    else if HasPhrase "explain" text then .explain else .custom := by
  simp only [← occursIn_lowercase_iff plain_pseudoCode (by decide),
    ← occursIn_lowercase_iff plain_explain (by decide)]
  rfl

/-- A command asks for pseudo code if it says so anywhere in any case of ASCII letters, else for an
explanation if it says that, and else for something of its own. -/
theorem intent_of_phrases (text : String) :
    (classify text = .pseudoCode ↔ HasPhrase "pseudo code" text) ∧
    (classify text = .explain ↔ ¬HasPhrase "pseudo code" text ∧ HasPhrase "explain" text) ∧
    (classify text = .custom ↔ ¬HasPhrase "pseudo code" text ∧ ¬HasPhrase "explain" text) := by
  rw [classify_eq]
  by_cases hp : HasPhrase "pseudo code" text
  · simp [hp]
  · by_cases he : HasPhrase "explain" text <;> simp [hp, he]

end Phrases

/-- A phrase of which nothing is in front of a text, not even its start at the end of that, is
behind it if it is there at all. -/
theorem infix_behind_iff (hin : ¬phrase <:+: front)
    (hstart : ∀ start, start ≠ [] → start <+: phrase → ¬start <:+ front) :
    phrase <:+: front ++ cs ↔ phrase <:+: cs := by
  rw [List.infix_append_iff_ne_nil]
  constructor
  · rintro (h | h | ⟨start, tail, hne, -, rfl, hsuf, -⟩)
    · exact (hin h).elim
    · exact h
    · exact (hstart start hne (List.prefix_append _ _) hsuf).elim
  · exact fun h => .inr (.inl h)

section Blanks

theorem toLower_of_isBlank {c : Char} (h : isBlank c) : c.toLower = c := by
  refine toLower_eq_self ?_
  simp only [isBlank, Bool.or_eq_true, Bool.and_eq_true, decide_eq_true_eq, beq_iff_eq] at h
  omega

theorem isBlank_of_mem_foldCase (hf : ∀ c ∈ front, isBlank c) : ∀ c ∈ foldCase front, isBlank c := by
  intro c hc
  obtain ⟨d, hd, rfl⟩ := List.mem_map.1 hc
  rw [toLower_of_isBlank (hf d hd)]
  exact hf d hd

/-- A phrase that does not start with a blank is not in blanks, not even with its start. -/
theorem Detached.not_start_of_blank (h : Detached phrase) (hf : ∀ c ∈ front, isBlank c)
    {start : List Char} (hne : start ≠ []) (hs : start <+: phrase) : ¬start <:+: front := by
  intro hin
  obtain ⟨c, start, rfl⟩ := List.exists_cons_of_ne_nil hne
  obtain ⟨rest, rfl⟩ := hs
  exact h.no_blank_first c rfl (hf c (hin.subset List.mem_cons_self))

theorem Detached.not_end_of_blank (h : Detached phrase) (hb : ∀ c ∈ back, isBlank c)
    {tail : List Char} (hne : tail ≠ []) (ht : tail <:+ phrase) : ¬tail <:+: back := by
  intro hin
  obtain ⟨start, rfl⟩ := ht
  have hlast := List.getLast?_eq_some_getLast hne
  rw [← List.getLast?_append_of_ne_nil start hne] at hlast
  exact h.no_blank_last _ hlast (hb _ (hin.subset (List.getLast_mem hne)))

/-- A phrase is in a text with blanks around just when it is in the text. -/
theorem Detached.infix_between (h : Detached phrase) (hf : ∀ c ∈ front, isBlank c)
    (hb : ∀ c ∈ back, isBlank c) : phrase <:+: front ++ cs ++ back ↔ phrase <:+: cs := by
  have hback : phrase <:+: front ++ cs ++ back ↔ phrase <:+: front ++ cs := by
    rw [List.infix_append_iff_ne_nil]
    refine or_iff_left ?_
    rintro (hin | ⟨start, tail, -, hne, rfl, -, hpre⟩)
    · exact h.not_end_of_blank hb h.ne_nil (List.suffix_refl _) hin
    · exact h.not_end_of_blank hb hne (List.suffix_append _ _) hpre.isInfix
  have hfront : phrase <:+: front ++ cs ↔ phrase <:+: cs :=
    infix_behind_iff (h.not_start_of_blank hf h.ne_nil (List.prefix_refl _))
      fun start hne hpre hsuf => h.not_start_of_blank hf hne hpre hsuf.isInfix
  rw [hback, hfront]

theorem Detached.infix_foldCase_trimChars (h : Detached phrase) (cs : List Char) :
    phrase <:+: foldCase (trimChars cs) ↔ phrase <:+: foldCase cs := by
  obtain ⟨front, back, hcs, hf, hb⟩ := exists_trimChars cs
  have hfold : foldCase cs = foldCase front ++ foldCase (trimChars cs) ++ foldCase back := by
    conv_lhs => rw [hcs]
    simp only [foldCase, List.map_append]
  rw [hfold, h.infix_between (isBlank_of_mem_foldCase hf) (isBlank_of_mem_foldCase hb)]

end Blanks

section Mark

/-- A phrase is behind a mark just when it is in the text with the mark. -/
theorem Detached.infix_mark_append (h : Detached phrase) (cs : List Char) :
    phrase <:+: mark.toList ++ cs ↔ phrase <:+: cs :=
  infix_behind_iff h.not_in_mark fun start hne hpre =>
    h.no_start start ((List.mem_inits _ _).2 hpre) hne

/-- A phrase is in a text from which the mark is taken away just when it is in the text. -/
theorem hasPhrase_stripMention {phrase : String} (h : Detached (foldCase phrase.toList))
    (text : String) : HasPhrase phrase (stripMention text) ↔ HasPhrase phrase text := by
  unfold stripMention
  cases hr : after? mark.toList (trimChars text.toList) with
  | none => rfl
  | some rest =>
    have htext := after?_eq_some_iff.1 hr
    have hmark : foldCase (mark.toList ++ rest) = mark.toList ++ foldCase rest :=
      List.map_append
    rw [hasPhrase_iff, hasPhrase_iff, String.toList_ofList, h.infix_foldCase_trimChars,
      ← h.infix_foldCase_trimChars text.toList, htext, hmark, h.infix_mark_append]

theorem detached_pseudoCode : Detached (foldCase "pseudo code".toList) where
  ne_nil := by decide
  no_blank_first := by rintro c ⟨⟩; decide
  no_blank_last := by rintro c ⟨⟩; decide
  not_in_mark := by decide
  no_start := by decide

theorem detached_explain : Detached (foldCase "explain".toList) where
  ne_nil := by decide
  no_blank_first := by rintro c ⟨⟩; decide
  no_blank_last := by rintro c ⟨⟩; decide
  not_in_mark := by decide
  no_start := by decide

theorem classify_stripMention (text : String) : classify (stripMention text) = classify text := by
  rw [classify_eq, classify_eq]
  simp only [hasPhrase_stripMention detached_pseudoCode, hasPhrase_stripMention detached_explain]

end Mark

section Told

open AgentConsole.Session

theorem stdout_printed (disk : Disk) (lines : List String) :
    (TaskResult.printed disk lines).transcript.stdout = String.join (lines.map (· ++ "\n")) := by
  simp [TaskResult.printed, Transcript.print, Transcript.empty, Transcript.stdout,
    Transcript.joined]

/-- A mark in front and the blanks around it make no difference to the intent. So a prompt that is
accepted waits for the agent without its mark, but with the intent that is told of the very words
that were typed. -/
theorem intent_as_typed (text : String) : classify (stripMention text) = classify text ∧
    ∀ (s : Session) (id : Nat) (host : Host) (disk : Disk) (words : List String),
      (s.submit (.prompt text)).2 = .ok id → " ".intercalate words = text →
      ∃ job, (s.submit (.prompt text)).1.queue = s.queue ++ [job] ∧
        job.request.command = stripMention text ∧
        (Task.run host disk (.classify words)).transcript.stdout =
          job.request.intent.name ++ "\n" := by
  refine ⟨classify_stripMention text, fun s id host disk words hok hwords => ?_⟩
  rcases submit_cases s (.prompt text) with ⟨e, he⟩ | ⟨-, hs⟩
  · rw [he] at hok
    cases hok
  · refine ⟨s.jobOf (.prompt text), by rw [hs], rfl, ?_⟩
    have hintent : (s.jobOf (.prompt text)).request.intent = classify text := by
      rw [← classify_stripMention text, jobOf, Submission.request]
    rw [hintent, ← hwords, Task.run, stdout_printed]
    simp [String.join]

theorem intent_as_typed_sample : ∃ job,
    ((new sampleHost sampleWorkspace).submit (.prompt " @dev-agent\tEXPLAIN it")).1.queue = [job] ∧
    job.request.command = "EXPLAIN it" ∧
    (Task.run sampleHost sampleWorkspace.disk
      (.classify [" @dev-agent\tEXPLAIN", "it"])).transcript.stdout =
        job.request.intent.name ++ "\n" ∧ job.request.intent = .explain := by
  have hwords : " ".intercalate [" @dev-agent\tEXPLAIN", "it"] = " @dev-agent\tEXPLAIN it" := by
    decide +kernel
  obtain ⟨hintent, htold⟩ := intent_as_typed " @dev-agent\tEXPLAIN it"
  obtain ⟨job, hq, hcommand, hout⟩ := htold (new sampleHost sampleWorkspace) 0 sampleHost
    sampleWorkspace.disk _ (by decide +kernel) hwords
  have hqueue : ((new sampleHost sampleWorkspace).submit
      (.prompt " @dev-agent\tEXPLAIN it")).1.queue.map (·.request.intent) = [.explain] := by
    decide +kernel
  rw [hq] at hqueue
  exact ⟨job, hq, hcommand.trans (by decide +kernel), hout, List.head_eq_of_cons_eq hqueue⟩

end Told

end AgentConsole
