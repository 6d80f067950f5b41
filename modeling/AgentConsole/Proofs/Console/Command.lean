import AgentConsole.Proofs.Classification
import AgentConsole.Proofs.Console.Dialogue
import AgentConsole.Proofs.Text.Numeral

/-!
# Commands as they are typed

What a line is read as is `Canonical`, unless it is a word that is unknown or lacks what it needs
(`canonical_parse`). Conversely a canonical command is read from each way it is `Written`: as its
text, or behind a slash with its name or an alias in any letter case, any blanks behind a space, and
what it is about (`parse_of_written`). So nothing blank is asked in words (`commands_as_written`).
-/

namespace AgentConsole.Console

open AgentConsole.Session AgentConsole.Setup AgentConsole.Text

/-- A text with something in it and no blanks around it. -/
def Neat (text : String) : Prop :=
  text ≠ "" ∧ trim text = text

namespace Command

/-- A command that can be written: what it is about is neat. A path in front of a command has no
blanks in it, a number is not too large, and a text does not look like a command. -/
def Canonical : Command → Prop
  | file path => ∀ p ∈ path, Neat p
  | upload path command => Neat path ∧ (∀ c ∈ path.toList, ¬isBlank c) ∧ Neat command
  | agent command => Neat command
  | code command => Neat command
  | mentions number => ∀ n ∈ number, n < countLimit
  | history | clear | cancel | quit => True
  | help topic => ∀ t ∈ topic, Neat t
  | usage _ | unknown _ => False
  | text typed => trim typed = typed ∧ typed.toList.head? ≠ some '/'

/-- The name a command is listed under. -/
def name? : Command → Option String
  | file _ => some "file"
  | upload _ _ => some "upload"
  | agent _ => some "agent"
  | code _ => some "code"
  | mentions _ => some "mentions"
  | history => some "history"
  | clear => some "clear"
  | cancel => some "cancel"
  | help _ => some "help"
  | quit => some "quit"
  | usage _ | unknown _ | text _ => none

/-- The name of a command or an alias of it. -/
def IsWord (c : Command) (word : String) : Prop :=
  ∃ h ∈ helpEntries, c.name? = some h.name ∧ word ∈ h.name :: h.aliases

/-- A word for a command, in any case of ASCII letters. -/
def HasWord (c : Command) (typed : List Char) : Prop :=
  ∃ word, c.IsWord word ∧ foldCase typed = word.toList

/-- What a command is about, as it is typed; a path and a command have these blanks between them. -/
def argument? (gap : List Char) : Command → Option (List Char)
  | file path => path.map String.toList
  | upload path command => some (path.toList ++ gap ++ command.toList)
  | agent command => some command.toList
  | code command => some command.toList
  | mentions number => number.map fun n => (toString n).toList
  | help topic => topic.map String.toList
  | history | clear | cancel | quit | usage _ | unknown _ | text _ => none

/-- The ways to write a command, apart from blanks around it. -/
inductive Written (c : Command) : List Char → Prop
  | text {text : String} (h : c = .text text) : Written c text.toList
  | alone {word : List Char} (hw : c.HasWord word) (ha : ∀ gap, c.argument? gap = none) :
    Written c ('/' :: word)
  | about {word gap blanks argument : List Char} (hw : c.HasWord word) (hne : gap ≠ [])
      (hg : ∀ b ∈ gap, isBlank b) (hb : ∀ b ∈ blanks, isBlank b)
      (ha : c.argument? gap = some argument) :
    Written c ('/' :: (word ++ ' ' :: (blanks ++ argument)))

variable {c : Command} {line word text : String}
variable {cs front back gap blanks argument typed : List Char}

section Neatness

theorem neat_ofList (hne : cs ≠ []) (h : trimChars cs = cs) : Neat (String.ofList cs) := by
  refine ⟨fun he => hne ?_, ?_⟩
  · rw [← String.toList_ofList (l := cs), he, String.toList_empty]
  · rw [trim, String.toList_ofList, h]

theorem trimChars_of_neat (h : Neat text) : text.toList ≠ [] ∧ trimChars text.toList = text.toList :=
  ⟨fun he => h.1 (String.toList_eq_nil_iff.1 he), trim_eq_iff.1 h.2⟩

theorem neat_of_not_isBlank (hne : text ≠ "") (h : ∀ c ∈ text.toList, ¬isBlank c) : Neat text :=
  ⟨hne, trim_eq_iff.2 (trimChars_eq_self_iff.2 ⟨fun c hc => h c (List.mem_of_mem_head? hc),
    fun c hc => h c (List.mem_of_mem_getLast? hc)⟩)⟩

theorem neat_toString (n : Nat) : Neat (toString n) := by
  rw [toString_eq_padded]
  refine neat_of_not_isBlank (fun he => padded_ne_nil 0 n (String.toList_eq_nil_iff.2 he)) ?_
  intro c hc
  simp [isBlank_of_isDigit (isDigit_of_mem_padded hc)]

/-- What the blanks around were taken from is neat, if there is anything. -/
theorem neat_of_given {given : String} (h : trimChars cs = cs)
    (hg : given ∈ if cs.isEmpty then none else some (String.ofList cs)) : Neat given := by
  split at hg
  · cases hg
  · next hne =>
    cases hg
    exact neat_ofList (by simpa using hne) h

end Neatness

section Reading

theorem canonical_parseUpload (h : trimChars argument = argument) :
    (parseUpload argument).Canonical ∨ ∃ usage, parseUpload argument = .usage usage := by
  unfold parseUpload
  simp only
  split
  · exact .inr ⟨_, rfl⟩
  · next hne =>
    have hcommand : Neat (String.ofList (trimChars (argument.dropWhile (!isBlank ·)))) :=
      neat_ofList (by simpa using hne) (trimChars_trimChars _)
    have hpath : ∀ c ∈ argument.takeWhile (!isBlank ·), ¬isBlank c := fun c hc => by
      simpa using List.mem_takeWhile_imp hc
    have hfirst : argument.takeWhile (!isBlank ·) ≠ [] := by
      cases argument with
      | nil => exact fun _ => hne rfl
      | cons c argument =>
        have hc : ¬isBlank c := (trimChars_eq_self_iff.1 h).1 c rfl
        simp [hc]
    exact .inl ⟨neat_of_not_isBlank (by simpa using hfirst) (by simpa using hpath),
      by simpa using hpath, hcommand⟩

/-- A word with something neat or nothing behind it is a canonical command, or lacks what it needs,
or is unknown. -/
theorem canonical_parseWord (h : trimChars argument = argument) :
    (parseWord word argument).Canonical ∨ (∃ usage, parseWord word argument = .usage usage) ∨
      ∃ unknown, parseWord word argument = .unknown unknown := by
  have hneat (given : String) (hg : given ∈ if argument.isEmpty then none
      else some (String.ofList argument)) : Neat given := neat_of_given h hg
  unfold parseWord
  simp only
  generalize (if argument.isEmpty then none else some (String.ofList argument)) = given at hneat
  -- The words come in the order in which they are looked up, unknown ones last.
  split
  case h_1 | h_2 | h_14 | h_15 | h_16 => exact .inl hneat
  case h_3 | h_4 => exact (canonical_parseUpload h).imp_right .inl
  case h_5 | h_6 | h_7 =>
    cases given with
    | none => exact .inr (.inl ⟨_, rfl⟩)
    | some command => exact .inl (hneat command rfl)
  case h_8 | h_9 =>
    cases given with
    | none => exact .inl nofun
    | some number =>
      cases hn : count? number with
      | none => exact .inr (.inl ⟨_, by simp only [hn]; rfl⟩)
      | some n =>
        refine .inl ?_
        simp only [hn]
        intro m hm
        cases hm
        exact count?_lt hn
  case h_10 | h_11 | h_12 | h_13 | h_17 | h_18 | h_19 => exact .inl trivial
  case h_20 => exact .inr (.inr ⟨_, rfl⟩)

theorem canonical_parse (line : String) :
    (parse line).Canonical ∨ (∃ usage, parse line = .usage usage) ∨
      ∃ unknown, parse line = .unknown unknown := by
  have htrim := trimChars_trimChars line.toList
  unfold parse
  split
  · exact canonical_parseWord (trimChars_trimChars _)
  · next hcs =>
    refine .inl ⟨?_, ?_⟩
    · rw [trim, String.toList_ofList, htrim]
    · rw [String.toList_ofList]
      intro hhead
      obtain ⟨rest, hrest⟩ := List.head?_eq_some_iff.1 hhead
      exact hcs rest hrest

end Reading

section Words

/-- The words for commands are small ASCII letters and signs, none of them a blank. -/
theorem words_of_helpEntries : ∀ h ∈ helpEntries, ∀ word ∈ h.name :: h.aliases,
    foldCase word.toList = word.toList ∧ ∀ c ∈ word.toList, c.toNat < 128 ∧ ¬isBlank c := by
  have hall : helpEntries.all (fun h => (h.name :: h.aliases).all fun word =>
      decide (foldCase word.toList = word.toList) &&
        word.toList.all fun c => decide (c.toNat < 128) && !isBlank c) := by decide +kernel
  intro h hh word hword
  simpa using List.all_eq_true.1 (List.all_eq_true.1 hall h hh) word hword

/-- In lower case a word for a command is the word itself. -/
theorem lowercase_of_foldCase (hw : c.IsWord word) (ht : foldCase typed = word.toList) :
    lowercase (String.ofList typed) = word := by
  obtain ⟨h, hh, -, hword⟩ := hw
  have hascii : ∀ c ∈ foldCase typed, c.toNat < 128 := fun c hc =>
    ((words_of_helpEntries h hh word hword).2 c (ht ▸ hc)).1
  rw [lowercase, String.toList_ofList, lowerFrom_of_ascii (ascii_of_foldCase hascii), ht,
    String.ofList_toList]

theorem not_isBlank_of_hasWord (hw : c.HasWord typed) : ∀ c ∈ typed, ¬isBlank c := by
  obtain ⟨word, ⟨h, hh, -, hword⟩, ht⟩ := hw
  intro c hc hb
  have hmem : c.toLower ∈ word.toList := ht ▸ List.mem_map_of_mem hc
  rw [toLower_of_isBlank hb] at hmem
  exact ((words_of_helpEntries h hh word hword).2 c hmem).2 hb

theorem exists_hasWord {name : String} (hc : c.name? = some name)
    (hn : name ∈ helpEntries.map HelpEntry.name) : c.HasWord name.toList := by
  obtain ⟨h, hh, rfl⟩ := List.mem_map.1 hn
  exact ⟨h.name, ⟨h, hh, hc, List.mem_cons_self⟩,
    (words_of_helpEntries h hh h.name List.mem_cons_self).1⟩

theorem given_argument (given : Option String) (h : ∀ t ∈ given, Neat t) :
    (if ((given.map String.toList).getD []).isEmpty then none
      else some (String.ofList ((given.map String.toList).getD []))) = given := by
  cases given with
  | none => rfl
  | some t =>
    have hne := (trimChars_of_neat (h t rfl)).1
    simp [hne]

theorem parseUpload_of_neat {path command : String} (hp : ∀ c ∈ path.toList, ¬isBlank c)
    (hc : Neat command) (hne : gap ≠ []) (hg : ∀ b ∈ gap, isBlank b) :
    parseUpload (path.toList ++ gap ++ command.toList) = .upload path command := by
  obtain ⟨hcommand, htrim⟩ := trimChars_of_neat hc
  obtain ⟨b, gap, rfl⟩ := List.exists_cons_of_ne_nil hne
  have hb : isBlank b := hg b List.mem_cons_self
  have hpath : ∀ c ∈ path.toList, (!isBlank c) = true := by simpa using hp
  have htake : (path.toList ++ (b :: gap ++ command.toList)).takeWhile (!isBlank ·) =
      path.toList := by
    rw [List.takeWhile_append_of_pos hpath]
    simp [hb]
  have hdrop : (path.toList ++ (b :: gap ++ command.toList)).dropWhile (!isBlank ·) =
      b :: gap ++ command.toList := by
    rw [List.dropWhile_append_of_pos hpath]
    simp [hb]
  rw [List.append_assoc, parseUpload, htake, hdrop, trimChars_behind hg, htrim]
  simp [hcommand]

/-- A command is read from each word for it with what it is about. -/
theorem parseWord_of_isWord (hw : c.IsWord word) (hc : c.Canonical) (hne : gap ≠ [])
    (hg : ∀ b ∈ gap, isBlank b) : parseWord word ((c.argument? gap).getD []) = c := by
  have hgiven {command : String} (h : Neat command) :=
    given_argument (some command) (by simpa using h)
  simp only [IsWord, helpEntries, List.exists_mem_cons_iff, List.not_mem_nil, name?] at hw
  cases c with
  | file path =>
    have hword : word = "file" ∨ word = "f" := by simpa using hw
    rcases hword with rfl | rfl <;> exact congrArg file (given_argument _ hc)
  | upload path command =>
    obtain ⟨-, hpath, hcommand⟩ := hc
    have hword : word = "upload" ∨ word = "u" := by simpa using hw
    rcases hword with rfl | rfl <;> exact parseUpload_of_neat hpath hcommand hne hg
  | agent command =>
    have hword : word = "agent" ∨ word = "a" := by simpa using hw
    rcases hword with rfl | rfl <;>
      exact congrArg (fun given : Option String => (given.map agent).getD _) (hgiven hc)
  | code command =>
    obtain rfl : word = "code" := by simpa using hw
    exact congrArg (fun given : Option String => (given.map code).getD _) (hgiven hc)
  | mentions number =>
    have hword : word = "mentions" ∨ word = "m" := by simpa using hw
    cases number with
    | none => rcases hword with rfl | rfl <;> rfl
    | some n =>
      have hcount := count?_toString (hc n rfl)
      have hdigits := (trimChars_of_neat (neat_toString n)).1
      simp only [argument?, Option.map_some, Option.getD_some]
      generalize toString n = typed at hcount hdigits
      rcases hword with rfl | rfl <;> simp [parseWord, hdigits, hcount]
  | history =>
    have hword : word = "history" ∨ word = "hist" := by simpa using hw
    rcases hword with rfl | rfl <;> rfl
  | clear =>
    obtain rfl : word = "clear" := by simpa using hw
    rfl
  | cancel =>
    obtain rfl : word = "cancel" := by simpa using hw
    rfl
  | help topic =>
    have hword : word = "help" ∨ word = "h" ∨ word = "?" := by simpa using hw
    rcases hword with rfl | rfl | rfl <;> exact congrArg help (given_argument _ hc)
  | quit =>
    have hword : word = "quit" ∨ word = "q" ∨ word = "exit" := by simpa using hw
    rcases hword with rfl | rfl | rfl <;> rfl
  | usage | unknown | text => simp at hw

end Words

section Writing

/-- What a canonical command is about is something, and no blanks are around it. -/
theorem trimChars_argument (hc : c.Canonical) (ha : c.argument? gap = some argument) :
    argument ≠ [] ∧ trimChars argument = argument := by
  have hmap {α : Type} {given : Option α} {f : α → String} (h : ∀ t ∈ given, Neat (f t))
      (hm : (given.map fun t => (f t).toList) = some argument) :
      argument ≠ [] ∧ trimChars argument = argument := by
    obtain ⟨t, ht, rfl⟩ := Option.map_eq_some_iff.1 hm
    exact trimChars_of_neat (h t ht)
  cases c with
  | file path => exact hmap (f := id) hc ha
  | help topic => exact hmap (f := id) hc ha
  | mentions number => exact hmap (f := toString) (fun n _ => neat_toString n) ha
  | agent command | code command =>
    cases ha
    exact trimChars_of_neat hc
  | upload path command =>
    obtain ⟨hpath, -, hcommand⟩ := hc
    obtain ⟨hp, hpath⟩ := trimChars_of_neat hpath
    obtain ⟨hc, hcommand⟩ := trimChars_of_neat hcommand
    cases ha
    refine ⟨by simp [hp], trimChars_eq_self_iff.2 ⟨?_, ?_⟩⟩
    · rw [List.append_assoc, List.head?_append_of_ne_nil _ hp]
      exact (trimChars_eq_self_iff.1 hpath).1
    · rw [List.getLast?_append_of_ne_nil _ hc]
      exact (trimChars_eq_self_iff.1 hcommand).2
  | history | clear | cancel | quit | usage | unknown | text => cases ha

/-- There are no blanks around a command as it is written. -/
theorem Written.trimChars_eq (h : c.Written cs) (hc : c.Canonical) : trimChars cs = cs := by
  have hslash : ¬isBlank '/' := by decide
  cases h with
  | text h =>
    subst h
    exact trim_eq_iff.1 hc.1
  | @alone word hw =>
    have hall : ∀ c ∈ '/' :: word, ¬isBlank c := by simpa [hslash] using not_isBlank_of_hasWord hw
    exact trimChars_eq_self_iff.2 ⟨fun c hc => hall c (List.mem_of_mem_head? hc),
      fun c hc => hall c (List.mem_of_mem_getLast? hc)⟩
  | @about word gap blanks argument hw hne hg hb ha =>
    obtain ⟨hargument, htrim⟩ := trimChars_argument hc ha
    refine trimChars_eq_self_iff.2 ⟨fun c hc => ?_, ?_⟩
    · cases hc
      exact hslash
    · have hsplit : '/' :: (word ++ ' ' :: (blanks ++ argument)) =
          ('/' :: (word ++ ' ' :: blanks)) ++ argument := by simp
      rw [hsplit, List.getLast?_append_of_ne_nil _ hargument]
      exact (trimChars_eq_self_iff.1 htrim).2

theorem parse_of_head_ne (h : (trimChars line.toList).head? ≠ some '/') :
    parse line = .text (trim line) := by
  unfold parse
  split
  · next hcs => exact (h (by rw [hcs]; rfl)).elim
  · rfl

/-- A word for a command is looked up as the word it is, with what is behind it and a space. -/
theorem parse_of_hasWord {behind : List Char} (hw : c.HasWord typed)
    (h : trimChars line.toList = '/' :: (typed ++ behind)) (hb : ∀ b ∈ behind.head?, b = ' ') :
    ∃ word, c.IsWord word ∧ parse line = parseWord word (trimChars behind) := by
  obtain ⟨word, hword, hfold⟩ := id hw
  have htyped : ∀ c ∈ typed, decide (c ≠ ' ') := fun c hc => decide_eq_true fun he =>
    not_isBlank_of_hasWord hw c hc (he ▸ by decide)
  have htake : (typed ++ behind).takeWhile (· ≠ ' ') = typed := by
    rw [List.takeWhile_append_of_pos htyped]
    cases behind with
    | nil => simp
    | cons b behind => simp [hb b rfl]
  have hdrop : (typed ++ behind).dropWhile (· ≠ ' ') = behind := by
    rw [List.dropWhile_append_of_pos htyped]
    cases behind with
    | nil => simp
    | cons b behind => simp [hb b rfl]
  refine ⟨word, hword, ?_⟩
  unfold parse
  rw [h]
  simp only [htake, hdrop, lowercase_of_foldCase hword hfold]

/-- A canonical command is read from each way to write it, whatever blanks are around it. -/
theorem parse_of_written (hc : c.Canonical) (h : c.Written cs) (hf : ∀ b ∈ front, isBlank b)
    (hb : ∀ b ∈ back, isBlank b) : parse (String.ofList (front ++ cs ++ back)) = c := by
  have htrim : trimChars (String.ofList (front ++ cs ++ back)).toList = cs := by
    rw [String.toList_ofList, trimChars_between hf hb, h.trimChars_eq hc]
  cases h with
  | @text typed h =>
    subst h
    rw [parse_of_head_ne (by rw [htrim]; exact hc.2), trim, htrim, String.ofList_toList]
  | @alone typed hw ha =>
    have hnothing : '/' :: typed = '/' :: (typed ++ []) := by rw [List.append_nil]
    obtain ⟨word, hword, hparse⟩ := parse_of_hasWord hw (htrim.trans hnothing) (by simp)
    have h : parseWord word ((c.argument? [' ']).getD []) = c :=
      parseWord_of_isWord hword hc (by simp) (List.forall_mem_singleton.2 (by decide))
    rw [ha] at h
    exact hparse.trans h
  | @about typed gap blanks argument hw hne hg hb ha =>
    obtain ⟨word, hword, hparse⟩ := parse_of_hasWord hw htrim (by simp)
    have hspace : ∀ b ∈ ' ' :: blanks, isBlank b := by
      intro b hmem
      rcases List.mem_cons.1 hmem with rfl | hmem
      · decide
      · exact hb b hmem
    have h := parseWord_of_isWord hword hc hne hg
    rw [ha] at h
    rw [hparse, ← List.cons_append, trimChars_behind hspace, (trimChars_argument hc ha).2]
    exact h

theorem exists_name (hc : c.Canonical) :
    (∃ typed, c = .text typed) ∨ ∃ name ∈ helpEntries.map HelpEntry.name, c.name? = some name := by
  cases c with
  | text typed => exact .inl ⟨typed, rfl⟩
  | usage | unknown => exact hc.elim
  | _ => exact .inr ⟨_, by simp [helpEntries], rfl⟩

theorem exists_argument (c : Command) :
    (∀ gap, c.argument? gap = none) ∨ ∃ argument, c.argument? [' '] = some argument := by
  cases c with
  | file given | help given | mentions given =>
    cases given with
    | none => exact .inl fun _ => rfl
    | some given => exact .inr ⟨_, rfl⟩
  | upload | agent | code => exact .inr ⟨_, rfl⟩
  | history | clear | cancel | quit | usage | unknown | text => exact .inl fun _ => rfl

/-- There is a way to write each canonical command. -/
theorem exists_written (hc : c.Canonical) : ∃ cs, c.Written cs := by
  rcases exists_name hc with ⟨typed, rfl⟩ | ⟨name, hn, hname⟩
  · exact ⟨_, .text rfl⟩
  · have hw := exists_hasWord hname hn
    rcases exists_argument c with hnone | ⟨argument, ha⟩
    · exact ⟨_, .alone hw hnone⟩
    · exact ⟨'/' :: (name.toList ++ ' ' :: ([] ++ argument)),
        .about hw (by simp) (List.forall_mem_singleton.2 (by decide)) (by simp) ha⟩

end Writing

section Asking

variable {env : Environment} {d : Dialogue} {x : Submission}

/-- What a canonical command asks in words is not blank. -/
theorem trim_essence_of_asks (h : Dialogue.Asks env d c x) (hc : c.Canonical)
    (hm : ∀ number, c ≠ .mentions number) : trim x.essence ≠ "" := by
  have hneat {said : String} (hs : Neat said) : trim said ≠ "" := fun he => hs.1 (hs.2 ▸ he)
  cases h with
  | text hne => exact hneat ⟨hne, hc.1⟩
  | upload => exact hneat hc.2.2
  | agent | code => exact hneat hc
  | mention => exact (hm _ rfl).elim

end Asking

/-- Each line is read as a canonical command, unless it starts with a word that is unknown or lacks
what it needs; and each canonical command can be written, and is read from all the ways to write it:
with its name or an alias in any case of ASCII letters, any blanks behind a space, blanks between a
path and a command, and blanks around the line. So of what lines ask the agent only a mention in a
file can be blank. -/
theorem commands_as_written :
    (∀ line, (parse line).Canonical ∨ (∃ usage, parse line = .usage usage) ∨
      ∃ unknown, parse line = .unknown unknown) ∧
    (∀ c : Command, c.Canonical → (∃ cs, c.Written cs) ∧
      ∀ front cs back, (∀ b ∈ front, isBlank b) → (∀ b ∈ back, isBlank b) → c.Written cs →
        parse (String.ofList (front ++ cs ++ back)) = c) ∧
    ∀ line env d x, Dialogue.Asks env d (parse line) x →
      (∀ number, parse line ≠ .mentions number) → trim x.essence ≠ "" := by
  refine ⟨canonical_parse, fun c hc => ⟨exists_written hc, fun front cs back hf hb hw =>
    parse_of_written hc hw hf hb⟩, fun line env d x ha hm => ?_⟩
  rcases canonical_parse line with hc | ⟨usage, hu⟩ | ⟨unknown, hu⟩
  · exact trim_essence_of_asks ha hc hm
  · rw [hu] at ha
    cases ha
  · rw [hu] at ha
    cases ha

theorem commands_as_written_sample :
    parse "\t/UPload   a.py\u00a0\tfix it \n" = .upload "a.py" "fix it" ∧
    trim (Submission.editor "go" none).essence ≠ "" ∧ parse "/A  go" = .agent "go" := by
  obtain ⟨-, hread, hasked⟩ := commands_as_written
  have hgo : parse "/A  go" = .agent "go" := by decide +kernel
  have hpath : "a.py".toList.all (!isBlank ·) := by decide +kernel
  have hcanonical : (upload "a.py" "fix it").Canonical :=
    ⟨⟨by decide, by decide +kernel⟩, fun c hc => by simpa using List.all_eq_true.1 hpath c hc,
      by decide, by decide +kernel⟩
  have hword : (upload "a.py" "fix it").HasWord "UPload".toList :=
    ⟨"upload", ⟨_, List.mem_cons_of_mem _ List.mem_cons_self, rfl, List.mem_cons_self⟩,
      by decide +kernel⟩
  have hwritten : (upload "a.py" "fix it").Written ('/' :: ("UPload".toList ++
      ' ' :: ([' ', ' '] ++ ("a.py".toList ++ ['\u00a0', '\t'] ++ "fix it".toList)))) :=
    .about hword (by simp) (List.all_eq_true.1 (by decide)) (List.all_eq_true.1 (by decide)) rfl
  refine ⟨?_, ?_, hgo⟩
  · have hupload := (hread _ hcanonical).2 ['\t'] _ [' ', '\n'] (List.all_eq_true.1 (by decide))
      (List.all_eq_true.1 (by decide)) hwritten
    rwa [show String.ofList _ = "\t/UPload   a.py\u00a0\tfix it \n" by decide +kernel] at hupload
  · refine hasked "/A  go" ⟨[], "/"⟩ (.opened sampleHost sampleWorkspace.disk) _ ?_ ?_
    · rw [hgo]
      exact .agent "go"
    · rw [hgo]
      exact nofun

end Command

end AgentConsole.Console
