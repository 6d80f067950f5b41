import AgentConsole.Proofs.Json.Object
import AgentConsole.Wire

/-!
# Reading requests

What an object makes of a request depends on the values of four of its fields (`Describes`); in
which order they come and what other fields there are makes no difference. If they make none, the
first field at fault tells whether the text was refused as JSON (`FoulFirst`) or as a request.
-/

namespace AgentConsole

open AgentConsole.Json AgentConsole.Text

variable {fs : List (Option String × Value)} {v : Value} {d d' : RequestDraft}

/-- The fields of a request that are texts. -/
def textNames : List String :=
  ["command", "file_content", "file_path"]

/-- The value names the intent, by itself or in an object. -/
def NamesIntent (i : Intent) (v : Value) : Prop :=
  v = .string (some i.name) ∨ v = .object [(some i.name, .null)]

/-- There is one text, or none, and then the text is empty. -/
def OptionalText (vs : List Value) (s : String) : Prop :=
  vs = [] ∧ s = "" ∨ vs = [.string (some s)]

/-- The fields say what the request is. -/
structure Describes (fs : List (Option String × Value)) (r : Request) : Prop where
  named : ∀ f ∈ fs, f.1 ≠ none
  command : valuesOf fs "command" = [.string (some r.command)]
  intent : ∃ v, valuesOf fs "command_type" = [v] ∧ NamesIntent r.intent v
  content : OptionalText (valuesOf fs "file_content") r.content
  path : OptionalText (valuesOf fs "file_path") r.path

/-- There is no value, or one that is as asked for. -/
def AtMostOne (p : Value → Prop) (vs : List Value) : Prop :=
  vs = [] ∨ ∃ v, vs = [v] ∧ p v

/-- Nothing is wrong with the fields, though there may be some missing. -/
structure InOrder (fs : List (Option String × Value)) : Prop where
  named : ∀ f ∈ fs, f.1 ≠ none
  texts : ∀ name ∈ textNames, AtMostOne (fun v => ∃ s, v = .string (some s)) (valuesOf fs name)
  intent : AtMostOne (fun v => ∃ i, NamesIntent i v) (valuesOf fs "command_type")

/-- A value that is no better than broken JSON: a string that is no text, or a number too great for
a double. -/
inductive Unreadable : Value → Prop
  | string : Unreadable (.string none)
  | number {n : Number} : ¬n.fitsDouble → Unreadable (.number n)

/-- A value that is refused as JSON where an intent is asked for. -/
inductive FoulIntent : Value → Prop
  | kind {v : Value} : (∀ s, v ≠ .string s) → (∀ fs, v ≠ .object fs) → FoulIntent v
  | string : FoulIntent (.string none)
  | empty : FoulIntent (.object [])
  | name {v : Value} {fs : List (Option String × Value)} : FoulIntent (.object ((none, v) :: fs))
  | value {i : Intent} {v : Value} {fs : List (Option String × Value)} : Unreadable v →
      FoulIntent (.object ((some i.name, v) :: fs))
  | more {i : Intent} {f : Option String × Value} {fs : List (Option String × Value)} :
      FoulIntent (.object ((some i.name, .null) :: f :: fs))

/-- A field that is refused as JSON. -/
inductive Foul : Option String × Value → Prop
  | name {v : Value} : Foul (none, v)
  | text {name : String} {v : Value} : name ∈ textNames → Unreadable v → Foul (some name, v)
  | intent {v : Value} : FoulIntent v → Foul (some "command_type", v)

/-- The first field that anything is wrong with is refused as JSON. -/
def FoulFirst (fs : List (Option String × Value)) : Prop :=
  ∃ before f after, fs = before ++ f :: after ∧ InOrder before ∧ Foul f ∧
    ∀ name, f.1 = some name → valuesOf before name = []

/-- A field that a request needs is missing, one that it knows is repeated, or one that is a text
holds something else. -/
def AtFault (fs : List (Option String × Value)) : Prop :=
  (∃ name ∈ ["command", "command_type"], valuesOf fs name = []) ∨
  (∃ name ∈ "command_type" :: textNames, 1 < (valuesOf fs name).length) ∨
  ∃ name ∈ textNames, ∃ v ∈ valuesOf fs name, ∀ s, v ≠ .string s

section Values

variable {s : String} {i : Intent}

/-- The intents by their names. -/
def intents : List (String × Intent) :=
  [.pseudoCode, .explain, .custom].map fun i => (i.name, i)

theorem lookup_intents : intents.lookup s = some i ↔ s = i.name := by
  constructor
  · intro h
    simp only [intents, List.map_cons, List.map_nil, List.lookup_cons] at h
    split at h
    · simp_all
    split at h
    · simp_all
    split at h
    · simp_all
    · cases h
  · rintro rfl
    cases i <;> rfl

theorem text_eq_ok : v.text = .ok s ↔ v = .string (some s) := by
  constructor
  · intro h
    unfold Value.text at h
    split at h
    · rw [Except.ok.inj h]
    · cases h
  · rintro rfl
    rfl

theorem fault_eq_malformed : v.fault = .malformed ↔ Unreadable v := by
  constructor
  · intro h
    unfold Value.fault at h
    split at h
    · split at h
      · cases h
      · exact .number ‹_›
    · exact .string
    · cases h
  · rintro (_ | hn)
    · rfl
    · simp [Value.fault, hn]

theorem fault_ne_truncated : v.fault ≠ .truncated := by
  unfold Value.fault
  split
  · split <;> simp
  all_goals simp

theorem text_ne_truncated : v.text ≠ .error .truncated := by
  unfold Value.text
  split
  · nofun
  · simpa using fault_ne_truncated

theorem text_malformed : v.text = .error .malformed ↔ Unreadable v := by
  unfold Value.text
  split
  · constructor
    · rintro ⟨⟩
    · rintro ⟨⟩
  · rw [← fault_eq_malformed, Except.error.injEq]

theorem named_eq_ok {name : Option String} : named intents name = .ok i ↔ name = some i.name := by
  rcases name with _ | s
  · simp [named]
  · rw [Option.some.injEq, ← lookup_intents]
    rcases h : intents.lookup s with _ | j <;> simp [named, h]

theorem lastNull_eq_ok : v.lastNull fs = .ok () ↔ v = .null ∧ fs = [] := by
  unfold Value.lastNull
  split <;> simp_all

theorem lastNull_malformed :
    v.lastNull fs = .error .malformed ↔ (v = .null ∧ fs ≠ []) ∨ Unreadable v := by
  unfold Value.lastNull
  split
  · simpa using fun h : Unreadable .null => nomatch h
  · simp
  · rename_i hnil hcons
    have hnull : ¬(v = .null ∧ fs ≠ []) := by
      rintro ⟨rfl, hfs⟩
      obtain ⟨f, fs, rfl⟩ := List.exists_cons_of_ne_nil hfs
      exact hcons f fs rfl rfl
    rw [← fault_eq_malformed, Except.error.injEq]
    exact (or_iff_right hnull).symm

theorem tag_object {name : Option String} : (Value.object ((name, v) :: fs)).tag intents =
    (named intents name).bind fun i => (v.lastNull fs).bind fun _ => .ok i :=
  rfl

theorem tag_object_eq_ok {name : Option String} :
    (Value.object ((name, v) :: fs)).tag intents = .ok i ↔
      named intents name = .ok i ∧ v.lastNull fs = .ok () := by
  rw [tag_object]
  rcases named intents name with f | j
  · simp [Except.bind]
  · rcases v.lastNull fs with f | u <;> simp [Except.bind]

theorem tag_object_malformed {name : Option String} :
    (Value.object ((name, v) :: fs)).tag intents = .error .malformed ↔
      named intents name = .error .malformed ∨
        (∃ i, named intents name = .ok i) ∧ v.lastNull fs = .error .malformed := by
  rw [tag_object]
  rcases named intents name with f | j
  · simp [Except.bind]
  · rcases v.lastNull fs with f | u <;> simp [Except.bind]

theorem tag_eq_ok : v.tag intents = .ok i ↔ NamesIntent i v := by
  cases v with
  | string name =>
    refine named_eq_ok.trans ?_
    simp [NamesIntent]
  | object fs =>
    rcases fs with _ | ⟨⟨name, v⟩, fs⟩
    · simp [NamesIntent, Value.tag]
    · rw [tag_object_eq_ok, named_eq_ok, lastNull_eq_ok]
      simp [NamesIntent, and_assoc]
  | _ => simp [NamesIntent, Value.tag]

theorem named_malformed {name : Option String} :
    named intents name = .error .malformed ↔ name = none := by
  rcases name with _ | s
  · simp [named]
  · rcases h : intents.lookup s <;> simp [named, h]

theorem tag_malformed : v.tag intents = .error .malformed ↔ FoulIntent v := by
  cases v with
  | string name =>
    refine named_malformed.trans ⟨?_, ?_⟩
    · rintro rfl
      exact .string
    · rintro (⟨h, -⟩ | -)
      · exact (h _ rfl).elim
      · rfl
  | object fs =>
    rcases fs with _ | ⟨⟨name, v⟩, fs⟩
    · exact iff_of_true rfl .empty
    rw [tag_object_malformed, named_malformed, lastNull_malformed]
    constructor
    · rintro (rfl | ⟨⟨i, hi⟩, ⟨rfl, hfs⟩ | hv⟩)
      · exact .name
      · obtain ⟨f, fs, rfl⟩ := List.exists_cons_of_ne_nil hfs
        rw [named_eq_ok.1 hi]
        exact .more
      · rw [named_eq_ok.1 hi]
        exact .value hv
    · intro h
      cases h with
      | kind _ h => exact (h _ rfl).elim
      | name => exact .inl rfl
      | value hv => exact .inr ⟨⟨_, named_eq_ok.2 rfl⟩, .inr hv⟩
      | more => exact .inr ⟨⟨_, named_eq_ok.2 rfl⟩, .inl ⟨rfl, by simp⟩⟩
  | _ => exact iff_of_true rfl (.kind nofun nofun)

theorem bind_ne_error {α β ε : Type} {x : Except ε α} {f : α → Except ε β} {e : ε}
    (hx : x ≠ .error e) (hf : ∀ a, f a ≠ .error e) : x.bind f ≠ .error e := by
  rcases x with e' | a
  · simpa [Except.bind] using hx
  · exact hf a

theorem tag_ne_truncated : v.tag intents ≠ .error .truncated := by
  have hnamed {name : Option String} : named intents name ≠ .error .truncated := by
    rcases name with _ | s
    · simp [named]
    · rcases h : intents.lookup s <;> simp [named, h]
  have hlast {v : Value} {fs : List (Option String × Value)} :
      v.lastNull fs ≠ .error .truncated := by
    unfold Value.lastNull
    split
    · simp
    · simp
    · simpa using fault_ne_truncated
  cases v with
  | string name => exact hnamed
  | object fs =>
    rcases fs with _ | ⟨⟨name, v⟩, fs⟩
    · simp [Value.tag]
    · rw [tag_object]
      exact bind_ne_error hnamed fun _ => bind_ne_error hlast (by simp)
  | _ => simp [Value.tag]

end Values

section Fields

/-- What the value of a field makes of a draft. -/
def requestMeaning (name : String) (v : Value) : Except Fault (RequestDraft → RequestDraft) :=
  if name = "command" then v.text.map fun s d => { d with command := some s }
  else if name = "command_type" then (v.tag intents).map fun i d => { d with intent := some i }
  else if name = "file_content" then v.text.map fun s d => { d with content := some s }
  else v.text.map fun s d => { d with path := some s }

theorem request_reads :
    ∀ slot ∈ Request.shape.slots, slot.fill.Reads (requestMeaning slot.name) := by
  simp only [Request.shape, List.mem_cons, List.not_mem_nil, or_false]
  rintro slot (rfl | rfl | rfl | rfl)
  · exact text_reads.map _
  · exact Reader.Reads.map (tag_reads intents) _
  · exact text_reads.map _
  · exact text_reads.map _

/-- Fills what is not filled yet. -/
def fillOnce {α : Type} (held : Option α) (x : Except Fault α) (fill : α → RequestDraft) :
    Except Fault RequestDraft :=
  if held.isSome then .error .mismatch else x.map fill

theorem readField_request (d : RequestDraft) (name : String) (v : Value) :
    readField Request.shape.slots requestMeaning d (some name, v) =
      if name = "command" then fillOnce d.command v.text fun s => { d with command := some s }
      else if name = "command_type" then
        fillOnce d.intent (v.tag intents) fun i => { d with intent := some i }
      else if name = "file_content" then
        fillOnce d.content v.text fun s => { d with content := some s }
      else if name = "file_path" then fillOnce d.path v.text fun s => { d with path := some s }
      else .ok d := by
  have hmap {α : Type} (x : Except Fault α) (f : α → RequestDraft → RequestDraft) :
      (x.map f).map (· d) = x.map (f · d) := by rcases x <;> rfl
  split_ifs with hcommand hintent hcontent hpath
  · subst hcommand
    exact congrArg (ite _ _) (hmap _ _)
  · subst hintent
    exact congrArg (ite _ _) (hmap _ _)
  · subst hcontent
    exact congrArg (ite _ _) (hmap _ _)
  · subst hpath
    exact congrArg (ite _ _) (hmap _ _)
  · simp [readField, Request.shape, textSlot, Ne.symm hcommand, Ne.symm hintent,
      Ne.symm hcontent, Ne.symm hpath]

section Once

variable {α : Type} {held : Option α} {x : Except Fault α} {fill : α → RequestDraft}

theorem fillOnce_ok :
    fillOnce held x fill = .ok d ↔ held = none ∧ ∃ a, x = .ok a ∧ fill a = d := by
  rcases held with _ | a
  · rcases x <;> simp [fillOnce, Except.map]
  · simp [fillOnce]

theorem fillOnce_malformed :
    fillOnce held x fill = .error .malformed ↔ held = none ∧ x = .error .malformed := by
  rcases held with _ | a
  · rcases x <;> simp [fillOnce, Except.map]
  · simp [fillOnce]

theorem fillOnce_ne_truncated (hx : x ≠ .error .truncated) :
    fillOnce held x fill ≠ .error .truncated := by
  rcases held with _ | a
  · rcases x with f | a
    · simpa [fillOnce, Except.map] using hx
    · nofun
  · nofun

end Once

/-- What the fields make of a draft. -/
def readFields (d : RequestDraft) (fs : List (Option String × Value)) : Except Fault RequestDraft :=
  fs.foldlM (readField Request.shape.slots requestMeaning) d

theorem readFields_cons (f : Option String × Value) : readFields d (f :: fs) = .ok d' ↔
    ∃ d₁, readField Request.shape.slots requestMeaning d f = .ok d₁ ∧
      readFields d₁ fs = .ok d' := by
  unfold readFields
  rw [List.foldlM_cons]
  rcases readField Request.shape.slots requestMeaning d f <;> simp [bind, Except.bind]

theorem readFields_ok : readFields d fs = .ok d' ↔ (∀ f ∈ fs, f.1 ≠ none) ∧
    Gives Value.text d.command (valuesOf fs "command") d'.command ∧
    Gives (Value.tag intents) d.intent (valuesOf fs "command_type") d'.intent ∧
    Gives Value.text d.content (valuesOf fs "file_content") d'.content ∧
    Gives Value.text d.path (valuesOf fs "file_path") d'.path := by
  induction fs generalizing d with
  | nil =>
    rcases d with ⟨command, intent, content, path⟩
    rcases d' with ⟨command', intent', content', path'⟩
    simp [readFields, valuesOf, gives_nil, pure, Except.pure]
  | cons f fs ih =>
    obtain ⟨name | name, v⟩ := f
    · refine iff_of_false ?_ fun h => h.1 _ List.mem_cons_self rfl
      rw [readFields_cons]
      rintro ⟨_, ⟨⟩, -⟩
    rw [readFields_cons, readField_request]
    simp only [valuesOf_cons, Option.some.injEq]
    -- The field is the first value of its own name, and no value of the other three.
    split_ifs <;> simp only [fillOnce_ok, ih, gives_cons, List.forall_mem_cons]
    all_goals grind

end Fields

section Verdicts

theorem finish_eq_some {r : Request} : d.finish = some r ↔ d.command = some r.command ∧
    d.intent = some r.intent ∧ d.content.getD "" = r.content ∧ d.path.getD "" = r.path := by
  rcases d with ⟨_ | command, _ | intent, content, path⟩ <;> rcases r with ⟨_, _, _, _⟩ <;>
    simp [RequestDraft.finish]

theorem atMostOne_iff {α : Type} {meaning : Value → Except Fault α} {vs : List Value} :
    AtMostOne (fun v => ∃ a, meaning v = .ok a) vs ↔ ∃ held, Gives meaning none vs held := by
  constructor
  · rintro (rfl | ⟨v, rfl, a, ha⟩)
    · exact ⟨none, .kept⟩
    · exact ⟨some a, .filled ha⟩
  · rintro ⟨held, ⟨⟩ | ha⟩
    · exact .inl rfl
    · exact .inr ⟨_, rfl, _, ha⟩

theorem optionalText_iff {vs : List Value} {s : String} :
    OptionalText vs s ↔ ∃ held, Gives Value.text none vs held ∧ held.getD "" = s := by
  constructor
  · rintro (⟨rfl, rfl⟩ | rfl)
    · exact ⟨none, .kept, rfl⟩
    · exact ⟨some s, .filled rfl, rfl⟩
  · rintro ⟨held, ⟨⟩ | ha, rfl⟩
    · exact .inl ⟨rfl, rfl⟩
    · exact .inr (by rw [text_eq_ok.1 ha]; rfl)

theorem inOrder_iff : InOrder fs ↔ ∃ d, readFields {} fs = .ok d := by
  have htext {vs : List Value} : AtMostOne (fun v => ∃ s, v = .string (some s)) vs ↔
      ∃ held, Gives Value.text none vs held := by
    simp only [← atMostOne_iff, text_eq_ok]
  have htag {vs : List Value} : AtMostOne (fun v => ∃ i, NamesIntent i v) vs ↔
      ∃ held, Gives (Value.tag intents) none vs held := by
    simp only [← atMostOne_iff, tag_eq_ok]
  constructor
  · rintro ⟨hnamed, htexts, hintent⟩
    obtain ⟨command, hcommand⟩ := htext.1 (htexts "command" (by decide))
    obtain ⟨intent, hintent⟩ := htag.1 hintent
    obtain ⟨content, hcontent⟩ := htext.1 (htexts "file_content" (by decide))
    obtain ⟨path, hpath⟩ := htext.1 (htexts "file_path" (by decide))
    exact ⟨⟨command, intent, content, path⟩,
      readFields_ok.2 ⟨hnamed, hcommand, hintent, hcontent, hpath⟩⟩
  · rintro ⟨d, hd⟩
    obtain ⟨hnamed, hcommand, hintent, hcontent, hpath⟩ := readFields_ok.1 hd
    refine ⟨hnamed, ?_, htag.2 ⟨_, hintent⟩⟩
    simp only [textNames, List.forall_mem_cons, List.not_mem_nil, false_implies, implies_true,
      and_true]
    exact ⟨htext.2 ⟨_, hcommand⟩, htext.2 ⟨_, hcontent⟩, htext.2 ⟨_, hpath⟩⟩

theorem describes_iff {r : Request} :
    Describes fs r ↔ ∃ d, readFields {} fs = .ok d ∧ d.finish = some r := by
  constructor
  · rintro ⟨hnamed, hcommand, ⟨v, hvalue, hintent⟩, hcontent, hpath⟩
    obtain ⟨content, hcontent, hcontent'⟩ := optionalText_iff.1 hcontent
    obtain ⟨path, hpath, hpath'⟩ := optionalText_iff.1 hpath
    refine ⟨⟨some r.command, some r.intent, content, path⟩,
      readFields_ok.2 ⟨hnamed, ?_, ?_, hcontent, hpath⟩,
      finish_eq_some.2 ⟨rfl, rfl, hcontent', hpath'⟩⟩
    · exact gives_some.2 ⟨_, hcommand, rfl⟩
    · exact gives_some.2 ⟨v, hvalue, tag_eq_ok.2 hintent⟩
  · rintro ⟨d, hd, hfinish⟩
    obtain ⟨hnamed, hcommand, hintent, hcontent, hpath⟩ := readFields_ok.1 hd
    obtain ⟨hcommand', hintent', hcontent', hpath'⟩ := finish_eq_some.1 hfinish
    rw [hcommand'] at hcommand
    rw [hintent'] at hintent
    obtain ⟨v, hvalue, hv⟩ := gives_some.1 hcommand
    obtain ⟨w, hvalue', hw⟩ := gives_some.1 hintent
    rw [text_eq_ok.1 hv] at hvalue
    exact ⟨hnamed, hvalue, ⟨w, hvalue', tag_eq_ok.1 hw⟩,
      optionalText_iff.2 ⟨_, hcontent, hcontent'⟩, optionalText_iff.2 ⟨_, hpath, hpath'⟩⟩

theorem foul_some {name : String} : Foul (some name, v) ↔
    name ∈ textNames ∧ Unreadable v ∨ name = "command_type" ∧ FoulIntent v := by
  constructor
  · rintro (_ | ⟨hname, hv⟩ | hv)
    · exact .inl ⟨hname, hv⟩
    · exact .inr ⟨rfl, hv⟩
  · rintro (⟨hname, hv⟩ | ⟨rfl, hv⟩)
    · exact .text hname hv
    · exact .intent hv

/-- Behind fields that are in order a field is refused as JSON if it is the first of its name. -/
theorem readField_malformed {before : List (Option String × Value)} {f : Option String × Value}
    (hbefore : readFields {} before = .ok d) :
    readField Request.shape.slots requestMeaning d f = .error .malformed ↔
      Foul f ∧ ∀ name, f.1 = some name → valuesOf before name = [] := by
  obtain ⟨-, hcommand, hintent, hcontent, hpath⟩ := readFields_ok.1 hbefore
  obtain ⟨name | name, v⟩ := f
  · exact iff_of_true rfl ⟨.name, nofun⟩
  rw [readField_request, foul_some]
  simp only [Option.some.injEq, forall_eq']
  split_ifs with h h h h
  · subst h
    rw [fillOnce_malformed, hcommand.eq_none_iff, text_malformed]
    simp [textNames, and_comm]
  · subst h
    rw [fillOnce_malformed, hintent.eq_none_iff, tag_malformed]
    simp [textNames, and_comm]
  · subst h
    rw [fillOnce_malformed, hcontent.eq_none_iff, text_malformed]
    simp [textNames, and_comm]
  · subst h
    rw [fillOnce_malformed, hpath.eq_none_iff, text_malformed]
    simp [textNames, and_comm]
  · simp [textNames, *]

theorem foulFirst_iff : FoulFirst fs ↔ readFields {} fs = .error .malformed := by
  refine Iff.trans ?_ foldlM_eq_error_iff.symm
  constructor
  · rintro ⟨before, f, after, hfs, hbefore, hf, hfirst⟩
    obtain ⟨d, hd⟩ := inOrder_iff.1 hbefore
    exact ⟨before, f, after, d, hfs, hd, (readField_malformed hd).2 ⟨hf, hfirst⟩⟩
  · rintro ⟨before, f, after, d, hfs, hd, hf⟩
    obtain ⟨hfoul, hfirst⟩ := (readField_malformed hd).1 hf
    exact ⟨before, f, after, hfs, inOrder_iff.2 ⟨d, hd⟩, hfoul, hfirst⟩

theorem readField_ne_truncated (f : Option String × Value) :
    readField Request.shape.slots requestMeaning d f ≠ .error .truncated := by
  obtain ⟨name | name, v⟩ := f
  · nofun
  rw [readField_request]
  split_ifs
  · exact fillOnce_ne_truncated text_ne_truncated
  · exact fillOnce_ne_truncated tag_ne_truncated
  · exact fillOnce_ne_truncated text_ne_truncated
  · exact fillOnce_ne_truncated text_ne_truncated
  · nofun

theorem readFields_ne_truncated : readFields {} fs ≠ .error .truncated := by
  intro h
  obtain ⟨before, f, after, d, -, -, hf⟩ := foldlM_eq_error_iff.1 h
  exact readField_ne_truncated f hf

theorem AtFault.not_describes {r : Request} (h : AtFault fs) : ¬Describes fs r := by
  rintro ⟨-, hcommand, ⟨v, hintent, -⟩, hcontent, hpath⟩
  rcases hcontent with ⟨hcontent, -⟩ | hcontent <;> rcases hpath with ⟨hpath, -⟩ | hpath <;>
    simp [AtFault, textNames, hcommand, hintent, hcontent, hpath] at h

variable {cs gap gap' : List Char} {s : String}

theorem readAll_request (hobject : Writes (.value (.object fs)) cs) (hg : ∀ c ∈ gap, isGap c)
    (hg' : ∀ c ∈ gap', isGap c) (hs : s.toList = gap ++ (cs ++ gap')) :
    Request.shape.reader.readAll s = (readFields {} fs).bind fun d =>
      d.finish.elim (.error .mismatch) .ok :=
  Shape.readAll_object request_reads rfl hobject hg hg' hs

/-- A request is read from the values of its four fields, wherever they stand among others and
whatever gaps there are. Fields that are at fault make none, and are refused as no request, or as no
JSON if that is what is wrong with the first of them. -/
theorem request_read_by_fields (hobject : Writes (.value (.object fs)) cs)
    (hg : ∀ c ∈ gap, isGap c) (hg' : ∀ c ∈ gap', isGap c) (hs : s.toList = gap ++ (cs ++ gap')) :
    (∀ r, Request.shape.reader.readAll s = .ok r ↔ Describes fs r) ∧
    (Request.shape.reader.readAll s = .error .malformed ↔ FoulFirst fs) ∧
    (AtFault fs → ¬FoulFirst fs → Request.shape.reader.readAll s = .error .mismatch) := by
  rw [readAll_request hobject hg hg' hs]
  have hok (r : Request) : ((readFields {} fs).bind fun d =>
      d.finish.elim (.error Fault.mismatch) .ok) = .ok r ↔ Describes fs r := by
    rw [describes_iff]
    rcases readFields {} fs with f | d
    · simp [Except.bind]
    · rcases hd : d.finish <;> simp [Except.bind, hd]
  refine ⟨hok, ?_, ?_⟩
  · rw [foulFirst_iff]
    rcases readFields {} fs with f | d
    · simp [Except.bind]
    · rcases hd : d.finish <;> simp [Except.bind, hd]
  · intro hfault hfoul
    have hnone (r : Request) := (hok r).not.2 hfault.not_describes
    have htrunc : readFields {} fs ≠ .error .truncated := readFields_ne_truncated
    rw [foulFirst_iff] at hfoul
    rcases hd : readFields {} fs with (_ | _ | _) | d
    · exact (hfoul hd).elim
    · rfl
    · exact (htrunc hd).elim
    · simp only [hd, Except.bind] at hnone ⊢
      rcases hr : d.finish with _ | r
      · rfl
      · exact (hnone r (by rw [hr]; rfl)).elim

theorem request_read_past_other_fields :
    Request.shape.reader.readAll
      "\x7b\"input\":\x7b\"command\":1\x7d,\"command_type\":\"explain\",\"command\":\"hi\"\x7d" =
        .ok ⟨"hi", .explain, "", ""⟩ := by
  have hgap : ∀ c ∈ [], isGap c := by simp
  have hone : WritesNumber (.ofDigits ['1'] [] 0) ['1'] :=
    .parts (.digits (by decide) (by decide) (by simp)) .none .none
  have hinput := Writes.object
    (.lastField (writesName_quote "command") hgap hgap (.number hone))
  have hobject := Writes.object (.field (writesName_quote "input") hgap hgap hinput
    (.field (writesName_quote "command_type") hgap hgap (writes_quote "explain")
      (.lastField (writesName_quote "command") hgap hgap (writes_quote "hi"))))
  refine ((request_read_by_fields hobject hgap hgap ?_).1 _).2
    ⟨by simp, rfl, ⟨_, rfl, .inl rfl⟩, .inl ⟨rfl, rfl⟩, .inl ⟨rfl, rfl⟩⟩
  simp [toList_quote, escape]

/-- A field at fault may be refused as JSON: an intent that is a number, though the command is
missing, or a command that is a number too great. So is a field called by a lone surrogate, whatever
the others are. -/
theorem faults_refused_as_json :
    (∃ fs, Writes (.value (.object fs)) "\x7b\"command_type\":5\x7d".toList ∧
      valuesOf fs "command" = [] ∧
      Request.shape.reader.readAll "\x7b\"command_type\":5\x7d" = .error .malformed) ∧
    (∃ fs, Writes (.value (.object fs))
        "\x7b\"command\":1e999,\"command_type\":\"custom\"\x7d".toList ∧
      (∃ v ∈ valuesOf fs "command", ∀ s, v ≠ .string s) ∧
      Request.shape.reader.readAll "\x7b\"command\":1e999,\"command_type\":\"custom\"\x7d" =
        .error .malformed) ∧
    ∃ fs, Writes (.value (.object fs))
        "\x7b\"command\":\"c\",\"command_type\":\"custom\",\"\\ud800\":0\x7d".toList ∧
      valuesOf fs "command" = [.string (some "c")] ∧
      valuesOf fs "command_type" = [.string (some "custom")] ∧
      Request.shape.reader.readAll
        "\x7b\"command\":\"c\",\"command_type\":\"custom\",\"\\ud800\":0\x7d" =
          .error .malformed := by
  have hgap : ∀ c ∈ [], isGap c := by simp
  have hread {fs : List (Option String × Value)} {cs : List Char} {s : String}
      (hobject : Writes (.value (.object fs)) cs) (hs : s.toList = cs)
      (hfields : readFields {} fs = .error .malformed) :
      Writes (.value (.object fs)) s.toList ∧
        Request.shape.reader.readAll s = .error .malformed := by
    have hall := readAll_request hobject hgap hgap (show s.toList = [] ++ (cs ++ []) by simp [hs])
    rw [hfields] at hall
    exact ⟨hs ▸ hobject, hall⟩
  have hzero : WritesNumber (.ofDigits ['0'] [] 0) ['0'] := .parts .zero .none .none
  have hfive : WritesNumber (.ofDigits ['5'] [] 0) ['5'] :=
    .parts (.digits (by decide) (by decide) (by simp)) .none .none
  have hgreat : WritesNumber (.ofDigits ['1'] [] (digitsValue ['9', '9', '9']))
      ['1', 'e', '9', '9', '9'] :=
    .parts (.digits (by decide) (by decide) (by simp)) .none
      (.unsigned (.inl rfl) ⟨by simp, by simp⟩)
  have hhex : Hex (((13 * 16 + 8) * 16 + 0) * 16 + 0) ['d', '8', '0', '0'] :=
    .digits rfl rfl rfl rfl
  have hsurrogate : WritesName none ['"', '\\', 'u', 'd', '8', '0', '0', '"', ':'] :=
    .quoted hgap hgap (.unit hhex .nil)
  refine ⟨?intent, ?command, ?name⟩
  case intent =>
    obtain ⟨hobject, hall⟩ := hread (.object
      (.lastField (writesName_quote "command_type") hgap hgap (.number hfive)))
      (show "\x7b\"command_type\":5\x7d".toList = _ by simp [toList_quote, escape]) rfl
    exact ⟨_, hobject, rfl, hall⟩
  case command =>
    obtain ⟨hobject, hall⟩ := hread (.object
      (.field (writesName_quote "command") hgap hgap (.number hgreat)
        (.lastField (writesName_quote "command_type") hgap hgap (writes_quote "custom"))))
      (show "\x7b\"command\":1e999,\"command_type\":\"custom\"\x7d".toList = _ by
        simp [toList_quote, escape]) rfl
    exact ⟨_, hobject, ⟨_, List.mem_cons_self, nofun⟩, hall⟩
  case name =>
    obtain ⟨hobject, hall⟩ := hread (.object
      (.field (writesName_quote "command") hgap hgap (writes_quote "c")
        (.field (writesName_quote "command_type") hgap hgap (writes_quote "custom")
          (.lastField hsurrogate hgap hgap (.number hzero)))))
      (show "\x7b\"command\":\"c\",\"command_type\":\"custom\",\"\\ud800\":0\x7d".toList = _ by
        simp [toList_quote, escape]) rfl
    exact ⟨_, hobject, rfl, rfl, hall⟩

end Verdicts

end AgentConsole
