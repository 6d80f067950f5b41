import AgentConsole.Proofs.Json.Record
import AgentConsole.Proofs.Text.Utf8
import AgentConsole.Proofs.Time.Instant
import AgentConsole.Wire

/-!
# Reading back what is written

Whatever is written as JSON is read back (`Faithful`): requests on one line or on many, messages,
attachments, and what is a quoted text only. Of the two members that a request has besides, its
reader takes no notice; another reader finds in them what the command and the content say.
-/

namespace AgentConsole

open AgentConsole.Json AgentConsole.Text AgentConsole.Time

section Faithful

variable {α : Type} {r : Reader α} {write : α → String}

/-- The text that is written for what a text is read as. -/
def rewriteText (r : Reader α) (write : α → String) (s : String) : Except Fault String :=
  (r.readAll s).map write

/-- What is written is read back. A text that was accepted is therefore written anew in a form that
stays the same from then on, and different values are written differently. -/
structure Faithful (r : Reader α) (write : α → String) : Prop where
  recovers : ∀ a, r.readAll (write a) = .ok a
  settles : ∀ s t, rewriteText r write s = .ok t → rewriteText r write t = .ok t
  injective : Function.Injective write

theorem Faithful.of_recovers (h : ∀ a, r.readAll (write a) = .ok a) : Faithful r write where
  recovers := h
  settles s t ht := by
    unfold rewriteText at ht
    cases hs : r.readAll s with
    | error f =>
      rw [hs] at ht
      cases ht
    | ok a =>
      rw [hs] at ht
      cases ht
      unfold rewriteText
      rw [h a]
      rfl
  injective a b hab := by
    have ha := h a
    rw [hab, h b] at ha
    cases ha
    rfl

theorem Faithful.of_takes {name : α → String} (h : ∀ a, r.Takes (name a) a) :
    Faithful r fun a => quote (name a) :=
  .of_recovers fun a => (h a).readAll

end Faithful

theorem textSlot_takes {σ : Type} (name : String) (get : σ → Option String)
    (set : String → σ → σ) (s : String) : (textSlot name get set).fill.Takes s (set s) :=
  (text_takes s).map set

theorem Intent.reader_takes (i : Intent) : Intent.reader.Takes i.name i := by
  cases i <;> exact tag_takes rfl

theorem Role.reader_takes (r : Role) : Role.reader.Takes r.name r := by
  cases r <;> exact tag_takes rfl

theorem instant_takes (t : Instant) : instant.Takes t.write t := by
  intro gap rest hg
  change readInstant _ = _
  unfold readInstant
  rw [text_takes t.write gap rest hg]
  simp only [Instant.read?_write]

/-- What the members of a request make of a blank draft. -/
theorem Request.fills (r : Request) : Fills Request.shape.slots {} r.members
    ⟨some r.command, some r.intent, some r.content, some r.path⟩ := by
  refine .known rfl rfl (textSlot_takes _ _ _ r.command) ?_
  refine .known rfl rfl (r.intent.reader_takes.map _) ?_
  refine .known rfl rfl (textSlot_takes _ _ _ r.content) ?_
  refine .known rfl rfl (textSlot_takes _ _ _ r.path) ?_
  exact .unknown rfl (.unknown rfl (.nil _))

theorem Attachment.fills (a : Attachment) :
    Fills Attachment.shape.slots {} a.members ⟨some a.path, some a.content⟩ := by
  refine .known rfl rfl (textSlot_takes _ _ _ a.path) ?_
  exact .known rfl rfl (textSlot_takes _ _ _ a.content) (.nil _)

theorem StampedMessage.fills (m : StampedMessage) : Fills StampedMessage.shape.slots {} m.members
    ⟨some m.id, some m.message.role, some m.message.content, some m.time⟩ := by
  refine .known rfl rfl (textSlot_takes _ _ _ m.id) ?_
  refine .known rfl rfl (m.message.role.reader_takes.map _) ?_
  refine .known rfl rfl (textSlot_takes _ _ _ m.message.content) ?_
  exact .known rfl rfl ((instant_takes m.time).map _) (.nil _)

/-- A request is read back from what its request file holds. -/
theorem Request.readAll_fileText (r : Request) : Request.shape.reader.readAll r.fileText = .ok r :=
  readAll_pretty r.fills rfl

/-- What both written forms of a request say to a reader that takes every member as it comes. -/
theorem Request.readAll_texts (r : Request) :
    (textsShape (r.members.map Prod.fst)).reader.readAll r.fileText = .ok r.members ∧
      (textsShape (r.members.map Prod.fst)).reader.readAll (compact r.members) =
        .ok r.members := by
  refine readAll_textsShape ?_
  change List.Nodup ["command", "command_type", "file_content", "file_path", "prompt", "input"]
  decide

/-- Whatever is written is read back, rewriting a text that was accepted settles it, and different
values have different texts; a request is even told apart by the octets of its request file. In
both written forms of a request `prompt` repeats the command and `input` the content. -/
theorem written_forms_faithful :
    Faithful Request.shape.reader Request.fileText ∧
    Faithful Request.shape.reader (fun r => compact r.members) ∧
    Faithful Attachment.shape.reader (fun a => compact a.members) ∧
    Faithful StampedMessage.shape.reader (fun m => compact m.members) ∧
    Faithful RequestId.reader RequestId.toJson ∧
    Faithful Intent.reader Intent.toJson ∧
    Faithful Role.reader Role.toJson ∧
    (Function.Injective fun r : Request => Utf8.encode r.fileText) ∧
    ∀ r : Request, ∃ names ms,
      (textsShape names).reader.readAll r.fileText = .ok ms ∧
      (textsShape names).reader.readAll (compact r.members) = .ok ms ∧
      ms.lookup "command" = some r.command ∧ ms.lookup "prompt" = ms.lookup "command" ∧
      ms.lookup "file_content" = some r.content ∧
      ms.lookup "input" = ms.lookup "file_content" := by
  have hfile : Faithful Request.shape.reader Request.fileText :=
    .of_recovers Request.readAll_fileText
  refine ⟨hfile, ?compact, ?attachment, ?message, ?name, .of_takes Intent.reader_takes,
    .of_takes Role.reader_takes, ?octets, ?mirrors⟩
  case compact => exact .of_recovers fun r => readAll_compact r.fills rfl
  case attachment => exact .of_recovers fun a => readAll_compact a.fills rfl
  case message => exact .of_recovers fun m => readAll_compact m.fills rfl
  case name => exact .of_takes fun i => (text_takes i.text).map RequestId.mk
  case octets =>
    intro r r' h
    have hd := congrArg Utf8.decode? h
    rw [Utf8.decode?_encode, Utf8.decode?_encode, Option.some.injEq] at hd
    exact hfile.injective hd
  case mirrors =>
    intro r
    obtain ⟨hpretty, hcompact⟩ := r.readAll_texts
    exact ⟨_, r.members, hpretty, hcompact, rfl, rfl, rfl, rfl⟩

end AgentConsole
