import AgentConsole.Attachment
import AgentConsole.Json.Record
import AgentConsole.Json.Writer
import AgentConsole.Message
import AgentConsole.Request
import AgentConsole.Time.Reading

/-!
# Written forms

How requests, messages and attachments are written as JSON and read back. A request is written
with two members more than are read: its command again as `prompt`, and its content as `input`.
-/

namespace AgentConsole

open AgentConsole.Json AgentConsole.Time

/-- An intent by its name. -/
def Intent.reader : Reader Intent :=
  tag ([.pseudoCode, .explain, .custom].map fun i => (i.name, i))

/-- An intent, quoted. -/
def Intent.toJson (i : Intent) : String :=
  quote i.name

/-- A role by its name. -/
def Role.reader : Reader Role :=
  tag ([.user, .agent, .system].map fun r => (r.name, r))

/-- A role, quoted. -/
def Role.toJson (r : Role) : String :=
  quote r.name

/-- The name of a request. -/
def RequestId.reader : Reader RequestId :=
  Json.text.map RequestId.mk

/-- The name of a request, quoted. -/
def RequestId.toJson (i : RequestId) : String :=
  quote i.text

/-- A slot that a text fills. -/
def textSlot {σ : Type} (name : String) (get : σ → Option String) (set : String → σ → σ) :
    Slot σ :=
  ⟨name, fun draft => (get draft).isSome, text.map set⟩

/-- A request under way. -/
structure RequestDraft where
  command : Option String := none
  intent : Option Intent := none
  content : Option String := none
  path : Option String := none

/-- A request needs a command and an intent. -/
def RequestDraft.finish (d : RequestDraft) : Option Request := do
  return ⟨← d.command, ← d.intent, d.content.getD "", d.path.getD ""⟩

/-- How a request is read. -/
def Request.shape : Shape RequestDraft Request where
  blank := {}
  slots :=
    [textSlot "command" (·.command) fun s d => { d with command := some s },
     ⟨"command_type", (·.intent.isSome),
        Intent.reader.map fun i d => { d with intent := some i }⟩,
     textSlot "file_content" (·.content) fun s d => { d with content := some s },
     textSlot "file_path" (·.path) fun s d => { d with path := some s }]
  finish := RequestDraft.finish

/-- How a request is written. -/
def Request.members (r : Request) : Members :=
  [("command", r.command), ("command_type", r.intent.name), ("file_content", r.content),
    ("file_path", r.path), ("prompt", r.command), ("input", r.content)]

/-- What the request file of a request holds. -/
def Request.fileText (r : Request) : String :=
  pretty r.members

/-- An attachment under way. -/
structure AttachmentDraft where
  path : Option String := none
  content : Option String := none

/-- An attachment needs both of its members. -/
def AttachmentDraft.finish (d : AttachmentDraft) : Option Attachment := do
  return ⟨← d.path, ← d.content⟩

/-- How an attachment is read. -/
def Attachment.shape : Shape AttachmentDraft Attachment where
  blank := {}
  slots :=
    [textSlot "path" (·.path) fun s d => { d with path := some s },
     textSlot "content" (·.content) fun s d => { d with content := some s }]
  finish := AttachmentDraft.finish

/-- How an attachment is written. -/
def Attachment.members (a : Attachment) : Members :=
  [("path", a.path), ("content", a.content)]

/-- A moment, read from a text. -/
def readInstant (cs : List Char) : Except Fault (Instant × List Char) :=
  match text.run cs with
  | .error f => .error f
  | .ok (s, rest) =>
    match Instant.read? s with
    | some t => .ok (t, rest)
    | none => .error .mismatch

theorem readInstant_shorter {cs rest : List Char} {t : Instant}
    (h : readInstant cs = .ok (t, rest)) : rest.length < cs.length := by
  unfold readInstant at h
  split at h
  · simp at h
  · next hs =>
    split at h
    · simp only [Except.ok.injEq, Prod.mk.injEq] at h
      exact h.2 ▸ text.shorter hs
    · simp at h

/-- A moment, read from a text. -/
def instant : Reader Instant :=
  ⟨readInstant, readInstant_shorter⟩

/-- A message under way. -/
structure MessageDraft where
  id : Option String := none
  role : Option Role := none
  content : Option String := none
  time : Option Instant := none

/-- A message needs all of its members. -/
def MessageDraft.finish (d : MessageDraft) : Option StampedMessage := do
  return ⟨← d.id, ⟨← d.role, ← d.content⟩, ← d.time⟩

/-- How a message is read. -/
def StampedMessage.shape : Shape MessageDraft StampedMessage where
  blank := {}
  slots :=
    [textSlot "id" (·.id) fun s d => { d with id := some s },
     ⟨"role", (·.role.isSome), Role.reader.map fun r d => { d with role := some r }⟩,
     textSlot "content" (·.content) fun s d => { d with content := some s },
     ⟨"timestamp", (·.time.isSome), instant.map fun t d => { d with time := some t }⟩]
  finish := MessageDraft.finish

/-- How a message is written. -/
def StampedMessage.members (m : StampedMessage) : Members :=
  [("id", m.id), ("role", m.message.role.name), ("content", m.message.content),
    ("timestamp", m.time.write)]

end AgentConsole
