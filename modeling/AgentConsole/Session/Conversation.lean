import AgentConsole.Attachment
import AgentConsole.Message

/-!
# Conversations

The messages exchanged so far, the file they are about, and an epoch: what was asked in an earlier
epoch is not waited for any more.
-/

namespace AgentConsole.Session

/-- The messages so far and the current file. -/
structure Snapshot where
  history : List Message
  file : Option Attachment
  deriving DecidableEq, Repr

/-- A conversation. -/
structure Conversation where
  history : List Message
  file : Option Attachment
  /-- Grows by one whenever all that is asked is given up; starts over after 2⁶⁴ times. -/
  epoch : UInt64
  deriving DecidableEq, Repr

/-- The notice that a file was loaded. -/
def loadedNotice (a : Attachment) : Message :=
  ⟨.system, "File loaded: " ++ a.fileName⟩

namespace Conversation

/-- Nothing said and no file. -/
def empty : Conversation :=
  ⟨[], none, 0⟩

/-- With one more message. -/
def push (c : Conversation) (m : Message) : Conversation :=
  { c with history := c.history ++ [m] }

/-- With another current file, and a notice of it. -/
def setFile (c : Conversation) (a : Attachment) : Conversation :=
  { c.push (loadedNotice a) with file := some a }

/-- With another current file, and no notice of it. -/
def replaceFile (c : Conversation) (a : Attachment) : Conversation :=
  { c with file := some a }

/-- In the next epoch. -/
def invalidate (c : Conversation) : Conversation :=
  { c with epoch := c.epoch + 1 }

/-- Without messages and file, in the next epoch. -/
def clear (c : Conversation) : Conversation :=
  { c with history := [], file := none }.invalidate

/-- The messages and the current file. -/
def snapshot (c : Conversation) : Snapshot :=
  ⟨c.history, c.file⟩

end Conversation

end AgentConsole.Session
