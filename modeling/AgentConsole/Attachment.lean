import AgentConsole.Files.Path

/-!
# Attachments

The file a conversation is about.
-/

namespace AgentConsole

/-- A file, with its path as it was given. -/
structure Attachment where
  path : String
  content : String
  deriving DecidableEq, Repr

/-- The name the path ends in, or else the path. -/
def Attachment.fileName (a : Attachment) : String :=
  (Files.baseName? a.path).getD a.path

end AgentConsole
