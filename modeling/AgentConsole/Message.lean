import AgentConsole.Time.Instant

/-!
# Messages

What a conversation is made of.
-/

namespace AgentConsole

/-- Who a message is from; the system's messages are the program's own. -/
inductive Role where
  | user
  | agent
  | system
  deriving DecidableEq, Repr

/-- The role as it is written. -/
def Role.name : Role → String
  | .user => "user"
  | .agent => "agent"
  | .system => "system"

/-- A message of a conversation. -/
structure Message where
  role : Role
  content : String
  deriving DecidableEq, Repr

/-- A message with its name and the moment it was made. -/
structure StampedMessage where
  id : String
  message : Message
  time : Time.Instant
  deriving DecidableEq, Repr

end AgentConsole
