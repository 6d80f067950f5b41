import AgentConsole.Agent.Outcome
import AgentConsole.Classification
import AgentConsole.Mention
import AgentConsole.Session.Conversation

/-!
# Submissions

The five ways to ask the agent something. They differ in what is said in the conversation, what
the agent is sent, and whether the file becomes the current one.
-/

namespace AgentConsole.Session

/-- Something to ask. -/
inductive Submission where
  /-- Typed into the conversation, about the current file. -/
  | prompt (text : String)
  /-- Found in a file, which becomes the current one. -/
  | mention (command : String) (file : Attachment)
  /-- A command about a file in an editor. -/
  | editor (command : String) (file : Option Attachment)
  /-- A command about a file that was sent along. -/
  | upload (name content command : String)
  /-- Code to act on, with a file in an editor. -/
  | code (text : String) (file : Option Attachment)
  deriving DecidableEq, Repr

namespace Submission

/-- The text that must not be blank. -/
def essence : Submission → String
  | prompt text => text
  | mention command _ => command
  | editor command _ => command
  | upload _ _ command => command
  | code text _ => text

/-- Addresses the agent. -/
def addressed (command : String) : String :=
  mark ++ " " ++ command

/-- What the user says in the conversation. -/
def said : Submission → String
  | prompt text => text
  | mention command _ => addressed command
  | editor command _ => addressed command
  | upload name _ command => addressed command ++ " (File: " ++ name ++ ")"
  | code text _ => text

/-- The file that becomes the current one. -/
def newFile? : Submission → Option Attachment
  | mention _ file => some file
  | _ => none

/-- What the agent is sent, in a conversation about the file `current`. -/
def request (current : Option Attachment) : Submission → Request
  | prompt text =>
    let command := stripMention text
    ⟨command, classify command, (current.map (·.content)).getD "",
      (current.map (·.path)).getD ""⟩
  | mention command file => ⟨command, classify command, file.content, file.path⟩
  | editor command file =>
    ⟨command, .custom, (file.map (·.content)).getD "", (file.map (·.fileName)).getD ""⟩
  | upload name content command => ⟨command, .custom, content, name⟩
  | code text file =>
    ⟨stripMention text, .custom, (file.map (·.content)).getD "", (file.map (·.path)).getD ""⟩

end Submission

/-- Why the session gives no answer. -/
inductive SessionError where
  | agent (cause : Agent.AgentError)
  | cancelled
  | emptyCommand
  | closed
  deriving DecidableEq, Repr

/-- The error in words. -/
def SessionError.message : SessionError → String
  | .agent cause => cause.message
  | .cancelled => "request cancelled"
  | .emptyCommand => "command is empty"
  | .closed => "session closed"

end AgentConsole.Session
