import AgentConsole.Session.Basic

/-!
# Operations

What can be done with a session from outside, while its conversation is free. Each operation
changes the conversation and leaves deeds to do, which `finishDeeds` does at once.
-/

namespace AgentConsole.Session

open AgentConsole.Agent AgentConsole.Text

/-- Does one deed. -/
def perform (s : Session) : Deed → Session
  | .publish epoch => { s with published := epoch }
  | .announce e => s.announce e

/-- Does the first deed that is left to do. -/
def proceed? (s : Session) : Option Session :=
  match s.deeds with
  | [] => none
  | deed :: rest => some ({ s with deeds := rest }.perform deed)

/-- Does all deeds that are left to do, so that the conversation is free. -/
def finishDeeds (s : Session) : Session :=
  s.deeds.foldl perform { s with deeds := [] }

/-- The announcement of how many messages there are. -/
def countDeed (c : Conversation) : Deed :=
  .announce (.updated c.history.length)

/-- Adds a message to the conversation. -/
def append (s : Session) (m : Message) : Session :=
  let conversation := s.conversation.push m
  { s with conversation, deeds := [countDeed conversation] }

/-- Makes a file the current one, with a notice of it. -/
def setFile (s : Session) (a : Attachment) : Session :=
  let conversation := s.conversation.setFile a
  { s with conversation, deeds := [.announce (.file (some a)), countDeed conversation] }

/-- Starts the conversation over, and gives up all that was asked. -/
def clear (s : Session) : Session :=
  let conversation := s.conversation.clear
  { s with
    conversation
    deeds := [.publish conversation.epoch, .announce (.file none), countDeed conversation] }

/-- Gives up all that was asked. -/
def cancel (s : Session) : Session :=
  let conversation := s.conversation.invalidate
  { s with conversation, deeds := [.publish conversation.epoch] }

/-- The conversation after something was asked. -/
def asked (c : Conversation) (x : Submission) : Conversation :=
  let c := c.push ⟨.user, x.said⟩
  match x.newFile? with
  | some file => c.replaceFile file
  | none => c

/-- What goes with accepting a request: the file if it is a new one, the count of messages, and
that the request is on its way. -/
def acceptanceDeeds (c : Conversation) (id : Nat) (x : Submission) : List Deed :=
  (x.newFile?.map fun file => Deed.announce (.file (some file))).toList ++
    [countDeed c, .announce (.phase id .dispatched), .announce (.loading id true)]

/-- Asks something. What is blank is refused, and so is everything once the session is closed;
else the answer is the number of the request. -/
def submit (s : Session) (x : Submission) : Session × Except SessionError Nat :=
  if isAllBlank x.essence then (s, .error .emptyCommand)
  else if s.isClosed then (s, .error .closed)
  else
    let id := s.accepted
    let job : Job := ⟨id, x.request s.conversation.file, s.conversation.epoch⟩
    let conversation := asked s.conversation x
    ({ s with
        conversation
        accepted := id + 1
        queue := s.queue ++ [job]
        deeds := acceptanceDeeds conversation id x }, .ok id)

/-- Starts a run past the queue, with nothing said in the conversation; the answer is its number
among those runs. -/
def runDirectly (s : Session) (r : Request) : Session × Nat :=
  let id := s.directCount
  let s := { s with directCount := id + 1 }
  match s.host.start s.workspace r with
  | (workspace, .done result) =>
    ({ s with workspace, directReplies := (id, result) :: s.directReplies }, id)
  | (workspace, .called call) => ({ s with workspace, directs := s.directs ++ [(id, call)] }, id)

/-- Gives the session up. -/
def drop (s : Session) : Session :=
  { s with dropped := true }

/-- The worker goes for good: what it waits for is released, and the pending requests are told
that the session is closed. -/
def stop (s : Session) : Session :=
  { s with
    workspace := s.released
    worker := .stopped
    queue := []
    replies := (s.pending.map fun job => (job.id, .error .closed)).reverse ++ s.replies }

end AgentConsole.Session
