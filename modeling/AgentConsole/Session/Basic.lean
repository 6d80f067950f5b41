import AgentConsole.Agent.Run
import AgentConsole.Session.Routing
import AgentConsole.Session.Submission

/-!
# Sessions

A session holds a conversation and a queue of accepted requests, which one worker takes up in
order. Whoever changes the conversation holds it until the deeds that go with the change are done;
nobody else can change it meanwhile. The worker learns of a new epoch when it is published, and
announces the end of a request without holding the conversation. Once the session is dropped nothing
can be asked of it any more, and the worker goes on until it is stopped.
-/

namespace AgentConsole

open AgentConsole.Agent

namespace Session

/-- An accepted request. -/
structure Job where
  /-- How many were accepted before it. -/
  id : Nat
  request : Request
  /-- The epoch it was accepted in. -/
  epoch : UInt64
  deriving DecidableEq, Repr

/-- What a ticket resolves to. -/
abbrev Reply := Except SessionError String

/-- What the worker is at. -/
inductive Worker where
  | idle
  /-- It has taken up a request. -/
  | taken (job : Job)
  /-- It found the request to be of the published epoch. -/
  | fresh (job : Job)
  /-- It waits for the agent's answer. -/
  | running (job : Job) (call : Call)
  /-- It has an outcome to take into the conversation. -/
  | answered (job : Job) (outcome : Except AgentError String)
  /-- It has these events to announce, and then the reply to give. -/
  | settling (job : Job) (events : List Event) (reply : Reply)
  /-- It is gone. -/
  | stopped

/-- The request the worker has taken up. -/
def Worker.job? : Worker → Option Job
  | idle | stopped => none
  | taken job | fresh job | running job _ | answered job _ | settling job _ _ => some job

/-- The run the worker waits for. -/
def Worker.call? : Worker → Option Call
  | running _ call => some call
  | _ => none

/-- What whoever holds the conversation still has to do. -/
inductive Deed where
  | publish (epoch : UInt64)
  | announce (event : Event)
  deriving DecidableEq, Repr

end Session

open Session

/-- A session. -/
structure Session where
  host : Host
  workspace : Workspace
  conversation : Conversation
  /-- The epoch the worker sees. -/
  published : UInt64
  /-- What has to be done before the conversation is free again. -/
  deeds : List Deed
  /-- How many requests were accepted. -/
  accepted : Nat
  queue : List Job
  worker : Worker
  /-- Whoever used the session has given it up. -/
  dropped : Bool
  /-- What was announced so far; the last event comes first. -/
  announced : List Event
  /-- The replies given so far, by request; the last one comes first. -/
  replies : List (Nat × Reply)
  /-- How many runs were started past the queue. -/
  directCount : Nat
  /-- Those of them that are under way. -/
  directs : List (Nat × Call)
  /-- What the others came to. -/
  directReplies : List (Nat × Except AgentError String)

namespace Session

/-- What the system says first. -/
def welcome : Message :=
  ⟨.system, "Welcome to Dev Agent! You can ask questions about your code, " ++
    "use @dev-agent commands, or upload files for analysis."⟩

/-- How many events are kept for a subscriber that does not read them. -/
def eventCapacity : Nat := 256

/-- A session that has just been opened. -/
def new (host : Host) (workspace : Workspace) : Session where
  host
  workspace
  conversation := Conversation.empty.push welcome
  published := 0
  deeds := []
  accepted := 0
  queue := []
  worker := .idle
  dropped := false
  announced := []
  replies := []
  directCount := 0
  directs := []
  directReplies := []

/-- No more requests are taken. -/
def isClosed (s : Session) : Bool :=
  match s.worker with
  | .stopped => true
  | _ => false

/-- Nobody holds the conversation. -/
def isFree (s : Session) : Bool :=
  s.deeds.isEmpty

/-- The session is still in use, and its conversation can be changed now. -/
def isOpen (s : Session) : Bool :=
  s.isFree && !s.dropped

/-- A request need not be waited for any more: the worker sees another epoch, or nobody is left
who could publish one. -/
def isPast (s : Session) (job : Job) : Bool :=
  s.published ≠ job.epoch || s.dropped

/-- The accepted requests that have no reply yet, in order. -/
def pending (s : Session) : List Job :=
  s.worker.job?.toList ++ s.queue

/-- The reply to a request, once it is given. -/
def reply? (s : Session) (id : Nat) : Option Reply :=
  s.replies.lookup id

/-- The workspace when what the worker waits for is released. -/
def released (s : Session) : Workspace :=
  match s.worker.call? with
  | some call => call.release s.workspace
  | none => s.workspace

/-- What a run past the queue came to, once it is known. -/
def directReply? (s : Session) (id : Nat) : Option (Except AgentError String) :=
  s.directReplies.lookup id

/-- Announces an event. -/
def announce (s : Session) (e : Event) : Session :=
  { s with announced := e :: s.announced }

end Session

end AgentConsole
