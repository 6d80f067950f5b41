import AgentConsole.Session.Operation

/-!
# The work of a session

The steps the worker takes from one request to the next, each possible in one state of it, and
those of the runs past the queue. While the worker waits for an answer it also looks out for a new
epoch, and gives the request up when there is one; it may look before the run is started.
-/

namespace AgentConsole.Session

open AgentConsole.Agent

/-- What is announced when a request is settled. -/
def endEvents (id : Nat) (phase : Phase) : List Event :=
  [.loading id false, .phase id phase, .phase id .idle]

/-- On the way to telling that a request was given up. -/
def givingUp (job : Job) : Worker :=
  .settling job (endEvents job.id .cancelled) (.error .cancelled)

/-- The worker takes up the first request of the queue. -/
def take? (s : Session) : Option Session :=
  match s.worker, s.queue with
  | .idle, job :: queue => some { s with worker := .taken job, queue }
  | _, _ => none

/-- The worker compares the epoch of the request with the published one. -/
def check? (s : Session) : Option Session :=
  match s.worker with
  | .taken job =>
    some { s with worker := if s.published ≠ job.epoch then givingUp job else .fresh job }
  | _ => none

/-- The worker starts the request. -/
def begin? (s : Session) : Option Session :=
  match s.worker with
  | .fresh job =>
    match s.host.start s.workspace job.request with
    | (workspace, .done result) => some { s with workspace, worker := .answered job result }
    | (workspace, .called call) => some { s with workspace, worker := .running job call }
  | _ => none

/-- The worker sees that the request need not be waited for, and gives it up. -/
def notice? (s : Session) : Option Session :=
  match s.worker with
  | .fresh job | .running job _ =>
    if s.isPast job then some { s with workspace := s.released, worker := givingUp job } else none
  | _ => none

/-- The time of the run has come: it ended, or it took too long. -/
def answer? (s : Session) : Option Session :=
  match s.worker with
  | .running job call =>
    if call.timer ≤ s.workspace.now then
      match call.result? s.host with
      | none => some s.stop
      | some outcome =>
        some { s with workspace := call.release s.workspace, worker := .answered job outcome }
    else none
  | _ => none

/-- The reply to a request that was put in a phase by its outcome. -/
def replyOf (phase : Phase) (outcome : Except AgentError String) : Reply :=
  if phase = .cancelled then .error .cancelled else outcome.mapError .agent

/-- The worker takes the outcome into the conversation. -/
def route? (s : Session) : Option Session :=
  match s.worker with
  | .answered job outcome =>
    if s.isFree then
      let routed := route s.conversation job.id job.epoch outcome
      some { s with
        conversation := routed.conversation
        announced := routed.events.reverse ++ s.announced
        worker :=
          .settling job (endEvents job.id routed.phase) (replyOf routed.phase outcome) }
    else none
  | _ => none

/-- The worker announces the next event, or gives the reply when all are announced. -/
def settle? (s : Session) : Option Session :=
  match s.worker with
  | .settling job (e :: events) reply =>
    some { s.announce e with worker := .settling job events reply }
  | .settling job [] reply =>
    some { s with worker := .idle, replies := (job.id, reply) :: s.replies }
  | _ => none

/-- The time of a run past the queue has come, the first one among those picked out. -/
def directEnd? (s : Session) (picked : Nat → Bool) : Option Session :=
  match s.directs.find? fun d => picked d.1 && decide (d.2.timer ≤ s.workspace.now) with
  | none => none
  | some (id, call) =>
    some { s with
      workspace := call.release s.workspace
      directs := s.directs.filter fun d => d.1 ≠ id
      directReplies := ((call.result? s.host).map (id, ·)).toList ++ s.directReplies }

/-- The time of the first run past the queue whose time has come. -/
def directAnswer? (s : Session) : Option Session :=
  s.directEnd? fun _ => true

/-- The next step that is possible without time passing. -/
def next? (s : Session) : Option Session :=
  match s.worker with
  | .idle => s.take?.or s.directAnswer?
  | .taken _ => s.check?
  | .fresh _ => s.begin?
  | .running _ _ => (s.notice?.or s.answer?).or s.directAnswer?
  | .answered _ _ => s.route?.or s.directAnswer?
  | .settling _ _ _ => s.settle?
  | .stopped => s.directAnswer?

end AgentConsole.Session
