import AgentConsole.Agent.Outcome
import AgentConsole.Session.Conversation
import AgentConsole.Session.Event

/-!
# Routing

What an outcome does to a conversation. An outcome of an earlier epoch does nothing.
-/

namespace AgentConsole.Session

open AgentConsole.Agent

/-- What is said of an outcome, whether it is an error, and the phase it puts the request in. -/
def told (outcome : Except AgentError String) : String × Bool × Phase :=
  match outcome with
  | .ok text => (text, false, .completed)
  | .error e => ("Error: " ++ e.message, true, if e.isTimeout then .timedOut else .failed)

/-- A conversation after an outcome, the phase of its request, and what is announced. -/
structure Routed where
  conversation : Conversation
  phase : Phase
  events : List Event
  deriving DecidableEq, Repr

/-- Takes an outcome into the conversation, if the request is of its epoch. -/
def route (c : Conversation) (id : Nat) (epoch : UInt64) (outcome : Except AgentError String) :
    Routed :=
  if c.epoch ≠ epoch then ⟨c, .cancelled, []⟩
  else
    let (text, isError, phase) := told outcome
    let c := c.push ⟨.agent, text⟩
    ⟨c, phase, [.response id text isError, .updated c.history.length]⟩

end AgentConsole.Session
