import AgentConsole.Attachment

/-!
# Events

What a session announces. Requests are named by the number of their acceptance.
-/

namespace AgentConsole.Session

/-- How far a request has come. -/
inductive Phase where
  | idle
  | dispatched
  | completed
  | failed
  | timedOut
  | cancelled
  deriving DecidableEq, Repr

namespace Phase

/-- The phase as it is written. -/
def name : Phase → String
  | idle => "idle"
  | dispatched => "dispatched"
  | completed => "completed"
  | failed => "failed"
  | timedOut => "timed_out"
  | cancelled => "cancelled"

/-- The request is settled. -/
def isTerminal : Phase → Bool
  | idle | dispatched => false
  | completed | failed | timedOut | cancelled => true

end Phase

/-- An announcement. -/
inductive Event where
  /-- The history has this many messages now. -/
  | updated (count : Nat)
  /-- This is the current file now. -/
  | file (file : Option Attachment)
  | loading (id : Nat) (isLoading : Bool)
  | response (id : Nat) (text : String) (isError : Bool)
  | phase (id : Nat) (phase : Phase)
  deriving DecidableEq, Repr

/-- What a subscriber reads of the events it has not seen, when so many are kept for it: how many
it missed, and the others. -/
def received (capacity : Nat) (unseen : List Event) : Nat × List Event :=
  (unseen.length - capacity, unseen.drop (unseen.length - capacity))

/-- The least power of two that is not below `n`, among the first so many. -/
def powerFrom (n : Nat) : Nat → Nat → Nat
  | 0, p => p
  | tries + 1, p => if n ≤ p then p else powerFrom n tries (2 * p)

/-- How many events a channel asked to keep `n` keeps: the least power of two not below. -/
def channelCapacity (n : Nat) : Nat :=
  powerFrom n n 1

end AgentConsole.Session
