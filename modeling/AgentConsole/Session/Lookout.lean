/-!
# Looking out

How the worker looks out for a new epoch while it waits for an answer. It reads what is published;
if that is still the epoch of its request, it waits until something has been published after what it
read, and reads again. It need not look any more once it has read another epoch, or once nobody is
left who could publish one.
-/

namespace AgentConsole.Session

/-- What is published. -/
structure Board where
  epoch : UInt64
  /-- How often something was published. -/
  count : Nat
  /-- Nobody is left who could publish anything. -/
  isFinal : Bool

/-- How far somebody is who looks out. -/
inductive Lookout where
  /-- About to read. -/
  | reading
  /-- Waiting for something to be published, after so many times. -/
  | waiting (seen : Nat)
  | ended
  deriving DecidableEq

/-- Goes on looking out for another epoch than `own`, unless there is nothing to do but to wait. -/
def Lookout.look? (own : UInt64) (b : Board) : Lookout → Option Lookout
  | reading => some (if b.epoch ≠ own then ended else waiting b.count)
  | waiting seen =>
    if b.count ≠ seen then some reading
    else if b.isFinal then some ended
    else none
  | ended => none

end AgentConsole.Session
