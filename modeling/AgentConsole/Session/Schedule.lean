import AgentConsole.Session.Work

/-!
# Schedules

How far a session gets by itself. `settle` lets it work until nothing more happens without time
passing, and `waitFor` and `advance` let time pass, from one timer to the next. How many steps
that can be is known beforehand: `work` bounds the steps without time, and of the timers each ends
a run.
-/

namespace AgentConsole.Session

open AgentConsole.Agent

/-- How many steps the worker is from being idle, at most. -/
def Worker.work : Worker → Nat
  | idle | stopped => 0
  | settling _ events _ => events.length + 1
  | answered _ _ => 5
  | running _ _ => 6
  | fresh _ => 7
  | taken _ => 8

/-- How many steps are possible without time passing, at most. -/
def work (s : Session) : Nat :=
  s.worker.work + 9 * s.queue.length + s.directs.length

/-- Lets the session work for so many steps. -/
def settleFor : Nat → Session → Session
  | 0, s => s
  | steps + 1, s =>
    match s.next? with
    | none => s
    | some s => settleFor steps s

/-- Lets the session work until nothing more happens without time passing. -/
def settle (s : Session) : Session :=
  settleFor s.work s

/-- The runs under way. -/
def calls (s : Session) : List Call :=
  s.worker.call?.toList ++ s.directs.map (·.2)

/-- The earliest timer of the runs under way. -/
def nextTimer? (s : Session) : Option Nat :=
  (s.calls.map Call.timer).min?

/-- Lets time pass up to a moment. -/
def elapse (s : Session) (moment : Nat) : Session :=
  { s with workspace := { s.workspace with now := max s.workspace.now moment } }

/-- How many timers there can still be, at most. -/
def timers (s : Session) : Nat :=
  s.pending.length + s.directs.length

/-- Lets time pass from timer to timer, at most so many, until `enough` or up to the moment
`limit`. -/
def passTimers (enough : Session → Bool) (limit : Option Nat) : Nat → Session → Session
  | 0, s => s
  | count + 1, s =>
    if enough s then s
    else
      match s.nextTimer? with
      | none => s
      | some moment =>
        if limit.any (· < moment) then s
        else passTimers enough limit count (s.elapse moment).settle

/-- Lets the session work, and time pass, until there is a reply to the request. -/
def waitFor (s : Session) (id : Nat) : Session :=
  let s := s.settle
  passTimers (fun s => (s.reply? id).isSome) none s.timers s

/-- Lets the session work, and time pass, until a run past the queue has come to something. -/
def waitForDirect (s : Session) (id : Nat) : Session :=
  let s := s.settle
  passTimers (fun s => (s.directReply? id).isSome) none s.timers s

/-- Lets the session work while so many milliseconds pass. -/
def advance (s : Session) (milliseconds : Nat) : Session :=
  let s := s.settle
  let moment := s.workspace.now + milliseconds
  ((passTimers (fun _ => false) (some moment) s.timers s).elapse moment).settle

end AgentConsole.Session
