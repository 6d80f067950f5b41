import AgentConsole.Session.Schedule

/-!
# Runs of a session

A session goes on by moves: of whoever uses it, of whoever holds its conversation, of its worker, of
the runs past the queue, and of the world around them. The moves come in any order; each is possible
or not in the state it finds (`move?`). Of each move there may be something to note, and the notes
of a run, in order, are its log: what was said, loaded, accepted, cleared and cancelled, which
epochs were published, which runs the worker started and ended, which outcomes it took into the
conversation, and which replies it gave. What the worker does is noted by comparing the session
before and after it.
-/

namespace AgentConsole

open AgentConsole.Agent AgentConsole.Files

namespace Session

/-- What can happen to a session. -/
inductive Move where
  | submit (x : Submission)
  | append (m : Message)
  | setFile (a : Attachment)
  | clear
  | cancel
  | runDirectly (r : Request)
  | drop
  /-- The next deed is done. -/
  | proceed
  | take
  | check
  | start
  | notice
  | answer
  | route
  | settle
  /-- The worker of a dropped session is stopped. -/
  | stop
  | endDirect (id : Nat)
  | elapse (moment : Nat)
  /-- Something else changes the disk. -/
  | disturb (disk : Disk)

/-- What there is to note of a move. -/
inductive Note where
  | said (m : Message)
  | loaded (a : Attachment)
  | accepted (id : Nat) (x : Submission)
  | cleared
  | cancelled
  /-- All that was asked is given up, for everybody to see. -/
  | published (epoch : UInt64)
  | called (id : Nat) (call : Call)
  /-- The run of this request was answered, took too long, broke down or was given up. -/
  | ended (id : Nat)
  /-- The outcome of this request was added to the history. -/
  | routed (id : Nat) (m : Message)
  | replied (id : Nat) (reply : Reply)

/-- The notes of a run, in order. -/
abbrev Log := List Note

/-- What is noted of a deed. -/
def Deed.notes : Deed → Log
  | publish epoch => [.published epoch]
  | announce _ => []

/-- The run started or ended between two states of the worker. -/
def Worker.notes : Worker → Worker → Log
  | running _ _, running _ _ => []
  | running job _, _ => [.ended job.id]
  | _, running job call => [.called job.id call]
  | _, _ => []

/-- What the worker of a session did until it became another: runs, messages of the request it is
at, and replies. -/
def workNotes (s t : Session) : Log :=
  s.worker.notes t.worker ++
    (s.worker.job?.toList.flatMap fun job =>
      (t.conversation.history.drop s.conversation.history.length).map (Note.routed job.id)) ++
    ((t.replies.take (t.replies.length - s.replies.length)).reverse.map fun r =>
      Note.replied r.1 r.2)

/-- The session after something was asked, with a note of it if it was accepted. -/
def submitNoted (s : Session) (x : Submission) : Session × Log :=
  match s.submit x with
  | (t, .ok id) => (t, [.accepted id x])
  | (t, .error _) => (t, [])

/-- The session after a move, and what there is to note of it, if the move is possible. -/
def move? (s : Session) : Move → Option (Session × Log)
  | .submit x => if s.isOpen then some (s.submitNoted x) else none
  | .append m => if s.isOpen then some (s.append m, [.said m]) else none
  | .setFile a => if s.isOpen then some (s.setFile a, [.loaded a]) else none
  | .clear => if s.isOpen then some (s.clear, [.cleared]) else none
  | .cancel => if s.isOpen then some (s.cancel, [.cancelled]) else none
  | .runDirectly r => if s.dropped then none else some ((s.runDirectly r).1, [])
  | .drop => if s.isOpen then some (s.drop, []) else none
  | .proceed => s.proceed?.map fun t => (t, s.deeds.head?.toList.flatMap Deed.notes)
  | .take => s.take?.map fun t => (t, s.workNotes t)
  | .check => s.check?.map fun t => (t, s.workNotes t)
  | .start => s.begin?.map fun t => (t, s.workNotes t)
  | .notice => s.notice?.map fun t => (t, s.workNotes t)
  | .answer => s.answer?.map fun t => (t, s.workNotes t)
  | .route => s.route?.map fun t => (t, s.workNotes t)
  | .settle => s.settle?.map fun t => (t, s.workNotes t)
  | .stop => if s.dropped then some (s.stop, s.workNotes s.stop) else none
  | .endDirect id => (s.directEnd? (· == id)).map fun t => (t, [])
  | .elapse moment => some (s.elapse moment, [])
  | .disturb disk => some ({ s with workspace := { s.workspace with disk } }, [])

/-- The session after these moves, and the log of them, if all are possible. -/
def run? (s : Session) : List Move → Option (Session × Log)
  | [] => some (s, [])
  | m :: moves =>
    (s.move? m).bind fun (t, notes) => (t.run? moves).map fun (u, log) => (u, notes ++ log)

variable {s t : Session} {log : Log}

theorem run?_nil : s.run? [] = some (t, log) ↔ s = t ∧ log = [] := by
  simp [run?, eq_comm]

theorem run?_cons {m : Move} {moves : List Move} : s.run? (m :: moves) = some (t, log) ↔
    ∃ u notes rest, s.move? m = some (u, notes) ∧ u.run? moves = some (t, rest)
      ∧ log = notes ++ rest := by
  simp only [run?, Option.bind_eq_some_iff, Option.map_eq_some_iff, Prod.exists, Prod.mk.injEq]
  constructor
  · rintro ⟨u, notes, hm, u', rest, hr, rfl, rfl⟩
    exact ⟨u, notes, rest, hm, hr, rfl⟩
  · rintro ⟨u, notes, rest, hm, hr, rfl⟩
    exact ⟨u, notes, hm, t, rest, hr, rfl, rfl⟩

theorem run?_append {before after : List Move} : s.run? (before ++ after) = some (t, log) ↔
    ∃ u log₁ log₂, s.run? before = some (u, log₁) ∧ u.run? after = some (t, log₂)
      ∧ log = log₁ ++ log₂ := by
  induction before generalizing s log with
  | nil =>
    simp only [List.nil_append, run?_nil]
    constructor
    · intro h
      exact ⟨s, [], log, ⟨rfl, rfl⟩, h, rfl⟩
    · rintro ⟨u, log₁, log₂, ⟨rfl, rfl⟩, h, rfl⟩
      exact h
  | cons m before ih =>
    simp only [List.cons_append, run?_cons, ih]
    constructor
    · rintro ⟨u, notes, _, hm, ⟨v, log₁, log₂, h₁, h₂, rfl⟩, rfl⟩
      exact ⟨v, notes ++ log₁, log₂, ⟨u, notes, log₁, hm, h₁, rfl⟩, h₂, by simp⟩
    · rintro ⟨v, _, log₂, ⟨u, notes, log₁, hm, h₁, rfl⟩, h₂, rfl⟩
      exact ⟨u, notes, log₁ ++ log₂, hm, ⟨v, log₁, log₂, h₁, h₂, rfl⟩, by simp⟩

theorem run?_snoc {u : Session} {m : Move} {moves : List Move} {notes : Log}
    (h : s.run? moves = some (t, log)) (hm : t.move? m = some (u, notes)) :
    s.run? (moves ++ [m]) = some (u, log ++ notes) := by
  refine run?_append.2 ⟨t, log, notes, h, run?_cons.2 ⟨u, notes, [], hm, rfl, ?_⟩, rfl⟩
  exact (List.append_nil notes).symm

/-- What holds at first and is kept by every move holds after every run. -/
theorem run?_induct {P : Log → Session → Prop}
    (step : ∀ {log s m t notes}, P log s → s.move? m = some (t, notes) → P (log ++ notes) t) :
    ∀ {moves log₀ s t log}, P log₀ s → s.run? moves = some (t, log) → P (log₀ ++ log) t
  | [], log₀, s, t, log, h₀, h => by
    obtain ⟨rfl, rfl⟩ := run?_nil.1 h
    simpa using h₀
  | m :: moves, log₀, s, t, log, h₀, h => by
    obtain ⟨u, notes, rest, hm, hr, rfl⟩ := run?_cons.1 h
    rw [← List.append_assoc]
    exact run?_induct step (step h₀ hm) hr

/-- Whenever a note was made, this held of the notes before it. -/
def Always (P : Log → Note → Prop) (log : Log) : Prop :=
  ∀ before n after, log = before ++ n :: after → P before n

theorem always_nil (P : Log → Note → Prop) : Always P [] := by
  intro before n after h
  simp at h

theorem Always.append {P : Log → Note → Prop} {notes : Log} (hs : Always P log)
    (hn : ∀ before n after, notes = before ++ n :: after → P (log ++ before) n) :
    Always P (log ++ notes) := by
  intro before n after h
  rcases List.append_eq_append_iff.1 h with ⟨rest, rfl, hr⟩ | ⟨rest, rfl, hr⟩
  · exact hn rest n after hr
  · rcases rest with _ | ⟨n', rest⟩
    · have := hn [] n after hr.symm
      rwa [List.append_nil, List.append_nil] at this
    · obtain ⟨rfl, -⟩ := List.cons.inj hr
      exact hs before n rest rfl

/-- A host whose script answers at once. -/
def sampleHost : Host where
  settings :=
    { script := "/agent", interpreter := "sh", extraArguments := [], timeout := 1000, roots := []
      installDirectory := "/", requestDirectory := "/" }
  runner := fun _ _ disk => (disk, ⟨some 0, .exit ⟨"hi", "", 0⟩⟩)

/-- A workspace with its script. -/
def sampleWorkspace : Workspace :=
  .new ⟨[(["agent"], .file [] true)], []⟩

def sampleSubmission : Submission :=
  .code "go" none

/-- A host whose request files are reached by way of a directory that each run removes. -/
def detourHost : Host where
  settings := { sampleHost.settings with requestDirectory := "sub/../tmp" }
  runner := fun _ _ disk => (disk.erase ["sub"], ⟨some 0, .exit ⟨"hi", "", 0⟩⟩)

/-- What becomes of a request that is answered. -/
def sampleMoves : List Move :=
  [.proceed, .proceed, .proceed, .take, .check, .start, .answer, .route, .settle, .settle, .settle,
    .settle]

theorem eq_ok_of_toOption {ε α : Type} {o : Option (Except ε α)} {a : α}
    (h : o.bind Except.toOption = some a) : o = some (.ok a) := by
  rcases o with _ | e | b
  · cases h
  · cases h
  · rw [← Option.some.inj h]

theorem sample_run : ∃ s log, (new sampleHost sampleWorkspace).run?
    (.submit sampleSubmission :: sampleMoves) = some (s, log) ∧ s.reply? 0 = some (.ok "hi") := by
  have h : ((new sampleHost sampleWorkspace).run? (.submit sampleSubmission :: sampleMoves)).map
      (fun p => (p.1.reply? 0).bind Except.toOption) = some (some "hi") := by decide +kernel
  obtain ⟨⟨s, log⟩, hs, hr⟩ := Option.map_eq_some_iff.1 h
  exact ⟨s, log, hs, eq_ok_of_toOption hr⟩

end Session

end AgentConsole
