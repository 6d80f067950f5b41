import AgentConsole.Proofs.Session.Run
import Mathlib.Tactic.SplitIfs

/-!
# What a move can do

`Step` lists all that a move can do to a session, each with the state it needs, the session after it
and its notes; `step_of_move` says that nothing else happens. The steps that neither decide a
request nor touch the conversation are the chores (`Chore`); those of them that only change the
workspace are quiet.
-/

namespace AgentConsole

open AgentConsole.Agent

namespace Session

variable {s t : Session} {notes : Log}

/-- The request a submission makes, if it is accepted now. -/
def jobOf (s : Session) (x : Submission) : Job :=
  ⟨s.accepted, x.request s.conversation.file, s.conversation.epoch⟩

/-- What is said of an outcome. -/
def answerMessage (outcome : Except AgentError String) : Message :=
  ⟨.agent, (told outcome).1⟩

/-- The worker is about to run this request, or runs it. -/
def Worker.Runs (w : Worker) (job : Job) : Prop :=
  w = .fresh job ∨ ∃ call, w = .running job call

/-- What is done without deciding a request and without the conversation: by the worker on its way,
by the runs past the queue and by the world. -/
inductive Chore (s : Session) : Session → Log → Prop
  | quiet (workspace : Workspace) (directCount : Nat) (directs : List (Nat × Call))
      (directReplies : List (Nat × Except AgentError String)) :
    Chore s { s with workspace, directCount, directs, directReplies } []
  | take {job : Job} {queue : List Job} (hw : s.worker = .idle) (hq : s.queue = job :: queue) :
    Chore s { s with worker := .taken job, queue } []
  | pass {job : Job} (hw : s.worker = .taken job) (he : s.published = job.epoch) :
    Chore s { s with worker := .fresh job } []
  | call {job : Job} (workspace : Workspace) (call : Call) (hw : s.worker = .fresh job)
      (hc : s.host.start s.workspace job.request = (workspace, .called call)) :
    Chore s { s with workspace, worker := .running job call } [.called job.id call]
  | answer {job : Job} (workspace : Workspace) (outcome : Except AgentError String)
      (hw : s.worker.Runs job) :
    Chore s { s with workspace, worker := .answered job outcome } (s.worker.notes .idle)
  | tell {job : Job} {e : Event} {events : List Event} {reply : Reply}
      (hw : s.worker = .settling job (e :: events) reply) :
    Chore s { s with announced := e :: s.announced, worker := .settling job events reply } []
  | reply {job : Job} {reply : Reply} (hw : s.worker = .settling job [] reply) :
    Chore s { s with worker := .idle, replies := (job.id, reply) :: s.replies }
      [.replied job.id reply]

/-- What a move does to a session, and what is noted of it. -/
inductive Step (s : Session) : Session → Log → Prop
  | chore {t : Session} {notes : Log} (h : Chore s t notes) : Step s t notes
  | accept (x : Submission) (ho : s.isOpen) (hc : s.isClosed = false) :
    Step s { s with
      conversation := asked s.conversation x
      accepted := s.accepted + 1
      queue := s.queue ++ [s.jobOf x]
      deeds := acceptanceDeeds (asked s.conversation x) s.accepted x } [.accepted s.accepted x]
  | append (m : Message) (ho : s.isOpen) : Step s (s.append m) [.said m]
  | setFile (a : Attachment) (ho : s.isOpen) : Step s (s.setFile a) [.loaded a]
  | clear (ho : s.isOpen) : Step s s.clear [.cleared]
  | cancel (ho : s.isOpen) : Step s s.cancel [.cancelled]
  | drop (ho : s.isOpen) : Step s s.drop []
  | publish {epoch : UInt64} {deeds : List Deed} (hd : s.deeds = .publish epoch :: deeds) :
    Step s { s with deeds, published := epoch } [.published epoch]
  | announce {e : Event} {deeds : List Deed} (hd : s.deeds = .announce e :: deeds) :
    Step s { s with deeds, announced := e :: s.announced } []
  | giveUp {job : Job} (workspace : Workspace) (hw : s.worker = .taken job ∨ s.worker.Runs job)
      (hp : s.isPast job) :
    Step s { s with workspace, worker := givingUp job } (s.worker.notes .idle)
  | discard {job : Job} {outcome : Except AgentError String}
      (hw : s.worker = .answered job outcome) (hf : s.isFree)
      (he : s.conversation.epoch ≠ job.epoch) : Step s { s with worker := givingUp job } []
  | route {job : Job} {outcome : Except AgentError String}
      (hw : s.worker = .answered job outcome) (hf : s.isFree)
      (he : s.conversation.epoch = job.epoch) :
    Step s { s with
      conversation := s.conversation.push (answerMessage outcome)
      announced := .updated (s.conversation.push (answerMessage outcome)).history.length ::
        .response job.id (told outcome).1 (told outcome).2.1 :: s.announced
      worker := .settling job (endEvents job.id (told outcome).2.2) (outcome.mapError .agent) }
      [.routed job.id (answerMessage outcome)]
  | stop (hs : s.dropped ∨ ∃ job call, s.worker = .running job call ∧ call.result? s.host = none) :
    Step s s.stop
      (s.worker.notes .idle ++ s.pending.map fun job => .replied job.id (.error .closed))

/-- A chore leaves alone all but the worker, what it announced and the workspace. -/
theorem Chore.frame (h : Chore s t notes) :
    t.accepted = s.accepted ∧ t.deeds = s.deeds ∧ t.published = s.published
      ∧ t.conversation = s.conversation ∧ t.dropped = s.dropped := by
  cases h <;> exact ⟨rfl, rfl, rfl, rfl, rfl⟩

theorem told_phase_ne (outcome : Except AgentError String) :
    (told outcome).2.2 ≠ .cancelled := by
  rcases outcome with e | text
  · cases h : e.isTimeout <;> simp [told, h]
  · simp [told]

/-- An outcome that is taken in is the reply. -/
theorem replyOf_told (outcome : Except AgentError String) :
    replyOf (told outcome).2.2 outcome = outcome.mapError .agent :=
  if_neg (told_phase_ne outcome)

/-- When neither messages nor replies are added, only runs are noted. -/
theorem workNotes_with (s : Session) (workspace : Workspace) (queue : List Job) (worker : Worker)
    (announced : List Event) :
    s.workNotes { s with workspace, queue, worker, announced } = s.worker.notes worker := by
  simp [workNotes]

theorem workNotes_stop (s : Session) : s.workNotes s.stop =
    s.worker.notes .idle ++ s.pending.map fun job => .replied job.id (.error .closed) := by
  have hn : s.worker.notes .stopped = s.worker.notes .idle := by cases s.worker <;> rfl
  simp [workNotes, stop, hn, Function.comp_def]

theorem step_submit (ho : s.isOpen) (x : Submission) :
    Step s (s.submitNoted x).1 (s.submitNoted x).2 := by
  unfold submitNoted submit
  split_ifs with hb hc
  · exact .chore (.quiet s.workspace s.directCount s.directs s.directReplies)
  · exact .chore (.quiet s.workspace s.directCount s.directs s.directReplies)
  · exact .accept x ho (by simpa using hc)

theorem step_runDirectly (s : Session) (r : Request) : Step s (s.runDirectly r).1 [] := by
  unfold runDirectly
  simp only []
  split <;> exact .chore (.quiet _ _ _ _)

theorem step_proceed (h : s.proceed? = some t) :
    Step s t (s.deeds.head?.toList.flatMap Deed.notes) := by
  unfold proceed? at h
  split at h
  · cases h
  · rename_i deed deeds hd
    rw [hd]
    cases deed <;> cases h
    · exact .publish hd
    · exact .announce hd

theorem step_take (h : s.take? = some t) : Step s t (s.workNotes t) := by
  unfold take? at h
  split at h
  · rename_i job queue hw hq
    cases h
    rw [workNotes_with, hw]
    exact .chore (.take hw hq)
  · cases h

theorem step_check (h : s.check? = some t) : Step s t (s.workNotes t) := by
  unfold check? at h
  split at h
  · rename_i job hw
    cases h
    rw [workNotes_with, hw]
    by_cases he : s.published ≠ job.epoch
    · rw [if_pos he]
      have := Step.giveUp s.workspace (.inl hw) (by simp [isPast, he])
      rwa [hw] at this
    · rw [if_neg he]
      exact .chore (.pass hw (Decidable.not_not.1 he))
  · cases h

theorem step_start (h : s.begin? = some t) : Step s t (s.workNotes t) := by
  unfold begin? at h
  split at h
  · rename_i job hw
    split at h <;> cases h <;> rw [workNotes_with]
    · rename_i outcome _
      have := Step.chore (.answer (s.host.start s.workspace job.request).1 outcome (.inl hw))
      simp_all [Worker.notes]
    · rename_i workspace call hc
      have := Step.chore (.call workspace call hw hc)
      rwa [hw]
  · cases h

theorem step_notice (h : s.notice? = some t) : Step s t (s.workNotes t) := by
  unfold notice? at h
  split at h
  · rename_i job hw
    split_ifs at h with hp
    cases h
    rw [workNotes_with, hw]
    have := Step.giveUp s.released (.inr (.inl hw)) hp
    rwa [hw] at this
  · rename_i job call hw
    split_ifs at h with hp
    cases h
    rw [workNotes_with, hw]
    have := Step.giveUp s.released (.inr (.inr ⟨call, hw⟩)) hp
    rwa [hw] at this
  · cases h

theorem step_answer (h : s.answer? = some t) : Step s t (s.workNotes t) := by
  unfold answer? at h
  split at h
  · rename_i job call hw
    split_ifs at h
    split at h <;> cases h
    · rename_i hr
      rw [workNotes_stop]
      exact .stop (.inr ⟨job, call, hw, hr⟩)
    · rename_i outcome _
      rw [workNotes_with, hw]
      have := Step.chore (.answer (call.release s.workspace) outcome (.inr ⟨call, hw⟩))
      rwa [hw] at this
  · cases h

theorem step_route (h : s.route? = some t) : Step s t (s.workNotes t) := by
  unfold route? at h
  split at h
  · rename_i job outcome hw
    split_ifs at h with hf
    by_cases he : s.conversation.epoch = job.epoch
    · have hr := replyOf_told outcome
      cases h
      have := Step.route hw hf he
      simp_all [workNotes, Worker.notes, Worker.job?, Session.route, answerMessage,
        Conversation.push]
    · cases h
      have := Step.discard hw hf he
      simp_all [workNotes, Worker.notes, Worker.job?, Session.route, replyOf, givingUp]
  · cases h

theorem step_settle (h : s.settle? = some t) : Step s t (s.workNotes t) := by
  unfold settle? at h
  split at h
  · rename_i job e events reply hw
    cases h
    simp only [announce]
    rw [workNotes_with, hw]
    exact .chore (.tell hw)
  · rename_i job reply hw
    cases h
    have := Step.chore (.reply hw)
    simp_all [workNotes, Worker.notes, Worker.job?]
  · cases h

theorem step_endDirect {picked : Nat → Bool} (h : s.directEnd? picked = some t) : Step s t [] := by
  unfold directEnd? at h
  split at h <;> cases h
  exact .chore (.quiet _ _ _ _)

/-- A move does nothing but what `Step` lists. -/
theorem step_of_move {m : Move} (h : s.move? m = some (t, notes)) : Step s t notes := by
  cases m with
  | submit x =>
    simp only [move?] at h
    split_ifs at h with ho
    have := step_submit ho x
    rwa [Option.some.inj h] at this
  | append m | setFile a | clear | cancel | drop =>
    simp only [move?] at h
    split_ifs at h with ho
    cases h
    first
    | exact .append m ho
    | exact .setFile a ho
    | exact .clear ho
    | exact .cancel ho
    | exact .drop ho
  | runDirectly r =>
    simp only [move?] at h
    split_ifs at h
    cases h
    exact step_runDirectly s r
  | stop =>
    simp only [move?] at h
    split_ifs at h with hd
    cases h
    rw [workNotes_stop]
    exact .stop (.inl hd)
  | elapse moment | disturb disk =>
    cases h
    exact .chore (.quiet _ _ _ _)
  | proceed =>
    obtain ⟨u, hu, h⟩ := Option.map_eq_some_iff.1 h
    cases h
    exact step_proceed hu
  | endDirect id =>
    obtain ⟨u, hu, h⟩ := Option.map_eq_some_iff.1 h
    cases h
    exact step_endDirect hu
  | take | check | start | notice | answer | route | settle =>
    obtain ⟨u, hu, h⟩ := Option.map_eq_some_iff.1 h
    cases h
    first
    | exact step_take hu
    | exact step_check hu
    | exact step_start hu
    | exact step_notice hu
    | exact step_answer hu
    | exact step_route hu
    | exact step_settle hu

theorem host_step (h : Step s t notes) : t.host = s.host := by
  cases h with
  | chore h => cases h <;> rfl
  | _ => rfl

end Session

end AgentConsole
