import AgentConsole.Proofs.Session.Step

/-!
# What each move does

`Transition` says for each move when it is possible and what the session is after it, where `Step`
forgets which move it was and what became of the workspace. `transition_of_move` says that nothing
else happens, and `move?_of_transition` that all of this can.
-/

namespace AgentConsole

open AgentConsole.Agent AgentConsole.Files

namespace Session

/-- A move takes a session to another. -/
inductive Transition (s : Session) : Move → Session → Prop
  | refuse {x : Submission} {e : SessionError} (ho : s.isOpen) (h : s.submit x = (s, .error e)) :
    Transition s (.submit x) s
  | accept {x : Submission} (ho : s.isOpen) (hc : s.isClosed = false)
      (h : (s.submit x).2 = .ok s.accepted) :
    Transition s (.submit x) { s with
      conversation := asked s.conversation x
      accepted := s.accepted + 1
      queue := s.queue ++ [s.jobOf x]
      deeds := acceptanceDeeds (asked s.conversation x) s.accepted x }
  | append (m : Message) (ho : s.isOpen) : Transition s (.append m) (s.append m)
  | setFile (a : Attachment) (ho : s.isOpen) : Transition s (.setFile a) (s.setFile a)
  | clear (ho : s.isOpen) : Transition s .clear s.clear
  | cancel (ho : s.isOpen) : Transition s .cancel s.cancel
  | drop (ho : s.isOpen) : Transition s .drop s.drop
  | direct (r : Request) (workspace : Workspace) (result : Except AgentError String)
      (h : s.host.start s.workspace r = (workspace, .done result)) :
    Transition s (.runDirectly r) { s with
      workspace
      directCount := s.directCount + 1
      directReplies := (s.directCount, result) :: s.directReplies }
  | directCall (r : Request) (workspace : Workspace) (call : Call)
      (h : s.host.start s.workspace r = (workspace, .called call)) :
    Transition s (.runDirectly r) { s with
      workspace
      directCount := s.directCount + 1
      directs := s.directs ++ [(s.directCount, call)] }
  | proceed {deed : Deed} {deeds : List Deed} (hd : s.deeds = deed :: deeds) :
    Transition s .proceed ({ s with deeds }.perform deed)
  | take {job : Job} {queue : List Job} (hw : s.worker = .idle) (hq : s.queue = job :: queue) :
    Transition s .take { s with worker := .taken job, queue }
  | pass {job : Job} (hw : s.worker = .taken job) (he : s.published = job.epoch) :
    Transition s .check { s with worker := .fresh job }
  | refrain {job : Job} (hw : s.worker = .taken job) (he : s.published ≠ job.epoch) :
    Transition s .check { s with worker := givingUp job }
  | start {job : Job} (workspace : Workspace) (result : Except AgentError String)
      (hw : s.worker = .fresh job)
      (h : s.host.start s.workspace job.request = (workspace, .done result)) :
    Transition s .start { s with workspace, worker := .answered job result }
  | call {job : Job} (workspace : Workspace) (call : Call) (hw : s.worker = .fresh job)
      (h : s.host.start s.workspace job.request = (workspace, .called call)) :
    Transition s .start { s with workspace, worker := .running job call }
  | notice {job : Job} (hw : s.worker.Runs job) (hp : s.isPast job) :
    Transition s .notice { s with workspace := s.released, worker := givingUp job }
  | answer {job : Job} {call : Call} {outcome : Except AgentError String}
      (hw : s.worker = .running job call) (ht : call.timer ≤ s.workspace.now)
      (hr : call.result? s.host = some outcome) :
    Transition s .answer
      { s with workspace := call.release s.workspace, worker := .answered job outcome }
  | panic {job : Job} {call : Call} (hw : s.worker = .running job call)
      (ht : call.timer ≤ s.workspace.now) (hr : call.result? s.host = none) :
    Transition s .answer s.stop
  | route {job : Job} {outcome : Except AgentError String} (hw : s.worker = .answered job outcome)
      (hf : s.isFree) {routed : Routed}
      (hr : Session.route s.conversation job.id job.epoch outcome = routed) :
    Transition s .route { s with
      conversation := routed.conversation
      announced := routed.events.reverse ++ s.announced
      worker := .settling job (endEvents job.id routed.phase) (replyOf routed.phase outcome) }
  | tell {job : Job} {e : Event} {events : List Event} {reply : Reply}
      (hw : s.worker = .settling job (e :: events) reply) :
    Transition s .settle { s.announce e with worker := .settling job events reply }
  | reply {job : Job} {reply : Reply} (hw : s.worker = .settling job [] reply) :
    Transition s .settle { s with worker := .idle, replies := (job.id, reply) :: s.replies }
  | stop (hd : s.dropped) : Transition s .stop s.stop
  | endDirect {id : Nat} {call : Call} (hm : (id, call) ∈ s.directs)
      (ht : call.timer ≤ s.workspace.now) :
    Transition s (.endDirect id) { s with
      workspace := call.release s.workspace
      directs := s.directs.filter fun d => d.1 ≠ id
      directReplies := ((call.result? s.host).map (id, ·)).toList ++ s.directReplies }
  | elapse (moment : Nat) : Transition s (.elapse moment) (s.elapse moment)
  | disturb (disk : Disk) :
    Transition s (.disturb disk) { s with workspace := { s.workspace with disk } }

/-- The move belongs to a run past the queue. -/
def Move.isDirect : Move → Bool
  | .runDirectly _ | .endDirect _ => true
  | .submit _ | .append _ | .setFile _ | .clear | .cancel | .drop | .proceed | .take | .check
  | .start | .notice | .answer | .route | .settle | .stop | .elapse _ | .disturb _ => false

variable {s t : Session} {m : Move} {notes : Log}

theorem now_released (s : Session) : s.released.now = s.workspace.now := by
  unfold released
  split <;> rfl

/-- What is asked is refused, and nothing changes, or it is accepted. -/
theorem submit_cases (s : Session) (x : Submission) :
    (∃ e, s.submit x = (s, .error e)) ∨ s.isClosed = false ∧ s.submit x = ({ s with
      conversation := asked s.conversation x
      accepted := s.accepted + 1
      queue := s.queue ++ [s.jobOf x]
      deeds := acceptanceDeeds (asked s.conversation x) s.accepted x }, .ok s.accepted) := by
  unfold submit
  split_ifs with hb hc
  · exact .inl ⟨_, rfl⟩
  · exact .inl ⟨_, rfl⟩
  · exact .inr ⟨by simpa using hc, rfl⟩

theorem transition_submit (ho : s.isOpen) (x : Submission) :
    Transition s (.submit x) (s.submitNoted x).1 := by
  unfold submitNoted
  rcases submit_cases s x with ⟨e, h⟩ | ⟨hc, h⟩
  · rw [h]
    exact .refuse ho h
  · rw [h]
    exact .accept ho hc (congrArg Prod.snd h)

theorem transition_runDirectly (s : Session) (r : Request) :
    Transition s (.runDirectly r) (s.runDirectly r).1 := by
  unfold runDirectly
  simp only []
  split
  · rename_i workspace result h
    exact .direct r workspace result h
  · rename_i workspace call h
    exact .directCall r workspace call h

theorem transition_proceed (h : s.proceed? = some t) : Transition s .proceed t := by
  unfold proceed? at h
  split at h
  · cases h
  · rename_i deed deeds hd
    cases h
    exact .proceed hd

theorem transition_take (h : s.take? = some t) : Transition s .take t := by
  unfold take? at h
  split at h
  · rename_i job queue hw hq
    cases h
    exact .take hw hq
  · cases h

theorem transition_check (h : s.check? = some t) : Transition s .check t := by
  unfold check? at h
  split at h
  · rename_i job hw
    cases h
    split_ifs with he
    · exact .refrain hw he
    · exact .pass hw (Decidable.not_not.1 he)
  · cases h

theorem transition_start (h : s.begin? = some t) : Transition s .start t := by
  unfold begin? at h
  split at h
  · rename_i job hw
    split at h <;> cases h
    · rename_i workspace result hs
      exact .start workspace result hw hs
    · rename_i workspace call hs
      exact .call workspace call hw hs
  · cases h

theorem transition_notice (h : s.notice? = some t) : Transition s .notice t := by
  unfold notice? at h
  split at h
  · rename_i job hw
    split_ifs at h with hp
    cases h
    exact .notice (.inl hw) hp
  · rename_i job call hw
    split_ifs at h with hp
    cases h
    exact .notice (.inr ⟨call, hw⟩) hp
  · cases h

theorem transition_answer (h : s.answer? = some t) : Transition s .answer t := by
  unfold answer? at h
  split at h
  · rename_i job call hw
    split_ifs at h with ht
    split at h <;> cases h
    · rename_i hr
      exact .panic hw ht hr
    · rename_i outcome hr
      exact .answer hw ht hr
  · cases h

theorem transition_route (h : s.route? = some t) : Transition s .route t := by
  unfold route? at h
  split at h
  · rename_i job outcome hw
    split_ifs at h with hf
    cases h
    exact .route hw hf rfl
  · cases h

theorem transition_settle (h : s.settle? = some t) : Transition s .settle t := by
  unfold settle? at h
  split at h
  · rename_i job e events reply hw
    cases h
    exact .tell hw
  · rename_i job reply hw
    cases h
    exact .reply hw
  · cases h

theorem transition_endDirect {id : Nat} (h : s.directEnd? (· == id) = some t) :
    Transition s (.endDirect id) t := by
  unfold directEnd? at h
  split at h
  · cases h
  · rename_i id' call hf
    have hp := List.find?_some hf
    simp only [Bool.and_eq_true, beq_iff_eq, decide_eq_true_eq] at hp
    obtain ⟨rfl, ht⟩ := hp
    cases h
    exact .endDirect (List.mem_of_find?_eq_some hf) ht

/-- A move does nothing but what `Transition` says. -/
theorem transition_of_move (h : s.move? m = some (t, notes)) : Transition s m t := by
  cases m with
  | submit x =>
    simp only [move?] at h
    split_ifs at h with ho
    have := transition_submit ho x
    rwa [Option.some.inj h] at this
  | append m | setFile a | clear | cancel | drop | runDirectly r | stop =>
    simp only [move?] at h
    split_ifs at h with hg
    cases h
    first
    | exact .append m hg
    | exact .setFile a hg
    | exact .clear hg
    | exact .cancel hg
    | exact .drop hg
    | exact transition_runDirectly s r
    | exact .stop hg
  | elapse moment =>
    cases h
    exact .elapse moment
  | disturb disk =>
    cases h
    exact .disturb disk
  | endDirect id =>
    obtain ⟨u, hu, h⟩ := Option.map_eq_some_iff.1 h
    cases h
    exact transition_endDirect hu
  | proceed | take | check | start | notice | answer | route | settle =>
    obtain ⟨u, hu, h⟩ := Option.map_eq_some_iff.1 h
    cases h
    first
    | exact transition_proceed hu
    | exact transition_take hu
    | exact transition_check hu
    | exact transition_start hu
    | exact transition_notice hu
    | exact transition_answer hu
    | exact transition_route hu
    | exact transition_settle hu

/-- Unless it belongs to a run past the queue, a move is possible as `Transition` says. -/
theorem move?_of_transition (h : Transition s m t) (hm : m.isDirect = false) :
    (s.move? m).map Prod.fst = some t := by
  cases h with
  | refuse ho hx => simp only [move?, if_pos ho, submitNoted, hx, Option.map_some]
  | @accept x ho hc hx =>
    rcases submit_cases s x with ⟨e, he⟩ | ⟨-, he⟩
    · rw [he] at hx
      cases hx
    · simp only [move?, if_pos ho, submitNoted, he, Option.map_some]
  | append m ho | setFile a ho | clear ho | cancel ho | drop ho | stop ho =>
    simp only [move?, if_pos ho, Option.map_some]
  | direct | directCall | endDirect => cases hm
  | proceed hd => simp only [move?, proceed?, hd, Option.map_some]
  | take hw hq => simp only [move?, take?, hw, hq, Option.map_some]
  | pass hw he =>
    simp only [move?, check?, hw, he, ne_eq, not_true, if_false, Option.map_some]
  | refrain hw he => simp only [move?, check?, hw, if_pos he, Option.map_some]
  | start workspace result hw hs | call workspace call hw hs =>
    simp only [move?, begin?, hw, hs, Option.map_some]
  | notice hw hp =>
    rcases hw with hw | ⟨call, hw⟩ <;> simp only [move?, notice?, hw, if_pos hp, Option.map_some]
  | answer hw ht hr | panic hw ht hr =>
    simp only [move?, answer?, hw, if_pos ht, hr, Option.map_some]
  | route hw hf hr =>
    subst hr
    simp only [move?, route?, hw, if_pos hf, Option.map_some]
  | tell hw | reply hw => simp only [move?, settle?, hw, Option.map_some]
  | elapse | disturb => rfl

end Session

end AgentConsole
