import AgentConsole.Proofs.Agent.Ending
import AgentConsole.Proofs.Session.Budget
import AgentConsole.Proofs.Session.Cancellation
import AgentConsole.Proofs.Session.Flight
import AgentConsole.Proofs.Session.Rest

/-!
# When requests are settled

Where time passes only when nothing else happens, and from timer to timer (`Paced`), no timer is
missed. A request that is neither given up nor cut off is then settled at the very time at which its
run was answered or took too long (`Timely`). Whoever waits for a request lets time pass so
(`pacedTo_waitFor`), and does not wait longer than for a timeout for each request up to that one
(`settled_within_budget`).
-/

namespace AgentConsole

open AgentConsole.Agent

namespace Session

/-- Time passes only when the session is settled, and past no timer. -/
def Paced (s : Session) : List Move → Prop
  | [] => True
  | m :: moves =>
    (∀ moment, m = .elapse moment → s.Settled ∧ ∀ call ∈ s.calls, moment ≤ call.timer) ∧
      ∀ t notes, s.move? m = some (t, notes) → t.Paced moves

/-- The notes of a run, each with the time at which it was made. -/
def timeline (s : Session) : List Move → List (Nat × Note)
  | [] => []
  | m :: moves =>
    match s.move? m with
    | none => []
    | some (t, notes) => notes.map (s.workspace.now, ·) ++ t.timeline moves

/-- The reply tells that the request was given up or cut off, or what its run came to when its time
came. -/
def Ends (host : Host) (call : Call) (moment : Nat) (reply : Reply) : Prop :=
  reply = .error .cancelled ∨ reply = .error .closed ∨
    moment = call.timer ∧ ∃ outcome, call.result? host = some outcome ∧
      reply = outcome.mapError .agent

/-- How far the worker is with the run of the request it is at. -/
def Worker.Follows (host : Host) (now : Nat) (call : Call) : Worker → Prop
  | idle | stopped => True
  | taken _ | fresh _ => False
  | running _ call' => call' = call
  | answered _ outcome => now = call.timer ∧ call.result? host = some outcome
  | settling _ _ reply => Ends host call now reply

/-- Up to now every run was answered, or given up, before its time was over. -/
structure Timely (tl : List (Nat × Note)) (s : Session) : Prop where
  called : ∀ c id call, (c, Note.called id call) ∈ tl →
    call.deadline = c + s.host.settings.timeout ∧ call.due = call.answer.delay.map (c + ·)
  waiting : ∀ call, s.worker.call? = some call → s.workspace.now ≤ call.timer
  worker : ∀ job c call, s.worker.job? = some job → (c, Note.called job.id call) ∈ tl →
    s.worker.Follows s.host s.workspace.now call
  replied : ∀ u id reply c call, (u, Note.replied id reply) ∈ tl →
    (c, Note.called id call) ∈ tl → Ends s.host call u reply

variable {host : Host} {workspace : Workspace} {s t u : Session} {m : Move} {moves : List Move}
variable {notes log : Log} {tl : List (Nat × Note)} {id c : Nat} {call : Call} {job : Job}
variable {reply : Reply}

section Timelines

/-- The notes of the timeline are the log. -/
theorem map_timeline (h : s.run? moves = some (t, log)) : (s.timeline moves).map Prod.snd = log := by
  induction moves generalizing s log with
  | nil =>
    obtain ⟨-, rfl⟩ := run?_nil.1 h
    rfl
  | cons m moves ih =>
    obtain ⟨u, notes, rest, hu, hr, rfl⟩ := run?_cons.1 h
    simp [timeline, hu, ih hr, Function.comp_def]

theorem paced_append {before after : List Move} (hb : s.Paced before)
    (ha : ∀ u log, s.run? before = some (u, log) → u.Paced after) : s.Paced (before ++ after) := by
  induction before generalizing s with
  | nil => exact ha s [] rfl
  | cons m before ih =>
    refine ⟨hb.1, fun u notes hu => ih (hb.2 u notes hu) fun v log hv => ?_⟩
    exact ha v (notes ++ log) (run?_cons.2 ⟨u, notes, log, hu, hv, rfl⟩)

/-- Where no time passes, none passes too early. -/
theorem paced_of_forall (h : ∀ m ∈ moves, ∀ moment, m ≠ .elapse moment) : s.Paced moves := by
  induction moves generalizing s with
  | nil => trivial
  | cons m moves ih =>
    refine ⟨fun moment he => absurd he (h m List.mem_cons_self moment), fun t notes _ => ?_⟩
    exact ih fun m' hm' => h m' (List.mem_cons_of_mem _ hm')

end Timelines

section Notes

/-- A run is called by a worker that is about to begin the request. -/
theorem fresh_of_called (h : Step s t notes) (hn : Note.called id call ∈ notes) :
    ∃ job, s.worker = .fresh job ∧ job.id = id ∧ t.worker = .running job call ∧
      call.deadline = s.workspace.now + s.host.settings.timeout ∧
      call.due = call.answer.delay.map (s.workspace.now + ·) := by
  have hnot (w : Worker) : Note.called id call ∉ w.notes .idle := by
    rw [Worker.notes_idle]
    simp
  cases h with
  | chore h =>
    cases h with
    | @call job workspace call' hw hs =>
      obtain ⟨rfl, rfl⟩ : id = job.id ∧ call = call' := by simpa using hn
      exact ⟨job, hw, rfl, rfl, deadline_of_start hs⟩
    | answer => exact absurd hn (hnot _)
    | _ => simp at hn
  | giveUp => exact absurd hn (hnot _)
  | stop =>
    rcases List.mem_append.1 hn with hn | hn
    · exact absurd hn (hnot _)
    · simp at hn
  | _ => simp at hn

/-- A reply is given by a worker that has announced all there is, or when it is gone. -/
theorem settling_of_replied (h : Step s t notes) (hn : Note.replied id reply ∈ notes) :
    reply = .error .closed ∨ ∃ job, s.worker = .settling job [] reply ∧ job.id = id := by
  have hnot (w : Worker) : Note.replied id reply ∉ w.notes .idle := by
    rw [Worker.notes_idle]
    simp
  cases h with
  | chore h =>
    cases h with
    | @reply job reply' hw =>
      obtain ⟨rfl, rfl⟩ : id = job.id ∧ reply = reply' := by simpa using hn
      exact .inr ⟨job, hw, rfl⟩
    | answer => exact absurd hn (hnot _)
    | _ => simp at hn
  | giveUp => exact absurd hn (hnot _)
  | stop =>
    rcases List.mem_append.1 hn with hn | hn
    · exact absurd hn (hnot _)
    · obtain ⟨job, -, hj⟩ := List.mem_map.1 hn
      cases hj
      exact .inl rfl
  | _ => simp at hn

/-- No run was called for a request that the worker takes up. -/
theorem Flight.not_called (ho : Orderly s) (hs : Flight log s) (hw : s.worker = .idle)
    {queue : List Job} (hq : s.queue = job :: queue) : .called job.id call ∉ log := by
  intro hmem
  have hlt := hs.called.2 job.id (List.mem_filterMap.2 ⟨_, hmem, rfl⟩)
  have hu : s.undecided = job :: queue := by simp [undecided, hw, hq, Worker.undecided?]
  have hid := ho.next hu
  simp [started, hw, Worker.isBegun] at hlt
  omega

end Notes

section Keeping

theorem now_le_timer {now timeout : Nat} {answer : Answer} (hd : call.deadline = now + timeout)
    (hdue : call.due = answer.delay.map (now + ·)) : now ≤ call.timer := by
  unfold Call.timer Call.answersAt?
  rw [hdue, hd]
  cases answer.delay with
  | none => exact Nat.le_add_right _ _
  | some delay => by_cases hle : delay ≤ timeout <;> simp [Option.filter, hle]

theorem timely_new (host : Host) (workspace : Workspace) : Timely [] (.new host workspace) where
  called _ _ _ h := by cases h
  waiting _ h := by cases h
  worker _ _ _ h := by cases h
  replied _ _ _ _ _ h := by cases h

theorem Settled.still (hs : s.Settled) (hj : s.worker.job? = some job) :
    ∃ call, s.worker = .running job call := by
  rcases hs.cases with ⟨hw, -⟩ | ⟨job', call, hw⟩ | hw
  · simp [hw, Worker.job?] at hj
  · rw [hw] at hj
    cases hj
    exact ⟨call, hw⟩
  · simp [hw, Worker.job?] at hj

/-- Time that passes from timer to timer misses none. -/
theorem Timely.elapse {moment : Nat} (hs : Timely tl s) (hset : s.Settled)
    (hle : ∀ call ∈ s.calls, moment ≤ call.timer) : Timely tl (s.elapse moment) where
  called := hs.called
  waiting call hc := by
    have hmem : call ∈ s.calls := List.mem_append_left _ (Option.mem_toList.2 hc)
    exact Nat.max_le.2 ⟨hs.waiting call hc, hle call hmem⟩
  worker job c call hj hmem := by
    -- A settled worker waits, and what it waits for is not a matter of time.
    obtain ⟨call', hw⟩ := hset.still hj
    have hfollows := hs.worker job c call hj hmem
    have hw' : (s.elapse moment).worker = .running job call' := hw
    rw [hw] at hfollows
    rw [hw']
    exact hfollows
  replied := hs.replied

/-- Of the runs called before, a move tells no more than is known of them. -/
theorem Timely.of_move (ho : Orderly s) (hf : Flight (tl.map Prod.snd) s) (hs : Timely tl s)
    (hpace : ∀ moment, m = .elapse moment → s.Settled ∧ ∀ call ∈ s.calls, moment ≤ call.timer)
    (h : s.move? m = some (t, notes)) : Timely tl t := by
  have hhost : t.host = s.host := host_step (step_of_move h)
  have hsame (hw : t.worker = s.worker) (hn : t.workspace.now = s.workspace.now) : Timely tl t :=
    ⟨hhost ▸ hs.called, by rw [hw, hn]; exact hs.waiting, by rw [hw, hn, hhost]; exact hs.worker,
      by rw [hhost]; exact hs.replied⟩
  have hother (hc : t.worker.call? = none) (hw : ∀ job c call, t.worker.job? = some job →
      (c, Note.called job.id call) ∈ tl → t.worker.Follows s.host t.workspace.now call) :
      Timely tl t :=
    ⟨hhost ▸ hs.called, fun call h => by simp [hc] at h, by rw [hhost]; exact hw,
      by rw [hhost]; exact hs.replied⟩
  have hworker := hs.worker
  cases transition_of_move h with
  | @proceed deed => cases deed <;> exact hsame rfl rfl
  | refuse | accept | append | setFile | clear | cancel | drop | endDirect | disturb =>
    exact hsame rfl rfl
  | direct r workspace result hstart | directCall r workspace call hstart =>
    exact hsame rfl (now_of_start hstart)
  | elapse moment =>
    obtain ⟨hset, hle⟩ := hpace moment rfl
    exact hs.elapse hset hle
  | @take job queue hw hq =>
    refine hother rfl fun job' c call hj hmem => ?_
    cases hj
    exact hf.not_called ho hw hq (List.mem_map.2 ⟨_, hmem, rfl⟩)
  | @pass job hw | @refrain job hw | @start job _ _ hw =>
    refine hother rfl fun job' c call hj hmem => ?_
    cases hj
    have hfalse := hworker job c call (by rw [hw]; rfl) hmem
    rw [hw] at hfalse
    exact hfalse.elim
  | @call job workspace call hw hstart =>
    obtain ⟨hdeadline, hdue⟩ := deadline_of_start hstart
    refine ⟨hs.called, fun call' hc => ?_, fun job' c call' hj hmem => ?_, hs.replied⟩
    · cases hc
      rw [show workspace.now = _ from now_of_start hstart]
      exact now_le_timer hdeadline hdue
    · cases hj
      have hfalse := hworker job c call' (by rw [hw]; rfl) hmem
      rw [hw] at hfalse
      exact hfalse.elim
  | notice hw => exact hother rfl fun _ _ _ _ _ => .inl rfl
  | @answer job call outcome hw ht hr =>
    refine hother rfl fun job' c call' hj hmem => ?_
    cases hj
    have hcall := hworker job c call' (by rw [hw]; rfl) hmem
    rw [hw] at hcall
    obtain rfl : call = call' := hcall
    have hle := hs.waiting call (by rw [hw]; rfl)
    exact ⟨Nat.le_antisymm hle ht, hr⟩
  | panic | stop => exact hother rfl fun _ _ _ hj => by cases hj
  | @route job outcome hw hfree routed hr =>
    refine hother rfl fun job' c call hj hmem => ?_
    cases hj
    have hanswer := hworker job c call (by rw [hw]; rfl) hmem
    rw [hw] at hanswer
    change Ends s.host call s.workspace.now (replyOf routed.phase outcome)
    unfold replyOf
    split
    · exact .inl rfl
    · exact .inr (.inr ⟨hanswer.1, outcome, hanswer.2, rfl⟩)
  | @tell job e events reply hw =>
    refine hother rfl fun job' c call hj hmem => ?_
    cases hj
    have hends := hworker job c call (by rw [hw]; rfl) hmem
    rwa [hw] at hends
  | reply hw => exact hother rfl fun _ _ _ hj => by cases hj

/-- What a move notes fits in with what is known of the runs. -/
theorem Timely.step (hsound : Sound (tl.map Prod.snd) s) (hf : Flight (tl.map Prod.snd) s)
    (hs : Timely tl s)
    (hpace : ∀ moment, m = .elapse moment → s.Settled ∧ ∀ call ∈ s.calls, moment ≤ call.timer)
    (h : s.move? m = some (t, notes)) : Timely (tl ++ notes.map (s.workspace.now, ·)) t := by
  have ho := hsound.orderly
  have hstep := step_of_move h
  have hhost : t.host = s.host := host_step hstep
  obtain ⟨hcalled, hwaiting, hworker, hreplied⟩ := hs.of_move ho hf hpace h
  have hnew {c : Nat} {n : Note} (hn : (c, n) ∈ tl ++ notes.map (s.workspace.now, ·)) :
      (c, n) ∈ tl ∨ c = s.workspace.now ∧ n ∈ notes := by
    simpa [eq_comm, and_comm] using hn
  refine ⟨fun c id call hn => ?_, hwaiting, fun job c call hj hn => ?_,
    fun u id reply c call hr hc => ?_⟩
  · rcases hnew hn with hold | ⟨rfl, hn'⟩
    · exact hcalled c id call hold
    · obtain ⟨job, -, -, -, hdeadline, hdue⟩ := fresh_of_called hstep hn'
      exact ⟨hhost ▸ hdeadline, hdue⟩
  · rcases hnew hn with hold | ⟨rfl, hn'⟩
    · exact hworker job c call hj hold
    · obtain ⟨job', -, -, hw, -⟩ := fresh_of_called hstep hn'
      rw [hw]
      exact rfl
  · rcases hnew hr with hr' | ⟨rfl, hr'⟩ <;> rcases hnew hc with hc' | ⟨rfl, hc'⟩
    · exact hreplied u id reply c call hr' hc'
    · -- A request that has its reply is not begun again.
      obtain ⟨job, hw, rfl, -⟩ := fresh_of_called hstep hc'
      have hmem : (job.id, reply) ∈ s.replies := by
        rw [hsound.logged.replies, List.mem_reverse, List.mem_filterMap]
        exact ⟨_, List.mem_map.2 ⟨_, hr', rfl⟩, rfl⟩
      have hlt := ho.lt (mem_decided_of_mem_replies hmem) (mem_undecided (by rw [hw]; rfl))
      exact absurd hlt (Nat.lt_irrefl _)
    · rcases settling_of_replied hstep hr' with rfl | ⟨job, hw, rfl⟩
      · exact .inr (.inl rfl)
      · have hends := hs.worker job c call (by rw [hw]; rfl) hc'
        rw [hw] at hends
        exact hhost ▸ hends
    · rcases settling_of_replied hstep hr' with rfl | ⟨job, hw, rfl⟩
      · exact .inr (.inl rfl)
      · obtain ⟨job', hw', -⟩ := fresh_of_called hstep hc'
        cases hw.symm.trans hw'

/-- Of every run of a paced session it is known how far it is. -/
theorem timely_of_run (hp : (new host workspace).Paced moves)
    (h : (new host workspace).run? moves = some (s, log)) :
    Timely ((new host workspace).timeline moves) s := by
  have hall : ∀ (moves : List Move) (tl : List (Nat × Note)) (s t : Session) (log : Log),
      Sound (tl.map Prod.snd) s → Flight (tl.map Prod.snd) s → Timely tl s → s.Paced moves →
        s.run? moves = some (t, log) → Timely (tl ++ s.timeline moves) t := by
    intro moves
    induction moves with
    | nil =>
      intro tl s t log _ _ hs _ h
      obtain ⟨rfl, -⟩ := run?_nil.1 h
      simpa [timeline] using hs
    | cons m moves ih =>
      intro tl s t log hsound hf hs hp h
      obtain ⟨u, notes, rest, hu, hr, rfl⟩ := run?_cons.1 h
      have hlog : (tl ++ notes.map (s.workspace.now, ·)).map Prod.snd =
          tl.map Prod.snd ++ notes := by
        simp [Function.comp_def]
      have hnext := ih (tl ++ notes.map (s.workspace.now, ·)) u t rest
        (hlog ▸ sound_step hsound (step_of_move hu)) (hlog ▸ flight_step hsound hf (step_of_move hu))
        (hs.step hsound hf hp.1 hu) (hp.2 u notes hu) hr
      simpa [timeline, hu] using hnext
  exact hall moves [] _ s log (sound_new host workspace) (flight_new host workspace)
    (timely_new host workspace) hp h

end Keeping

section Waiting

/-- Moves lead from one session to the other among which time passes from timer to timer. -/
def PacedTo (s t : Session) : Prop :=
  ∃ moves log, s.run? moves = some (t, log) ∧ s.Paced moves

theorem PacedTo.refl (s : Session) : PacedTo s s :=
  ⟨[], [], rfl, trivial⟩

theorem PacedTo.trans (h : PacedTo s t) (h' : PacedTo t u) : PacedTo s u := by
  obtain ⟨moves, log, hm, hp⟩ := h
  obtain ⟨moves', log', hm', hp'⟩ := h'
  refine ⟨moves ++ moves', log ++ log', run?_append.2 ⟨t, log, log', hm, hm', rfl⟩,
    paced_append hp fun v vlog hv => ?_⟩
  rw [hm] at hv
  cases hv
  exact hp'

theorem pacedTo_finishDeeds (s : Session) : PacedTo s s.finishDeeds := by
  obtain ⟨log, h⟩ := run?_finishDeeds s
  refine ⟨_, log, h, paced_of_forall fun m hm moment => ?_⟩
  rw [List.eq_of_mem_replicate hm]
  simp

theorem pacedTo_settleFor (steps : Nat) : ∀ s : Session, PacedTo s (settleFor steps s) := by
  induction steps with
  | zero => exact fun s => .refl s
  | succ steps ih =>
    intro s
    unfold settleFor
    split
    · exact .refl s
    · rename_i t h
      obtain ⟨m, notes, hm, hmove⟩ := move_of_next h
      refine PacedTo.trans ⟨[m], notes, ?_, paced_of_forall fun m' hm' moment he => ?_⟩ (ih t)
      · exact run?_cons.2 ⟨t, notes, [], hmove, rfl, (List.append_nil _).symm⟩
      · rw [List.mem_singleton.1 hm'] at he
        rw [he] at hm
        cases hm

theorem pacedTo_passTimers (enough : Session → Bool) (limit : Option Nat) (count : Nat)
    (hs : s.Settled) : PacedTo s (passTimers enough limit count s) := by
  refine (passTimers_induct (P := fun u => u.Settled ∧ PacedTo s u) ?_ enough limit count
    ⟨hs, .refl s⟩).2
  intro u moment ⟨hu, hpaced⟩ hmoment
  have helapse : PacedTo u (u.elapse moment) := by
    refine ⟨[.elapse moment], [], rfl, fun moment' he => ?_, fun _ _ _ => trivial⟩
    cases he
    exact ⟨hu, (nextTimer?_eq_some hmoment).2⟩
  exact ⟨settled_settle hu.free, (hpaced.trans helapse).trans (pacedTo_settleFor _ _)⟩

theorem pacedTo_waitFor (hf : s.deeds = []) (id : Nat) : PacedTo s (s.waitFor id) :=
  (pacedTo_settleFor _ s).trans (pacedTo_passTimers _ _ _ (settled_settle hf))

end Waiting

/-- Whoever waits for a pending request waits no longer than a timeout for it and for each request
ahead of it, and then it has its reply; time passes meanwhile from timer to timer. Where it has
always passed so, every request whose run was called and that was neither given up nor cut off is
settled when its run was answered, or else, the timeout over, with just this to tell. -/
theorem settled_within_budget (h : (new host workspace).run? moves = some (s, log)) :
    (∀ before job after, s.pending = before ++ job :: after →
      ((s.finishDeeds.waitFor job.id).reply? job.id).isSome ∧
      (s.finishDeeds.waitFor job.id).workspace.now ≤
        s.workspace.now + (before.length + 1) * host.settings.timeout ∧
      ∃ more notes, s.run? more = some (s.finishDeeds.waitFor job.id, notes) ∧ s.Paced more) ∧
    ((new host workspace).Paced moves →
      ((new host workspace).timeline moves).map Prod.snd = log ∧
      ∀ c id call u reply, (c, .called id call) ∈ (new host workspace).timeline moves →
        (u, .replied id reply) ∈ (new host workspace).timeline moves →
        reply ≠ .error .cancelled → reply ≠ .error .closed →
        (reply = .error (.agent (.timeout host.settings.timeout)) ↔
          ∀ delay, call.answer.delay = some delay → host.settings.timeout < delay) ∧
        ((∀ delay, call.answer.delay = some delay → host.settings.timeout < delay) →
          u = c + host.settings.timeout) ∧
        ∀ delay, call.answer.delay = some delay → delay ≤ host.settings.timeout →
          u = c + delay) := by
  have hhost : s.host = host := host_run h
  refine ⟨fun before job after hp => ?_, fun hpaced => ⟨map_timeline h, ?_⟩⟩
  · obtain ⟨published, announced, hf⟩ := finishDeeds_eq s
    obtain ⟨hreply, hnow⟩ := waitFor_of_pending (bounded_of_run h) hp
    refine ⟨hreply, hhost ▸ hnow, ?_⟩
    exact (pacedTo_finishDeeds s).trans (pacedTo_waitFor (by rw [hf]) job.id)
  · intro c id call u reply hc hr hcancelled hclosed
    have ht := timely_of_run hpaced h
    obtain ⟨hdeadline, hdue⟩ := ht.called c id call hc
    rcases ht.replied u id reply c call hr hc with he | he | ⟨hu, outcome, hresult, rfl⟩
    · exact absurd he hcancelled
    · exact absurd he hclosed
    rw [timer_eq hdue hdeadline] at hu
    rw [result?_eq hdue hdeadline] at hresult
    rw [hhost] at hu hresult
    have hreported := reported host.settings call.invocation call.answer
    rw [hresult] at hreported
    refine ⟨?_, fun hlate => ?_, fun delay hd hle => ?_⟩
    · rw [← hreported.timeout_iff]
      cases outcome <;> simp [Except.mapError]
    · rw [hu, (lasting_of_late (i := call.invocation) hlate).1]
    · rw [hu, lasting_of_le hd hle]

/-- The call that was made, with its request. -/
def Note.call? : Note → Option (Nat × Call)
  | called id call => some (id, call)
  | _ => none

/-- What is done before one of two requests runs and the other is behind it. -/
def hangingMoves : List Move :=
  [.submit sampleSubmission, .proceed, .proceed, .proceed, .submit sampleSubmission, .proceed,
    .proceed, .proceed, .take, .check, .start]

/-- What becomes of the first of them. -/
def lapseMoves : List Move :=
  [.elapse 1000, .answer, .route, .settle, .settle, .settle, .settle]

theorem paced_hanging : (new silentHost sampleWorkspace).Paced (hangingMoves ++ lapseMoves) := by
  refine paced_append (paced_of_forall (by simp [hangingMoves])) fun u log hu => ?_
  have h : ((new silentHost sampleWorkspace).run? hangingMoves).map (fun p =>
      (p.1.deeds, p.1.next?.isNone, p.1.calls.map Call.timer)) = some ([], true, [1000]) := by
    decide +kernel
  rw [hu] at h
  simp only [Option.map_some, Option.some.injEq, Prod.mk.injEq, Option.isNone_iff_eq_none] at h
  obtain ⟨hdeeds, hnext, htimers⟩ := h
  refine ⟨fun moment he => ⟨⟨hdeeds, hnext⟩, fun call hc => ?_⟩, fun t notes _ => ?_⟩
  · cases he
    have hmem := List.mem_map_of_mem (f := Call.timer) hc
    rw [htimers, List.mem_singleton] at hmem
    exact Nat.le_of_eq hmem.symm
  · exact paced_of_forall (by simp)

theorem settled_within_budget_sample :
    (∃ s log, (new silentHost sampleWorkspace).run? hangingMoves = some (s, log) ∧
      s.pending.map Job.id = [0, 1] ∧ ((s.finishDeeds.waitFor 1).reply? 1).isSome ∧
      (s.finishDeeds.waitFor 1).workspace.now ≤ 2000) ∧
    ∃ call reply u,
      (0, .called 0 call) ∈
        (new silentHost sampleWorkspace).timeline (hangingMoves ++ lapseMoves) ∧
      (u, .replied 0 reply) ∈
        (new silentHost sampleWorkspace).timeline (hangingMoves ++ lapseMoves) ∧
      reply = .error (.agent (.timeout 1000)) ∧ u = 1000 := by
  constructor
  · have h : ((new silentHost sampleWorkspace).run? hangingMoves).map (fun p =>
        (p.1.workspace.now, p.1.pending.map Job.id)) = some (0, [0, 1]) := by decide +kernel
    obtain ⟨⟨s, log⟩, hs, h⟩ := Option.map_eq_some_iff.1 h
    simp only [Prod.mk.injEq] at h
    obtain ⟨hnow, hids⟩ := h
    obtain ⟨first, jobs, hp, -, hjobs⟩ := List.map_eq_cons_iff.1 hids
    obtain ⟨second, rest, rfl, hid, -⟩ := List.map_eq_cons_iff.1 hjobs
    obtain ⟨hreply, hle, -⟩ := (settled_within_budget hs).1 [first] second rest hp
    rw [hid] at hreply hle
    have hlimit : 0 + ([first].length + 1) * silentHost.settings.timeout = 2000 := by
      simp [silentHost, sampleHost]
    rw [hnow, hlimit] at hle
    exact ⟨s, log, hs, hids, hreply, hle⟩
  · have h : ((new silentHost sampleWorkspace).run? (hangingMoves ++ lapseMoves)).isSome := by
      decide +kernel
    have hcalls : (0, 0, none) ∈ ((new silentHost sampleWorkspace).timeline
        (hangingMoves ++ lapseMoves)).filterMap fun p => p.2.call?.map fun c =>
          (p.1, c.1, c.2.answer.delay) := by decide +kernel
    have hreplies : (0, false, false) ∈ ((new silentHost sampleWorkspace).timeline
        (hangingMoves ++ lapseMoves)).filterMap fun p => p.2.reply?.map fun r =>
          (r.1, decide (r.2 = .error .cancelled), decide (r.2 = .error .closed)) := by
      decide +kernel
    obtain ⟨⟨s, log⟩, hs⟩ := Option.isSome_iff_exists.1 h
    obtain ⟨⟨c, n⟩, hcmem, hc⟩ := List.mem_filterMap.1 hcalls
    obtain ⟨⟨u, n'⟩, hrmem, hr⟩ := List.mem_filterMap.1 hreplies
    cases n with
    | called id call =>
      simp only [Note.call?, Option.map_some, Option.some.injEq, Prod.mk.injEq] at hc
      obtain ⟨rfl, rfl, hd⟩ := hc
      cases n' with
      | replied id' reply =>
        simp only [Note.reply?, Option.map_some, Option.some.injEq, Prod.mk.injEq,
          decide_eq_false_iff_not] at hr
        obtain ⟨rfl, hcancelled, hclosed⟩ := hr
        have hlate : ∀ delay, call.answer.delay = some delay → 1000 < delay := by simp [hd]
        obtain ⟨hiff, hu, -⟩ := ((settled_within_budget hs).2 paced_hanging).2 0 _ call u reply
          hcmem hrmem hcancelled hclosed
        exact ⟨call, reply, u, hcmem, hrmem, hiff.2 hlate, (hu hlate).trans (Nat.zero_add _)⟩
      | _ => simp [Note.reply?] at hr
    | _ => simp [Note.call?] at hc

end Session

end AgentConsole
