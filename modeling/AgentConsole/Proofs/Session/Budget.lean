import AgentConsole.Proofs.Session.Settling
import AgentConsole.Proofs.Session.Lifecycle

/-!
# The budget of a request

A run ends within the timeout, so the request that the worker is at, or that it takes up next, is
settled by a time that can be told beforehand (`clearance`), and every request behind it a timeout
later at most. No move that a session makes by itself puts this off, and neither does time that
passes from timer to timer (`Expected`). So waiting for a request comes to an end, with a timeout at
most for the request and for each one ahead of it (`waitFor_of_pending`).
-/

namespace AgentConsole

open AgentConsole.Agent

namespace Session

/-- When the worker is done with the first pending request, at the latest. -/
def clearance (s : Session) : Nat :=
  match s.worker with
  | .idle | .taken _ | .fresh _ => s.workspace.now + s.host.settings.timeout
  | .running _ call => max s.workspace.now call.deadline
  | .answered _ _ | .settling _ _ _ | .stopped => s.workspace.now

/-- The run the worker waits for has not been given more than the timeout, and a worker that is gone
has left no request behind. -/
structure Bounded (s : Session) : Prop where
  deadline : ∀ job call, s.worker = .running job call →
    call.deadline ≤ s.workspace.now + s.host.settings.timeout
  queue : s.worker = .stopped → s.queue = []

/-- The request has its reply by the time `limit`, or will have it by then. -/
inductive Expected (id limit : Nat) (s : Session) : Prop
  | replied (hr : (s.reply? id).isSome) (hn : s.workspace.now ≤ limit)
  | pending {before after : List Job} {job : Job} (hp : s.pending = before ++ job :: after)
      (hid : job.id = id) (hw : s.worker ≠ .stopped)
      (hc : s.clearance + s.host.settings.timeout * before.length ≤ limit)

variable {host : Host} {workspace : Workspace} {s t : Session} {m : Move} {notes log : Log}
variable {id limit : Nat} {call : Call} {job : Job} {jobs before after : List Job}

section Bounds

theorem deadline_of_start {h : Host} {w w' : Workspace} {r : Request}
    (hs : h.start w r = (w', .called call)) :
    call.deadline = w.now + h.settings.timeout ∧ call.due = call.answer.delay.map (w.now + ·) := by
  have hnow := now_of_start hs
  unfold Host.start at hs
  split at hs
  · cases hs
  · split at hs
    · cases hs
    · cases hs
      exact ⟨by rw [← hnow], by rw [← hnow]⟩

theorem bounded_of_move (hs : s.Bounded) (h : s.move? m = some (t, notes)) : t.Bounded := by
  obtain ⟨hdeadline, hqueue⟩ := hs
  cases transition_of_move h with
  | @proceed deed => cases deed <;> exact ⟨hdeadline, hqueue⟩
  | @accept x ho hc =>
    refine ⟨hdeadline, fun hw => ?_⟩
    simp [isClosed, show s.worker = .stopped from hw] at hc
  | call workspace call hw hstart =>
    refine ⟨fun job' call' hw' => ?_, fun hw' => (by cases hw')⟩
    cases hw'
    rw [(deadline_of_start hstart).1]
    exact Nat.le_of_eq (by rw [now_of_start hstart])
  | direct r workspace result hstart | directCall r workspace call hstart =>
    refine ⟨fun job' call' hw' => ?_, hqueue⟩
    have hle := hdeadline job' call' hw'
    simp only [now_of_start hstart]
    exact hle
  | elapse moment =>
    refine ⟨fun job' call' hw' => ?_, hqueue⟩
    have hle := hdeadline job' call' hw'
    have hnow : (s.elapse moment).workspace.now = max s.workspace.now moment := rfl
    have hhost : (s.elapse moment).host = s.host := rfl
    rw [hnow, hhost]
    omega
  | take hw | pass hw | refrain hw | start _ _ hw | notice hw | answer hw | route hw | tell hw
  | reply hw => exact ⟨fun job' call' hw' => (by cases hw'), fun hw' => (by cases hw')⟩
  | panic | stop => exact ⟨fun job' call' hw' => (by cases hw'), fun _ => rfl⟩
  | _ => exact ⟨hdeadline, hqueue⟩

theorem bounded_new (host : Host) (workspace : Workspace) : (new host workspace).Bounded where
  deadline _ _ hw := by cases hw
  queue hw := by cases hw

/-- No run is given more than the timeout. -/
theorem bounded_of_run {moves : List Move}
    (h : (new host workspace).run? moves = some (s, log)) : s.Bounded :=
  @run?_induct (fun _ s => s.Bounded) (fun hs hm => bounded_of_move hs hm) moves [] _ s log
    (bounded_new host workspace) h

theorem now_le_clearance (s : Session) : s.workspace.now ≤ s.clearance := by
  unfold clearance
  split
  · exact Nat.le_add_right _ _
  · exact Nat.le_add_right _ _
  · exact Nat.le_add_right _ _
  · exact Nat.le_max_left _ _
  · exact Nat.le_refl _
  · exact Nat.le_refl _
  · exact Nat.le_refl _

theorem clearance_le (hs : s.Bounded) :
    s.clearance ≤ s.workspace.now + s.host.settings.timeout := by
  unfold clearance
  split
  · exact Nat.le_refl _
  · exact Nat.le_refl _
  · exact Nat.le_refl _
  · rename_i job call hw
    have := hs.deadline job call hw
    omega
  · exact Nat.le_add_right _ _
  · exact Nat.le_add_right _ _
  · exact Nat.le_add_right _ _

theorem Expected.now_le (h : Expected id limit s) : s.workspace.now ≤ limit := by
  cases h with
  | replied _ hn => exact hn
  | pending _ _ _ hc =>
    have := now_le_clearance s
    omega

/-- A pending request is expected within a timeout for itself and for each one ahead of it. -/
theorem expected_of_pending (hs : s.Bounded) (hp : s.pending = before ++ job :: after) :
    Expected job.id (s.workspace.now + (before.length + 1) * s.host.settings.timeout) s := by
  have hw : s.worker ≠ .stopped := by
    intro hw
    rw [Session.pending, hw, hs.queue hw] at hp
    cases before <;> cases hp
  refine .pending hp rfl hw ?_
  have := clearance_le hs
  rw [Nat.add_mul, Nat.mul_comm before.length]
  omega

end Bounds

section Moves

theorem reply?_append (hr : (s.reply? id).isSome) {more : List (Nat × Reply)}
    (ht : t.replies = more ++ s.replies) : (t.reply? id).isSome := by
  unfold reply? at hr ⊢
  rw [ht, List.lookup_append]
  cases more.lookup id with
  | none => simpa using hr
  | some reply => rfl

theorem reply?_stop (hj : job ∈ s.pending) : (s.stop.reply? job.id).isSome := by
  cases hr : s.stop.reply? job.id with
  | some reply => rfl
  | none =>
    have := reply?_eq_none.1 hr (.error .closed)
    refine absurd (List.mem_append_left _ (List.mem_reverse.2 ?_)) this
    exact List.mem_map.2 ⟨job, hj, rfl⟩

/-- What a session does by itself does not put a request off. -/
theorem Expected.of_own (hs : Expected id limit s) (hm : m.isOwn)
    (h : s.move? m = some (t, notes)) : Expected id limit t := by
  obtain ⟨hnow, -, hhost⟩ := frame_of_own hm h
  have hnow' := hs.now_le
  obtain ⟨more, hmore⟩ : ∃ more, t.replies = more ++ s.replies :=
    ⟨_, replies_step (step_of_move h)⟩
  cases hs with
  | replied hr hn => exact .replied (reply?_append hr hmore) (hnow ▸ hn)
  | @pending before after job hp hid _ hc =>
    have hkeep (hw : t.worker ≠ .stopped) (hpend : t.pending = s.pending)
        (hle : t.clearance ≤ s.clearance) : Expected id limit t := by
      refine .pending (hpend.trans hp) hid hw ?_
      rw [hhost]
      omega
    cases transition_of_move h with
    | take hw hq =>
      refine hkeep (by simp) (by simp [Session.pending, hw, hq, Worker.job?]) ?_
      simp [clearance, hw]
    | pass hw | refrain hw | route hw | tell hw =>
      refine hkeep (by simp [givingUp]) ?_ ?_
      · simp [Session.pending, hw, Worker.job?, givingUp, announce]
      · simp [clearance, hw, givingUp, announce]
    | start _ _ hw hstart =>
      refine hkeep (by simp) (by simp [Session.pending, hw, Worker.job?]) ?_
      simp [clearance, hw, now_of_start hstart]
    | call workspace call hw hstart =>
      refine hkeep (by simp) (by simp [Session.pending, hw, Worker.job?]) ?_
      simp [clearance, hw, now_of_start hstart, (deadline_of_start hstart).1]
    | notice hw =>
      refine hkeep (by simp [givingUp]) ?_ ?_
      · rcases hw with hw | ⟨call, hw⟩ <;> simp [Session.pending, hw, Worker.job?, givingUp]
      · rcases hw with hw | ⟨call, hw⟩ <;> simp [clearance, hw, givingUp, now_released]
    | answer hw =>
      refine hkeep (by simp) (by simp [Session.pending, hw, Worker.job?]) ?_
      simp [clearance, hw, Call.release]
    | panic hw => exact .replied (hid ▸ reply?_stop (by rw [hp]; simp)) (hnow ▸ hnow')
    | @reply job' reply hw =>
      -- The first pending request is the one that gets its reply.
      have hpend : s.pending = job' :: s.queue := by simp [Session.pending, hw, Worker.job?]
      rw [hpend] at hp
      cases before with
      | nil =>
        obtain ⟨rfl, -⟩ := List.cons.inj hp
        refine .replied ?_ hnow'
        simp [Session.reply?, hid]
      | cons first before =>
        obtain ⟨-, hqueue⟩ := List.cons.inj hp
        have hpend' : Session.pending { s with
            worker := .idle, replies := (job'.id, reply) :: s.replies } = before ++ job :: after := by
          simp [Session.pending, Worker.job?, hqueue]
        refine .pending hpend' hid (by simp) ?_
        simp only [clearance, hw, List.length_cons, Nat.mul_add, Nat.mul_one] at hc ⊢
        omega
    | @endDirect _ _ hd => exact hkeep ‹_› rfl (Nat.le_refl _)
    | _ => cases hm

theorem Expected.settle (hs : Expected id limit s) : Expected id limit s.settle :=
  settleFor_induct (P := Expected id limit) (fun hs hm h => hs.of_own hm h) s.work hs

/-- Time that passes up to a timer puts no request off that the worker waits for. -/
theorem Expected.elapse {moment : Nat} (hs : Expected id limit s)
    (hr : s.reply? id = none) (hw : s.worker = .running job call) (hm : moment ≤ call.timer)
    (ht : call.timer ≤ call.deadline) : Expected id limit (s.elapse moment) := by
  cases hs with
  | replied hr' => simp [hr] at hr'
  | pending hp hid hstop hc =>
    refine .pending hp hid hstop ?_
    have hclear : (s.elapse moment).clearance ≤ s.clearance := by
      have hw' : (s.elapse moment).worker = .running job call := hw
      have hnow : (s.elapse moment).workspace.now = max s.workspace.now moment := rfl
      unfold clearance
      rw [hw', hw, hnow]
      simp only
      omega
    exact Nat.le_trans (Nat.add_le_add_right hclear _) hc

end Moves

section Waiting

theorem timer_le_deadline (call : Call) : call.timer ≤ call.deadline := by
  unfold Call.timer Call.answersAt?
  cases hd : call.due with
  | none => exact Nat.le_refl _
  | some due =>
    by_cases hle : due ≤ call.deadline <;> simp [Option.filter, hle]

/-- Whoever is still waited for by a settled session is behind a run under way. -/
theorem Settled.running (hs : s.Settled) (he : Expected id limit s) (hr : s.reply? id = none) :
    ∃ job call, s.worker = .running job call := by
  cases he with
  | replied hr' => simp [hr] at hr'
  | pending hp hid hstop hc =>
    rcases hs.cases with ⟨hw, hq⟩ | hw | hw
    · simp [Session.pending, hw, hq, Worker.job?] at hp
    · exact hw
    · exact absurd hw hstop

theorem tasks_le_timers (s : Session) : s.tasks ≤ s.timers := by
  unfold tasks timers Session.pending
  cases s.worker <;> simp [Worker.isBusy, Worker.job?] <;> omega

theorem nextTimer?_of_running (hw : s.worker = .running job call) :
    ∃ moment, s.nextTimer? = some moment := by
  refine Option.ne_none_iff_exists'.1 fun hn => ?_
  unfold nextTimer? calls at hn
  rw [List.min?_eq_none_iff, hw] at hn
  simp [Worker.call?] at hn

/-- Waiting from timer to timer comes to an end, with the request settled in time, if there are as
many timers to wait for as there are tasks. -/
theorem passTimers_of_expected {count : Nat} (hs : s.Settled) (he : Expected id limit s)
    (hcount : s.tasks ≤ count) :
    let t := passTimers (fun s => (s.reply? id).isSome) none count s
    (t.reply? id).isSome ∧ t.workspace.now ≤ limit := by
  induction count generalizing s with
  | zero =>
    cases hr : s.reply? id with
    | some reply => exact ⟨by simp [passTimers, hr], he.now_le⟩
    | none =>
      obtain ⟨job, call, hw⟩ := hs.running he hr
      simp [tasks, hw, Worker.isBusy] at hcount
  | succ count ih =>
    unfold passTimers
    cases hr : s.reply? id with
    | some reply => exact ⟨by simp [hr], by simpa [hr] using he.now_le⟩
    | none =>
      obtain ⟨job, call, hw⟩ := hs.running he hr
      obtain ⟨moment, hmoment⟩ := nextTimer?_of_running hw
      obtain ⟨⟨first, hfirst, ht⟩, hle⟩ := nextTimer?_eq_some hmoment
      have hcall : call ∈ s.calls := by simp [calls, hw, Worker.call?]
      have hexpected := he.elapse hr hw (hle call hcall) (timer_le_deadline call)
      have hfewer : (s.elapse moment).settle.tasks < s.tasks :=
        tasks_settle_lt (s := s.elapse moment) hs.free hfirst
          (Nat.le_trans (Nat.le_of_eq ht) (Nat.le_max_right _ _))
      simp only [Option.isSome_none, Bool.false_eq_true, if_false, hmoment, Option.any_none]
      exact ih (settled_settle hs.free) hexpected.settle (by omega)

theorem foldl_perform (deeds : List Deed) (s : Session) : ∃ published announced,
    deeds.foldl perform s = { s with published, announced } := by
  induction deeds generalizing s with
  | nil => exact ⟨s.published, s.announced, rfl⟩
  | cons deed deeds ih =>
    obtain ⟨published, announced, h⟩ := ih (s.perform deed)
    rw [List.foldl_cons, h]
    cases deed <;> exact ⟨_, _, rfl⟩

/-- Whoever holds the conversation lets go of it without anything else happening. -/
theorem finishDeeds_eq (s : Session) : ∃ published announced,
    s.finishDeeds = { s with deeds := [], published, announced } :=
  foldl_perform s.deeds { s with deeds := [] }

/-- Waiting for a pending request comes to an end, within a timeout for it and for each request
ahead of it. -/
theorem waitFor_of_pending (hs : s.Bounded) (hp : s.pending = before ++ job :: after) :
    let t := s.finishDeeds.waitFor job.id
    (t.reply? job.id).isSome ∧
      t.workspace.now ≤ s.workspace.now + (before.length + 1) * s.host.settings.timeout := by
  obtain ⟨published, announced, hf⟩ := finishDeeds_eq s
  have hb : s.finishDeeds.Bounded := by
    rw [hf]
    exact ⟨hs.deadline, hs.queue⟩
  have hfree : s.finishDeeds.deeds = [] := by rw [hf]
  have hpend : s.finishDeeds.pending = before ++ job :: after := by
    rw [hf]
    exact hp
  have hnow : s.finishDeeds.workspace = s.workspace ∧ s.finishDeeds.host = s.host := by
    rw [hf]
    exact ⟨rfl, rfl⟩
  have he := (expected_of_pending hb hpend).settle
  rw [hnow.1, hnow.2] at he
  exact passTimers_of_expected (settled_settle hfree) he (tasks_le_timers _)

end Waiting

end Session

end AgentConsole
