import AgentConsole.Proofs.Agent.Run
import AgentConsole.Proofs.Session.Scheduled
import AgentConsole.Proofs.Session.Transition

/-!
# Settling

What a session does by itself without time passing comes to an end (`next?_settle`): every step
lowers `work`. Then the worker is idle with nothing in the queue, or waits, or is gone, and no run
under way has its time come (`Settled`). Whenever time has passed up to a timer, settling leaves
fewer tasks (`tasks_settle_lt`), so a wait from timer to timer ends as well.
-/

namespace AgentConsole

open AgentConsole.Agent

namespace Session

/-- The move is one that the session makes by itself, while no time passes. -/
def Move.isOwn : Move → Bool
  | .take | .check | .start | .notice | .answer | .route | .settle | .endDirect _ => true
  | .submit _ | .append _ | .setFile _ | .clear | .cancel | .runDirectly _ | .drop | .proceed
  | .stop | .elapse _ | .disturb _ => false

/-- The worker has a request to run, or runs it. -/
def Worker.isBusy : Worker → Bool
  | taken _ | fresh _ | running _ _ => true
  | idle | answered _ _ | settling _ _ _ | stopped => false

/-- How many runs are under way or may still be started without anything being asked. -/
def tasks (s : Session) : Nat :=
  s.worker.isBusy.toNat + s.queue.length + s.directs.length

/-- Nobody holds the conversation, and nothing more happens without time passing. -/
structure Settled (s : Session) : Prop where
  free : s.deeds = []
  done : s.next? = none

variable {s t : Session} {m : Move} {notes : Log} {call : Call}

section Steps

/-- What happens next is one of the session's own moves. -/
theorem move_of_next (h : s.next? = some t) :
    ∃ m notes, m.isOwn ∧ s.move? m = some (t, notes) := by
  have hown {o : Option Session} {m : Move} (hm : m.isOwn)
      (hmove : s.move? m = o.map fun t => (t, s.workNotes t)) (ho : o = some t) :
      ∃ m notes, m.isOwn ∧ s.move? m = some (t, notes) :=
    ⟨m, s.workNotes t, hm, by rw [hmove, ho]; rfl⟩
  have hdirect : s.directAnswer? = some t → ∃ m notes, m.isOwn ∧ s.move? m = some (t, notes) := by
    intro h
    obtain ⟨id, hid⟩ := directEnd?_of_directAnswer? h
    exact ⟨.endDirect id, [], rfl, Option.map_eq_some_iff.2 ⟨t, hid, rfl⟩⟩
  unfold next? at h
  split at h
  · rcases Option.or_eq_some_iff.1 h with h | ⟨-, h⟩
    · exact hown (m := .take) rfl rfl h
    · exact hdirect h
  · exact hown (m := .check) rfl rfl h
  · exact hown (m := .start) rfl rfl h
  · rcases Option.or_eq_some_iff.1 h with h | ⟨-, h⟩
    · rcases Option.or_eq_some_iff.1 h with h | ⟨-, h⟩
      · exact hown (m := .notice) rfl rfl h
      · exact hown (m := .answer) rfl rfl h
    · exact hdirect h
  · rcases Option.or_eq_some_iff.1 h with h | ⟨-, h⟩
    · exact hown (m := .route) rfl rfl h
    · exact hdirect h
  · exact hown (m := .settle) rfl rfl h
  · exact hdirect h

theorem length_filter_ne_lt {id : Nat} (h : (id, call) ∈ s.directs) :
    (s.directs.filter fun d => d.1 ≠ id).length < s.directs.length :=
  List.length_filter_lt_length_iff_exists.2 ⟨(id, call), h, by simp⟩

/-- Every move of its own leaves a session less to do. -/
theorem work_lt (hm : m.isOwn) (h : s.move? m = some (t, notes)) : t.work < s.work := by
  unfold work
  cases transition_of_move h with
  | take hw hq =>
    simp [hw, hq, Worker.work]
    omega
  | pass hw | start _ _ hw | call _ _ hw | answer hw | tell hw | reply hw =>
    simp [hw, Worker.work, announce]
  | refrain hw | route hw => simp [hw, Worker.work, givingUp, endEvents]
  | notice hw => rcases hw with hw | ⟨call, hw⟩ <;> simp [hw, Worker.work, givingUp, endEvents]
  | panic hw =>
    simp [hw, Worker.work, stop]
  | endDirect hd =>
    have := length_filter_ne_lt hd
    simp only
    omega
  | _ => cases hm

/-- A move of its own lets no time pass and changes nothing but the work of the session. -/
theorem frame_of_own (hm : m.isOwn) (h : s.move? m = some (t, notes)) :
    t.workspace.now = s.workspace.now ∧ t.deeds = s.deeds ∧ t.host = s.host := by
  cases transition_of_move h with
  | start _ _ _ hs | call _ _ _ hs => exact ⟨now_of_start hs, rfl, rfl⟩
  | notice | panic => exact ⟨now_released s, rfl, rfl⟩
  | take | pass | refrain | answer | route | tell | reply | endDirect => exact ⟨rfl, rfl, rfl⟩
  | _ => cases hm

/-- A move of its own ends a task of the session, or leaves every run under way. -/
theorem tasks_of_own (hm : m.isOwn) (h : s.move? m = some (t, notes)) :
    t.tasks < s.tasks ∨ t.tasks = s.tasks ∧ ∀ call ∈ s.calls, call ∈ t.calls := by
  unfold tasks calls
  cases transition_of_move h with
  | take hw hq =>
    refine .inr ⟨?_, ?_⟩
    · simp [hw, hq, Worker.isBusy]
      omega
    · simp [hw, Worker.call?]
  | pass hw | call _ _ hw | route hw | tell hw | reply hw =>
    refine .inr ⟨?_, ?_⟩
    · simp [hw, Worker.isBusy, announce]
    · simp +contextual [hw, Worker.call?, announce]
  | refrain hw | start _ _ hw | answer hw =>
    refine .inl ?_
    simp [hw, Worker.isBusy, givingUp]
  | notice hw =>
    refine .inl ?_
    rcases hw with hw | ⟨call, hw⟩ <;> simp [hw, Worker.isBusy, givingUp]
  | panic hw =>
    refine .inl ?_
    simp [hw, Worker.isBusy, stop]
  | endDirect hd =>
    have := length_filter_ne_lt hd
    refine .inl ?_
    simp only
    omega
  | _ => cases hm

end Steps

section Settling

/-- What every step of a session's own keeps, settling keeps. -/
theorem settleFor_induct {P : Session → Prop}
    (step : ∀ {s m t notes}, P s → m.isOwn → s.move? m = some (t, notes) → P t) (steps : Nat) :
    ∀ {s : Session}, P s → P (settleFor steps s) := by
  induction steps with
  | zero => exact id
  | succ steps ih =>
    intro s hs
    unfold settleFor
    split
    · exact hs
    · rename_i t h
      obtain ⟨m, notes, hm, hmove⟩ := move_of_next h
      exact ih (step hs hm hmove)

theorem next?_settleFor {steps : Nat} (h : s.work ≤ steps) : (settleFor steps s).next? = none := by
  induction steps generalizing s with
  | zero =>
    unfold settleFor
    cases hn : s.next? with
    | none => rfl
    | some t =>
      obtain ⟨m, notes, hm, hmove⟩ := move_of_next hn
      have := work_lt hm hmove
      omega
  | succ steps ih =>
    unfold settleFor
    split
    · assumption
    · rename_i t hn
      obtain ⟨m, notes, hm, hmove⟩ := move_of_next hn
      have := work_lt hm hmove
      exact ih (by omega)

/-- Settling comes to an end. -/
theorem next?_settle (s : Session) : s.settle.next? = none :=
  next?_settleFor (Nat.le_refl _)

theorem frame_settle (s : Session) : s.settle.workspace.now = s.workspace.now ∧
    s.settle.deeds = s.deeds ∧ s.settle.host = s.host := by
  refine settleFor_induct (P := fun t => t.workspace.now = s.workspace.now ∧ t.deeds = s.deeds ∧
    t.host = s.host) ?_ s.work ⟨rfl, rfl, rfl⟩
  intro u m t notes hu hm h
  obtain ⟨hn, hd, hh⟩ := frame_of_own hm h
  exact ⟨hn.trans hu.1, hd.trans hu.2.1, hh.trans hu.2.2⟩

theorem settled_settle (h : s.deeds = []) : s.settle.Settled :=
  ⟨(frame_settle s).2.1.trans h, next?_settle s⟩

/-- Settling ends a task, or leaves every run under way. -/
theorem tasks_settle (s : Session) : s.settle.tasks < s.tasks ∨
    s.settle.tasks = s.tasks ∧ ∀ call ∈ s.calls, call ∈ s.settle.calls := by
  refine settleFor_induct (P := fun t => t.tasks < s.tasks ∨
    t.tasks = s.tasks ∧ ∀ call ∈ s.calls, call ∈ t.calls) ?_ s.work (.inr ⟨rfl, fun _ h => h⟩)
  intro u m t notes hu hm h
  rcases tasks_of_own hm h with hlt | ⟨heq, hcalls⟩
  · rcases hu with hu | ⟨hu, -⟩ <;> exact .inl (by omega)
  · rcases hu with hu | ⟨hu, hkept⟩
    · exact .inl (by omega)
    · exact .inr ⟨by omega, fun call hc => hcalls call (hkept call hc)⟩

/-- A settled worker is idle with nothing in the queue, waits, or is gone. -/
theorem Settled.cases (hs : s.Settled) :
    s.worker = .idle ∧ s.queue = [] ∨ (∃ job call, s.worker = .running job call) ∨
      s.worker = .stopped := by
  have hn := hs.done
  unfold next? at hn
  cases hw : s.worker with
  | idle =>
    simp only [hw, Option.or_eq_none_iff] at hn
    refine .inl ⟨rfl, ?_⟩
    cases hq : s.queue with
    | nil => rfl
    | cons job queue => simp [take?, hw, hq] at hn
  | taken job => simp [hw, check?] at hn
  | fresh job =>
    simp only [hw, begin?] at hn
    split at hn <;> cases hn
  | running job call => exact .inr (.inl ⟨job, call, rfl⟩)
  | answered job outcome => simp [hw, route?, isFree, hs.free] at hn
  | settling job events reply => cases events <;> simp [hw, settle?] at hn
  | stopped => exact .inr (.inr rfl)

/-- No run under way in a settled session has its time come. -/
theorem Settled.now_lt (hs : s.Settled) : ∀ call ∈ s.calls, s.workspace.now < call.timer := by
  have hdirect : s.directAnswer? = none := by
    have hn := hs.done
    unfold next? at hn
    rcases hs.cases with ⟨hw, -⟩ | ⟨job, call, hw⟩ | hw
    · simp only [hw, Option.or_eq_none_iff] at hn
      exact hn.2
    · simp only [hw, Option.or_eq_none_iff] at hn
      exact hn.2
    · simpa only [hw] using hn
  intro call hc
  by_contra hlt
  have ht : call.timer ≤ s.workspace.now := Nat.not_lt.1 hlt
  rcases List.mem_append.1 hc with hc | hc
  · have hn := hs.done
    cases hw : s.worker with
    | running job call' =>
      simp only [hw, Worker.call?, Option.toList_some, List.mem_singleton] at hc
      subst hc
      simp only [next?, hw, Option.or_eq_none_iff, answer?, if_pos ht] at hn
      obtain ⟨⟨-, hanswer⟩, -⟩ := hn
      split at hanswer <;> cases hanswer
    | _ => simp [hw, Worker.call?] at hc
  · obtain ⟨⟨id, _⟩, hm, rfl⟩ := List.mem_map.1 hc
    unfold directAnswer? directEnd? at hdirect
    split at hdirect
    · rename_i hf
      have := List.find?_eq_none.1 hf _ hm
      simp [ht] at this
    · cases hdirect

/-- When the time of a run has come, settling ends a task. -/
theorem tasks_settle_lt (hf : s.deeds = []) (hc : call ∈ s.calls)
    (ht : call.timer ≤ s.workspace.now) : s.settle.tasks < s.tasks := by
  rcases tasks_settle s with hlt | ⟨-, hkept⟩
  · exact hlt
  · have hnow := (settled_settle hf).now_lt call (hkept call hc)
    rw [(frame_settle s).1] at hnow
    omega

/-- The earliest timer is one of a run under way, and none is earlier. -/
theorem nextTimer?_eq_some {moment : Nat} (h : s.nextTimer? = some moment) :
    (∃ call ∈ s.calls, call.timer = moment) ∧ ∀ call ∈ s.calls, moment ≤ call.timer := by
  obtain ⟨hm, hle⟩ := List.min?_eq_some_iff.1 h
  refine ⟨List.mem_map.1 hm, fun call hc => hle _ (List.mem_map_of_mem hc)⟩

end Settling

end Session

end AgentConsole
