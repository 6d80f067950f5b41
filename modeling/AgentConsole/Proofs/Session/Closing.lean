import AgentConsole.Proofs.Agent.Ending
import AgentConsole.Proofs.Session.Launch
import AgentConsole.Proofs.Session.Rest
import AgentConsole.Proofs.Text.Blank

/-!
# How a session closes

The worker goes for good when the runner breaks down during a run it waits for, or when it is
stopped after the session was dropped, and a session is closed from then on (`isClosed_iff_of_run`).
What is refused, as blank or because the session is closed, leaves no trace
(`refused_without_trace`). Whatever the worker was at when it went, each request without a reply is
told that the session is closed, and nothing comes from the worker any more (`clean_end`).
-/

namespace AgentConsole

open AgentConsole.Agent AgentConsole.Files AgentConsole.Text

namespace Session

/-- With this move the worker goes for good. -/
def EndsWorker (s : Session) : Move → Prop
  | .answer => ∃ job call, s.worker = .running job call ∧ call.result? s.host = none
  | .stop => True
  | _ => False

/-- The move is the worker's. -/
def Move.isWork : Move → Bool
  | .take | .check | .start | .notice | .answer | .route | .settle => true
  | .submit _ | .append _ | .setFile _ | .clear | .cancel | .runDirectly _ | .drop | .proceed
  | .stop | .endDirect _ | .elapse _ | .disturb _ => false

/-- Neither the worker moves nor anybody who uses the session. -/
def Move.isOutside : Move → Bool
  | .endDirect _ | .elapse _ | .disturb _ => true
  | .submit _ | .append _ | .setFile _ | .clear | .cancel | .runDirectly _ | .drop | .proceed
  | .take | .check | .start | .notice | .answer | .route | .settle | .stop => false

/-- The note is of something the worker did. -/
def Note.isWork : Note → Bool
  | called _ _ | ended _ | routed _ _ | replied _ _ => true
  | said _ | loaded _ | accepted _ _ | cleared | cancelled | published _ => false

/-- Nobody holds the conversation of a session that was dropped. -/
def Unheld (s : Session) : Prop :=
  s.dropped → s.deeds = []

/-- The worker is gone and nothing waits for it. -/
structure Gone (s : Session) : Prop where
  worker : s.worker = .stopped
  queue : s.queue = []
  unheld : s.Unheld

/-- Nothing comes from the worker: it cannot move, nothing is announced but what is due, and nothing
more can be asked. -/
structure Deserted (s : Session) : Prop where
  still : ∀ m : Move, m.isWork → s.move? m = none
  silent : ∀ m t notes, s.move? m = some (t, notes) → m = .proceed ∨ t.announced = s.announced
  refuses : ∀ x : Submission, trim x.essence ≠ "" → s.submit x = (s, .error .closed)

/-- The worker of the one session went for good on this disk, which led to the other session: each
request has the reply it had, or else the session is closed for it, the request file of a run it
waited for is given up, and so gone if its path led to it, and the conversation is as it was. From
then on nothing comes from the worker. -/
structure CleanEnd (s : Session) (d : Disk) (t : Session) : Prop where
  replied : ∀ id < s.accepted, t.reply? id = some ((s.reply? id).getD (.error .closed))
  givenUp : ∀ job call, s.worker = .running job call → GivenUp call.file d t.workspace.disk
  removed : ∀ job call, s.worker = .running job call → call.file.isReached d →
    t.workspace.disk.file? call.file.location = none
  conversation : t.conversation = s.conversation
  announced : t.announced = s.announced
  after : ∀ later u log, t.run? later = some (u, log) →
    u.Deserted ∧ (∀ n ∈ log, n.isWork = false) ∧ u.replies = t.replies ∧
      (t.dropped → u.conversation = t.conversation ∧ u.announced = t.announced)

variable {host : Host} {workspace : Workspace} {moves : List Move}
variable {s t : Session} {m : Move} {log notes : Log} {id : Nat} {x : Submission}

section Closed

theorem isClosed_iff : s.isClosed ↔ s.worker = .stopped := by
  unfold isClosed
  cases s.worker <;> simp

/-- A session is closed after a move if it was before, or the worker goes for good with it. -/
theorem isClosed_of_move (h : s.move? m = some (t, notes)) :
    t.isClosed ↔ s.isClosed ∨ s.EndsWorker m := by
  rw [isClosed_iff, isClosed_iff]
  cases transition_of_move h with
  | @proceed deed => cases deed <;> simp [perform, announce, EndsWorker]
  | take hw | pass hw | refrain hw | start _ _ hw | call _ _ hw | route hw | tell hw | reply hw =>
    simp [hw, EndsWorker, givingUp]
  | notice hw => rcases hw with hw | ⟨call, hw⟩ <;> simp [hw, EndsWorker, givingUp]
  | answer hw ht hr | panic hw ht hr => simp [hw, hr, EndsWorker, stop]
  | _ => simp [EndsWorker, append, setFile, clear, cancel, drop, stop, elapse]

/-- A session is closed if it was, or the worker went for good in between. -/
theorem isClosed_of_run (h : s.run? moves = some (t, log)) : t.isClosed ↔ s.isClosed ∨
    ∃ before m after u early, moves = before ++ m :: after ∧ s.run? before = some (u, early) ∧
      u.EndsWorker m := by
  induction moves generalizing s log with
  | nil =>
    obtain ⟨rfl, -⟩ := run?_nil.1 h
    simp
  | cons m moves ih =>
    obtain ⟨u, notes, rest, hm, hr, -⟩ := run?_cons.1 h
    rw [ih hr, isClosed_of_move hm, or_assoc]
    refine or_congr_right ⟨?_, ?_⟩
    · rintro (he | ⟨before, m', after, v, early, rfl, hb, he⟩)
      · exact ⟨[], m, moves, s, [], rfl, rfl, he⟩
      · exact ⟨m :: before, m', after, v, notes ++ early, rfl,
          run?_cons.2 ⟨u, notes, early, hm, hb, rfl⟩, he⟩
    · rintro ⟨before, m', after, v, early, heq, hb, he⟩
      cases before with
      | nil =>
        obtain ⟨rfl, -⟩ := run?_nil.1 hb
        obtain ⟨rfl, -⟩ := List.cons.inj heq
        exact .inl he
      | cons m₀ before =>
        obtain ⟨rfl, hmoves⟩ := List.cons.inj heq
        obtain ⟨u', new, early', hm', hb, -⟩ := run?_cons.1 hb
        cases hm.symm.trans hm'
        exact .inr ⟨before, m', after, v, early', hmoves, hb, he⟩

/-- A session is closed just when its worker went for good. -/
theorem isClosed_iff_of_run (h : (new host workspace).run? moves = some (s, log)) :
    s.isClosed ↔ ∃ before m after u early, moves = before ++ m :: after ∧
      (new host workspace).run? before = some (u, early) ∧ u.EndsWorker m := by
  rw [isClosed_of_run h]
  simp [isClosed, new]

theorem submit_of_blank (hb : trim x.essence = "") : s.submit x = (s, .error .emptyCommand) := by
  rw [submit, if_pos (trim_eq_empty_iff.1 hb)]

theorem submit_of_isClosed (hb : trim x.essence ≠ "") (hc : s.isClosed) :
    s.submit x = (s, .error .closed) := by
  rw [submit, if_neg (mt trim_eq_empty_iff.2 hb), if_pos hc]

theorem submit_eq_ok (hb : trim x.essence ≠ "") (hc : s.isClosed = false) : s.submit x = ({ s with
    conversation := asked s.conversation x
    accepted := s.accepted + 1
    queue := s.queue ++ [s.jobOf x]
    deeds := acceptanceDeeds (asked s.conversation x) s.accepted x }, .ok s.accepted) := by
  rw [submit, if_neg (mt trim_eq_empty_iff.2 hb), if_neg (by simp [hc])]
  rfl

theorem submit_of_not_isClosed (hb : trim x.essence ≠ "") (hc : s.isClosed = false) :
    (s.submit x).2 = .ok s.accepted ∧ (s.submit x).1.queue = s.queue ++ [s.jobOf x] := by
  rw [submit_eq_ok hb hc]
  exact ⟨rfl, rfl⟩

theorem run?_refused {e : SessionError} (ho : s.isOpen) (hx : s.submit x = (s, .error e))
    (later : List Move) : s.run? (.submit x :: later) = s.run? later := by
  have hm : s.move? (.submit x) = some (s, []) := by
    simp only [move?, ho, if_true, submitNoted, hx]
  simp [run?, hm]

/-- Whatever was done with a session before, something to ask is refused as empty just when it is
blank, and else as coming too late just when the worker has gone for good, which it does when the
runner breaks down or when it is stopped. Otherwise it is accepted and waits behind the others. What
is refused changes nothing at all, and whatever is done later goes as if it had not been asked. -/
theorem refused_without_trace (h : (new host workspace).run? moves = some (s, log))
    (x : Submission) :
    (s.isClosed ↔ ∃ before m after u early, moves = before ++ m :: after ∧
      (new host workspace).run? before = some (u, early) ∧ u.EndsWorker m) ∧
    ((s.submit x).2 = .error .emptyCommand ↔ trim x.essence = "") ∧
    ((s.submit x).2 = .error .closed ↔ trim x.essence ≠ "" ∧ s.isClosed) ∧
    (trim x.essence ≠ "" → s.isClosed = false →
      (s.submit x).2 = .ok s.accepted ∧ (s.submit x).1.queue = s.queue ++ [s.jobOf x]) ∧
    ∀ e, (s.submit x).2 = .error e → (s.submit x).1 = s ∧
      (s.isOpen → ∀ later, s.run? (.submit x :: later) = s.run? later) := by
  refine ⟨isClosed_iff_of_run h, ?_, ?_, submit_of_not_isClosed, fun e he => ?_⟩
  · by_cases hb : trim x.essence = ""
    · simp [submit_of_blank hb, hb]
    · cases hc : s.isClosed
      · simp [submit_of_not_isClosed hb hc, hb]
      · simp [submit_of_isClosed hb hc, hb]
  · by_cases hb : trim x.essence = ""
    · simp [submit_of_blank hb, hb]
    · cases hc : s.isClosed
      · simp [submit_of_not_isClosed hb hc]
      · simp [submit_of_isClosed hb hc, hb]
  · rcases submit_cases s x with ⟨e', hx⟩ | ⟨-, hx⟩
    · exact ⟨by rw [hx], fun ho later => run?_refused ho hx later⟩
    · rw [hx] at he
      cases he

/-- A host whose runner breaks down. -/
def breakingHost : Host :=
  { sampleHost with runner := fun _ _ disk => (disk, ⟨some 0, .panic⟩) }

/-- What is done until one request is under way and another one waits. -/
def busyMoves : List Move :=
  [.submit sampleSubmission, .proceed, .proceed, .proceed, .take, .check, .start,
    .submit sampleSubmission, .proceed, .proceed, .proceed]

theorem refused_without_trace_sample : ∃ s log,
    (new breakingHost sampleWorkspace).run? (busyMoves ++ [.answer]) = some (s, log) ∧
    (s.submit (.prompt " ")).2 = .error .emptyCommand ∧
    (s.submit (.prompt "go")).2 = .error .closed ∧
    (s.submit (.prompt "go")).1 = s := by
  have h : ((new breakingHost sampleWorkspace).run? (busyMoves ++ [.answer])).map
      (fun p => p.1.isClosed) = some true := by decide +kernel
  obtain ⟨⟨s, log⟩, hs, hc⟩ := Option.map_eq_some_iff.1 h
  obtain ⟨-, hempty, -⟩ := refused_without_trace hs (.prompt " ")
  obtain ⟨-, -, hclosed, -, htrace⟩ := refused_without_trace hs (.prompt "go")
  have hgo := hclosed.2 ⟨by decide +kernel, hc⟩
  exact ⟨s, log, hs, hempty.2 (by decide +kernel), hgo, (htrace _ hgo).1⟩

end Closed

section Ending

theorem unheld_new (host : Host) (workspace : Workspace) : Unheld (new host workspace) :=
  fun h => by cases h

theorem unheld_of_move (hs : s.Unheld) (h : s.move? m = some (t, notes)) : t.Unheld := by
  have hused (ho : s.isOpen) {P : Prop} (hd : s.dropped) : P := by simp [isOpen, hd] at ho
  cases transition_of_move h with
  | accept ho | append _ ho | setFile _ ho | clear ho | cancel ho => exact hused ho
  | drop ho =>
    have hf : s.deeds = [] := deeds_of_isFree (isFree_of_isOpen ho)
    exact fun _ => hf
  | @proceed deed deeds hd =>
    have hnone (hdrop : s.dropped) : deeds = [] := by simp [hs hdrop] at hd
    cases deed <;> exact hnone
  | _ => exact hs

theorem unheld_of_run (hs : s.Unheld) (h : s.run? moves = some (t, log)) : t.Unheld :=
  @run?_induct (fun _ s => s.Unheld) (fun hs hm => unheld_of_move hs hm) moves [] s t log hs h

theorem gone_stop (hs : s.Unheld) : s.stop.Gone :=
  ⟨rfl, rfl, hs⟩

theorem Gone.isClosed (hs : s.Gone) : s.isClosed :=
  isClosed_iff.2 hs.worker

theorem Gone.still (hs : s.Gone) (hm : m.isWork) : s.move? m = none := by
  have hw := hs.worker
  cases m with
  | take | check | start | notice | answer | route | settle =>
    simp [move?, take?, check?, begin?, notice?, answer?, route?, settle?, hw]
  | _ => cases hm

/-- Without a worker no request gets a reply, only what is due is announced, and what nobody uses
stays as it is. -/
theorem Gone.of_move (hs : s.Gone) (h : s.move? m = some (t, notes)) :
    t.Gone ∧ t.replies = s.replies ∧ (m = .proceed ∨ t.announced = s.announced) ∧
      (s.dropped → t.dropped ∧ t.conversation = s.conversation ∧ t.announced = s.announced) := by
  have hunheld := unheld_of_move hs.unheld h
  have hstill : m.isWork → False := fun hm => by simp [hs.still hm] at h
  have hused (ho : s.isOpen) {P : Prop} (hd : s.dropped) : P := by simp [isOpen, hd] at ho
  cases transition_of_move h with
  | accept ho hc => simp [hs.isClosed] at hc
  | append _ ho | setFile _ ho | clear ho | cancel ho =>
    exact ⟨⟨hs.worker, hs.queue, hunheld⟩, rfl, .inr rfl, hused ho⟩
  | drop ho => exact ⟨⟨hs.worker, hs.queue, hunheld⟩, rfl, .inr rfl, hused ho⟩
  | @proceed deed deeds hd =>
    have hnone (hdrop : s.dropped) {P : Prop} : P := by simp [hs.unheld hdrop] at hd
    cases deed <;>
      exact ⟨⟨hs.worker, hs.queue, hunheld⟩, rfl, .inl rfl, fun hdrop => hnone hdrop⟩
  | stop =>
    refine ⟨gone_stop hs.unheld, ?_, .inr rfl, fun hd => ⟨hd, rfl, rfl⟩⟩
    simp [Session.stop, pending, hs.worker, hs.queue, Worker.job?]
  | take | pass | refrain | start | call | notice | answer | panic | route | tell | reply =>
    exact (hstill rfl).elim
  | _ => exact ⟨⟨hs.worker, hs.queue, hunheld⟩, rfl, .inr rfl, fun hd => ⟨hd, rfl, rfl⟩⟩

theorem Gone.isWork_notes (hs : s.Gone) (h : s.move? m = some (t, notes)) :
    ∀ n ∈ notes, n.isWork = false := by
  have hw := hs.worker
  cases step_of_move h with
  | chore h => cases h <;> simp_all [Worker.Runs]
  | giveUp _ hg => simp [hw, Worker.Runs] at hg
  | discard hg | route hg => simp [hw] at hg
  | stop => simp [hw, Worker.notes, pending, hs.queue, Worker.job?]
  | _ => simp [Note.isWork]

theorem Gone.deserted (hs : s.Gone) : s.Deserted where
  still := fun _ hm => hs.still hm
  silent := fun _ _ _ h => (hs.of_move h).2.2.1
  refuses := fun _ hb => submit_of_isClosed hb hs.isClosed

theorem Gone.of_run (hs : s.Gone) (h : s.run? moves = some (t, log)) :
    t.Deserted ∧ (∀ n ∈ log, n.isWork = false) ∧ t.replies = s.replies ∧
      (s.dropped → t.conversation = s.conversation ∧ t.announced = s.announced) := by
  induction moves generalizing s log with
  | nil =>
    obtain ⟨rfl, rfl⟩ := run?_nil.1 h
    exact ⟨hs.deserted, by simp, rfl, fun _ => ⟨rfl, rfl⟩⟩
  | cons m moves ih =>
    obtain ⟨u, notes, rest, hm, hr, rfl⟩ := run?_cons.1 h
    obtain ⟨hu, hreplies, -, hdropped⟩ := hs.of_move hm
    obtain ⟨ht, hrest, hreplies', hdropped'⟩ := ih hu hr
    refine ⟨ht, fun n hn => ?_, hreplies'.trans hreplies, fun hd => ?_⟩
    · rcases List.mem_append.1 hn with hn | hn
      · exact hs.isWork_notes hm n hn
      · exact hrest n hn
    · obtain ⟨hd', hc, ha⟩ := hdropped hd
      obtain ⟨hc', ha'⟩ := hdropped' hd'
      exact ⟨hc'.trans hc, ha'.trans ha⟩

/-- A key finds the only value there is, if it is there. -/
theorem lookup_of_forall {α : Type} {pairs : List (Nat × α)} {a : α}
    (ha : ∀ p ∈ pairs, p.2 = a) (h : id ∈ pairs.map Prod.fst) : pairs.lookup id = some a := by
  cases hl : pairs.lookup id with
  | none =>
    obtain ⟨p, hp, rfl⟩ := List.mem_map.1 h
    have := List.lookup_eq_none_iff.1 hl p hp
    simp at this
  | some found =>
    obtain ⟨before, after, rfl, -⟩ := List.lookup_eq_some_iff.1 hl
    rw [← ha (id, found) (by simp)]

/-- When the worker is stopped, the requests without a reply are told that the session is closed,
and the others keep theirs. -/
theorem Orderly.reply?_stop (hs : Orderly s) (h : id < s.accepted) :
    s.stop.reply? id = some ((s.reply? id).getD (.error .closed)) := by
  have hrange := hs
  rw [Orderly, decided_append_undecided] at hrange
  let told := (s.pending.map fun job => (job.id, (.error .closed : Reply))).reverse
  have hids : told.map Prod.fst = (s.pending.map Job.id).reverse := by
    simp [told, Function.comp_def]
  have hsplit : s.stop.reply? id = (told.lookup id).or (s.reply? id) := List.lookup_append
  rw [hsplit]
  cases hr : s.reply? id with
  | some reply =>
    have hnone : told.lookup id = none := by
      refine List.lookup_eq_none_iff.2 fun p hp => ?_
      have hnodup := List.nodup_range (n := s.accepted)
      rw [← hrange, List.nodup_append] at hnodup
      have hpending : p.1 ∈ s.pending.map Job.id := by
        rw [← List.mem_reverse, ← hids]
        exact List.mem_map_of_mem hp
      have hreplied : id ∈ (s.replies.map Prod.fst).reverse :=
        List.mem_reverse.2 (List.mem_map.2 ⟨_, mem_of_reply? hr, rfl⟩)
      simpa using hnodup.2.2 id hreplied p.1 hpending
    rw [hnone]
    rfl
  | none =>
    have hmem : id ∈ told.map Prod.fst := by
      rw [hids, List.mem_reverse]
      rw [← List.mem_range, ← hrange, List.mem_append, List.mem_reverse] at h
      refine h.resolve_left fun hin => ?_
      obtain ⟨⟨_, reply⟩, hreply, rfl⟩ := List.mem_map.1 hin
      exact reply?_eq_none.1 hr reply hreply
    rw [lookup_of_forall (a := .error .closed) (by simp [told]) hmem]
    rfl

theorem move?_stop (hd : s.dropped) : s.move? .stop = some (s.stop, s.workNotes s.stop) := by
  rw [move?, if_pos hd]

theorem cleanEnd_stop (hs : Orderly s) (hf : SteadyFiles s) (hu : s.Unheld) :
    CleanEnd s s.workspace.disk s.stop := by
  have hrunning {job : Job} {call : Call} (hw : s.worker = .running job call) :
      call.file.Steady ∧ s.stop.workspace.disk = call.file.giveUp s.workspace.disk := by
    obtain ⟨hc, hr⟩ := calls_of_running hw
    exact ⟨hf call (by simp [hc]), congrArg Workspace.disk hr⟩
  constructor
  · exact fun _ h => hs.reply?_stop h
  · intro job call hw
    obtain ⟨hsteady, hdisk⟩ := hrunning hw
    exact hsteady.givenUp_iff.2 hdisk
  · intro job call hw hreached
    obtain ⟨hsteady, hdisk⟩ := hrunning hw
    rw [hdisk, hsteady.file?_giveUp hreached, if_pos rfl]
  · rfl
  · rfl
  · exact fun _ _ _ h => (gone_stop hu).of_run h

/-- What goes on around a session changes no more of it than the disk, the time and the runs past
the queue. -/
theorem frame_of_outside (hm : ∀ m ∈ moves, m.isOutside) (h : s.run? moves = some (t, log)) :
    ∃ workspace directs directReplies, t = { s with workspace, directs, directReplies } := by
  induction moves generalizing s log with
  | nil =>
    obtain ⟨rfl, -⟩ := run?_nil.1 h
    exact ⟨_, _, _, rfl⟩
  | cons m moves ih =>
    obtain ⟨u, notes, rest, hmove, hr, -⟩ := run?_cons.1 h
    have hout := hm m List.mem_cons_self
    obtain ⟨workspace, directs, directReplies, rfl⟩ :=
      ih (fun m' hm' => hm m' (List.mem_cons_of_mem _ hm')) hr
    cases transition_of_move hmove with
    | endDirect | elapse | disturb => exact ⟨_, _, _, rfl⟩
    | _ => cases hout

/-- Whatever was done with a session before, its worker can be stopped when the session was dropped
and nobody moved since but the world around it, and goes for good when the runner breaks down during
the run it waits for. Both are clean ends: each request without a reply is told that the session is
closed, and the others keep their replies; the request file is removed, if its path leads to it; the
conversation and the events are as before; and nothing comes from the worker any more. -/
theorem clean_end (h : (new host workspace).run? moves = some (s, log)) :
    (∀ outside u notes, (∀ m ∈ outside, m.isOutside) →
      s.run? (.drop :: outside) = some (u, notes) →
      ∃ t last, u.move? .stop = some (t, last) ∧ t.dropped ∧ CleanEnd s u.workspace.disk t) ∧
    ∀ job call, s.worker = .running job call → call.result? s.host = none →
      call.timer ≤ s.workspace.now →
      ∃ t last, s.move? .answer = some (t, last) ∧ CleanEnd s s.workspace.disk t := by
  have hsound := sound_of_run h
  have hsteady := steadyFiles_of_run h
  have hunheld := unheld_of_run (unheld_new host workspace) h
  refine ⟨fun outside u notes hout hu => ?_, fun job call hw hr ht => ?_⟩
  · have hsteady' : SteadyFiles u := steadyFiles_of_run (run?_append.2 ⟨s, log, notes, h, hu, rfl⟩)
    obtain ⟨v, new, rest, hdrop, hv, -⟩ := run?_cons.1 hu
    obtain ⟨w, directs, directReplies, rfl⟩ := frame_of_outside hout hv
    have hu := unheld_of_run hunheld hu
    simp only [move?] at hdrop
    split_ifs at hdrop with ho
    cases hdrop
    have hend := cleanEnd_stop (s := { s.drop with workspace := w, directs, directReplies })
      hsound.orderly hsteady' hu
    exact ⟨_, _, move?_stop rfl, rfl, hend.replied, hend.givenUp, hend.removed, hend.conversation,
      hend.announced, hend.after⟩
  · have hanswer : s.answer? = some s.stop := by simp [answer?, hw, hr, ht]
    exact ⟨s.stop, _, by rw [move?, hanswer, Option.map_some],
      cleanEnd_stop hsound.orderly hsteady hunheld⟩

/-- One session is dropped while its worker waits, the other one meets a runner that breaks down. -/
theorem clean_end_sample :
    (∃ s log u notes t last, (new silentHost sampleWorkspace).run? busyMoves = some (s, log) ∧
      s.run? [.drop, .elapse 5] = some (u, notes) ∧ u.move? .stop = some (t, last) ∧
      t.reply? 0 = some (.error .closed) ∧ t.reply? 1 = some (.error .closed)) ∧
    ∃ s log t last, (new breakingHost sampleWorkspace).run? busyMoves = some (s, log) ∧
      s.move? .answer = some (t, last) ∧ t.reply? 0 = some (.error .closed) ∧
      t.reply? 1 = some (.error .closed) := by
  have hreplies {s t : Session} {d : Disk} (h : CleanEnd s d t) (ha : s.accepted = 2)
      (h₀ : (s.reply? 0).isNone) (h₁ : (s.reply? 1).isNone) :
      t.reply? 0 = some (.error .closed) ∧ t.reply? 1 = some (.error .closed) := by
    rw [h.replied 0 (by omega), h.replied 1 (by omega), Option.isNone_iff_eq_none.1 h₀,
      Option.isNone_iff_eq_none.1 h₁]
    exact ⟨rfl, rfl⟩
  constructor
  · have h : ((new silentHost sampleWorkspace).run? busyMoves).bind (fun p =>
        (p.1.run? [.drop, .elapse 5]).map fun _ =>
          (p.1.accepted, (p.1.reply? 0).isNone, (p.1.reply? 1).isNone)) =
        some (2, true, true) := by decide +kernel
    obtain ⟨⟨s, log⟩, hs, h⟩ := Option.bind_eq_some_iff.1 h
    obtain ⟨⟨u, notes⟩, hu, h⟩ := Option.map_eq_some_iff.1 h
    simp only [Prod.mk.injEq] at h
    obtain ⟨t, last, ht, -, hend⟩ := (clean_end hs).1 [.elapse 5] u notes
      (by simp [Move.isOutside]) hu
    exact ⟨s, log, u, notes, t, last, hs, hu, ht, hreplies hend h.1 h.2.1 h.2.2⟩
  · have h : ((new breakingHost sampleWorkspace).run? busyMoves).bind (fun p =>
        p.1.worker.call?.map fun call => (p.1.accepted, (p.1.reply? 0).isNone,
          (p.1.reply? 1).isNone, (call.result? p.1.host).isNone,
          decide (call.timer ≤ p.1.workspace.now))) =
        some (2, true, true, true, true) := by decide +kernel
    obtain ⟨⟨s, log⟩, hs, h⟩ := Option.bind_eq_some_iff.1 h
    obtain ⟨call, hcall, h⟩ := Option.map_eq_some_iff.1 h
    simp only [Prod.mk.injEq] at h
    obtain ⟨ha, h₀, h₁, hnone, htimer⟩ := h
    obtain ⟨job, hw⟩ := running_of_call? hcall
    obtain ⟨t, last, ht, hend⟩ := (clean_end hs).2 job call hw
      (Option.isNone_iff_eq_none.1 hnone) (of_decide_eq_true htimer)
    exact ⟨s, log, t, last, hs, ht, hreplies hend ha h₀ h₁⟩

/-- A host whose runner breaks down after it removed what the paths of request files lead through. -/
def collapsingHost : Host :=
  { detourHost with runner := fun _ _ disk => (disk.erase ["sub"], ⟨some 0, .panic⟩) }

/-- Where the path of the request file does not lead to it any more, the file stays, whether the
session is dropped or the runner breaks down. -/
theorem clean_end_leaves_file : ∃ s log job call,
    (new collapsingHost sampleWorkspace).run? busyMoves = some (s, log) ∧
    s.worker = .running job call ∧
    (∃ t notes, s.run? [.drop, .stop] = some (t, notes) ∧
      (t.workspace.disk.file? call.file.location).isSome) ∧
    ∃ t last, s.move? .answer = some (t, last) ∧ t.isClosed ∧
      (t.workspace.disk.file? call.file.location).isSome := by
  have h : ((new collapsingHost sampleWorkspace).run? busyMoves).bind (fun p =>
      p.1.worker.call?.map fun call =>
        ((p.1.run? [.drop, .stop]).map fun q =>
          (q.1.workspace.disk.file? call.file.location).isSome,
        (p.1.move? .answer).map fun q =>
          (q.1.isClosed, (q.1.workspace.disk.file? call.file.location).isSome))) =
      some (some true, some (true, true)) := by decide +kernel
  obtain ⟨⟨s, log⟩, hs, h⟩ := Option.bind_eq_some_iff.1 h
  obtain ⟨call, hcall, h⟩ := Option.map_eq_some_iff.1 h
  obtain ⟨job, hw⟩ := running_of_call? hcall
  rw [Prod.mk.injEq, Option.map_eq_some_iff, Option.map_eq_some_iff] at h
  obtain ⟨⟨⟨t, notes⟩, ht, hleft⟩, ⟨t', last⟩, ht', hleft'⟩ := h
  rw [Prod.mk.injEq] at hleft'
  exact ⟨s, log, job, call, hs, hw, ⟨t, notes, ht, hleft⟩, t', last, ht', hleft'.1, hleft'.2⟩

end Ending

end Session

end AgentConsole
