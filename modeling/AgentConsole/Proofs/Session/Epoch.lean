import AgentConsole.Proofs.Session.Cancellation
import AgentConsole.Proofs.Session.Transition

/-!
# The epochs of requests

The epoch of a conversation counts how often all that was asked has been given up, and a request is
of the epoch of its acceptance. The requests pending only go from the front, and new ones come at
the end (`pending_step`); so until the epochs come round they are in the order of their epochs, and
none is of a later one than the conversation (`Dated`). Those of earlier epochs are therefore all
ahead of the others (`exists_stale_fresh`). The worker sees the epoch of the conversation whenever
nobody holds that, and while a request is being accepted it sees the epoch of this request
(`published_of_accepting`).
-/

namespace AgentConsole

open AgentConsole.Agent

namespace Session

/-- The requests pending are in the order of their epochs, and of no later one than the
conversation. -/
structure InEpochOrder (s : Session) : Prop where
  sorted : s.pending.Pairwise fun job job' => job.epoch ≤ job'.epoch
  bounded : ∀ job ∈ s.pending, job.epoch ≤ s.conversation.epoch

/-- Somebody holds the conversation whenever one of these moves is made. -/
def isHeldAlong (s : Session) : List Move → Bool
  | [] => true
  | m :: moves => !s.isFree && (s.move? m).all fun p => p.1.isHeldAlong moves

variable {host : Host} {workspace : Workspace} {moves : List Move}
variable {s t : Session} {m : Move} {log notes : Log}

section Order

/-- Requests come at the end and go from the front. -/
theorem pending_step (h : Step s t notes) : t.pending <:+ s.pending ∨
    ∃ x, t.pending = s.pending ++ [s.jobOf x] ∧ t.conversation.epoch = s.conversation.epoch := by
  have hsame {worker : Worker} (hj : worker.job? = s.worker.job?) :
      worker.job?.toList ++ s.queue <:+ s.pending := by
    rw [hj]
    exact List.suffix_refl _
  cases h with
  | chore h =>
    refine .inl ?_
    cases h with
    | quiet => exact List.suffix_refl _
    | @take job queue hw hq =>
      have he : s.pending = [job] ++ queue := by rw [pending, hw, hq]; rfl
      exact he ▸ List.suffix_refl _
    | pass hw | call _ _ hw | tell hw => exact hsame (by rw [hw]; rfl)
    | answer workspace outcome hw =>
      rcases hw with hw | ⟨call, hw⟩ <;> exact hsame (by rw [hw]; rfl)
    | reply hw => exact List.suffix_append_of_suffix (List.suffix_refl s.queue)
  | accept x => exact .inr ⟨x, (List.append_assoc _ _ _).symm, asked_epoch _ x⟩
  | giveUp workspace hw =>
    refine .inl ?_
    rcases hw with hw | hw | ⟨call, hw⟩ <;> exact hsame (by rw [hw]; rfl)
  | discard hw | route hw => exact .inl (hsame (by rw [hw]; rfl))
  | stop => exact .inl List.nil_suffix
  | _ => exact .inl (List.suffix_refl _)

/-- The epoch moves on by one whenever all that was asked is given up. -/
theorem epoch_step (h : Step s t notes) :
    t.conversation.epoch = s.conversation.epoch + .ofNat (notes.countP Note.revokes) := by
  have hzero {n : Nat} (hn : n = 0) : s.conversation.epoch = s.conversation.epoch + .ofNat n := by
    rw [hn]
    exact (UInt64.add_zero _).symm
  cases h with
  | chore h =>
    rw [h.frame.2.2.2.1]
    cases h with
    | answer => exact hzero (countP_ended (fun _ => rfl) _)
    | _ => exact hzero rfl
  | accept x => exact (asked_epoch _ x).trans (hzero rfl)
  | clear | cancel => rfl
  | giveUp => exact hzero (countP_ended (fun _ => rfl) _)
  | stop =>
    refine hzero ?_
    rw [List.countP_append, countP_ended fun _ => rfl, countP_closed fun _ _ => rfl]
  | _ => exact hzero rfl

theorem InEpochOrder.step (hs : s.InEpochOrder) (h : Step s t notes)
    (he : s.conversation.epoch ≤ t.conversation.epoch) : t.InEpochOrder := by
  rcases pending_step h with hp | ⟨x, hp, heq⟩
  · exact ⟨hs.sorted.sublist hp.sublist,
      fun job hj => UInt64.le_trans (hs.bounded job (hp.subset hj)) he⟩
  · constructor
    · rw [hp, List.pairwise_append]
      refine ⟨hs.sorted, List.pairwise_singleton _ _, fun job hj job' hj' => ?_⟩
      rw [List.mem_singleton.1 hj']
      exact hs.bounded job hj
    · intro job hj
      rw [hp, List.mem_append, List.mem_singleton] at hj
      rw [heq]
      rcases hj with hj | rfl
      · exact hs.bounded job hj
      · exact UInt64.le_refl _

/-- The epoch counts how often all that was asked has been given up, and orders the requests as long
as it has not come round. -/
structure Dated (log : Log) (s : Session) : Prop where
  epoch : s.conversation.epoch = .ofNat (log.countP Note.revokes)
  order : log.countP Note.revokes < UInt64.size → s.InEpochOrder

theorem dated_new (host : Host) (workspace : Workspace) : Dated [] (.new host workspace) where
  epoch := rfl
  order := fun _ => ⟨List.Pairwise.nil, fun _ hj => by cases hj⟩

theorem dated_step (hs : Dated log s) (h : Step s t notes) : Dated (log ++ notes) t := by
  have he : t.conversation.epoch = .ofNat ((log ++ notes).countP Note.revokes) := by
    rw [epoch_step h, hs.epoch, List.countP_append, UInt64.ofNat_add]
  refine ⟨he, fun hn => ?_⟩
  have hle : log.countP Note.revokes ≤ (log ++ notes).countP Note.revokes := by
    rw [List.countP_append]
    exact Nat.le_add_right _ _
  have hn' : log.countP Note.revokes < UInt64.size := Nat.lt_of_le_of_lt hle hn
  refine (hs.order hn').step h ?_
  rw [UInt64.le_iff_toNat_le, hs.epoch, he, UInt64.toNat_ofNat_of_lt' hn',
    UInt64.toNat_ofNat_of_lt' hn]
  exact hle

theorem dated_of_run (h : (new host workspace).run? moves = some (s, log)) : Dated log s :=
  (sound_induct (dated_new host workspace) (fun _ hs h => dated_step hs h) h).2

/-- Requests in the order of their epochs are those of earlier epochs and then those of the last
one. -/
theorem exists_stale_fresh {jobs : List Job} {epoch : UInt64}
    (hs : jobs.Pairwise fun job job' => job.epoch ≤ job'.epoch)
    (hb : ∀ job ∈ jobs, job.epoch ≤ epoch) : ∃ stale fresh, jobs = stale ++ fresh ∧
      (∀ job ∈ stale, job.epoch ≠ epoch) ∧ ∀ job ∈ fresh, job.epoch = epoch := by
  induction jobs with
  | nil => exact ⟨[], [], rfl, by simp, by simp⟩
  | cons job jobs ih =>
    rw [List.pairwise_cons] at hs
    rw [List.forall_mem_cons] at hb
    by_cases he : job.epoch = epoch
    · refine ⟨[], job :: jobs, rfl, by simp, List.forall_mem_cons.2 ⟨he, fun job' hj => ?_⟩⟩
      exact UInt64.le_antisymm (hb.2 job' hj) (he ▸ hs.1 job' hj)
    · obtain ⟨stale, fresh, rfl, hstale, hfresh⟩ := ih hs.2 hb.2
      exact ⟨job :: stale, fresh, rfl, List.forall_mem_cons.2 ⟨he, hstale⟩, hfresh⟩

end Order

section Holding

/-- While somebody holds the conversation who has no epoch to publish, none is published. -/
theorem published_step_of_held (hf : s.isFree = false) (hd : s.deeds.countP Deed.isPublish = 0)
    (h : Step s t notes) :
    t.published = s.published ∧ t.deeds.countP Deed.isPublish = 0 := by
  have hfree (hs : s.isFree) : t.published = s.published ∧ t.deeds.countP Deed.isPublish = 0 := by
    rw [hf] at hs
    cases hs
  cases h with
  | chore h => exact ⟨h.frame.2.2.1, h.frame.2.1 ▸ hd⟩
  | accept _ ho | append _ ho | setFile _ ho | clear ho | cancel ho | drop ho =>
    exact hfree (isFree_of_isOpen ho)
  | discard _ hs | route _ hs => exact hfree hs
  | publish he => simp [he, Deed.isPublish] at hd
  | announce he => exact ⟨rfl, by simpa [he, Deed.isPublish] using hd⟩
  | giveUp | stop => exact ⟨rfl, hd⟩

theorem published_of_isHeldAlong (hd : s.deeds.countP Deed.isPublish = 0) (hh : s.isHeldAlong moves)
    (h : s.run? moves = some (t, notes)) : t.published = s.published := by
  induction moves generalizing s notes with
  | nil => rw [(run?_nil.1 h).1]
  | cons m moves ih =>
    obtain ⟨u, new, rest, hm, hr, -⟩ := run?_cons.1 h
    simp only [isHeldAlong, hm, Option.all_some, Bool.and_eq_true, Bool.not_eq_true'] at hh
    obtain ⟨hp, hd'⟩ := published_step_of_held hh.1 hd (step_of_move hm)
    exact (ih hd' hh.2 hr).trans hp

/-- While a request is being accepted the epoch published is the one of this request. -/
theorem published_of_accepting (hs : Held s) (ho : s.isOpen) {x : Submission} {id : Nat}
    (h : s.submit x = (t, .ok id)) :
    t.queue = s.queue ++ [s.jobOf x] ∧ s.published = (s.jobOf x).epoch ∧
      ∀ moves u notes, t.isHeldAlong moves → t.run? moves = some (u, notes) →
        u.published = (s.jobOf x).epoch := by
  have hp : s.published = (s.jobOf x).epoch := hs.published_eq (isFree_of_isOpen ho)
  rcases submit_cases s x with ⟨e, he⟩ | ⟨-, he⟩ <;> rw [he] at h <;> cases h
  refine ⟨rfl, hp, fun moves u notes hh hr => ?_⟩
  exact (published_of_isHeldAlong (countP_acceptanceDeeds _ _ x) hh hr).trans hp

end Holding

/-- The epochs are in step. Whenever nobody holds the conversation, the epoch published is the one
of the conversation. If less than 2⁶⁴ times something was cleared or cancelled, the requests pending
are in the order of their epochs and of no later one than the conversation; so those that are out of
date come first, and only such as are not come after them. And when a request is accepted, the epoch
published is the one it is put in the queue with, and stays so as long as the acceptance is being
announced. -/
theorem epochs_in_step (h : (new host workspace).run? moves = some (s, log)) :
    (s.isFree → s.published = s.conversation.epoch) ∧
    (log.countP Note.revokes < UInt64.size →
      s.pending.Pairwise (fun job job' => job.epoch ≤ job'.epoch) ∧
      (∀ job ∈ s.pending, job.epoch ≤ s.conversation.epoch) ∧
      ∃ stale fresh, s.pending = stale ++ fresh ∧
        (∀ job ∈ stale, job.epoch ≠ s.conversation.epoch) ∧
        ∀ job ∈ fresh, job.epoch = s.conversation.epoch) ∧
    ∀ x t id, s.isOpen → s.submit x = (t, .ok id) →
      t.queue = s.queue ++ [s.jobOf x] ∧ s.published = (s.jobOf x).epoch ∧
      ∀ held u notes, t.isHeldAlong held → t.run? held = some (u, notes) →
        u.published = (s.jobOf x).epoch := by
  have hs := sound_of_run h
  refine ⟨hs.held.published_eq, fun hn => ?_,
    fun x t id ho hx => published_of_accepting hs.held ho hx⟩
  have ho := (dated_of_run h).order hn
  exact ⟨ho.sorted, ho.bounded, exists_stale_fresh ho.sorted ho.bounded⟩

/-- What is done before two requests are out of date and a third one is not. -/
def outdatedMoves : List Move :=
  [.submit sampleSubmission, .proceed, .proceed, .proceed, .take,
    .submit sampleSubmission, .proceed, .proceed, .proceed, .cancel, .proceed,
    .submit sampleSubmission, .proceed, .proceed, .proceed]

/-- What is done while a fourth one is being accepted. -/
def acceptingMoves : List Move :=
  [.proceed, .check, .proceed]

theorem epochs_in_step_sample :
    ∃ s log, (new sampleHost sampleWorkspace).run? outdatedMoves = some (s, log) ∧
      s.pending.map Job.epoch = [0, 0, 1] ∧ s.published = s.conversation.epoch ∧
      (∃ stale fresh, s.pending = stale ++ fresh ∧
        (∀ job ∈ stale, job.epoch ≠ s.conversation.epoch) ∧
        ∀ job ∈ fresh, job.epoch = s.conversation.epoch) ∧
      ∃ t u notes, s.submit sampleSubmission = (t, .ok 3) ∧
        t.run? acceptingMoves = some (u, notes) ∧
        u.published = (s.jobOf sampleSubmission).epoch := by
  have h : ((new sampleHost sampleWorkspace).run? outdatedMoves).map (fun p =>
      let q := p.1.submit sampleSubmission
      (p.1.isOpen, p.2.countP Note.revokes, p.1.pending.map Job.epoch, q.2.toOption,
        q.1.isHeldAlong acceptingMoves, (q.1.run? acceptingMoves).isSome)) =
      some (true, 1, [0, 0, 1], some 3, true, true) := by decide +kernel
  obtain ⟨⟨s, log⟩, h, hf⟩ := Option.map_eq_some_iff.1 h
  simp only [Prod.mk.injEq] at hf
  obtain ⟨ho, hn, hp, hid, hh, hr⟩ := hf
  obtain ⟨hfree, horder, haccept⟩ := epochs_in_step h
  obtain ⟨⟨u, notes⟩, hr⟩ := Option.isSome_iff_exists.1 hr
  rcases hx : s.submit sampleSubmission with ⟨t, e | id⟩ <;> rw [hx] at hid hh hr <;> cases hid
  exact ⟨s, log, h, hp, hfree (isFree_of_isOpen ho), (horder (by rw [hn]; decide)).2.2, t, u,
    notes, hx, hr, (haccept _ t 3 ho hx).2.2 _ u notes hh hr⟩

end Session

end AgentConsole
