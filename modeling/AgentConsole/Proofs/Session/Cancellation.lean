import AgentConsole.Proofs.Session.Lifecycle
import Mathlib.Data.List.TakeWhile

/-!
# Cancellation

Clearing or cancelling begins a new epoch, which is published before anything else can be done with
the conversation (`countP_published`). While a request is undecided, the epoch published has moved
on from its own by one for each time since its acceptance (`Standing`). The worker gives a request
up only when it sees another epoch, and takes an outcome into a conversation of the request's epoch
only; so a request is cancelled exactly if something was published before its outcome was added,
unless that happened so often that the epochs have come round (`Standing.of_not_revoked`,
`Standing.of_revoked`).
-/

namespace AgentConsole

open AgentConsole.Agent

namespace Session

/-- No run of the host breaks down. -/
def NeverPanics (host : Host) : Prop :=
  ∀ count invocation disk, (host.runner count invocation disk).2.ending ≠ .panic

/-- The deed tells everybody that all that was asked is given up. -/
def Deed.isPublish : Deed → Bool
  | publish _ => true
  | announce _ => false

namespace Note

/-- All that was asked is given up. -/
def revokes : Note → Bool
  | cleared | cancelled => true
  | _ => false

/-- Everybody can see that all that was asked is given up. -/
def isPublished : Note → Bool
  | published _ => true
  | _ => false

/-- The request was accepted. -/
def accepts (id : Nat) : Note → Bool
  | accepted id' _ => id' = id
  | _ => false

/-- The outcome of the request was added to the history, or its reply was given. -/
def settles (id : Nat) : Note → Bool
  | routed id' _ | replied id' _ => id' = id
  | _ => false

end Note

/-- The notes from the acceptance of a request on. -/
def since (id : Nat) (log : Log) : Log :=
  log.dropWhile fun n => !n.accepts id

/-- How many epochs are published in a log before the request is settled. -/
def publications (id : Nat) (log : Log) : Nat :=
  (log.takeWhile fun n => !n.settles id).countP Note.isPublished

/-- How many times all that was asked has been given up between the acceptance of a request and its
settlement. -/
def revocations (id : Nat) (log : Log) : Nat :=
  publications id (since id log)

variable {s t : Session} {log notes : Log} {id : Nat} {job : Job} {reply : Reply}

theorem countP_ended {p : Note → Bool} (hp : ∀ id, p (.ended id) = false) (w : Worker) :
    (w.notes .idle).countP p = 0 := by
  rw [Worker.notes_idle, List.countP_map]
  exact List.countP_eq_zero.2 fun id _ => by simp [hp]

theorem countP_closed {p : Note → Bool} (hp : ∀ id reply, p (.replied id reply) = false)
    (jobs : List Job) (reply : Reply) :
    (jobs.map fun job => Note.replied job.id reply).countP p = 0 := by
  rw [List.countP_map]
  exact List.countP_eq_zero.2 fun job _ => by simp [hp]

theorem countP_acceptanceDeeds (c : Conversation) (id : Nat) (x : Submission) :
    (acceptanceDeeds c id x).countP Deed.isPublish = 0 := by
  unfold acceptanceDeeds
  cases x.newFile? <;> rfl

theorem published_step (h : Step s t notes) :
    notes.countP Note.revokes + s.deeds.countP Deed.isPublish =
      notes.countP Note.isPublished + t.deeds.countP Deed.isPublish := by
  cases h with
  | chore h =>
    rw [h.frame.2.1]
    cases h with
    | answer => rw [countP_ended fun _ => rfl, countP_ended fun _ => rfl]
    | _ => rfl
  | accept x ho =>
    rw [deeds_of_isFree (isFree_of_isOpen ho), countP_acceptanceDeeds]
    rfl
  | append m ho | setFile a ho | clear ho | cancel ho =>
    rw [deeds_of_isFree (isFree_of_isOpen ho)]
    rfl
  | publish hd | announce hd =>
    rw [hd]
    simp [List.countP_cons, Note.revokes, Note.isPublished, Deed.isPublish, Nat.add_comm]
  | giveUp => rw [countP_ended fun _ => rfl, countP_ended fun _ => rfl]
  | drop | discard | route => rfl
  | stop =>
    rw [List.countP_append, List.countP_append, countP_ended fun _ => rfl,
      countP_ended fun _ => rfl, countP_closed fun _ _ => rfl, countP_closed fun _ _ => rfl]
    rfl

/-- Whatever was cleared or cancelled has been published, or will be before anything else can be
done with the conversation. -/
theorem countP_published {host : Host} {workspace : Workspace} {moves : List Move}
    (h : (new host workspace).run? moves = some (s, log)) :
    log.countP Note.revokes = log.countP Note.isPublished + s.deeds.countP Deed.isPublish := by
  refine (sound_induct (P := fun log s => log.countP Note.revokes =
    log.countP Note.isPublished + s.deeds.countP Deed.isPublish) rfl ?_ h).2
  intro log s t notes _ hs h
  have := published_step h
  rw [List.countP_append, List.countP_append]
  omega

section Alive

theorem host_run {moves : List Move} (h : s.run? moves = some (t, log)) : t.host = s.host :=
  @run?_induct (fun _ u => u.host = s.host) (fun hu hm => (host_step (step_of_move hm)).trans hu)
    moves [] s t log rfl h

theorem dropped_step (h : Step s t notes) (ht : t.dropped = false) : s.dropped = false := by
  cases h with
  | chore h => rwa [h.frame.2.2.2.2] at ht
  | drop => cases ht
  | _ => exact ht

theorem ending_of_start {host : Host} (hp : NeverPanics host) {w w' : Workspace} {r : Request}
    {call : Call} (h : host.start w r = (w', .called call)) : call.answer.ending ≠ .panic := by
  unfold Host.start at h
  split at h
  · cases h
  · split at h
    · cases h
    · cases h
      exact hp _ _ _

/-- The session is in use and its worker goes on. -/
def Live (s : Session) : Prop :=
  s.isClosed = false ∧ s.dropped = false

theorem Live.of_step (h : Step s t notes) (ht : t.Live) : s.Live :=
  ⟨Bool.eq_false_iff.2 fun hc => Bool.eq_false_iff.1 ht.1 (isClosed_step hc h),
    dropped_step h ht.2⟩

/-- The worker goes on, and will do so whatever becomes of the run it waits for. -/
def Alive (s : Session) : Prop :=
  s.isClosed = false ∧ ∀ job call, s.worker = .running job call → call.result? s.host ≠ none

theorem result?_ne_none {host : Host} {call : Call} (h : call.answer.ending ≠ .panic) :
    call.result? host ≠ none := by
  unfold Call.result?
  cases call.answersAt? with
  | none => simp
  | some due => cases he : call.answer.ending <;> simp_all

theorem alive_step (hp : NeverPanics s.host) (hs : Alive s) (h : Step s t notes)
    (ht : t.dropped = false) : Alive t := by
  have hd := dropped_step h ht
  refine ⟨?_, ?_⟩
  · have hc := hs.1
    unfold isClosed at hc ⊢
    cases h with
    | chore h => cases h <;> simp_all
    | stop h =>
      rcases h with h | ⟨job, call, hw, hr⟩
      · simp [hd] at h
      · exact absurd hr (hs.2 job call hw)
    | _ => first | exact hc | rfl
  · intro job call hw
    rw [host_step h]
    cases h with
    | chore h =>
      cases h with
      | quiet => exact hs.2 job call hw
      | call workspace call' hw' hstart =>
        cases hw
        exact result?_ne_none (ending_of_start hp hstart)
      | _ => cases hw
    | accept | append | setFile | clear | cancel | drop | publish | announce =>
      exact hs.2 job call hw
    | giveUp | discard | route | stop => cases hw

end Alive

section Standing

theorem exists_accepts (hl : Logged log s) (h : id < s.accepted) : ∃ n ∈ log, n.accepts id := by
  rw [← List.mem_range, ← hl.accepted, List.mem_filterMap] at h
  obtain ⟨n, hn, hid⟩ := h
  refine ⟨n, hn, ?_⟩
  cases n <;> simp_all [Note.accepted?, Note.accepts]

theorem since_append (h : ∃ n ∈ log, n.accepts id) :
    since id (log ++ notes) = since id log ++ notes := by
  obtain ⟨n, hn, hid⟩ := h
  have hne : ¬(log.dropWhile fun n => !n.accepts id).isEmpty := by
    rw [List.isEmpty_iff, List.dropWhile_eq_nil_iff]
    intro hall
    simpa [hid] using hall n hn
  rw [since, List.dropWhile_append, if_neg hne]
  rfl

/-- Only what is noted before the request is settled counts. -/
theorem publications_append (id : Nat) (log notes : Log) : publications id (log ++ notes) =
    publications id log + if log.any (Note.settles id) then 0 else publications id notes := by
  induction log with
  | nil => simp [publications]
  | cons n log ih =>
    unfold publications at ih ⊢
    by_cases hn : n.settles id
    · simp [hn]
    · simp only [Bool.not_eq_true] at hn
      simp only [List.cons_append, List.takeWhile_cons, hn, Bool.not_false, if_true,
        List.countP_cons, ih, List.any_cons, Bool.false_or]
      omega

theorem publications_of_open (h : notes.any (Note.settles id) = false) :
    publications id notes = notes.countP Note.isPublished := by
  rw [publications, List.takeWhile_eq_self_iff.2]
  intro n hn
  simpa using List.any_eq_false.1 h n hn

theorem decided_of_settles (h : Step s t notes) (hn : notes.any (Note.settles id)) :
    ∃ reply, (id, reply) ∈ t.decided := by
  obtain ⟨n, hm, hid⟩ := List.any_eq_true.1 hn
  cases n with
  | routed id' m =>
    obtain rfl := of_decide_eq_true hid
    rcases routed_of_step h with hr | ⟨job, m', reply, -, hd, rfl⟩
    · cases List.filterMap_eq_nil_iff.1 hr _ hm
    · cases List.mem_singleton.1 hm
      exact ⟨reply, hd ▸ List.mem_cons_self⟩
  | replied id' reply =>
    obtain rfl := of_decide_eq_true hid
    refine ⟨reply, mem_decided_of_mem_replies ?_⟩
    rw [replies_step h]
    exact List.mem_append_left _ (List.mem_reverse.2 (List.mem_filterMap.2 ⟨_, hm, rfl⟩))
  | _ => cases hid

theorem published_eq_step (hh : Held s) (h : Step s t notes) :
    t.published = s.published + .ofNat (notes.countP Note.isPublished) := by
  have hzero : ∀ {n : Nat}, n = 0 → s.published = s.published + .ofNat n := by
    rintro _ rfl
    exact (UInt64.add_zero s.published).symm
  cases h with
  | chore h =>
    rw [h.frame.2.2.1]
    cases h with
    | answer => exact hzero (countP_ended (fun _ => rfl) _)
    | _ => exact hzero rfl
  | publish hd => exact (hh.of_publish hd).2.2
  | giveUp => exact hzero (countP_ended (fun _ => rfl) _)
  | stop =>
    refine hzero ?_
    rw [List.countP_append, countP_ended fun _ => rfl, countP_closed fun _ _ => rfl]
  | _ => exact hzero rfl

theorem mem_decided_step {r : Nat × Reply} (h : Step s t notes) (hc : t.isClosed = false)
    (hr : r ∈ s.decided) : r ∈ t.decided := by
  rcases shift_of_step h with
    ⟨-, hd, -⟩ | ⟨x, -, hd, -⟩ | ⟨job, reply, -, -, hd, -⟩ | ⟨-, -, -, hcl⟩
  · rwa [hd]
  · rwa [hd]
  · rw [hd]
    exact List.mem_cons_of_mem _ hr
  · simp [hc] at hcl

/-- How a request stands, given what was noted since its acceptance. -/
inductive Standing (id : Nat) (log : Log) (s : Session) : Prop
  | waiting {job : Job} (hj : job ∈ s.undecided) (hid : job.id = id)
      (hl : log.any (Note.settles id) = false)
      (hp : s.published = job.epoch + .ofNat (publications id log))
  | revoked (hd : (id, .error .cancelled) ∈ s.decided) (hn : 0 < publications id log)
  | kept (outcome : Except AgentError String) (hd : (id, outcome.mapError .agent) ∈ s.decided)
      (hl : log.any (Note.settles id)) (hn : UInt64.ofNat (publications id log) = 0)

/-- A request that is given up when another epoch than its own is published was revoked. -/
theorem publications_pos {epoch published : UInt64}
    (hp : published = epoch + .ofNat (publications id log)) (hne : published ≠ epoch) :
    0 < publications id log := by
  refine Nat.pos_of_ne_zero fun h₀ => hne ?_
  rw [hp, h₀]
  exact UInt64.add_zero epoch

theorem eq_of_undecided? {job' : Job} (hw : s.worker.undecided? = some job')
    (hj : job ∈ s.undecided) (hn : job ∉ s.queue) : job = job' := by
  rw [(undecided_cons hw).1] at hj
  exact (List.mem_cons.1 hj).resolve_right hn

/-- A request that a step decides is revoked if another epoch than its own is published, and kept
otherwise. -/
theorem standing_decided {past : Log} (hs : Sound past s) (h : Step s t notes)
    (ht : t.dropped = false) (hc : t.isClosed = false) (hj : job ∈ s.undecided)
    (hjt : job ∉ t.undecided) (hp : s.published = job.epoch + .ofNat (publications job.id log)) :
    Standing job.id (log ++ notes) t := by
  have hle : publications job.id log ≤ publications job.id (log ++ notes) := by
    rw [publications_append]
    exact Nat.le_add_right _ _
  have hdrop := dropped_step h ht
  cases h with
  | chore h => exact absurd (h.undecided.1 ▸ hj) hjt
  | accept x =>
    refine absurd ?_ hjt
    rw [undecided, ← List.append_assoc]
    exact List.mem_append_left _ hj
  | append | setFile | clear | cancel | drop | publish | announce => exact absurd hj hjt
  | @giveUp job' workspace hw hpast =>
    obtain rfl := eq_of_undecided? (Worker.undecided_of_runs hw) hj hjt
    have hne : s.published ≠ job.epoch := by simpa [isPast, hdrop] using hpast
    exact .revoked List.mem_cons_self (Nat.lt_of_lt_of_le (publications_pos hp hne) hle)
  | @discard job' outcome hw hf he =>
    obtain rfl := eq_of_undecided? (by rw [hw]; rfl) hj hjt
    have hne : s.published ≠ job.epoch := by rwa [hs.held.published_eq hf]
    exact .revoked List.mem_cons_self (Nat.lt_of_lt_of_le (publications_pos hp hne) hle)
  | @route job' outcome hw hf he =>
    obtain rfl := eq_of_undecided? (by rw [hw]; rfl) hj hjt
    refine .kept outcome List.mem_cons_self (by simp [Note.settles]) ?_
    have heq : s.published = job.epoch := by rw [hs.held.published_eq hf, he]
    have hn : publications job.id [.routed job.id (answerMessage outcome)] = 0 := by
      simp [publications, Note.settles]
    rw [publications_append, hn, ite_self, Nat.add_zero]
    exact UInt64.left_eq_add.1 (heq ▸ hp)
  | stop => simp [isClosed, stop] at hc

theorem standing_step {past : Log} (hs : Sound past s) (h : Step s t notes) (ht : t.dropped = false)
    (hc : t.isClosed = false) (hst : Standing id log s) : Standing id (log ++ notes) t := by
  rcases hst with ⟨hj, rfl, hl, hp⟩ | ⟨hd, hn⟩ | ⟨outcome, hd, hl, hn⟩
  · rename_i job
    by_cases hjt : job ∈ t.undecided
    · have hns : notes.any (Note.settles job.id) = false := by
        refine Bool.eq_false_iff.2 fun hn => ?_
        obtain ⟨reply, hr⟩ := decided_of_settles h hn
        have := (orderly_step hs.orderly h).lt hr hjt
        omega
      refine .waiting hjt rfl (by rw [List.any_append, hl, hns]; rfl) ?_
      rw [publications_append, hl, if_neg (by simp), publications_of_open hns,
        published_eq_step hs.held h, hp, UInt64.ofNat_add, UInt64.add_assoc]
    · exact standing_decided hs h ht hc hj hjt hp
  · refine .revoked (mem_decided_step h hc hd) (Nat.lt_of_lt_of_le hn ?_)
    rw [publications_append]
    exact Nat.le_add_right _ _
  · refine .kept outcome (mem_decided_step h hc hd) (by rw [List.any_append, hl]; rfl) ?_
    rw [publications_append, if_pos hl]
    exact hn

end Standing

theorem accepted_of_step (h : Step s t notes) : t.accepted = s.accepted ∨
    ∃ x, s.isFree ∧ notes = [.accepted s.accepted x] ∧ t.accepted = s.accepted + 1 ∧
      t.undecided = s.undecided ++ [s.jobOf x] ∧ t.published = s.published := by
  cases h with
  | chore h => exact .inl h.frame.1
  | accept x ho =>
    refine .inr ⟨x, isFree_of_isOpen ho, rfl, rfl, ?_, rfl⟩
    simp [undecided]
  | _ => exact .inl rfl

theorem since_accepted (hl : Logged log s) (x : Submission) :
    since s.accepted (log ++ [.accepted s.accepted x]) = [.accepted s.accepted x] := by
  have hn : ∀ n ∈ log, !n.accepts s.accepted := by
    intro n hn
    have hmem : ∀ id ∈ log.filterMap Note.accepted?, id < s.accepted := by
      rw [hl.accepted]
      exact fun id hid => List.mem_range.1 hid
    cases n with
    | accepted id x =>
      have := hmem id (List.mem_filterMap.2 ⟨_, hn, rfl⟩)
      simp [Note.accepts]
      omega
    | _ => rfl
  rw [since, List.dropWhile_append_of_pos hn]
  simp [Note.accepts]

/-- While the session is not dropped, its worker goes on and every request accepted stands as the
log says. -/
def AllStanding (log : Log) (s : Session) : Prop :=
  s.dropped = false → Alive s ∧ ∀ id < s.accepted, Standing id (since id log) s

/-- The requests accepted go on to stand as the log says. -/
theorem standing_of_step (hs : Sound log s)
    (hst : ∀ id < s.accepted, Standing id (since id log) s) (h : Step s t notes) (ht : t.Live) :
    ∀ id < t.accepted, Standing id (since id (log ++ notes)) t := by
  intro id hid
  by_cases hold : id < s.accepted
  · rw [since_append (exists_accepts hs.logged hold)]
    exact standing_step hs h ht.2 ht.1 (hst id hold)
  · rcases accepted_of_step h with he | ⟨x, hf, rfl, he, hu, hpub⟩
    · omega
    · obtain rfl : id = s.accepted := by omega
      rw [since_accepted hs.logged]
      have hj : s.jobOf x ∈ t.undecided := by simp [hu]
      refine .waiting hj rfl rfl ?_
      rw [hpub, hs.held.published_eq hf]
      exact (UInt64.add_zero s.conversation.epoch).symm

theorem allStanding_step (hp : NeverPanics s.host) (hs : Sound log s) (ha : AllStanding log s)
    (h : Step s t notes) : AllStanding (log ++ notes) t := by
  intro ht
  obtain ⟨halive, hst⟩ := ha (dropped_step h ht)
  have halive' := alive_step hp halive h ht
  exact ⟨halive', standing_of_step hs hst h ⟨halive'.1, ht⟩⟩

theorem allStanding_of_run {host : Host} {workspace : Workspace} {moves : List Move}
    (hp : NeverPanics host) (h : (new host workspace).run? moves = some (s, log)) :
    AllStanding log s := by
  have h₀ : AllStanding [] (new host workspace) := fun _ =>
    ⟨⟨rfl, fun _ _ hw => by cases hw⟩, fun _ hid => absurd hid (Nat.not_lt_zero _)⟩
  have hs := sound_induct (P := fun log s => NeverPanics s.host ∧ AllStanding log s) ⟨hp, h₀⟩
    (fun hs ha h => ⟨(host_step h).symm ▸ ha.1, allStanding_step ha.1 hs ha.2 h⟩) h
  exact hs.2.2

/-- In a session in use every request accepted stands as the log says. -/
theorem standing_of_run {host : Host} {workspace : Workspace} {moves : List Move}
    (h : (new host workspace).run? moves = some (s, log)) (hl : s.Live) (hid : id < s.accepted) :
    Standing id (since id log) s := by
  have hs := sound_induct
    (P := fun log s => s.Live → ∀ id < s.accepted, Standing id (since id log) s)
    (fun _ _ hid => absurd hid (Nat.not_lt_zero _))
    (fun hs hst h ht => standing_of_step hs (hst (ht.of_step h)) h ht) h
  exact hs.2 hl id hid

theorem mem_of_announced {events : List Event} (h : s.tidings id = events) {e : Event}
    (hm : e ∈ s.announced) (he : e.request? = some id) : e ∈ events := by
  have hp := about_announced_prefix s id
  rw [h] at hp
  exact hp.mem (List.mem_filter.2 ⟨List.mem_reverse.2 hm, by simpa using he⟩)

theorem response_not_mem (id : Nat) (text : String) (isError : Bool) :
    .response id text isError ∉ lifecycle id (.error .cancelled) := by
  simp [lifecycle, opening, closing, endEvents, spoken]

theorem cancelled_not_mem (id : Nat) (outcome : Except AgentError String) :
    .phase id .cancelled ∉ lifecycle id (outcome.mapError .agent) := by
  have hne := told_phase_ne outcome
  rw [← closingPhase_mapError] at hne
  simp [lifecycle, opening, closing, endEvents, hne.symm]

theorem reply_of_decided (hs : Sound log s) {reply' : Reply} (h : s.reply? id = some reply)
    (hd : (id, reply') ∈ s.decided) : reply = reply' :=
  hs.orderly.reply_unique (mem_decided_of_mem_replies (mem_of_reply? h)) hd

/-- What was not revoked is not cancelled, and has an outcome in the history when it has a reply. -/
theorem Standing.of_not_revoked (hst : Standing id (since id log) s) (hs : Sound log s)
    (hn : revocations id log = 0) : .phase id .cancelled ∉ s.announced ∧
      ∀ reply, s.reply? id = some reply →
        ∃ outcome : Except AgentError String, reply = outcome.mapError .agent ∧
          messagesOf id log = [answerMessage outcome] := by
  rcases hst with ⟨hj, rfl, -, -⟩ | ⟨-, hpos⟩ | ⟨outcome, hd, -, -⟩
  · obtain ⟨hev, -⟩ := Prod.mk.inj (hs.accounted.undecided _ hj)
    refine ⟨fun hm => ?_, fun reply h => ?_⟩
    · simpa [opening] using mem_of_announced hev hm rfl
    · simp [hs.orderly.reply?_of_undecided hj] at h
  · exact absurd hn (Nat.ne_of_gt hpos)
  · have hne := Given.ne_closed (.inr ⟨outcome, rfl⟩)
    obtain ⟨hev, hmsg⟩ := Prod.mk.inj (hs.accounted.decided id _ hd hne)
    refine ⟨fun hm => ?_, fun reply h => ⟨outcome, reply_of_decided hs h hd, ?_⟩⟩
    · exact cancelled_not_mem id outcome (mem_of_announced hev hm rfl)
    · rw [hmsg, closingMessages_mapError]

/-- What was revoked has no outcome in the history and no response, and its reply says so. -/
theorem Standing.of_revoked (hst : Standing id (since id log) s) (hs : Sound log s)
    (hpos : 0 < revocations id log) (hlt : revocations id log < UInt64.size) :
    messagesOf id log = [] ∧ (∀ text isError, .response id text isError ∉ s.announced) ∧
      ∀ reply, s.reply? id = some reply → reply = .error .cancelled := by
  rcases hst with ⟨hj, rfl, -, -⟩ | ⟨hd, -⟩ | ⟨outcome, -, -, hn⟩
  · obtain ⟨hev, hmsg⟩ := Prod.mk.inj (hs.accounted.undecided _ hj)
    refine ⟨hmsg, fun text isError hm => ?_, fun reply h => ?_⟩
    · simpa [opening] using mem_of_announced hev hm rfl
    · simp [hs.orderly.reply?_of_undecided hj] at h
  · obtain ⟨hev, hmsg⟩ := Prod.mk.inj (hs.accounted.decided id _ hd (by simp))
    refine ⟨hmsg, fun text isError hm => ?_, fun reply h => reply_of_decided hs h hd⟩
    exact response_not_mem id text isError (mem_of_announced hev hm rfl)
  · -- The epochs have come round, so at least 2⁶⁴ of them were published.
    have hmod : (UInt64.ofNat (revocations id log)).toNat = 0 := congrArg UInt64.toNat hn
    rw [UInt64.toNat_ofNat_of_lt' hlt] at hmod
    exact absurd hmod (Nat.ne_of_gt hpos)

theorem neverPanics_sampleHost : NeverPanics sampleHost := by
  intro count invocation disk h
  cases h

/-- What becomes of a request that is cancelled while the worker waits for its answer. -/
def cancelledMoves : List Move :=
  [.proceed, .proceed, .proceed, .take, .check, .start, .cancel, .proceed, .notice, .settle,
    .settle, .settle, .settle]

/-- Whether the session was dropped, how many requests were accepted, how often the first one was
revoked, and whether it has a reply. -/
def summary (moves : List Move) : Option (Bool × Nat × Nat × Bool) :=
  ((new sampleHost sampleWorkspace).run? (.submit sampleSubmission :: moves)).map fun p =>
    (p.1.dropped, p.1.accepted, revocations 0 p.2, (p.1.reply? 0).isSome)

/-- A request accepted in a session that is not dropped and whose runs do not break down is settled
with its outcome, which is added to the history once, if nothing is given up before; if something
is, and less than 2⁶⁴ times, then its outcome is neither added nor announced, and it is cancelled.
-/
theorem exact_cancellation {host : Host} {workspace : Workspace} {moves : List Move}
    (h : (new host workspace).run? moves = some (s, log)) (hp : NeverPanics host)
    (hd : s.dropped = false) (hid : id < s.accepted) :
    (revocations id log = 0 → .phase id .cancelled ∉ s.announced ∧
      ∀ reply, s.reply? id = some reply →
        ∃ outcome : Except AgentError String, reply = outcome.mapError .agent ∧
          messagesOf id log = [answerMessage outcome]) ∧
      (0 < revocations id log → revocations id log < UInt64.size →
        messagesOf id log = [] ∧ (∀ text isError, .response id text isError ∉ s.announced) ∧
          ∀ reply, s.reply? id = some reply → reply = .error .cancelled) := by
  have hs := sound_of_run h
  have hst := (allStanding_of_run hp h hd).2 id hid
  exact ⟨hst.of_not_revoked hs, hst.of_revoked hs⟩

theorem exact_cancellation_sample :
    (∃ s log, (new sampleHost sampleWorkspace).run? (.submit sampleSubmission :: sampleMoves) =
      some (s, log) ∧ ∃ outcome, messagesOf 0 log = [answerMessage outcome]) ∧
    ∃ s log, (new sampleHost sampleWorkspace).run? (.submit sampleSubmission :: cancelledMoves) =
      some (s, log) ∧ s.reply? 0 = some (.error .cancelled) ∧ messagesOf 0 log = [] := by
  have hkept : summary sampleMoves = some (false, 1, 0, true) := by decide +kernel
  have hrevoked : summary cancelledMoves = some (false, 1, 1, true) := by decide +kernel
  obtain ⟨⟨s, log⟩, h, hf⟩ := Option.map_eq_some_iff.1 hkept
  obtain ⟨⟨s', log'⟩, h', hf'⟩ := Option.map_eq_some_iff.1 hrevoked
  simp only [Prod.mk.injEq, Option.isSome_iff_exists] at hf hf'
  obtain ⟨hd, ha, hn, reply, hr⟩ := hf
  obtain ⟨hd', ha', hn', reply', hr'⟩ := hf'
  refine ⟨⟨s, log, h, ?_⟩, s', log', h', ?_⟩
  · obtain ⟨outcome, -, hm⟩ :=
      (exact_cancellation h neverPanics_sampleHost hd (by omega)).1 hn |>.2 reply hr
    exact ⟨outcome, hm⟩
  · have hlt : 0 < s'.accepted := by omega
    obtain ⟨hm, -, hc⟩ :=
      (exact_cancellation h' neverPanics_sampleHost hd' hlt).2 (by omega) (by rw [hn']; decide)
    exact ⟨hr'.trans (congrArg some (hc reply' hr')), hm⟩

end Session

end AgentConsole
