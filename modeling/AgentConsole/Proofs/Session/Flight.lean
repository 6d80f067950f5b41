import AgentConsole.Proofs.Session.Account

/-!
# One run at a time

The worker decides on one request after another, so how many are decided says which one is next. The
runs called so far are of requests below that mark, or of the one at it (`started`), and each step
moves the mark forward only (`started_le`). So runs are called in the order of acceptance, each when
all earlier requests have their replies, and outcomes are added to the history in that order too
(`Flight`).
-/

namespace AgentConsole

open AgentConsole.Agent

namespace Session

/-- The worker has begun to run a request and not decided it. -/
def Worker.isBegun : Worker → Bool
  | running _ _ | answered _ _ => true
  | idle | taken _ | fresh _ | settling _ _ _ | stopped => false

/-- How many requests need not be begun any more. -/
def started (s : Session) : Nat :=
  s.decided.length + s.worker.isBegun.toNat

/-- Ever larger numbers, all below a bound. -/
def Climbs (ids : List Nat) (bound : Nat) : Prop :=
  ids.Pairwise (· < ·) ∧ ∀ id ∈ ids, id < bound

/-- The requests whose runs were called, and those whose outcomes were added to the history, come in
the order of acceptance, and a run is called when the replies before it are given. -/
structure Flight (log : Log) (s : Session) : Prop where
  called : Climbs (log.filterMap Note.called?) s.started
  routed : Climbs (log.filterMap Note.routed?) s.decided.length
  alone : Always (fun before n => ∀ id call, n = .called id call →
    (before.filterMap Note.reply?).map Prod.fst = List.range id) log

variable {s t : Session} {log notes : Log} {ids : List Nat} {id m n : Nat}

theorem climbs_nil (n : Nat) : Climbs [] n :=
  ⟨.nil, fun _ h => (by cases h)⟩

theorem Climbs.mono (h : Climbs ids m) (hmn : m ≤ n) : Climbs ids n :=
  ⟨h.1, fun id hid => Nat.lt_of_lt_of_le (h.2 id hid) hmn⟩

theorem Climbs.snoc (h : Climbs ids m) (hm : m ≤ id) (hn : id < n) : Climbs (ids ++ [id]) n := by
  refine ⟨List.pairwise_append.2 ⟨h.1, List.pairwise_singleton _ _, fun a ha b hb => ?_⟩,
    fun a ha => ?_⟩
  · have := h.2 a ha
    rw [List.mem_singleton.1 hb]
    omega
  · rcases List.mem_append.1 ha with ha | ha
    · have := h.2 a ha
      omega
    · rwa [List.mem_singleton.1 ha]

theorem Orderly.started_le_accepted (hs : Orderly s) : s.started ≤ s.accepted := by
  have hlen := congrArg List.length hs
  simp only [List.length_append, List.length_reverse, List.length_map, List.length_range] at hlen
  rw [← hlen]
  refine Nat.add_le_add_left ?_ _
  unfold undecided
  cases s.worker <;> simp [Worker.isBegun, Worker.undecided?]

theorem Orderly.replies_prefix (hs : Orderly s) :
    (s.replies.map Prod.fst).reverse <+: List.range s.accepted := by
  have hd : (s.decided.map Prod.fst).reverse <+: List.range s.accepted :=
    hs ▸ List.prefix_append _ _
  refine List.IsPrefix.trans ?_ hd
  rw [decided, List.map_append, List.reverse_append]
  exact List.prefix_append _ _

theorem length_decided_stop (s : Session) : s.stop.decided.length =
    s.worker.job?.toList.length + s.queue.length + s.replies.length := by
  simp only [stop, decided, pending, Worker.decided?, Option.toList_none, List.nil_append,
    List.length_append, List.length_reverse, List.length_map]

theorem decided_length_le (h : Step s t notes) : s.decided.length ≤ t.decided.length := by
  rcases shift_of_step h with ⟨-, hd, -⟩ | ⟨x, -, hd, -⟩ | ⟨job, reply, -, -, hd, -⟩ | ⟨-, hd, -⟩
  · exact Nat.le_of_eq (congrArg _ hd.symm)
  · exact Nat.le_of_eq (congrArg _ hd.symm)
  · rw [hd]
    exact Nat.le_succ _
  · rw [hd, decided, pending]
    cases s.worker <;> simp [Worker.decided?, Worker.job?] <;> omega

theorem started_le (h : Step s t notes) : s.started ≤ t.started := by
  have hd := decided_length_le h
  unfold started
  cases h with
  | chore h =>
    rw [h.undecided.2]
    cases h with
    | quiet => exact Nat.le_refl _
    | take hw | pass hw | call _ _ hw | tell hw | reply hw =>
      rw [hw]
      simp [Worker.isBegun]
    | answer =>
      have := Bool.toNat_le s.worker.isBegun
      exact Nat.add_le_add_left this _
  | giveUp workspace hw hp =>
    have hb := Bool.toNat_le s.worker.isBegun
    have hdec := (undecided_cons (Worker.undecided_of_runs hw)).2
    rw [hdec] at hd ⊢
    simp only [decided, givingUp, Worker.decided?, Option.toList_some, List.length_append,
      List.length_singleton]
    omega
  | discard hw | route hw =>
    rw [(undecided_cons (by rw [hw]; rfl)).2]
    simp [decided, givingUp, Worker.decided?, hw, Worker.isBegun]
  | stop =>
    rw [length_decided_stop]
    cases hw : s.worker <;>
      simp [decided, hw, Worker.decided?, Worker.job?, Worker.isBegun] <;> omega
  | _ => exact Nat.add_le_add_right hd _

/-- A run is called alone, and for a request that nothing has been done for yet. -/
theorem called_of_step (h : Step s t notes) : notes.filterMap Note.called? = [] ∨
    ∃ job call, s.worker = .fresh job ∧ notes = [.called job.id call] ∧
      t.started = s.started + 1 := by
  cases h with
  | chore h =>
    have hd := h.undecided.2
    cases h with
    | @call job workspace call hw =>
      refine .inr ⟨job, call, hw, rfl, ?_⟩
      rw [started, hd, started, hw]
      rfl
    | answer => exact .inl (filterMap_ended (fun _ => rfl) _)
    | _ => exact .inl rfl
  | giveUp => exact .inl (filterMap_ended (fun _ => rfl) _)
  | stop =>
    rw [List.filterMap_append, filterMap_ended fun _ => rfl, filterMap_closed fun _ _ => rfl]
    exact .inl rfl
  | _ => exact .inl rfl

/-- When the worker is about to begin a request, those that have a reply are all earlier ones. -/
theorem replied_of_fresh (ho : Orderly s) (hl : Logged log s) {job : Job}
    (hw : s.worker = .fresh job) :
    job.id = s.decided.length ∧ (log.filterMap Note.reply?).map Prod.fst = List.range job.id := by
  have hj : s.worker.undecided? = some job := by rw [hw]; rfl
  obtain ⟨hu, hd⟩ := undecided_cons hj
  have hid := ho.next hu
  refine ⟨hid, ?_⟩
  have hlog : log.filterMap Note.reply? = s.replies.reverse := by
    rw [hl.replies, List.reverse_reverse]
  rw [hlog, List.map_reverse, ← hd, ho.decided_ids, hid]

theorem flight_new (host : Host) (workspace : Workspace) : Flight [] (.new host workspace) :=
  ⟨climbs_nil _, climbs_nil _, always_nil _⟩

theorem flight_step (hsound : Sound log s) (hs : Flight log s) (h : Step s t notes) :
    Flight (log ++ notes) t := by
  have ho := hsound.orderly
  have hl := hsound.logged
  refine ⟨?_, ?_, hs.alone.append ?_⟩
  · rw [List.filterMap_append]
    rcases called_of_step h with hn | ⟨job, call, hw, rfl, ht⟩
    · rw [hn, List.append_nil]
      exact hs.called.mono (started_le h)
    · have hid := (replied_of_fresh ho hl hw).1
      have hst : s.started = job.id := by rw [started, hw, hid]; rfl
      exact hs.called.snoc (Nat.le_of_eq hst) (by omega)
  · rw [List.filterMap_append]
    rcases routed_of_step h with hn | ⟨job, m, reply, hu, hd, rfl⟩
    · rw [hn, List.append_nil]
      exact hs.routed.mono (decided_length_le h)
    · have hid := ho.next hu
      have hlen : t.decided.length = s.decided.length + 1 := by rw [hd]; rfl
      exact hs.routed.snoc (Nat.le_of_eq hid.symm) (by omega)
  · rintro before _ after hn id call rfl
    rcases called_of_step h with hq | ⟨job, call', hw, rfl, -⟩
    · rw [hn, List.filterMap_append] at hq
      simp [Note.called?] at hq
    · rcases before with _ | ⟨n, before⟩
      · cases hn
        rw [List.append_nil]
        exact (replied_of_fresh ho hl hw).2
      · simp at hn

theorem flight_of_run {host : Host} {workspace : Workspace} {moves : List Move}
    (h : (new host workspace).run? moves = some (s, log)) : Sound log s ∧ Flight log s :=
  sound_induct (flight_new host workspace) flight_step h

theorem foldl_amend_sublist (notes : Log) : ∀ es : List (Option Nat × Message),
    ((notes.foldl amend es).filterMap Prod.fst).Sublist
      (es.filterMap Prod.fst ++ notes.filterMap Note.routed?) := by
  induction notes with
  | nil =>
    intro es
    simp
  | cons n notes ih =>
    intro es
    refine (ih (amend es n)).trans ?_
    rw [List.filterMap_cons]
    cases n with
    | cleared => exact List.sublist_append_right _ _
    | _ => simp [amend, Note.routed?]

theorem entries_sublist (log : Log) :
    ((entries log).filterMap Prod.fst).Sublist (log.filterMap Note.routed?) :=
  foldl_amend_sublist log [(none, welcome)]

/-- Runs are called in the order in which their requests were accepted, each once, and each but the
last one called has ended. When one is called, the requests accepted before have their replies. The
replies are given in the same order, and so are the outcomes added to the history since it was last
cleared. -/
theorem single_flight {host : Host} {workspace : Workspace} {moves : List Move}
    (h : (new host workspace).run? moves = some (s, log)) :
    log.filterMap Note.accepted? = List.range s.accepted ∧
      ((log.filterMap Note.called?).Pairwise (· < ·) ∧
        ∀ id ∈ log.filterMap Note.called?, id < s.accepted) ∧
      log.filterMap Note.called? = log.filterMap Note.ended? ++ s.worker.awaited?.toList ∧
      (∀ before id call after, log = before ++ .called id call :: after →
        (before.filterMap Note.reply?).map Prod.fst = List.range id) ∧
      (log.filterMap Note.reply?).map Prod.fst <+: List.range s.accepted ∧
      s.conversation.history = (entries log).map Prod.snd ∧
      ((entries log).filterMap Prod.fst).Pairwise (· < ·) := by
  obtain ⟨hs, hf⟩ := flight_of_run h
  have ho := hs.orderly
  have hl := hs.logged
  refine ⟨hl.accepted, ⟨hf.called.1, fun id hid => ?_⟩, hl.called,
    fun before id call after he => ?_, ?_, hl.history, hf.routed.1.sublist (entries_sublist log)⟩
  · exact Nat.lt_of_lt_of_le (hf.called.2 id hid) ho.started_le_accepted
  · exact hf.alone before _ after he id call rfl
  · have hp := ho.replies_prefix
    rwa [hl.replies, List.map_reverse, List.reverse_reverse] at hp

theorem single_flight_sample : ∃ s log, (new sampleHost sampleWorkspace).run?
    (.submit sampleSubmission :: sampleMoves) = some (s, log) ∧
      log.filterMap Note.called? = log.filterMap Note.ended? ++ s.worker.awaited?.toList := by
  obtain ⟨s, log, h, -⟩ := sample_run
  exact ⟨s, log, h, (single_flight h).2.2.1⟩

end Session

end AgentConsole
