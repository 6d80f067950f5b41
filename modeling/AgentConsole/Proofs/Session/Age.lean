import AgentConsole.Proofs.Session.Transition
import AgentConsole.Proofs.Session.Cancellation

/-!
# The age of a request

A request gets older by one with every epoch that is published after its acceptance (`age`). As long
as it is undecided, the epoch published is its own and so much later (`published_eq_age`); and none
is older than one accepted before it (`age_le_of_le`). So unless the epochs have come round, a
request that was in the queue when an epoch was published is never found to be of the epoch
published, and is not begun (`not_begun_of_aged`).
-/

namespace AgentConsole

open AgentConsole.Agent

namespace Session

/-- How many epochs were published since a request was accepted. -/
def age (id : Nat) (log : Log) : Nat :=
  (since id log).countP Note.isPublished

/-- The request that is begun with a move. For no other are a request file made and the agent
called. -/
def begun? (s : Session) : Move → Option Nat
  | .start =>
    match s.worker with
    | .fresh job => some job.id
    | _ => none
  | _ => none

/-- The requests that are begun in the course of these moves. -/
def begun (s : Session) : List Move → List Nat
  | [] => []
  | m :: moves =>
    (s.begun? m).toList ++ ((s.move? m).map fun p => p.1.begun moves).getD []

variable {host : Host} {workspace : Workspace} {moves : List Move}
variable {s t : Session} {log notes : Log} {id : Nat} {job : Job}

theorem eq_zero_of_eq_add {epoch : UInt64} {n : Nat} (h : epoch = epoch + .ofNat n)
    (hn : n < UInt64.size) : n = 0 := by
  have hz := congrArg UInt64.toNat (UInt64.left_eq_add.1 h)
  rwa [UInt64.toNat_ofNat_of_lt' hn] at hz

theorem age_append (hl : Logged log s) (h : id < s.accepted) :
    age id (log ++ notes) = age id log + notes.countP Note.isPublished := by
  rw [age, since_append (exists_accepts hl h), List.countP_append, age]

theorem age_le_append (hl : Logged log s) (h : id < s.accepted) :
    age id log ≤ age id (log ++ notes) := by
  rw [age_append hl h]
  exact Nat.le_add_right _ _

theorem age_accepted (hl : Logged log s) (x : Submission) :
    age s.accepted (log ++ [.accepted s.accepted x]) = 0 := by
  rw [age, since_accepted hl]
  rfl

theorem age_le_countP (id : Nat) (log : Log) : age id log ≤ log.countP Note.isPublished :=
  (List.dropWhile_suffix _).sublist.countP_le

theorem countP_published_le (h : (new host workspace).run? moves = some (s, log)) :
    log.countP Note.isPublished ≤ log.countP Note.revokes := by
  have := countP_published h
  omega

/-- No request is older than one accepted before it. -/
theorem age_le_of_le (h : (new host workspace).run? moves = some (s, log)) {id' : Nat}
    (hle : id ≤ id') (hid : id' < s.accepted) : age id' log ≤ age id log := by
  refine (sound_induct (P := fun log s => ∀ id id', id ≤ id' → id' < s.accepted →
    age id' log ≤ age id log) (fun _ _ _ h => absurd h (Nat.not_lt_zero _)) ?_ h).2 id id' hle hid
  intro log s t notes hs ih h id id' hle hid
  by_cases hold : id' < s.accepted
  · rw [age_append hs.logged hold, age_append hs.logged (by omega)]
    exact Nat.add_le_add_right (ih id id' hle hold) _
  · rcases accepted_of_step h with he | ⟨x, -, rfl, he, -, -⟩
    · omega
    · obtain rfl : id' = s.accepted := by omega
      rw [age_accepted hs.logged]
      exact Nat.zero_le _

/-- A request that is undecided after a step was so before, or has just been accepted. -/
theorem mem_undecided_step (h : Step s t notes) (hj : job ∈ t.undecided) :
    job ∈ s.undecided ∨ s.isFree ∧ t.published = s.published ∧
      ∃ x, job = s.jobOf x ∧ notes = [.accepted s.accepted x] := by
  rcases accepted_of_step h with ha | ⟨x, hf, hn, -, hu, hp⟩
  · rcases shift_of_step h with
      ⟨hu, -, -⟩ | ⟨x, -, -, ha'⟩ | ⟨job', reply, -, hu, -, -⟩ | ⟨hu, -, -⟩
    · exact .inl (hu ▸ hj)
    · omega
    · exact .inl (hu ▸ List.mem_cons_of_mem _ hj)
    · simp [hu] at hj
  · rw [hu, List.mem_append, List.mem_singleton] at hj
    rcases hj with hj | rfl
    · exact .inl hj
    · exact .inr ⟨hf, hp, x, rfl, hn⟩

/-- Whatever was cleared or cancelled since a request was accepted has been published, or will be
before anything else can be done with the conversation. -/
theorem countP_since (h : (new host workspace).run? moves = some (s, log)) (hid : id < s.accepted) :
    (since id log).countP Note.revokes = age id log + s.deeds.countP Deed.isPublish := by
  refine (sound_induct (P := fun log s => ∀ id < s.accepted, (since id log).countP Note.revokes =
    age id log + s.deeds.countP Deed.isPublish) (fun _ h => absurd h (Nat.not_lt_zero _)) ?_ h).2
      id hid
  intro log s t notes hs ih h id hid
  have hp := published_step h
  by_cases hold : id < s.accepted
  · rw [age_append hs.logged hold, since_append (exists_accepts hs.logged hold),
      List.countP_append, ih id hold]
    omega
  · rcases accepted_of_step h with he | ⟨x, hf, rfl, he, -, -⟩
    · omega
    · obtain rfl : id = s.accepted := by omega
      rw [age_accepted hs.logged, since_accepted hs.logged]
      rw [deeds_of_isFree hf] at hp
      simpa [Note.isPublished] using hp

/-- The epoch published is the one of an undecided request, and as much later as that is old. -/
theorem published_eq_age (h : (new host workspace).run? moves = some (s, log))
    (hj : job ∈ s.undecided) : s.published = job.epoch + .ofNat (age job.id log) := by
  refine (sound_induct (P := fun log s => ∀ job ∈ s.undecided,
    s.published = job.epoch + .ofNat (age job.id log)) (fun _ h => by cases h) ?_ h).2 job hj
  intro log s t notes hs ih h job hj
  rcases mem_undecided_step h hj with hj | ⟨hf, hp, x, rfl, rfl⟩
  · rw [age_append hs.logged (hs.orderly.undecided_lt hj), UInt64.ofNat_add, ← UInt64.add_assoc,
      ← ih job hj, published_eq_step hs.held h]
  · rw [hp, hs.held.published_eq hf]
    simp only [jobOf]
    rw [age_accepted hs.logged]
    exact (UInt64.add_zero s.conversation.epoch).symm

theorem accepted_le (h : Step s t notes) : s.accepted ≤ t.accepted := by
  rcases accepted_of_step h with ha | ⟨x, -, -, ha, -⟩ <;> omega

/-- The worker does not come to begin a request that is aged. -/
theorem not_fresh_step (h : (new host workspace).run? moves = some (s, log))
    (hw : ∀ job, s.worker = .fresh job → job.id ≠ id) (ha : 0 < age id log)
    (hn : log.countP Note.revokes < UInt64.size) (ht : Step s t notes) :
    ∀ job, t.worker = .fresh job → job.id ≠ id := by
  intro job hr
  cases ht with
  | chore hc =>
    cases hc with
    | quiet => exact hw job hr
    | pass hj he =>
      cases hr
      rintro rfl
      have hu : job ∈ s.undecided := by simp [undecided, hj, Worker.undecided?]
      have hz := eq_zero_of_eq_add (he ▸ published_eq_age h hu)
        (Nat.lt_of_le_of_lt ((age_le_countP _ _).trans (countP_published_le h)) hn)
      omega
    | _ => cases hr
  | accept | append | setFile | clear | cancel | drop | publish | announce => exact hw job hr
  | giveUp | discard | route | stop => cases hr

theorem fresh_of_begun? {m : Move} (h : s.begun? m = some id) :
    ∃ job, s.worker = .fresh job ∧ job.id = id := by
  unfold begun? at h
  split at h
  · split at h <;> cases h
    exact ⟨_, ‹_›, rfl⟩
  · cases h

/-- The runner is called when the worker starts the request. -/
theorem started_of_called {call : Call} (h : Step s t notes) (hc : .called id call ∈ notes) :
    ∃ job, s.worker = .fresh job ∧ job.id = id ∧
      s.host.start s.workspace job.request = (t.workspace, .called call) := by
  have hend : .called id call ∉ s.worker.notes .idle := by
    rw [Worker.notes_idle]
    simp
  cases h with
  | chore h =>
    cases h with
    | answer => exact absurd hc hend
    | @call job workspace call' hw hs =>
      cases List.mem_singleton.1 hc
      exact ⟨job, hw, rfl, hs⟩
    | _ => simp at hc
  | giveUp => exact absurd hc hend
  | stop =>
    rcases List.mem_append.1 hc with hc | hc
    · exact absurd hc hend
    · simp at hc
  | _ => simp at hc

/-- A request that is aged when the worker is not about to begin it is not begun any more. -/
theorem not_begun_of_aged {before : List Move}
    (h : (new host workspace).run? before = some (s, log))
    (hw : ∀ job, s.worker = .fresh job → job.id ≠ id) (hid : id < s.accepted)
    (ha : 0 < age id log) (hr : s.run? moves = some (t, notes))
    (hn : (log ++ notes).countP Note.revokes < UInt64.size) :
    id ∉ s.begun moves ∧ ∀ call, .called id call ∉ notes := by
  induction moves generalizing s log before notes with
  | nil =>
    obtain ⟨rfl, rfl⟩ := run?_nil.1 hr
    simp [begun]
  | cons m moves ih =>
    obtain ⟨u, new, rest, hm, hrest, rfl⟩ := run?_cons.1 hr
    have hstep := step_of_move hm
    have hlt : log.countP Note.revokes < UInt64.size := by
      rw [List.countP_append] at hn
      omega
    obtain ⟨hb, hc⟩ := ih (run?_snoc h hm) (not_fresh_step h hw ha hlt hstep)
      (Nat.lt_of_lt_of_le hid (accepted_le hstep))
      (Nat.lt_of_lt_of_le ha (age_le_append (sound_of_run h).logged hid)) hrest
      (by rwa [List.append_assoc])
    constructor
    · simp only [begun, hm, Option.map_some, Option.getD_some, List.mem_append, Option.mem_toList,
        not_or]
      refine ⟨fun hbegun => ?_, hb⟩
      obtain ⟨job, hj, rfl⟩ := fresh_of_begun? hbegun
      exact hw job hj rfl
    · intro call hcall
      rcases List.mem_append.1 hcall with hcall | hcall
      · obtain ⟨job, hj, rfl, -⟩ := started_of_called hstep hcall
        exact hw job hj rfl
      · exact hc call hcall

/-- A request in the queue when an epoch is published, or just taken from it, is not begun. -/
theorem not_begun_of_published {before after : List Move} {u v : Session} {early late : Log}
    {epoch : UInt64} (hu : (new host workspace).run? before = some (u, early))
    (hv : u.move? .proceed = some (v, [.published epoch])) (hs : v.run? after = some (s, late))
    (hn : (early ++ [Note.published epoch] ++ late).countP Note.revokes < UInt64.size)
    (hj : job ∈ u.queue ∨ u.worker = .taken job) :
    job.id ∉ v.begun after ∧ ∀ call, .called job.id call ∉ late := by
  have hsound := sound_of_run hu
  have hmem : job ∈ u.undecided := by
    rcases hj with hj | hj
    · exact List.mem_append_right _ hj
    · simp [undecided, hj, Worker.undecided?]
  have hid := hsound.orderly.undecided_lt hmem
  refine not_begun_of_aged (run?_snoc hu hv) ?_ ?_ ?_ hs hn
  · intro front hw
    have hw : u.worker = .fresh front := by
      cases transition_of_move hv with
      | @proceed deed => cases deed <;> exact hw
    rcases hj with hj | hj
    · have hsorted := hsound.orderly.sorted_undecided
      rw [(undecided_cons (by rw [hw]; rfl)).1, List.map_cons, List.pairwise_cons] at hsorted
      exact Nat.ne_of_lt (hsorted.1 _ (List.mem_map.2 ⟨job, hj, rfl⟩))
    · simp [hw] at hj
  · exact Nat.lt_of_lt_of_le hid (accepted_le (step_of_move hv))
  · rw [age_append hsound.logged hid]
    exact Nat.lt_of_lt_of_le Nat.one_pos (Nat.le_add_left 1 _)

end Session

end AgentConsole
