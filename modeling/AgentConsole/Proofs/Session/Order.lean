import AgentConsole.Proofs.Session.Step
import Mathlib.Data.List.Nodup

/-!
# The order of requests

A request is decided when the worker gives it up or takes its outcome into the conversation, and
settled when its reply is given. The requests decided, in the order of their decision, and after
them those undecided, in the order they are waited for, are at any time the requests accepted, in
the order of their acceptance (`orderly_step`): so none is lost, and none is decided twice or before
another that was accepted earlier.
-/

namespace AgentConsole

open AgentConsole.Agent

namespace Session

/-- The request the worker has taken up and not decided. -/
def Worker.undecided? : Worker → Option Job
  | taken job | fresh job | running job _ | answered job _ => some job
  | idle | settling _ _ _ | stopped => none

/-- The request the worker has decided and not settled, with the reply it will get. -/
def Worker.decided? : Worker → Option (Nat × Reply)
  | settling job _ reply => some (job.id, reply)
  | _ => none

/-- The requests not decided yet, the next one first. -/
def undecided (s : Session) : List Job :=
  s.worker.undecided?.toList ++ s.queue

/-- The requests decided, the last one first, with their replies. -/
def decided (s : Session) : List (Nat × Reply) :=
  s.worker.decided?.toList ++ s.replies

/-- The requests decided and then those undecided are those accepted, in order. -/
def Orderly (s : Session) : Prop :=
  (s.decided.map Prod.fst).reverse ++ s.undecided.map Job.id = List.range s.accepted

variable {s t : Session} {log notes : Log} {job : Job}

theorem undecided_cons (h : s.worker.undecided? = some job) :
    s.undecided = job :: s.queue ∧ s.decided = s.replies := by
  unfold undecided decided
  cases hw : s.worker <;> rw [hw] at h <;> cases h <;> exact ⟨rfl, rfl⟩

theorem mem_undecided (h : s.worker.undecided? = some job) : job ∈ s.undecided := by
  rw [undecided, h]
  exact List.mem_cons_self

theorem Worker.undecided_of_runs {w : Worker} (h : w = .taken job ∨ w.Runs job) :
    w.undecided? = some job := by
  rcases h with rfl | rfl | ⟨call, rfl⟩ <;> rfl

theorem decided_append_undecided (s : Session) :
    (s.decided.map Prod.fst).reverse ++ s.undecided.map Job.id =
      (s.replies.map Prod.fst).reverse ++ s.pending.map Job.id := by
  unfold decided undecided pending
  cases s.worker <;> simp [Worker.decided?, Worker.undecided?, Worker.job?]

/-- A reply the worker decides on: the request was given up, or has an outcome. -/
def Given (reply : Reply) : Prop :=
  reply = .error .cancelled ∨ ∃ outcome : Except AgentError String, reply = outcome.mapError .agent

theorem Given.ne_closed {reply : Reply} (h : Given reply) : reply ≠ .error .closed := by
  rcases h with rfl | ⟨e | text, rfl⟩ <;> simp [Except.mapError]

/-- What a step is to the requests. -/
inductive Shift (s t : Session) : Prop
  | same (hu : t.undecided = s.undecided) (hd : t.decided = s.decided)
      (ha : t.accepted = s.accepted)
  | accepted (x : Submission) (hu : t.undecided = s.undecided ++ [s.jobOf x])
      (hd : t.decided = s.decided) (ha : t.accepted = s.accepted + 1)
  | decided (job : Job) (reply : Reply) (hr : Given reply) (hu : s.undecided = job :: t.undecided)
      (hd : t.decided = (job.id, reply) :: s.decided) (ha : t.accepted = s.accepted)
  | stopped (hu : t.undecided = [])
      (hd : t.decided = (s.pending.map fun job => (job.id, .error .closed)).reverse ++ s.replies)
      (ha : t.accepted = s.accepted) (hc : t.isClosed)

theorem Chore.undecided (h : Chore s t notes) :
    t.undecided = s.undecided ∧ t.decided = s.decided := by
  unfold Session.undecided Session.decided
  cases h with
  | quiet => exact ⟨rfl, rfl⟩
  | take hw hq => simp [hw, hq, Worker.undecided?, Worker.decided?]
  | pass hw | call _ _ hw | tell hw | reply hw =>
    simp [hw, Worker.undecided?, Worker.decided?]
  | answer workspace outcome hw =>
    obtain ⟨hu, hd⟩ := undecided_cons (Worker.undecided_of_runs (.inr hw))
    exact ⟨hu.symm, hd.symm⟩

theorem shift_of_step (h : Step s t notes) : Shift s t := by
  cases h with
  | chore h => exact .same h.undecided.1 h.undecided.2 h.frame.1
  | append | setFile | clear | cancel | drop | publish | announce => exact .same rfl rfl rfl
  | accept x ho hc => exact .accepted x (by simp [undecided]) rfl rfl
  | giveUp workspace hw hp =>
    obtain ⟨hu, hd⟩ := undecided_cons (Worker.undecided_of_runs hw)
    exact .decided _ (.error .cancelled) (.inl rfl) hu (by rw [hd]; rfl) rfl
  | discard hw hf he =>
    obtain ⟨hu, hd⟩ := undecided_cons (by rw [hw]; rfl)
    exact .decided _ (.error .cancelled) (.inl rfl) hu (by rw [hd]; rfl) rfl
  | @route job outcome hw hf he =>
    obtain ⟨hu, hd⟩ := undecided_cons (by rw [hw]; rfl)
    exact .decided _ (outcome.mapError .agent) (.inr ⟨outcome, rfl⟩) hu (by rw [hd]; rfl) rfl
  | stop => exact .stopped rfl rfl rfl rfl

theorem orderly_new (host : Host) (workspace : Workspace) : Orderly (.new host workspace) := rfl

theorem orderly_step (hs : Orderly s) (h : Step s t notes) : Orderly t := by
  unfold Orderly at hs ⊢
  rcases shift_of_step h with
    ⟨hu, hd, ha⟩ | ⟨x, hu, hd, ha⟩ | ⟨job, reply, -, hu, hd, ha⟩ | ⟨hu, hd, ha⟩
  · rw [hu, hd, ha, hs]
  · rw [hu, hd, ha, List.range_succ, ← hs]
    simp [jobOf]
  · rw [hd, ha, ← hs, hu]
    simp
  · rw [decided_append_undecided] at hs
    rw [hu, hd, ha, ← hs]
    simp

theorem given_step (hs : ∀ r ∈ s.decided, r.2 = .error .closed ∨ Given r.2) (h : Step s t notes) :
    ∀ r ∈ t.decided, r.2 = .error .closed ∨ Given r.2 := by
  intro r hr
  rcases shift_of_step h with ⟨-, hd, -⟩ | ⟨x, -, hd, -⟩ | ⟨job, reply, hg, -, hd, -⟩ | ⟨-, hd, -⟩
  · exact hs r (hd ▸ hr)
  · exact hs r (hd ▸ hr)
  · rw [hd, List.mem_cons] at hr
    rcases hr with rfl | hr
    · exact .inr hg
    · exact hs r hr
  · rw [hd, List.mem_append, List.mem_reverse, List.mem_map] at hr
    rcases hr with ⟨job, -, rfl⟩ | hr
    · exact .inl rfl
    · exact hs r (List.mem_append_right _ hr)

theorem Orderly.decided_lt (hs : Orderly s) {id : Nat} {reply : Reply}
    (h : (id, reply) ∈ s.decided) : id < s.accepted := by
  rw [← List.mem_range, ← hs, List.mem_append, List.mem_reverse]
  exact .inl (List.mem_map.2 ⟨_, h, rfl⟩)

theorem Orderly.undecided_lt (hs : Orderly s) (h : job ∈ s.undecided) : job.id < s.accepted := by
  rw [← List.mem_range, ← hs, List.mem_append]
  exact .inr (List.mem_map.2 ⟨_, h, rfl⟩)

theorem Orderly.cases (hs : Orderly s) {id : Nat} (h : id < s.accepted) :
    (∃ job ∈ s.undecided, job.id = id) ∨ ∃ reply, (id, reply) ∈ s.decided := by
  rw [← List.mem_range, ← hs, List.mem_append, List.mem_reverse] at h
  rcases h with h | h
  · obtain ⟨⟨_, reply⟩, hr, rfl⟩ := List.mem_map.1 h
    exact .inr ⟨reply, hr⟩
  · obtain ⟨job, hj, rfl⟩ := List.mem_map.1 h
    exact .inl ⟨job, hj, rfl⟩

theorem Orderly.lt (hs : Orderly s) {id : Nat} {reply : Reply} (hd : (id, reply) ∈ s.decided)
    (hu : job ∈ s.undecided) : id < job.id := by
  have hp := List.pairwise_lt_range (n := s.accepted)
  rw [← hs, List.pairwise_append] at hp
  exact hp.2.2 _ (List.mem_reverse.2 (List.mem_map.2 ⟨_, hd, rfl⟩)) _
    (List.mem_map.2 ⟨_, hu, rfl⟩)

/-- The requests decided are the first ones accepted. -/
theorem Orderly.decided_ids (hs : Orderly s) :
    (s.decided.map Prod.fst).reverse = List.range s.decided.length := by
  have hp : (s.decided.map Prod.fst).reverse <+: List.range s.accepted :=
    hs ▸ List.prefix_append _ _
  have hle := hp.length_le
  have htake := List.prefix_iff_eq_take.1 hp
  rw [List.length_reverse, List.length_map] at htake hle
  rw [List.length_range] at hle
  rw [htake, List.take_range, Nat.min_eq_left hle]

theorem Orderly.next (hs : Orderly s) {jobs : List Job} (h : s.undecided = job :: jobs) :
    job.id = s.decided.length := by
  have hget : (List.range s.accepted)[s.decided.length]? = some job.id := by
    rw [← hs, h, List.getElem?_append_right (by simp)]
    simp
  obtain ⟨hlt, -⟩ := List.getElem?_eq_some_iff.1 hget
  rw [List.getElem?_range (by simpa using hlt)] at hget
  exact (Option.some.inj hget).symm

theorem Orderly.nodup_decided (hs : Orderly s) : (s.decided.map Prod.fst).Nodup := by
  have hp := List.nodup_range (n := s.accepted)
  rw [← hs, List.nodup_append] at hp
  exact List.nodup_reverse.1 hp.1

theorem Orderly.nodup_undecided (hs : Orderly s) : (s.undecided.map Job.id).Nodup := by
  have hp := List.nodup_range (n := s.accepted)
  rw [← hs, List.nodup_append] at hp
  exact hp.2.1

/-- The requests undecided are in the order of their acceptance. -/
theorem Orderly.sorted_undecided (hs : Orderly s) :
    (s.undecided.map Job.id).Pairwise (· < ·) := by
  have hp := List.pairwise_lt_range (n := s.accepted)
  rw [← hs, List.pairwise_append] at hp
  exact hp.2.1

theorem Orderly.reply_unique (hs : Orderly s) {id : Nat} {reply reply' : Reply}
    (h : (id, reply) ∈ s.decided) (h' : (id, reply') ∈ s.decided) : reply = reply' :=
  (Prod.ext_iff.1 (List.inj_on_of_nodup_map hs.nodup_decided h h' rfl)).2

end Session

end AgentConsole
