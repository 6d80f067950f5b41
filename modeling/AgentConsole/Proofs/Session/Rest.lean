import AgentConsole.Proofs.Session.Age
import AgentConsole.Proofs.Session.Vigil

/-!
# Coming to rest

Some moves need neither time nor an answer of the agent: the deeds of whoever holds the
conversation, and the steps of the worker other than taking an answer (`Move.isEager`). Each leaves
less to do (`effort_lt`), so a session comes to rest whichever of them are made
(`length_le_effort`), and then its worker is idle with nothing to do or waits for the answer to a
request of the epoch published (`Resting.cases`). The requests behind that one are not older, so
nothing was given up since any of them was accepted (`Resting.fresh`).
-/

namespace AgentConsole

open AgentConsole.Agent

namespace Session

/-- The move needs neither time nor an answer, and nobody who uses the session. -/
def Move.isEager : Move → Bool
  | .proceed | .take | .check | .start | .notice | .route | .settle => true
  | .submit _ | .append _ | .setFile _ | .clear | .cancel | .runDirectly _ | .drop | .answer | .stop
  | .endDirect _ | .elapse _ | .disturb _ => false

/-- Nothing more happens without time passing, an answer, or somebody who uses the session. -/
def Resting (s : Session) : Prop :=
  ∀ m : Move, m.isEager → s.move? m = none

/-- How many eager moves are possible, at most. -/
def effort (s : Session) : Nat :=
  s.deeds.length + s.worker.work + 9 * s.queue.length

variable {host : Host} {workspace : Workspace} {moves : List Move}
variable {s t : Session} {m : Move} {log notes : Log} {id : Nat} {job : Job}

section Eager

/-- An eager move leaves less to do. -/
theorem effort_lt (hm : m.isEager) (h : s.move? m = some (t, notes)) : t.effort < s.effort := by
  unfold effort
  cases transition_of_move h with
  | @proceed deed deeds hd =>
    rw [hd]
    cases deed <;> simp [perform, announce]
  | take hw hq =>
    simp [hw, hq, Worker.work]
    omega
  | pass hw | start _ _ hw | call _ _ hw | tell hw | reply hw =>
    simp [hw, Worker.work, announce]
  | refrain hw | route hw => simp [hw, Worker.work, givingUp, endEvents]
  | notice hw =>
    rcases hw with hw | ⟨call, hw⟩ <;> simp [hw, Worker.work, givingUp, endEvents]
  | _ => cases hm

/-- However the eager moves are made, there are not many. -/
theorem length_le_effort (hm : ∀ m ∈ moves, m.isEager) (h : s.run? moves = some (t, log)) :
    moves.length + t.effort ≤ s.effort := by
  induction moves generalizing s log with
  | nil =>
    obtain ⟨rfl, -⟩ := run?_nil.1 h
    simp
  | cons m moves ih =>
    obtain ⟨u, notes, rest, hu, hr, -⟩ := run?_cons.1 h
    have hlt := effort_lt (hm m List.mem_cons_self) hu
    have hle := ih (fun m' hm' => hm m' (List.mem_cons_of_mem _ hm')) hr
    simp only [List.length_cons]
    omega

/-- A session comes to rest by itself. -/
theorem exists_resting (s : Session) :
    ∃ moves t log, (∀ m ∈ moves, m.isEager) ∧ s.run? moves = some (t, log) ∧ t.Resting := by
  induction hn : s.effort using Nat.strongRecOn generalizing s with
  | ind n ih =>
    by_cases hr : s.Resting
    · exact ⟨[], s, [], by simp, rfl, hr⟩
    · simp only [Resting, not_forall] at hr
      obtain ⟨m, hm, hne⟩ := hr
      obtain ⟨⟨u, notes⟩, hu⟩ := Option.ne_none_iff_exists'.1 hne
      obtain ⟨moves, t, log, hall, ht, hrest⟩ := ih u.effort (hn ▸ effort_lt hm hu) u rfl
      refine ⟨m :: moves, t, notes ++ log, ?_, run?_cons.2 ⟨u, notes, log, hu, ht, rfl⟩, hrest⟩
      simpa [hm] using hall

/-- Eager moves leave a session in use, and nothing is given up by them. -/
theorem Live.of_eager (hs : s.Live) (hm : m.isEager) (h : s.move? m = some (t, notes)) :
    t.Live ∧ t.accepted = s.accepted := by
  obtain ⟨hc, hd⟩ := hs
  unfold Live
  unfold isClosed at hc ⊢
  cases transition_of_move h with
  | @proceed deed => cases deed <;> exact ⟨⟨hc, hd⟩, rfl⟩
  | take | pass | refrain | start | call | notice | route | tell | reply =>
    exact ⟨⟨rfl, hd⟩, rfl⟩
  | _ => cases hm

theorem revokes_of_mem_workNotes {n : Note} (h : n ∈ s.workNotes t) : n.revokes = false := by
  simp only [workNotes, List.mem_append, List.mem_flatMap, List.mem_map] at h
  rcases h with (h | ⟨job, -, message, -, rfl⟩) | ⟨r, -, rfl⟩
  · unfold Worker.notes at h
    split at h <;> simp at h <;> subst h <;> rfl
  · rfl
  · rfl

theorem revokes_of_eager (hm : m.isEager) (h : s.move? m = some (t, notes)) {n : Note}
    (hn : n ∈ notes) : n.revokes = false := by
  cases m with
  | proceed =>
    obtain ⟨u, -, h⟩ := Option.map_eq_some_iff.1 h
    cases h
    obtain ⟨deed, -, hn⟩ := List.mem_flatMap.1 hn
    cases deed <;> simp [Deed.notes] at hn
    subst hn
    rfl
  | take | check | start | notice | route | settle =>
    obtain ⟨u, -, h⟩ := Option.map_eq_some_iff.1 h
    cases h
    exact revokes_of_mem_workNotes hn
  | _ => cases hm

/-- Eager moves leave a session in use, and nothing is asked or given up by them. -/
theorem Live.of_eager_run (hs : s.Live) (hm : ∀ m ∈ moves, m.isEager)
    (h : s.run? moves = some (t, log)) :
    t.Live ∧ t.accepted = s.accepted ∧ log.countP Note.revokes = 0 := by
  induction moves generalizing s log with
  | nil =>
    obtain ⟨rfl, rfl⟩ := run?_nil.1 h
    exact ⟨hs, rfl, rfl⟩
  | cons m moves ih =>
    obtain ⟨u, notes, rest, hu, hr, rfl⟩ := run?_cons.1 h
    have hme := hm m List.mem_cons_self
    obtain ⟨hlive, ha⟩ := hs.of_eager hme hu
    obtain ⟨ht, ha', hc⟩ := ih hlive (fun m' hm' => hm m' (List.mem_cons_of_mem _ hm')) hr
    have hnone : notes.countP Note.revokes = 0 :=
      List.countP_eq_zero.2 fun n hn => by simp [revokes_of_eager hme hu hn]
    exact ⟨ht, ha'.trans ha, by rw [List.countP_append, hnone, hc]⟩

end Eager

section Resting

/-- At rest nobody holds the conversation of a session in use, and its worker is idle with nothing
to do, or waits for the answer to a request that is of the epoch published. -/
theorem Resting.cases (h : s.Resting) (hl : s.Live) :
    s.isFree ∧ (s.worker = .idle ∧ s.queue = [] ∨
      ∃ job call, s.worker = .running job call ∧ s.published = job.epoch) := by
  have hfree : s.isFree := by
    have hp := h .proceed rfl
    simp only [move?, Option.map_eq_none_iff, proceed?] at hp
    unfold isFree
    split at hp
    · simp [*]
    · cases hp
  refine ⟨hfree, ?_⟩
  have htake := h .take rfl
  have hcheck := h .check rfl
  have hstart := h .start rfl
  have hnotice := h .notice rfl
  have hroute := h .route rfl
  have hsettle := h .settle rfl
  simp only [move?, Option.map_eq_none_iff] at htake hcheck hstart hnotice hroute hsettle
  cases hw : s.worker with
  | idle =>
    refine .inl ⟨rfl, ?_⟩
    cases hq : s.queue with
    | nil => rfl
    | cons job queue => simp [take?, hw, hq] at htake
  | taken job => simp [check?, hw] at hcheck
  | fresh job =>
    simp only [begin?, hw] at hstart
    split at hstart <;> cases hstart
  | running job call =>
    refine .inr ⟨job, call, rfl, ?_⟩
    simpa [notice?, hw, isPast, hl.2] using hnotice
  | answered job outcome => simp [route?, hw, hfree] at hroute
  | settling job events reply => cases events <;> simp [settle?, hw] at hsettle
  | stopped =>
    have hc := hl.1
    simp [isClosed, hw] at hc

/-- At rest nothing is on its way to being settled. -/
theorem Resting.settled (hr : s.Resting) (hl : s.Live) :
    s.pending = s.undecided ∧ s.decided = s.replies := by
  obtain ⟨-, ⟨hw, -⟩ | ⟨job, call, hw, -⟩⟩ := hr.cases hl <;>
    simp [pending, undecided, decided, hw, Worker.job?, Worker.undecided?, Worker.decided?]

/-- Nothing was published since any of the requests undecided at rest was accepted. -/
theorem Resting.age_eq_zero (hr : s.Resting) (hl : s.Live)
    (h : (new host workspace).run? moves = some (s, log))
    (hn : log.countP Note.revokes < UInt64.size) (hj : job ∈ s.undecided) : age job.id log = 0 := by
  have ho := (sound_of_run h).orderly
  obtain ⟨-, ⟨hw, hq⟩ | ⟨front, call, hw, he⟩⟩ := hr.cases hl
  · simp [undecided, hw, hq, Worker.undecided?] at hj
  · have hu : s.undecided = front :: s.queue := by simp [undecided, hw, Worker.undecided?]
    have hfront : age front.id log = 0 := by
      have hp := published_eq_age h (hu ▸ List.mem_cons_self)
      refine eq_zero_of_eq_add (he ▸ hp) (Nat.lt_of_le_of_lt ?_ hn)
      exact (age_le_countP _ _).trans (countP_published_le h)
    have hle : front.id ≤ job.id := by
      have hsorted := ho.sorted_undecided
      rw [hu, List.map_cons, List.pairwise_cons] at hsorted
      rcases List.mem_cons.1 (hu ▸ hj) with rfl | hq
      · exact Nat.le_refl _
      · exact Nat.le_of_lt (hsorted.1 _ (List.mem_map.2 ⟨job, hq, rfl⟩))
    have := age_le_of_le h hle (ho.undecided_lt hj)
    omega

/-- The requests pending at rest are of the current epoch, and nothing was given up since any of
them was accepted. -/
theorem Resting.fresh (hr : s.Resting) (hl : s.Live)
    (h : (new host workspace).run? moves = some (s, log))
    (hn : log.countP Note.revokes < UInt64.size) (hj : job ∈ s.pending) :
    job.epoch = s.conversation.epoch ∧ (since job.id log).countP Note.revokes = 0 := by
  have hs := sound_of_run h
  have hfree := (hr.cases hl).1
  have hu : job ∈ s.undecided := (hr.settled hl).1 ▸ hj
  have hage := hr.age_eq_zero hl h hn hu
  constructor
  · rw [← hs.held.published_eq hfree, published_eq_age h hu, hage]
    exact (UInt64.add_zero job.epoch).symm
  · rw [countP_since h (hs.orderly.undecided_lt hu), hage, deeds_of_isFree hfree]
    rfl

theorem revocations_le_age (id : Nat) (log : Log) : revocations id log ≤ age id log :=
  (List.takeWhile_sublist _).countP_le

theorem revocations_le_append (hl : Logged log s) (hid : id < s.accepted) :
    revocations id log ≤ revocations id (log ++ notes) := by
  unfold revocations
  rw [since_append (exists_accepts hl hid), publications_append]
  exact Nat.le_add_right _ _

/-- What was given up is cancelled when the session is at rest. -/
theorem Resting.reply_of_revoked (hr : s.Resting) (hl : s.Live)
    (h : (new host workspace).run? moves = some (s, log))
    (hn : log.countP Note.revokes < UInt64.size) (hid : id < s.accepted)
    (hp : 0 < revocations id log) : s.reply? id = some (.error .cancelled) := by
  have hs := sound_of_run h
  have hle := revocations_le_age id log
  have hlt : revocations id log < UInt64.size :=
    Nat.lt_of_le_of_lt ((hle.trans (age_le_countP id log)).trans (countP_published_le h)) hn
  cases hreply : s.reply? id with
  | some reply =>
    rw [((standing_of_run h hl hid).of_revoked hs hp hlt).2.2 reply hreply]
  | none =>
    rcases hs.orderly.cases hid with ⟨job, hj, rfl⟩ | ⟨reply, hd⟩
    · have := hr.age_eq_zero hl h hn hj
      omega
    · exact absurd ((hr.settled hl).2 ▸ hd) (reply?_eq_none.1 hreply reply)

end Resting

/-- Nothing that was given up survives in a session that is in use, in which less than 2⁶⁴ times
something was cleared or cancelled. At rest the requests pending are of the current epoch, and
those given up are cancelled. It comes to rest without time passing and without an answer. The
worker, looking out while it waits, misses no epoch. And what was in the queue when an epoch was
published is not begun. -/
theorem nothing_stale_at_rest (h : (new host workspace).run? moves = some (s, log)) (hl : s.Live)
    (hn : log.countP Note.revokes < UInt64.size) :
    (s.Resting →
      (∀ job ∈ s.pending,
        job.epoch = s.conversation.epoch ∧ (since job.id log).countP Note.revokes = 0) ∧
      ∀ id < s.accepted, 0 < revocations id log → s.reply? id = some (.error .cancelled)) ∧
    ((∃ eager t notes, (∀ m ∈ eager, m.isEager) ∧ s.run? eager = some (t, notes) ∧ t.Resting ∧
        ∀ id < s.accepted, 0 < revocations id log → t.reply? id = some (.error .cancelled)) ∧
      ∀ eager t notes, (∀ m ∈ eager, m.isEager) → s.run? eager = some (t, notes) →
        eager.length ≤ s.effort) ∧
    (∀ job l, s.worker.Runs job → Watch job.epoch log s l → l ≠ .ended →
      (s.notice?.isSome ↔ Leads job.epoch (board log s) l .ended)) ∧
    ∀ before after u v early late epoch, moves = before ++ .proceed :: after →
      (new host workspace).run? before = some (u, early) →
      u.move? .proceed = some (v, [.published epoch]) → v.run? after = some (s, late) →
      ∀ job, job ∈ u.queue ∨ u.worker = .taken job →
        job.id ∉ v.begun after ∧ ∀ call, .called job.id call ∉ late := by
  refine ⟨fun hr => ⟨fun job hj => hr.fresh hl h hn hj, fun id hid hp =>
    hr.reply_of_revoked hl h hn hid hp⟩, ⟨?_, ?_⟩, ?_, ?_⟩
  · obtain ⟨eager, t, notes, hall, ht, hr⟩ := exists_resting s
    obtain ⟨htl, ha, hc⟩ := hl.of_eager_run hall ht
    refine ⟨eager, t, notes, hall, ht, hr, fun id hid hp => ?_⟩
    have hrun := run?_append.2 ⟨s, log, notes, h, ht, rfl⟩
    refine hr.reply_of_revoked htl hrun (by rwa [List.countP_append, hc]) (ha ▸ hid) ?_
    exact Nat.lt_of_lt_of_le hp (revocations_le_append (sound_of_run h).logged hid)
  · intro eager t notes hall ht
    have := length_le_effort hall ht
    omega
  · exact fun job l hr hw hne => notice_iff_leads hw hne hr
  · rintro before after u v early late epoch rfl hu hv hs job hj
    refine not_begun_of_published hu hv hs ?_ hj
    have hlog := run?_append.2 ⟨u, early, _, hu, run?_cons.2 ⟨v, _, late, hv, hs, rfl⟩, rfl⟩
    rw [hlog] at h
    cases h
    rwa [List.append_assoc]

/-- A host whose script never ends. -/
def silentHost : Host :=
  { sampleHost with runner := fun _ _ disk => (disk, ⟨none, .panic⟩) }

/-- What is done before two requests are cancelled, one under way and the other in the queue. -/
def overtakenMoves : List Move :=
  [.submit sampleSubmission, .proceed, .proceed, .proceed, .take, .check, .start,
    .submit sampleSubmission, .proceed, .proceed, .proceed, .cancel, .proceed]

theorem nothing_stale_at_rest_sample :
    ∃ s log, (new silentHost sampleWorkspace).run? overtakenMoves = some (s, log) ∧
      ∃ eager t notes, (∀ m ∈ eager, m.isEager) ∧ s.run? eager = some (t, notes) ∧ t.Resting ∧
        t.reply? 0 = some (.error .cancelled) ∧ t.reply? 1 = some (.error .cancelled) := by
  have h : ((new silentHost sampleWorkspace).run? overtakenMoves).map (fun p =>
      (p.1.isClosed, p.1.dropped, p.1.accepted, p.2.countP Note.revokes, revocations 0 p.2,
        revocations 1 p.2)) = some (false, false, 2, 1, 1, 1) := by decide +kernel
  obtain ⟨⟨s, log⟩, h, hf⟩ := Option.map_eq_some_iff.1 h
  simp only [Prod.mk.injEq] at hf
  obtain ⟨hc, hd, ha, hn, h₀, h₁⟩ := hf
  obtain ⟨-, ⟨⟨eager, t, notes, hall, ht, hr, hcancelled⟩, -⟩, -⟩ :=
    nothing_stale_at_rest h ⟨hc, hd⟩ (by rw [hn]; decide)
  exact ⟨s, log, h, eager, t, notes, hall, ht, hr, hcancelled 0 (by omega) (by omega),
    hcancelled 1 (by omega) (by omega)⟩

end Session

end AgentConsole
