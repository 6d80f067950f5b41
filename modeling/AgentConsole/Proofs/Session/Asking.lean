import AgentConsole.Proofs.Session.Budget
import AgentConsole.Proofs.Wire

/-!
# Asking one thing at a time

Whoever waits for the reply before asking again finds a session at ease: each request has its reply,
and nobody holds the conversation. Then what is asked is alone. It is waiting until it is begun, and
from then on the runner is not called any more (`Attended`), whatever the session does and however
much time passes. So the session is at ease again when the reply is there, and the runner was called
for this request at most (`AtEase.asking`).
-/

namespace AgentConsole

open AgentConsole.Agent

namespace Session

/-- The session when something was asked and, unless that was refused, its reply was waited for. -/
def asking (s : Session) (x : Submission) : Session :=
  match s.submit x with
  | (t, .error _) => t
  | (t, .ok id) => t.finishDeeds.waitFor id

/-- Between these runs and those the runner was called once at most, and then with a request file
that is read as this request. -/
def CalledFor (r : Request) (runs runs' : List (Invocation × String)) : Prop :=
  runs' = runs ∨ ∃ invocation text, runs' = (invocation, text) :: runs ∧
    Request.shape.reader.readAll text = .ok r

/-- In a session in use every request has its reply, and nobody holds the conversation. -/
structure AtEase (s : Session) : Prop where
  reached : ∃ host workspace, Reaches (new host workspace) s
  kept : s.dropped = false
  free : s.deeds = []
  served : s.pending = []

/-- The request the worker has taken up and not begun. -/
def Worker.unbegun? : Worker → Option Job
  | taken job | fresh job => some job
  | idle | running _ _ | answered _ _ | settling _ _ _ | stopped => none

/-- The requests for which the runner may still be called. -/
def unbegun (s : Session) : List Job :=
  s.worker.unbegun?.toList ++ s.queue

/-- A request is alone since there were these runs: it waits to be begun, or it was begun and the
runner is not called any more. -/
inductive Attended (job : Job) (runs : List (Invocation × String)) (s : Session) : Prop
  | waiting (hu : s.unbegun = [job]) (hr : s.workspace.runs = runs)
  | begun (hu : s.unbegun = []) (hr : CalledFor job.request runs s.workspace.runs)

variable {s t : Session} {m : Move} {notes : Log} {job : Job} {x : Submission} {id : Nat}
variable {runs : List (Invocation × String)}

section Steps

theorem runs_released (s : Session) : s.released.runs = s.workspace.runs := by
  unfold released
  split <;> rfl

/-- A move of its own begins the first request that waits, with a run, or calls no runner. -/
theorem unbegun_of_own (hm : m.isOwn) (h : s.move? m = some (t, notes)) :
    t.unbegun <:+ s.unbegun ∧ t.workspace.runs = s.workspace.runs ∨
      ∃ job invocation, s.unbegun = job :: t.unbegun ∧
        t.workspace.runs = (invocation, job.request.fileText) :: s.workspace.runs := by
  unfold unbegun
  cases transition_of_move h with
  | take hw hq => simp [hw, hq, Worker.unbegun?]
  | pass hw | answer hw | route hw | tell hw | reply hw =>
    simp [hw, Worker.unbegun?, Call.release, announce]
  | refrain hw => simp [hw, Worker.unbegun?, givingUp]
  | start workspace result hw hs =>
    obtain ⟨d, minted, -, -, rfl⟩ := grows_of_start hs
    simp [hw, Worker.unbegun?]
  | call workspace call hw hs =>
    obtain ⟨d, hc⟩ := called_of_start hs
    exact .inr ⟨_, call.invocation, by simp [hw, Worker.unbegun?], hc.runs⟩
  | notice hw =>
    rcases hw with hw | ⟨call, hw⟩ <;> simp [hw, Worker.unbegun?, givingUp, runs_released]
  | panic => simp [stop, Worker.unbegun?, runs_released]
  | endDirect => simp [Call.release]
  | _ => cases hm

theorem Attended.of_own (hs : Attended job runs s) (hm : m.isOwn)
    (h : s.move? m = some (t, notes)) : Attended job runs t := by
  rcases unbegun_of_own hm h with ⟨hu, hr⟩ | ⟨job', invocation, hu, hr⟩
  · cases hs with
    | waiting hu' hr' =>
      rw [hu', List.suffix_cons_iff, List.suffix_nil] at hu
      rcases hu with hu | hu
      · exact .waiting hu (hr.trans hr')
      · exact .begun hu (.inl (hr.trans hr'))
    | begun hu' hr' =>
      rw [hu', List.suffix_nil] at hu
      exact .begun hu (hr ▸ hr')
  · cases hs with
    | waiting hu' hr' =>
      obtain ⟨rfl, ht⟩ := List.cons.inj (hu.symm.trans hu')
      exact .begun ht (.inr ⟨invocation, _, hr' ▸ hr, Request.readAll_fileText _⟩)
    | begun hu' => cases hu.symm.trans hu'

/-- A move of its own asks nothing and leaves the session in use. -/
theorem kept_of_own (hm : m.isOwn) (h : s.move? m = some (t, notes)) :
    t.accepted = s.accepted ∧ t.dropped = s.dropped := by
  cases transition_of_move h with
  | take | pass | refrain | start | call | notice | answer | panic | route | tell | reply
  | endDirect => exact ⟨rfl, rfl⟩
  | _ => cases hm

end Steps

section Waiting

/-- What a session keeps by itself, and while time passes, is kept until the reply is there. -/
theorem waitFor_induct {P : Session → Prop}
    (own : ∀ {s m t notes}, P s → m.isOwn → s.move? m = some (t, notes) → P t)
    (elapse : ∀ {s} moment, P s → P (s.elapse moment)) (id : Nat) (hs : P s) :
    P (s.waitFor id) := by
  have hsettle {s : Session} (hs : P s) : P s.settle := settleFor_induct own s.work hs
  exact passTimers_induct (fun hs _ => hsettle (elapse _ hs)) _ _ _ (hsettle hs)

theorem settled_waitFor (id : Nat) (hf : s.deeds = []) : (s.waitFor id).Settled :=
  passTimers_induct (fun hs _ => settled_settle hs.free) _ _ _ (settled_settle hf)

/-- When the last request has its reply and nothing more happens, all are served. -/
theorem Settled.served (hs : s.Settled) (hb : s.Bounded) (ho : Orderly s)
    (ha : s.accepted = id + 1) (hr : (s.reply? id).isSome) : s.pending = [] := by
  rcases hs.cases with ⟨hw, hq⟩ | ⟨job, call, hw⟩ | hw
  · simp [Session.pending, hw, hq, Worker.job?]
  · obtain ⟨reply, hreply⟩ := Option.isSome_iff_exists.1 hr
    have hj : job ∈ s.undecided := mem_undecided (by rw [hw]; rfl)
    have hlt := ho.lt (mem_decided_of_mem_replies (mem_of_reply? hreply)) hj
    have := ho.undecided_lt hj
    omega
  · simp [Session.pending, hw, hb.queue hw, Worker.job?]

end Waiting

section AtEase

theorem atEase_new (host : Host) (workspace : Workspace) : (new host workspace).AtEase :=
  ⟨⟨host, workspace, .refl _⟩, rfl, rfl, rfl⟩

theorem AtEase.isOpen (hs : s.AtEase) : s.isOpen := by
  simp [Session.isOpen, isFree, hs.free, hs.kept]

/-- Whatever asks nothing, is done by whoever uses the session and lets go of the conversation,
leaves it at ease. -/
theorem AtEase.finishDeeds (hs : s.AtEase) (h : s.move? m = some (t, notes))
    (hd : t.dropped = s.dropped) (hp : t.pending = s.pending) : t.finishDeeds.AtEase := by
  obtain ⟨host, workspace, hreach⟩ := hs.reached
  obtain ⟨published, announced, hf⟩ := finishDeeds_eq t
  refine ⟨⟨host, workspace, ?_⟩, ?_, ?_, ?_⟩
  · exact (hreach.trans (reaches_of_move h)).trans (reaches_finishDeeds t)
  · rw [hf]
    exact hd.trans hs.kept
  · rw [hf]
  · rw [hf]
    exact hp.trans hs.served

/-- Whatever has no part in the session leaves it at ease. -/
theorem AtEase.apart (hs : s.AtEase) (h : s.move? m = some (t, notes))
    (hd : t.dropped = s.dropped) (hf : t.deeds = s.deeds) (hp : t.pending = s.pending) :
    t.AtEase := by
  obtain ⟨host, workspace, hreach⟩ := hs.reached
  exact ⟨⟨host, workspace, hreach.trans (reaches_of_move h)⟩, hd.trans hs.kept, hf.trans hs.free,
    hp.trans hs.served⟩

/-- When nothing waits, a worker that is not gone is idle. -/
theorem AtEase.idle (hs : s.AtEase) (hc : s.isClosed = false) :
    s.worker = .idle ∧ s.queue = [] := by
  obtain ⟨hw, hq⟩ := List.append_eq_nil_iff.1 hs.served
  refine ⟨?_, hq⟩
  unfold isClosed at hc
  cases hworker : s.worker <;> simp [hworker, Worker.job?] at hw hc ⊢

theorem unbegun_of_served (h : s.pending = []) : s.unbegun = [] := by
  obtain ⟨hw, hq⟩ := List.append_eq_nil_iff.1 h
  unfold unbegun
  cases hworker : s.worker <;> simp [hworker, Worker.job?, Worker.unbegun?, hq] at hw ⊢

/-- The only request there is, accepted last, has its reply when it has been waited for. The session
is at ease then, and the runner was called for this request at most. -/
theorem atEase_waitFor {host : Host} {workspace : Workspace} (hreach : Reaches (new host workspace) s)
    (hd : s.dropped = false) (hp : s.pending = [job]) (hu : s.unbegun = [job])
    (ha : s.accepted = job.id + 1) :
    let t := s.finishDeeds.waitFor job.id
    t.AtEase ∧ (t.reply? job.id).isSome ∧
      CalledFor job.request s.workspace.runs t.workspace.runs := by
  intro t
  have hreach' : Reaches (new host workspace) t :=
    (hreach.trans (reaches_finishDeeds s)).trans (reaches_waitFor _ _)
  obtain ⟨_, _, hrun⟩ := hreach
  obtain ⟨_, _, hrun'⟩ := id hreach'
  obtain ⟨published, announced, hf⟩ := finishDeeds_eq s
  have hfirst : s.pending = [] ++ job :: [] := hp
  have hreply : (t.reply? job.id).isSome := (waitFor_of_pending (bounded_of_run hrun) hfirst).1
  have hkept : t.accepted = s.accepted ∧ t.dropped = s.dropped := by
    refine waitFor_induct (P := fun u => u.accepted = s.accepted ∧ u.dropped = s.dropped) ?_ ?_ _ ?_
    · intro u m v notes hu hm h
      obtain ⟨ha, hd⟩ := kept_of_own hm h
      exact ⟨ha.trans hu.1, hd.trans hu.2⟩
    · exact fun _ hu => hu
    · rw [hf]
      exact ⟨rfl, rfl⟩
  have hattended : Attended job s.workspace.runs t := by
    refine waitFor_induct (fun hs hm h => hs.of_own hm h) (fun _ hs => ?_) _ ?_
    · cases hs with
      | waiting hu hr => exact .waiting hu hr
      | begun hu hr => exact .begun hu hr
    · rw [hf]
      exact .waiting hu rfl
  have hsettled : t.Settled := settled_waitFor _ (by rw [hf])
  have hserved := hsettled.served (bounded_of_run hrun') (sound_of_run hrun').orderly
    (hkept.1.trans ha) hreply
  refine ⟨⟨⟨host, workspace, hreach'⟩, hkept.2.trans hd, hsettled.free, hserved⟩, hreply, ?_⟩
  cases hattended with
  | waiting hu => cases hu.symm.trans (unbegun_of_served hserved)
  | begun _ hr => exact hr

/-- What is accepted in a session at ease is the only request there is. -/
theorem AtEase.alone (hs : s.AtEase) (h : s.submit x = (t, .ok id)) : Reaches s t ∧
    id = (s.jobOf x).id ∧ t.accepted = (s.jobOf x).id + 1 ∧ t.dropped = false ∧
    t.pending = [s.jobOf x] ∧ t.unbegun = [s.jobOf x] ∧ t.workspace = s.workspace := by
  have hmove : s.move? (.submit x) = some (t, [.accepted id x]) := by
    simp [move?, hs.isOpen, submitNoted, h]
  rcases submit_cases s x with ⟨e, he⟩ | ⟨hc, hok⟩
  · cases h.symm.trans he
  · obtain ⟨hw, hq⟩ := hs.idle hc
    obtain ⟨rfl, hid⟩ := Prod.mk.inj (h.symm.trans hok)
    refine ⟨reaches_of_move hmove, Except.ok.inj hid, rfl, hs.kept, ?_, ?_, rfl⟩
    · simp [Session.pending, hw, hq, Worker.job?]
    · simp [unbegun, hw, hq, Worker.unbegun?]

/-- What is asked in a session at ease is served, and the session is at ease again: it was refused,
or its reply is there. The runner is called once at most, for what was asked. -/
theorem AtEase.asking (hs : s.AtEase) (x : Submission) : (s.asking x).AtEase ∧
    CalledFor (x.request s.conversation.file) s.workspace.runs (s.asking x).workspace.runs := by
  unfold Session.asking
  split
  · next t e h =>
    rcases submit_cases s x with ⟨e', he⟩ | ⟨-, hok⟩
    · obtain ⟨rfl, -⟩ := Prod.mk.inj (h.symm.trans he)
      exact ⟨hs, .inl rfl⟩
    · cases h.symm.trans hok
  · next t id h =>
    obtain ⟨hst, rfl, ha, hd, hp, hu, hw⟩ := hs.alone h
    obtain ⟨host, workspace, hreach⟩ := hs.reached
    obtain ⟨hease, -, hcalled⟩ := atEase_waitFor (hreach.trans hst) hd hp hu ha
    rw [hw] at hcalled
    exact ⟨hease, hcalled⟩

end AtEase

end Session

end AgentConsole
