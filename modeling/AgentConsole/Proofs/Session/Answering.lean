import AgentConsole.Proofs.Session.Asking
import AgentConsole.Proofs.Session.Independence

/-!
# Asking and being answered

Whoever waits for each reply before asking again gives up nothing that was asked, so the session is
calm as long as no run breaks down (`AtEase.calm`). The only request there is waits in the
conversation it was accepted in until its outcome is said there (`Answering.of_own`). So whatever is
asked in words is said, its outcome is said right behind it, and the outcome is the reply
(`AtEase.answered`).
-/

namespace AgentConsole

open AgentConsole.Agent AgentConsole.Text

namespace Session

/-- The only request there is waits, in this conversation and with these replies before it, or its
outcome is said in the conversation and decided on. -/
inductive Answering (job : Job) (c : Conversation) (replies : List (Nat × Reply)) (s : Session) : Prop
  | waiting (hu : s.undecided = [job]) (hc : s.conversation = c) (hd : s.decided = replies)
  | answered (outcome : Except AgentError String) (hu : s.undecided = [])
      (hc : s.conversation = c.push (answerMessage outcome))
      (hd : s.decided = (job.id, outcome.mapError .agent) :: replies)

/-- Between the one session and the other something was asked, and this was its outcome. -/
structure Answered (s : Session) (x : Submission) (outcome : Except AgentError String)
    (t : Session) : Prop where
  conversation : t.conversation = (asked s.conversation x).push (answerMessage outcome)
  replies : t.replies = (s.accepted, outcome.mapError .agent) :: s.replies
  accepted : t.accepted = s.accepted + 1
  directs : t.directs = []
  host : t.host = s.host

variable {s t : Session} {m : Move} {notes : Log} {job : Job} {x : Submission} {c : Conversation}
variable {replies : List (Nat × Reply)}

/-- In a calm session nothing is given up and the worker goes on, so a move of its own decides on no
request but by its outcome. -/
theorem Answering.of_own (hs : Answering job c replies s) (hcalm : s.Calm) (hm : m.isOwn)
    (h : s.move? m = some (t, notes)) : Answering job c replies t := by
  have hsame (hu : t.undecided = s.undecided) (hd : t.decided = s.decided)
      (hc : t.conversation = s.conversation) : Answering job c replies t := by
    cases hs with
    | waiting hu' hc' hd' => exact .waiting (hu.trans hu') (hc.trans hc') (hd.trans hd')
    | answered outcome hu' hc' hd' =>
      exact .answered outcome (hu.trans hu') (hc.trans hc') (hd.trans hd')
  have hwaits {job' : Job} (hj : s.worker.undecided? = some job') :
      s.isPast job' = false := hcalm.not_isPast (mem_undecided hj)
  cases transition_of_move h with
  | take hw hq =>
    exact hsame (by simp [undecided, hw, hq, Worker.undecided?])
      (by simp [decided, hw, Worker.decided?]) rfl
  | pass hw | start _ _ hw | call _ _ hw | answer hw | tell hw | reply hw =>
    exact hsame (by simp [undecided, hw, Worker.undecided?, announce])
      (by simp [decided, hw, Worker.decided?, announce]) rfl
  | endDirect => exact hsame rfl rfl rfl
  | refrain hw he =>
    have hpast := hwaits (by rw [hw]; rfl)
    simp [isPast, he] at hpast
  | notice hw hp =>
    rw [hwaits (Worker.undecided_of_runs (.inr hw))] at hp
    cases hp
  | panic hw _ hr => exact (hcalm.alive.2 _ _ hw hr).elim
  | @route job' outcome hw hf routed hr =>
    obtain ⟨hu, hd⟩ := undecided_cons (by rw [hw]; rfl)
    have he : s.conversation.epoch = job'.epoch := (hcalm.epochs job' (by simp [hu])).symm
    subst hr
    cases hs with
    | waiting hu' hc' hd' =>
      obtain ⟨rfl, hq⟩ := List.cons.inj (hu.symm.trans hu')
      refine .answered outcome hq ?_ ?_
      · rw [← hc']
        simp [Session.route, he, answerMessage]
      · rw [← hd', hd]
        simp [decided, Worker.decided?, Session.route, he, replyOf_told]
    | answered outcome' hu' => cases hu.symm.trans hu'
  | _ => cases hm

theorem isSteady_of_isOwn (hm : m.isOwn) : m.isSteady := by
  cases m <;> first | rfl | cases hm

/-- To let go of a calm conversation leaves the session calm. -/
theorem Calm.finishDeeds (hs : s.Calm) (hn : NeverPanics s.host) : s.finishDeeds.Calm := by
  obtain ⟨log, hrun⟩ := run?_finishDeeds s
  refine calm_of_run hn hs (fun m hm => ?_) hrun
  rw [List.eq_of_mem_replicate hm]
  rfl

/-- While no run breaks down, a session at ease is calm if nothing runs past its queue. -/
theorem AtEase.calm (hs : s.AtEase) (hn : NeverPanics s.host) (hd : s.directs = []) : s.Calm := by
  obtain ⟨host, workspace, moves, log, hrun⟩ := hs.reached
  have hhost : s.host = host := host_run hrun
  have hsound := sound_of_run hrun
  have halive : Alive s := (allStanding_of_run (hhost ▸ hn) hrun hs.kept).1
  obtain ⟨hw, hq⟩ := hs.idle halive.1
  refine ⟨halive, hs.kept, hd, ?_, hsound.held.published_eq (isFree_of_isOpen hs.isOpen), ?_⟩
  · simp [hs.free]
  · simp [undecided, hw, hq, Worker.undecided?]

theorem Answered.reply? {outcome : Except AgentError String} (h : Answered s x outcome t) :
    t.reply? s.accepted = some (outcome.mapError .agent) := by
  rw [Session.reply?, h.replies, List.lookup_cons_self]

/-- Until the only request there is has been waited for, it waits or is answered. -/
theorem Answering.waitFor (hs : Answering job c replies s) (hcalm : s.Calm)
    (hn : NeverPanics s.host) (id : Nat) : let t := s.waitFor id
    Answering job c replies t ∧ t.Calm ∧ t.accepted = s.accepted ∧ t.host = s.host := by
  refine waitFor_induct (P := fun t => Answering job c replies t ∧ t.Calm ∧
    t.accepted = s.accepted ∧ t.host = s.host) ?_ ?_ id ⟨hs, hcalm, rfl, rfl⟩
  · rintro t m u notes ⟨ht, hcalm, ha, hhost⟩ hm h
    exact ⟨ht.of_own hcalm hm h, calm_of_move (hhost ▸ hn) hcalm (isSteady_of_isOwn hm) h,
      (kept_of_own hm h).1.trans ha, (frame_of_own hm h).2.2.trans hhost⟩
  · rintro t moment ⟨ht, hcalm, ha, hhost⟩
    refine ⟨?_, calm_of_move (m := .elapse moment) (hhost ▸ hn) hcalm rfl rfl, ha, hhost⟩
    cases ht with
    | waiting hu hc hd => exact .waiting hu hc hd
    | answered outcome hu hc hd => exact .answered outcome hu hc hd

/-- What is asked in words in a calm session at ease is accepted, and then waits alone. -/
theorem AtEase.answering (hs : s.AtEase) (hn : NeverPanics s.host) (hcalm : s.Calm)
    (hb : trim x.essence ≠ "") : ∃ t, s.asking x = t.waitFor s.accepted ∧ t.Calm ∧
      Answering (s.jobOf x) (asked s.conversation x) s.replies t ∧
      t.accepted = s.accepted + 1 ∧ t.host = s.host := by
  obtain ⟨hw, hq⟩ := hs.idle hcalm.alive.1
  have hx := submit_eq_ok hb hcalm.alive.1
  generalize hu : ({ s with
    conversation := asked s.conversation x
    accepted := s.accepted + 1
    queue := s.queue ++ [s.jobOf x]
    deeds := acceptanceDeeds (asked s.conversation x) s.accepted x } : Session) = u at hx
  have hmove : s.move? (.submit x) = some (u, [.accepted s.accepted x]) := by
    simp [move?, hs.isOpen, submitNoted, hx]
  have hhost : u.host = s.host := host_step (step_of_move hmove)
  have hcalmu : u.finishDeeds.Calm :=
    (calm_of_move hn hcalm rfl hmove).finishDeeds (hhost ▸ hn)
  obtain ⟨published, announced, hfinish⟩ := finishDeeds_eq u
  refine ⟨u.finishDeeds, by rw [Session.asking, hx], hcalmu, ?_, ?_, ?_⟩
  · rw [hfinish, ← hu]
    exact .waiting (by simp [undecided, hw, hq, Worker.undecided?]) rfl
      (by simp [decided, hw, Worker.decided?])
  · rw [hfinish, ← hu]
  · rw [hfinish]
    exact hhost

/-- What is asked in words in a session at ease is said there, its outcome is said right behind it,
and is the reply. -/
theorem AtEase.answered (hs : s.AtEase) (hn : NeverPanics s.host) (hd : s.directs = [])
    (hb : trim x.essence ≠ "") : ∃ outcome, Answered s x outcome (s.asking x) := by
  obtain ⟨t, hasking, hcalm, hanswering, haccepted, hhost⟩ :=
    hs.answering hn (hs.calm hn hd) hb
  obtain ⟨hanswering, hcalm, haccepted', hhost'⟩ :=
    hanswering.waitFor hcalm (hhost ▸ hn) s.accepted
  rw [← hasking] at hanswering hcalm haccepted' hhost'
  -- The session is at ease again, so the request does not wait any more.
  obtain ⟨hw, hq⟩ := (hs.asking x).1.idle hcalm.alive.1
  cases hanswering with
  | waiting hu => simp [undecided, hw, hq, Worker.undecided?] at hu
  | answered outcome _ hc hreplies =>
    refine ⟨outcome, hc, ?_, haccepted'.trans haccepted, hcalm.directs, hhost'.trans hhost⟩
    simpa [decided, hw, Worker.decided?, jobOf] using hreplies

end Session

end AgentConsole
