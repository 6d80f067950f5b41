import AgentConsole.Proofs.Agent.Apart
import AgentConsole.Proofs.Session.Closing

/-!
# Twin sessions

Two sessions that differ in nothing but their runs past the queue, and in the names of request files
that the words of errors tell (`Twin`). What the one can do apart from those runs the other can do
too, and they stay twins (`Twin.of_transition`), if requests are started alike in both.
-/

namespace AgentConsole

open AgentConsole.Agent AgentConsole.Files AgentConsole.Session

/-- The texts are the same, or tell of outcomes that are, but for the name of a request file. -/
inductive TextLike : String → String → Prop
  | refl (text : String) : TextLike text text
  | told {o o' : Except AgentError String} (h : Alike o o') : TextLike (told o).1 (told o').1

structure Message.Like (m m' : Message) : Prop where
  role : m'.role = m.role
  content : TextLike m.content m'.content

namespace Session

inductive Event.Like : Event → Event → Prop
  | refl (e : Event) : Event.Like e e
  | response (id : Nat) (isError : Bool) {text text' : String} (h : TextLike text text') :
    Event.Like (.response id text isError) (.response id text' isError)

inductive Reply.Like : Reply → Reply → Prop
  | refl (reply : Reply) : Reply.Like reply reply
  | agent {o o' : Except AgentError String} (h : Alike o o') :
    Reply.Like (o.mapError .agent) (o'.mapError .agent)

structure Conversation.Like (c c' : Conversation) : Prop where
  history : List.Forall₂ Message.Like c.history c'.history
  file : c'.file = c.file
  epoch : c'.epoch = c.epoch

inductive Worker.Like : Worker → Worker → Prop
  | idle : Worker.Like .idle .idle
  | taken (job : Job) : Worker.Like (.taken job) (.taken job)
  | fresh (job : Job) : Worker.Like (.fresh job) (.fresh job)
  | running (job : Job) {call call' : Call} (h : call.Like call') :
    Worker.Like (.running job call) (.running job call')
  | answered (job : Job) {o o' : Except AgentError String} (h : Alike o o') :
    Worker.Like (.answered job o) (.answered job o')
  | settling (job : Job) (events : List Event) {reply reply' : Reply} (h : reply.Like reply') :
    Worker.Like (.settling job events reply) (.settling job events reply')
  | stopped : Worker.Like .stopped .stopped

/-- The sessions differ in nothing but runs past the queue, the disk, and the names of request
files. -/
structure Twin (s t : Session) : Prop where
  host : t.host = s.host
  now : t.workspace.now = s.workspace.now
  conversation : s.conversation.Like t.conversation
  published : t.published = s.published
  deeds : t.deeds = s.deeds
  accepted : t.accepted = s.accepted
  queue : t.queue = s.queue
  worker : s.worker.Like t.worker
  dropped : t.dropped = s.dropped
  announced : List.Forall₂ Event.Like s.announced t.announced
  replies : List.Forall₂ (fun p p' => p'.1 = p.1 ∧ p.2.Like p'.2) s.replies t.replies

variable {s t s' : Session} {m : Move} {c c' : Conversation} {job : Job}
variable {o o' : Except AgentError String}

section Conversations

theorem Message.Like.refl (m : Message) : m.Like m :=
  ⟨rfl, .refl _⟩

theorem Conversation.Like.refl (c : Conversation) : c.Like c :=
  ⟨List.forall₂_same.2 fun m _ => Message.Like.refl m, rfl, rfl⟩

theorem Conversation.Like.push {m m' : Message} (h : c.Like c') (hm : m.Like m') :
    (c.push m).Like (c'.push m') :=
  ⟨List.rel_append h.history (.cons hm .nil), h.file, h.epoch⟩

theorem Conversation.Like.countDeed (h : c.Like c') : countDeed c' = countDeed c := by
  unfold Session.countDeed
  rw [h.history.length_eq]

theorem Conversation.Like.asked (h : c.Like c') (x : Submission) :
    (asked c x).Like (asked c' x) := by
  have hpush := h.push (Message.Like.refl ⟨.user, x.said⟩)
  unfold Session.asked
  cases x.newFile? with
  | none => exact hpush
  | some file => exact ⟨hpush.history, rfl, hpush.epoch⟩

theorem Conversation.Like.invalidate (h : c.Like c') : c.invalidate.Like c'.invalidate :=
  ⟨h.history, h.file, congrArg (· + 1) h.epoch⟩

theorem Conversation.Like.clear (h : c.Like c') : c.clear.Like c'.clear :=
  ⟨.nil, rfl, h.invalidate.epoch⟩

theorem told_like (h : Alike o o') : (told o').2 = (told o).2 := by
  cases h with
  | refl => rfl
  | spawn | requestFile => simp [told, AgentError.isTimeout]

/-- Outcomes that are alike are taken into conversations alike. -/
theorem route_like (hc : c.Like c') (id : Nat) (epoch : UInt64) (h : Alike o o') :
    (route c id epoch o).conversation.Like (route c' id epoch o').conversation ∧
      (route c' id epoch o').phase = (route c id epoch o).phase ∧
      List.Forall₂ Event.Like (route c id epoch o).events (route c' id epoch o').events := by
  have htext := TextLike.told h
  have htold := told_like h
  unfold route
  rw [hc.epoch]
  split_ifs with he
  · exact ⟨hc, rfl, .nil⟩
  · generalize told o = x at htext htold
    generalize told o' = x' at htext htold
    obtain ⟨text, isError, phase⟩ := x
    obtain ⟨text', isError', phase'⟩ := x'
    cases htold
    have hpush : (c.push ⟨.agent, text⟩).Like (c'.push ⟨.agent, text'⟩) := hc.push ⟨rfl, htext⟩
    simp only [hpush.history.length_eq]
    exact ⟨hpush, trivial, .cons (.response id isError htext) (.cons (.refl _) .nil)⟩

theorem replyOf_like (h : Alike o o') (phase : Phase) :
    Reply.Like (replyOf phase o) (replyOf phase o') := by
  unfold replyOf
  split_ifs
  · exact .refl _
  · exact .agent h

end Conversations

section Twins

theorem Worker.Like.job? {w w' : Worker} (h : w.Like w') : w'.job? = w.job? := by
  cases h <;> rfl

theorem Worker.Like.stopped_iff {w w' : Worker} (h : w.Like w') :
    w' = .stopped ↔ w = .stopped := by
  cases h <;> simp

theorem Twin.isOpen (h : Twin s t) : t.isOpen = s.isOpen := by
  rw [Session.isOpen, Session.isFree, h.deeds, h.dropped, Session.isOpen, Session.isFree]

theorem Twin.isClosed (h : Twin s t) : t.isClosed = s.isClosed := by
  rw [Bool.eq_iff_iff, isClosed_iff, isClosed_iff, h.worker.stopped_iff]

theorem Twin.isPast (h : Twin s t) (job : Job) : t.isPast job = s.isPast job := by
  rw [Session.isPast, h.published, h.dropped, Session.isPast]

theorem Twin.pending (h : Twin s t) : t.pending = s.pending := by
  rw [Session.pending, h.worker.job?, h.queue, Session.pending]

theorem Twin.submit (h : Twin s t) (x : Submission) : (t.submit x).2 = (s.submit x).2 := by
  unfold Session.submit
  rw [h.isClosed, h.accepted]
  split_ifs <;> rfl

/-- The conversations are changed alike, and leave the same deeds. -/
theorem Twin.changed (h : Twin s t) (hc : c.Like c') {deeds deeds' : List Deed}
    (hd : deeds' = deeds) :
    Twin { s with conversation := c, deeds } { t with conversation := c', deeds := deeds' } :=
  ⟨h.host, h.now, hc, h.published, hd, h.accepted, h.queue, h.worker, h.dropped, h.announced,
    h.replies⟩

/-- The workers go on alike. -/
theorem Twin.worked (h : Twin s t) {w w' : Worker} {v v' : Workspace} (hw : w.Like w')
    (hv : v'.now = v.now) :
    Twin { s with workspace := v, worker := w } { t with workspace := v', worker := w' } :=
  ⟨h.host, hv, h.conversation, h.published, h.deeds, h.accepted, h.queue, hw, h.dropped,
    h.announced, h.replies⟩

theorem Twin.stop (h : Twin s t) : Twin s.stop t.stop := by
  refine ⟨h.host, ?_, h.conversation, h.published, h.deeds, h.accepted, rfl, .stopped, h.dropped,
    h.announced, ?_⟩
  · exact (now_released t).trans (h.now.trans (now_released s).symm)
  · unfold Session.stop
    rw [h.pending]
    exact List.rel_append (List.forall₂_same.2 fun p _ => ⟨rfl, .refl _⟩) h.replies

/-- What the one session can do the other can do too, and they stay twins. -/
theorem Twin.of_transition (h : Twin s t) (hm : m.isDirect = false)
    (hd : ∀ disk, m ≠ .disturb disk)
    (hstart : ∀ job, m = .start → s.worker = .fresh job →
      (s.host.start s.workspace job.request).2.Like (t.host.start t.workspace job.request).2)
    (hs : Transition s m s') : ∃ t', Transition t m t' ∧ Twin s' t' := by
  have hworker := h.worker
  generalize ht : t.worker = w at hworker
  cases hs with
  | @refuse x e ho hx =>
    have he := h.submit x
    rw [hx] at he
    rcases submit_cases t x with ⟨e', ht⟩ | ⟨-, ht⟩
    · exact ⟨t, .refuse (h.isOpen.trans ho) ht, h⟩
    · rw [ht] at he
      cases he
  | @accept x ho hc hx =>
    have hasked := h.conversation.asked x
    refine ⟨_, .accept (h.isOpen.trans ho) (h.isClosed.trans hc) ?_, ?_⟩
    · rw [h.submit x, hx, h.accepted]
    · refine ⟨h.host, h.now, hasked, h.published, ?_, ?_, ?_, h.worker, h.dropped, h.announced,
        h.replies⟩
      · simp only [acceptanceDeeds, hasked.countDeed, h.accepted]
      · simp only [h.accepted]
      · simp only [jobOf, h.queue, h.accepted, h.conversation.file, h.conversation.epoch]
  | append m ho =>
    have hpush := h.conversation.push (Message.Like.refl m)
    refine ⟨_, .append m (h.isOpen.trans ho), h.changed hpush ?_⟩
    rw [hpush.countDeed]
  | setFile a ho =>
    have hpush := h.conversation.push (Message.Like.refl (loadedNotice a))
    have hfile : (s.conversation.setFile a).Like (t.conversation.setFile a) :=
      ⟨hpush.history, rfl, hpush.epoch⟩
    refine ⟨_, .setFile a (h.isOpen.trans ho), h.changed hfile ?_⟩
    rw [hfile.countDeed]
  | clear ho =>
    have hclear := h.conversation.clear
    refine ⟨_, .clear (h.isOpen.trans ho), h.changed hclear ?_⟩
    rw [hclear.countDeed, hclear.epoch]
  | cancel ho =>
    have hnext := h.conversation.invalidate
    refine ⟨_, .cancel (h.isOpen.trans ho), h.changed hnext ?_⟩
    rw [hnext.epoch]
  | drop ho =>
    exact ⟨_, .drop (h.isOpen.trans ho), h.host, h.now, h.conversation, h.published, h.deeds,
      h.accepted, h.queue, h.worker, rfl, h.announced, h.replies⟩
  | direct | directCall | endDirect => cases hm
  | @proceed deed deeds hdeeds =>
    refine ⟨_, .proceed (h.deeds.trans hdeeds), ?_⟩
    cases deed with
    | publish epoch =>
      exact ⟨h.host, h.now, h.conversation, rfl, rfl, h.accepted, h.queue, h.worker, h.dropped,
        h.announced, h.replies⟩
    | announce e =>
      exact ⟨h.host, h.now, h.conversation, h.published, rfl, h.accepted, h.queue, h.worker,
        h.dropped, .cons (.refl e) h.announced, h.replies⟩
  | @take job queue hw hq =>
    rw [hw] at hworker
    cases hworker
    exact ⟨_, .take ht (h.queue.trans hq), h.host, h.now, h.conversation, h.published, h.deeds,
      h.accepted, rfl, .taken job, h.dropped, h.announced, h.replies⟩
  | @pass job hw he =>
    rw [hw] at hworker
    cases hworker
    exact ⟨_, .pass ht (h.published.trans he), h.worked (.fresh job) h.now⟩
  | @refrain job hw he =>
    rw [hw] at hworker
    cases hworker
    exact ⟨_, .refrain ht (h.published ▸ he), h.worked (.settling job _ (.refl _)) h.now⟩
  | @start job workspace result hw hs =>
    have hlike := hstart job rfl hw
    rw [hw] at hworker
    cases hworker
    rcases hs' : t.host.start t.workspace job.request with ⟨v, started⟩
    have hnow : v.now = workspace.now := by rw [now_of_start hs', now_of_start hs, h.now]
    rw [hs, hs'] at hlike
    simp only at hlike
    cases hlike with
    | done ho => exact ⟨_, .start v _ ht hs', h.worked (.answered job ho) hnow⟩
  | @call job workspace call hw hs =>
    have hlike := hstart job rfl hw
    rw [hw] at hworker
    cases hworker
    rcases hs' : t.host.start t.workspace job.request with ⟨v, started⟩
    have hnow : v.now = workspace.now := by rw [now_of_start hs', now_of_start hs, h.now]
    rw [hs, hs'] at hlike
    simp only at hlike
    cases hlike with
    | called hc => exact ⟨_, .call v _ ht hs', h.worked (.running job hc) hnow⟩
  | @notice job hw hp =>
    have hnow : t.released.now = s.released.now := by rw [now_released, now_released, h.now]
    have hp' : t.isPast job := (h.isPast job).trans hp
    rcases hw with hw | ⟨call, hw⟩
    · rw [hw] at hworker
      cases hworker
      exact ⟨_, .notice (.inl ht) hp', h.worked (.settling job _ (.refl _)) hnow⟩
    · rw [hw] at hworker
      cases hworker
      exact ⟨_, .notice (.inr ⟨_, ht⟩) hp', h.worked (.settling job _ (.refl _)) hnow⟩
  | @answer job call outcome hw htimer hr =>
    rw [hw] at hworker
    cases hworker with
    | @running _ _ call' hc =>
      have hrel := hc.result? s.host
      rw [hr] at hrel
      generalize hr' : call'.result? s.host = result at hrel
      cases hrel with
      | some ho =>
        refine ⟨_, .answer ht ?_ (h.host ▸ hr'), h.worked (.answered job ho) h.now⟩
        rwa [hc.timer, h.now]
  | @panic job call hw htimer hr =>
    rw [hw] at hworker
    cases hworker with
    | @running _ _ call' hc =>
      have hrel := hc.result? s.host
      rw [hr] at hrel
      generalize hr' : call'.result? s.host = result at hrel
      cases hrel
      refine ⟨_, .panic ht ?_ (h.host ▸ hr'), h.stop⟩
      rwa [hc.timer, h.now]
  | @route job outcome hw hf routed hr =>
    subst hr
    rw [hw] at hworker
    cases hworker with
    | @answered _ _ outcome' ho =>
      obtain ⟨hconversation, hphase, hevents⟩ := route_like h.conversation job.id job.epoch ho
      have hfree : t.isFree := by rwa [isFree, h.deeds]
      refine ⟨_, .route ht hfree rfl, h.host, h.now, hconversation, h.published, h.deeds,
        h.accepted, h.queue, ?_, h.dropped, ?_, h.replies⟩
      · simp only [hphase]
        exact .settling job _ (replyOf_like ho _)
      · exact List.rel_append (List.rel_reverse hevents) h.announced
  | @tell job e events reply hw =>
    rw [hw] at hworker
    cases hworker with
    | settling _ _ hreply =>
      exact ⟨_, .tell ht, h.host, h.now, h.conversation, h.published, h.deeds, h.accepted, h.queue,
        .settling job events hreply, h.dropped, .cons (.refl e) h.announced, h.replies⟩
  | @reply job reply hw =>
    rw [hw] at hworker
    cases hworker with
    | settling _ _ hreply =>
      exact ⟨_, .reply ht, h.host, h.now, h.conversation, h.published, h.deeds, h.accepted, h.queue,
        .idle, h.dropped, h.announced, .cons ⟨rfl, hreply⟩ h.replies⟩
  | stop hdropped => exact ⟨_, .stop (h.dropped.trans hdropped), h.stop⟩
  | elapse moment =>
    refine ⟨_, .elapse moment, h.host, ?_, h.conversation, h.published, h.deeds, h.accepted,
      h.queue, h.worker, h.dropped, h.announced, h.replies⟩
    simp only [Session.elapse, h.now]
  | disturb disk => exact absurd rfl (hd disk)

end Twins

end Session

end AgentConsole
