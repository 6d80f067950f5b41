import AgentConsole.Proofs.Session.Holding
import AgentConsole.Proofs.Session.Log

/-!
# What becomes known of a request

The events about a request, those due included, and the messages added to the history for it, depend
on how it stands alone (`sound_of_run`): of a request not decided, its acceptance is told; of one
decided, the reply says all that is told besides. Each step either leaves them alone for all
requests, or accepts one, or decides one and adds what its reply says.
-/

namespace AgentConsole

open AgentConsole.Agent

namespace Session

/-- The events the worker still has to announce. -/
def Worker.due : Worker → List Event
  | settling _ events _ => events
  | _ => []

/-- The events about a request, those due included. -/
def tidings (s : Session) (id : Nat) : List Event :=
  about id (s.announced.reverse ++ s.due ++ s.worker.due)

/-- The message a note tells of, if it was added for this request. -/
def Note.message? (id : Nat) : Note → Option Message
  | routed id' m => if id' = id then some m else none
  | _ => none

/-- The messages added to the history for a request. -/
def messagesOf (id : Nat) (log : Log) : List Message :=
  log.filterMap (Note.message? id)

/-- What is said in the conversation of a request with this reply, and whether it is an error. -/
def spoken : Reply → Option (String × Bool)
  | .ok text => some (text, false)
  | .error (.agent e) => some ("Error: " ++ e.message, true)
  | .error _ => none

/-- The phase a request with this reply ends in. -/
def closingPhase : Reply → Phase
  | .ok _ => .completed
  | .error (.agent e) => if e.isTimeout then .timedOut else .failed
  | .error _ => .cancelled

/-- The messages added for a request with this reply. -/
def closingMessages (reply : Reply) : List Message :=
  (spoken reply).toList.map fun x => ⟨.agent, x.1⟩

/-- What there is to announce of a request with this reply, when it is decided. -/
def closing (id : Nat) (reply : Reply) : List Event :=
  (spoken reply).toList.map (fun x => Event.response id x.1 x.2) ++
    endEvents id (closingPhase reply)

/-- All there is to announce of a request with this reply. -/
def lifecycle (id : Nat) (reply : Reply) : List Event :=
  opening id ++ closing id reply

variable {s t : Session} {log notes : Log} {id : Nat} {job : Job} {reply : Reply}

theorem tidings_eq (s : Session) (id : Nat) :
    s.tidings id = about id s.announced.reverse ++ about id s.due ++ about id s.worker.due := by
  simp only [tidings, about_append]

theorem messagesOf_nil (id : Nat) : messagesOf id [] = [] := rfl

theorem messagesOf_append (id : Nat) (log notes : Log) :
    messagesOf id (log ++ notes) = messagesOf id log ++ messagesOf id notes :=
  List.filterMap_append

theorem spoken_mapError (outcome : Except AgentError String) :
    spoken (outcome.mapError .agent) = some ((told outcome).1, (told outcome).2.1) := by
  cases outcome <;> rfl

theorem closingPhase_mapError (outcome : Except AgentError String) :
    closingPhase (outcome.mapError .agent) = (told outcome).2.2 := by
  cases outcome <;> rfl

theorem closingMessages_mapError (outcome : Except AgentError String) :
    closingMessages (outcome.mapError .agent) = [answerMessage outcome] := by
  rw [closingMessages, spoken_mapError]
  rfl

theorem closingPhase_isTerminal (reply : Reply) : (closingPhase reply).isTerminal := by
  rcases reply with (e | _ | _ | _) | text
  · cases h : e.isTimeout <;> simp [closingPhase, h, Phase.isTerminal]
  all_goals rfl

theorem request?_of_mem_closing {e : Event} (h : e ∈ closing id reply) : e.request? = some id := by
  simp only [closing, endEvents, List.mem_append, List.mem_map, List.mem_cons, List.not_mem_nil,
    or_false] at h
  rcases h with ⟨x, -, rfl⟩ | rfl | rfl | rfl <;> rfl

theorem about_closing_self (id : Nat) (reply : Reply) :
    about id (closing id reply) = closing id reply :=
  about_eq_self fun _ h => request?_of_mem_closing h

theorem about_closing_of_ne {id' : Nat} (h : id ≠ id') : about id (closing id' reply) = [] :=
  about_eq_nil fun _ he => by simpa [request?_of_mem_closing he] using h.symm

/-- What the worker still has to announce belongs to the request it settles, and goes with a reply
it decided on. -/
def Settling (s : Session) : Prop :=
  ∀ job events reply, s.worker = .settling job events reply →
    events <:+ endEvents job.id (closingPhase reply) ∧ Given reply

theorem settling_new (host : Host) (workspace : Workspace) : Settling (.new host workspace) := by
  intro job events reply h
  cases h

theorem settling_givingUp {w : Worker} (hw : w = givingUp job) :
    ∀ job events reply, w = .settling job events reply →
      events <:+ endEvents job.id (closingPhase reply) ∧ Given reply := by
  intro job' events reply h
  rw [hw] at h
  cases h
  exact ⟨List.suffix_rfl, .inl rfl⟩

theorem settling_step (hs : Settling s) (h : Step s t notes) : Settling t := by
  cases h with
  | chore h =>
    cases h with
    | quiet => exact hs
    | tell hw =>
      intro job events reply h
      cases h
      obtain ⟨he, hr⟩ := hs _ _ _ hw
      exact ⟨(List.suffix_cons _ _).trans he, hr⟩
    | _ =>
      intro job events reply h
      cases h
  | accept | append | setFile | clear | cancel | drop | publish | announce => exact hs
  | giveUp | discard => exact settling_givingUp rfl
  | @route job outcome hw hf he =>
    intro job' events reply h
    cases h
    rw [closingPhase_mapError]
    exact ⟨List.suffix_rfl, .inr ⟨outcome, rfl⟩⟩
  | stop =>
    intro job events reply h
    cases h

/-- What is known of a request: its events and its messages. -/
def account (log : Log) (s : Session) (id : Nat) : List Event × List Message :=
  (s.tidings id, messagesOf id log)

/-- What is known of each request is what its standing says. -/
structure Accounted (log : Log) (s : Session) : Prop where
  unknown : ∀ id, s.accepted ≤ id → account log s id = ([], [])
  undecided : ∀ job ∈ s.undecided, account log s job.id = (opening job.id, [])
  decided : ∀ id reply, (id, reply) ∈ s.decided → reply ≠ .error .closed →
    account log s id = (lifecycle id reply, closingMessages reply)
  closed : ∀ id, (id, .error .closed) ∈ s.decided →
    s.isClosed ∧ ∃ reply, s.tidings id <+: lifecycle id reply

/-- A step tells these events and messages of a request, and no others. -/
def Tells (s t : Session) (notes : Log) (id : Nat) (events : List Event)
    (messages : List Message) : Prop :=
  t.tidings id = s.tidings id ++ events ∧ messagesOf id notes = messages

/-- A step tells nothing of a request. -/
abbrev Silent (s t : Session) (notes : Log) (id : Nat) : Prop :=
  Tells s t notes id [] []

theorem Tells.account {events es : List Event} {messages ms : List Message}
    (h : Tells s t notes id events messages) (ha : account log s id = (es, ms)) :
    account (log ++ notes) t id = (es ++ events, ms ++ messages) := by
  obtain ⟨rfl, rfl⟩ := Prod.mk.inj ha
  rw [Session.account, h.1, messagesOf_append, h.2]

theorem Tells.silent_account (h : Silent s t notes id) :
    Session.account (log ++ notes) t id = Session.account log s id := by
  rw [h.account rfl, List.append_nil, List.append_nil]
  rfl

theorem accounted_new (host : Host) (workspace : Workspace) :
    Accounted [] (.new host workspace) := by
  refine ⟨fun id _ => rfl, ?_, ?_, ?_⟩
  · intro job h
    cases h
  · intro id reply h
    cases h
  · intro id h
    cases h

theorem isClosed_step (hc : s.isClosed) (h : Step s t notes) : t.isClosed := by
  have hw : s.worker = .stopped := by
    unfold isClosed at hc
    split at hc <;> simp_all
  cases h with
  | chore h => cases h <;> simp_all [isClosed, Worker.Runs]
  | giveUp _ h => simp [hw, Worker.Runs] at h
  | _ => simp_all [isClosed, append, setFile, clear, cancel, drop, stop]

/-- Nothing is told of any request, and none changes its standing. -/
theorem Accounted.same (hs : Accounted log s) (hq : ∀ id, Silent s t notes id)
    (hu : t.undecided = s.undecided) (hd : t.decided = s.decided) (ha : t.accepted = s.accepted)
    (hc : s.isClosed → t.isClosed) : Accounted (log ++ notes) t := by
  refine ⟨fun id h => ?_, fun job h => ?_, fun id reply h hr => ?_, fun id h => ?_⟩
  · rw [(hq id).silent_account]
    exact hs.unknown id (ha ▸ h)
  · rw [(hq job.id).silent_account]
    exact hs.undecided job (hu ▸ h)
  · rw [(hq id).silent_account]
    exact hs.decided id reply (hd ▸ h) hr
  · rw [(hq id).1, List.append_nil]
    obtain ⟨h₁, h₂⟩ := hs.closed id (hd ▸ h)
    exact ⟨hc h₁, h₂⟩

theorem Accounted.accept (ho : Orderly s) (hs : Accounted log s)
    (hq : ∀ id ≠ s.accepted, Silent s t notes id)
    (ht : Tells s t notes s.accepted (opening s.accepted) []) {x : Submission}
    (hu : t.undecided = s.undecided ++ [s.jobOf x]) (hd : t.decided = s.decided)
    (ha : t.accepted = s.accepted + 1) (hc : s.isClosed → t.isClosed) :
    Accounted (log ++ notes) t := by
  refine ⟨fun id h => ?_, fun job' h => ?_, fun id reply h hr => ?_, fun id h => ?_⟩
  · rw [(hq id (by omega)).silent_account]
    exact hs.unknown id (by omega)
  · rw [hu, List.mem_append, List.mem_singleton] at h
    rcases h with h | rfl
    · rw [(hq _ (Nat.ne_of_lt (ho.undecided_lt h))).silent_account]
      exact hs.undecided job' h
    · exact ht.account (hs.unknown s.accepted (Nat.le_refl _))
  · rw [hd] at h
    rw [(hq _ (Nat.ne_of_lt (ho.decided_lt h))).silent_account]
    exact hs.decided id reply h hr
  · rw [hd] at h
    rw [(hq _ (Nat.ne_of_lt (ho.decided_lt h))).1, List.append_nil]
    obtain ⟨h₁, h₂⟩ := hs.closed id h
    exact ⟨hc h₁, h₂⟩

theorem Accounted.decide (ho : Orderly s) (hs : Accounted log s)
    (hq : ∀ id ≠ job.id, Silent s t notes id)
    (ht : Tells s t notes job.id (closing job.id reply) (closingMessages reply))
    (hr : Given reply) (hu : s.undecided = job :: t.undecided)
    (hd : t.decided = (job.id, reply) :: s.decided) (ha : t.accepted = s.accepted)
    (hc : s.isClosed → t.isClosed) : Accounted (log ++ notes) t := by
  have hmem : job ∈ s.undecided := hu ▸ List.mem_cons_self
  have hnd := ho.nodup_undecided
  rw [hu, List.map_cons, List.nodup_cons] at hnd
  refine ⟨fun id h => ?_, fun job' h => ?_, fun id reply' h hr' => ?_, fun id h => ?_⟩
  · have hlt := ho.undecided_lt hmem
    rw [(hq id (by omega)).silent_account]
    exact hs.unknown id (ha ▸ h)
  · have hid : job'.id ≠ job.id := fun he => hnd.1 (he ▸ List.mem_map.2 ⟨job', h, rfl⟩)
    rw [(hq _ hid).silent_account]
    exact hs.undecided job' (hu ▸ List.mem_cons_of_mem _ h)
  · rw [hd, List.mem_cons] at h
    rcases h with h | h
    · cases h
      exact ht.account (hs.undecided job hmem)
    · rw [(hq id (Nat.ne_of_lt (ho.lt h hmem))).silent_account]
      exact hs.decided id reply' h hr'
  · rw [hd, List.mem_cons] at h
    rcases h with h | h
    · cases h
      exact absurd rfl hr.ne_closed
    · rw [(hq id (Nat.ne_of_lt (ho.lt h hmem))).1, List.append_nil]
      obtain ⟨h₁, h₂⟩ := hs.closed id h
      exact ⟨hc h₁, h₂⟩

theorem messagesOf_notes (id : Nat) (w w' : Worker) : messagesOf id (w.notes w') = [] := by
  cases w <;> cases w' <;> rfl

theorem Settling.request (hs : Settling s) {events : List Event}
    (hw : s.worker = .settling job events reply) : ∀ e ∈ events, e.request? = some job.id := by
  intro e he
  have hc : e ∈ closing job.id reply :=
    List.mem_append_right _ ((hs job events reply hw).1.mem he)
  exact request?_of_mem_closing hc

theorem mem_decided {events : List Event} (hw : s.worker = .settling job events reply) :
    (job.id, reply) ∈ s.decided := by
  simp [decided, hw, Worker.decided?]

/-- An announcement the worker has due comes after those that whoever holds the conversation has
due, but these are about other requests. -/
theorem tidings_tell (hh : Held s) (hs : Settling s) {e : Event} {events : List Event}
    (hw : s.worker = .settling job (e :: events) reply) (id : Nat) :
    about id (e :: s.announced).reverse ++ about id s.due ++ about id events = s.tidings id := by
  have hreq := hs.request hw
  rw [tidings_eq, hw, Worker.due, List.reverse_cons, about_append, List.append_assoc,
    List.append_assoc, List.append_assoc]
  by_cases hid : id = job.id
  · have hdec := mem_decided hw
    have hdue : about id s.due = [] := hid ▸ hh.due_of_decided hdec (hs job _ reply hw).2.ne_closed
    rw [hdue, List.nil_append, List.nil_append, ← about_append]
    rfl
  · have hne : ∀ e' ∈ e :: events, e'.request? ≠ some id := fun e' he' h =>
      hid (Option.some.inj (h.symm.trans (hreq e' he')))
    rw [about_eq_nil hne, about_eq_nil fun e' he' => hne e' (List.mem_cons_of_mem _ he'),
      about_eq_nil fun e' he' => hne e' (List.mem_singleton.1 he' ▸ List.mem_cons_self)]
    rfl

theorem Chore.silent (hh : Held s) (hs : Settling s) (h : Chore s t notes) (id : Nat) :
    Silent s t notes id := by
  unfold Silent Tells
  rw [List.append_nil]
  cases h with
  | quiet => exact ⟨rfl, rfl⟩
  | take hw | pass hw | call _ _ hw | reply hw =>
    refine ⟨?_, rfl⟩
    rw [tidings_eq, tidings_eq, hw]
    rfl
  | answer workspace outcome hw =>
    refine ⟨?_, messagesOf_notes id _ _⟩
    rw [tidings_eq, tidings_eq]
    rcases hw with hw | ⟨call, hw⟩ <;> rw [hw] <;> rfl
  | tell hw =>
    refine ⟨?_, rfl⟩
    rw [tidings_eq]
    exact tidings_tell hh hs hw id

/-- Changing the conversation tells nothing of requests when nothing about them becomes due. -/
theorem silent_of_isFree (hf : s.isFree) (ha : t.announced = s.announced) (hw : t.worker = s.worker)
    (hd : about id t.due = []) (hn : messagesOf id notes = []) : Silent s t notes id := by
  have hs : s.due = [] := by rw [due, deeds_of_isFree hf]; rfl
  refine ⟨?_, hn⟩
  simp only [tidings_eq, ha, hw, hd, hs, about_nil, List.append_nil]

theorem due_acceptance (c : Conversation) (x : Submission) (id : Nat) :
    ∃ events, (acceptanceDeeds c id x).filterMap Deed.event? = events ++ opening id
      ∧ ∀ e ∈ events, e.request? = none := by
  unfold acceptanceDeeds
  cases x.newFile? with
  | none => exact ⟨[.updated c.history.length], rfl, by simp [Event.request?]⟩
  | some a => exact ⟨[.file (some a), .updated c.history.length], rfl, by simp [Event.request?]⟩

theorem about_opening_self (id : Nat) : about id (opening id) = opening id :=
  about_eq_self fun e he => by
    simp only [opening, List.mem_cons, List.not_mem_nil, or_false] at he
    rcases he with rfl | rfl <;> rfl

theorem about_opening_of_ne {id' : Nat} (h : id ≠ id') : about id (opening id') = [] :=
  about_eq_nil fun e he => by
    simp only [opening, List.mem_cons, List.not_mem_nil, or_false] at he
    rcases he with rfl | rfl <;> simpa [Event.request?] using h.symm

theorem about_acceptance (c : Conversation) (x : Submission) (id id' : Nat) :
    about id' ((acceptanceDeeds c id x).filterMap Deed.event?) = about id' (opening id) := by
  obtain ⟨events, he, hn⟩ := due_acceptance c x id
  rw [he, about_append, about_eq_nil fun e hm => by rw [hn e hm]; simp]
  rfl

theorem tells_accepted (x : Submission) (hf : s.isFree) (hs : s.tidings s.accepted = []) :
    let t : Session := { s with
      conversation := asked s.conversation x
      accepted := s.accepted + 1
      queue := s.queue ++ [s.jobOf x]
      deeds := acceptanceDeeds (asked s.conversation x) s.accepted x }
    let notes : Log := [.accepted s.accepted x]
    (∀ id ≠ s.accepted, Silent s t notes id) ∧
      Tells s t notes s.accepted (opening s.accepted) [] := by
  intro t notes
  have hd : ∀ id, about id t.due = about id (opening s.accepted) := fun id =>
    about_acceptance _ x s.accepted id
  refine ⟨fun id hid => ?_, ?_, rfl⟩
  · exact silent_of_isFree hf rfl rfl (by rw [hd, about_opening_of_ne hid]) rfl
  · have hsplit := hs
    rw [tidings_eq, List.append_eq_nil_iff, List.append_eq_nil_iff] at hsplit
    obtain ⟨⟨ha, -⟩, hw⟩ := hsplit
    have ha' : about s.accepted t.announced.reverse = [] := ha
    have hw' : about s.accepted t.worker.due = [] := hw
    rw [hs, tidings_eq, hd, ha', hw', about_opening_self, List.append_nil]

theorem tells_givingUp (hw : s.worker.undecided? = some job) (workspace : Workspace)
    (hn : ∀ id, messagesOf id notes = []) :
    let t : Session := { s with workspace, worker := givingUp job }
    (∀ id ≠ job.id, Silent s t notes id) ∧
      Tells s t notes job.id (closing job.id (.error .cancelled)) [] := by
  intro t
  have htid : ∀ id, t.tidings id =
      s.tidings id ++ about id (closing job.id (.error .cancelled)) := by
    intro id
    have hs : s.worker.due = [] := by
      cases hc : s.worker <;> rw [hc] at hw <;> first | rfl | cases hw
    rw [tidings_eq, tidings_eq, hs, about_nil, List.append_nil]
    rfl
  refine ⟨fun id hid => ⟨?_, hn id⟩, ?_, hn job.id⟩
  · rw [htid, about_closing_of_ne hid]
  · rw [htid, about_closing_self]

theorem tells_routed {outcome : Except AgentError String} {c : Conversation} {n : Nat}
    (hw : s.worker = .answered job outcome) (hf : s.isFree) :
    let t : Session := { s with
      conversation := c
      announced := .updated n :: .response job.id (told outcome).1 (told outcome).2.1 :: s.announced
      worker := .settling job (endEvents job.id (told outcome).2.2) (outcome.mapError .agent) }
    let notes : Log := [.routed job.id (answerMessage outcome)]
    (∀ id ≠ job.id, Silent s t notes id) ∧
      Tells s t notes job.id (closing job.id (outcome.mapError .agent))
        (closingMessages (outcome.mapError .agent)) := by
  intro t notes
  have htid : ∀ id, t.tidings id =
      s.tidings id ++ about id (closing job.id (outcome.mapError .agent)) := by
    intro id
    have hs : s.due = [] := by rw [due, deeds_of_isFree hf]; rfl
    have ht : t.due = [] := hs
    have hu : about id [Event.updated n] = [] := by simp [about, Event.request?]
    rw [tidings_eq, tidings_eq, hs, ht, hw, closing, spoken_mapError, closingPhase_mapError]
    simp only [t, Worker.due, List.reverse_cons, about_append, hu, about_nil, List.append_nil,
      Option.toList_some, List.map_cons, List.map_nil, List.append_assoc]
  refine ⟨fun id hid => ⟨?_, ?_⟩, ?_, ?_⟩
  · rw [htid, about_closing_of_ne hid]
  · simp [notes, messagesOf, Note.message?, hid.symm]
  · rw [htid, about_closing_self]
  · rw [closingMessages_mapError]
    simp [notes, messagesOf, Note.message?]

theorem mem_pending (h : job ∈ s.pending) :
    job ∈ s.undecided ∨ ∃ events reply, s.worker = .settling job events reply := by
  unfold pending at h
  rcases List.mem_append.1 h with h | h
  · cases hw : s.worker <;> rw [hw] at h <;>
      simp_all [undecided, Worker.job?, Worker.undecided?]
  · exact .inl (List.mem_append_right _ h)

theorem prefix_tidings_stop (s : Session) (id : Nat) : s.stop.tidings id <+: s.tidings id := by
  rw [tidings_eq, tidings_eq]
  exact ⟨about id s.worker.due, by simp [stop, due, Worker.due]⟩

/-- The worker has nothing to announce of a request that has its reply. -/
theorem workerDue_of_replied (ho : Orderly s) (hb : Settling s) (h : (id, reply) ∈ s.replies) :
    about id s.worker.due = [] := by
  cases hw : s.worker with
  | settling job events reply' =>
    refine about_eq_nil fun e he hid => ?_
    have hnd := ho.nodup_decided
    rw [decided, hw] at hnd
    simp only [Worker.decided?, Option.toList_some, List.singleton_append, List.map_cons,
      List.nodup_cons] at hnd
    have heq := (hb.request hw e he).symm.trans hid
    exact hnd.1 (Option.some.inj heq ▸ List.mem_map.2 ⟨_, h, rfl⟩)
  | _ => rfl

theorem tidings_stop (ho : Orderly s) (hb : Settling s) (h : (id, reply) ∈ s.replies) :
    s.stop.tidings id = s.tidings id := by
  rw [tidings_eq, tidings_eq, workerDue_of_replied ho hb h]
  rfl

/-- When the worker goes for good, what it had to announce is lost, and nothing else. -/
theorem Accounted.stop (ho : Orderly s) (hb : Settling s) (hs : Accounted log s)
    (hn : ∀ id, messagesOf id notes = []) : Accounted (log ++ notes) s.stop := by
  have hm : ∀ id, messagesOf id (log ++ notes) = messagesOf id log := fun id => by
    rw [messagesOf_append, hn, List.append_nil]
  refine ⟨fun id h => ?_, fun job h => ?_, fun id reply h hr => ?_, fun id h => ?_⟩
  · obtain ⟨ht, hl⟩ := Prod.mk.inj (hs.unknown id h)
    have hp := prefix_tidings_stop s id
    rw [ht, List.prefix_nil] at hp
    rw [account, hm, hl, hp]
  · cases h
  · have hmem : (id, reply) ∈ s.replies := by
      simp only [Session.decided, Session.stop, Worker.decided?, Option.toList_none,
        List.nil_append, List.mem_append, List.mem_reverse, List.mem_map] at h
      rcases h with ⟨job, -, hj⟩ | h
      · exact absurd (Prod.mk.inj hj).2.symm hr
      · exact h
    rw [account, hm, tidings_stop ho hb hmem]
    exact hs.decided id reply (List.mem_append_right _ hmem) hr
  · refine ⟨rfl, ?_⟩
    simp only [Session.decided, Session.stop, Worker.decided?, Option.toList_none,
      List.nil_append, List.mem_append, List.mem_reverse, List.mem_map] at h
    rcases h with ⟨job, hj, he⟩ | h
    · cases he
      rcases mem_pending hj with hj | ⟨events, reply, hw⟩
      · refine ⟨.error .cancelled, (prefix_tidings_stop s job.id).trans ?_⟩
        rw [(Prod.mk.inj (hs.undecided job hj)).1]
        exact List.prefix_append _ _
      · have hac := hs.decided _ _ (mem_decided hw) (hb _ _ _ hw).2.ne_closed
        exact ⟨reply, (Prod.mk.inj hac).1 ▸ prefix_tidings_stop s job.id⟩
    · obtain ⟨-, reply, hp⟩ := hs.closed id (List.mem_append_right _ h)
      exact ⟨reply, (prefix_tidings_stop s id).trans hp⟩

theorem accounted_step (ho : Orderly s) (hh : Held s) (hb : Settling s) (hs : Accounted log s)
    (h : Step s t notes) : Accounted (log ++ notes) t := by
  have hc := fun hc => isClosed_step hc h
  cases h with
  | chore h =>
    exact hs.same (h.silent hh hb) h.undecided.1 h.undecided.2 h.frame.1 hc
  | accept x hx hcl =>
    have hnew := (Prod.mk.inj (hs.unknown s.accepted (Nat.le_refl _))).1
    obtain ⟨hq, ht⟩ := tells_accepted x (isFree_of_isOpen hx) hnew
    have hu : s.undecided ++ [s.jobOf x] = s.worker.undecided?.toList ++ (s.queue ++ [s.jobOf x]) :=
      List.append_assoc _ _ _
    exact hs.accept ho hq ht hu.symm rfl rfl hc
  | append m hx | setFile a hx | clear hx | cancel hx =>
    exact hs.same (fun id => silent_of_isFree (isFree_of_isOpen hx) rfl rfl rfl rfl) rfl rfl rfl hc
  | drop hx => exact hs.same (fun id => ⟨(List.append_nil _).symm, rfl⟩) rfl rfl rfl hc
  | publish hd | announce hd =>
    refine hs.same (fun id => ⟨?_, rfl⟩) rfl rfl rfl hc
    simp only [tidings, due, hd, List.append_nil, List.reverse_cons, List.append_assoc]
    rfl
  | giveUp workspace hw hp =>
    obtain ⟨hu, hd⟩ := undecided_cons (Worker.undecided_of_runs hw)
    obtain ⟨hq, ht⟩ := tells_givingUp (Worker.undecided_of_runs hw) workspace
      (fun id => messagesOf_notes id s.worker .idle)
    exact hs.decide ho hq ht (.inl rfl) hu (by rw [hd]; rfl) rfl hc
  | @discard job outcome hw hf he =>
    have hj : s.worker.undecided? = some job := by rw [hw]; rfl
    obtain ⟨hu, hd⟩ := undecided_cons hj
    obtain ⟨hq, ht⟩ := tells_givingUp hj s.workspace messagesOf_nil
    exact hs.decide ho hq ht (.inl rfl) hu (by rw [hd]; rfl) rfl hc
  | @route job outcome hw hf he =>
    obtain ⟨hu, hd⟩ := undecided_cons (by rw [hw]; rfl)
    obtain ⟨hq, ht⟩ := tells_routed hw hf
    exact hs.decide ho hq ht (.inr ⟨outcome, rfl⟩) hu (by rw [hd]; rfl) rfl hc
  | stop =>
    refine hs.stop ho hb fun id => ?_
    rw [messagesOf_append, messagesOf_notes, List.nil_append]
    simp [messagesOf, Note.message?]

/-- What holds of a session at any time: the order of its requests, who holds its conversation, what
the worker has to announce, and what is known of each request. -/
structure Sound (log : Log) (s : Session) : Prop where
  orderly : Orderly s
  given : ∀ r ∈ s.decided, r.2 = .error .closed ∨ Given r.2
  held : Held s
  settling : Settling s
  accounted : Accounted log s
  logged : Logged log s

theorem sound_new (host : Host) (workspace : Workspace) : Sound [] (.new host workspace) where
  orderly := orderly_new host workspace
  given := fun _ h => by cases h
  held := held_new host workspace
  settling := settling_new host workspace
  accounted := accounted_new host workspace
  logged := logged_new host workspace

theorem sound_step (hs : Sound log s) (h : Step s t notes) : Sound (log ++ notes) t where
  orderly := orderly_step hs.orderly h
  given := given_step hs.given h
  held := held_step hs.orderly hs.held h
  settling := settling_step hs.settling h
  accounted := accounted_step hs.orderly hs.held hs.settling hs.accounted h
  logged := logged_step hs.logged h

section Run

variable {host : Host} {workspace : Workspace} {moves : List Move}

/-- What holds of a new session and is kept by every step of a sound one holds after every run. -/
theorem sound_induct {P : Log → Session → Prop} (h₀ : P [] (new host workspace))
    (hstep : ∀ {log s t notes}, Sound log s → P log s → Step s t notes → P (log ++ notes) t)
    (h : (new host workspace).run? moves = some (s, log)) : Sound log s ∧ P log s := by
  refine run?_induct (P := fun log s => Sound log s ∧ P log s) ?_
    ⟨sound_new host workspace, h₀⟩ h
  rintro log s m t notes ⟨hs, hp⟩ hm
  exact ⟨sound_step hs (step_of_move hm), hstep hs hp (step_of_move hm)⟩

theorem sound_of_run (h : (new host workspace).run? moves = some (s, log)) : Sound log s :=
  (sound_induct (P := fun _ _ => True) trivial (fun _ _ _ => trivial) h).1

end Run

end Session

end AgentConsole
