import AgentConsole.Proofs.Session.Order

/-!
# Holding the conversation

The deeds left to do tell who holds the conversation (`Held`): somebody with nothing about a request
to announce; or somebody who has begun a new epoch and publishes it next; or somebody whose request
has just been accepted and is being announced. In the last case the epoch published is the one of
that request, so the worker, which may have taken it up already, cannot have given it up; and it
cannot have taken its outcome into a conversation that is held. What the worker announces of a
request therefore comes after what is announced of its acceptance (`Held.due_of_decided`).
-/

namespace AgentConsole

open AgentConsole.Agent

namespace Session

/-- The request an event is about. -/
def Event.request? : Event → Option Nat
  | updated _ | file _ => none
  | loading id _ | response id _ _ | phase id _ => some id

/-- The events about a request. -/
def about (id : Nat) (events : List Event) : List Event :=
  events.filter fun e => e.request? = some id

/-- What is announced by a deed. -/
def Deed.event? : Deed → Option Event
  | publish _ => none
  | announce e => some e

/-- The events whoever holds the conversation still has to announce. -/
def due (s : Session) : List Event :=
  s.deeds.filterMap Deed.event?

/-- What there is to announce of the acceptance of a request. -/
def opening (id : Nat) : List Event :=
  [.phase id .dispatched, .loading id true]

variable {s t : Session} {notes : Log} {id : Nat}

@[simp] theorem about_nil (id : Nat) : about id [] = [] := rfl

theorem about_cons_of_eq {e : Event} {events : List Event} (h : e.request? = some id) :
    about id (e :: events) = e :: about id events :=
  List.filter_cons_of_pos (by simpa using h)

theorem about_cons_of_ne {e : Event} {events : List Event} (h : e.request? ≠ some id) :
    about id (e :: events) = about id events :=
  List.filter_cons_of_neg (by simpa using h)

theorem about_append (as bs : List Event) : about id (as ++ bs) = about id as ++ about id bs :=
  List.filter_append as bs

theorem about_eq_nil {events : List Event} (h : ∀ e ∈ events, e.request? ≠ some id) :
    about id events = [] := by
  simpa [about, List.filter_eq_nil_iff] using h

theorem about_eq_self {events : List Event} (h : ∀ e ∈ events, e.request? = some id) :
    about id events = events := by
  simpa [about, List.filter_eq_self] using h

/-- What the events about a request tell can be read off all events. -/
theorem filterMap_about {α : Type} {f : Event → Option α}
    (hf : ∀ e, e.request? ≠ some id → f e = none) (events : List Event) :
    (about id events).filterMap f = events.filterMap f := by
  induction events with
  | nil => rfl
  | cons e events ih =>
    by_cases he : e.request? = some id
    · rw [about_cons_of_eq he, List.filterMap_cons, List.filterMap_cons, ih]
    · rw [about_cons_of_ne he, List.filterMap_cons, hf e he, ih]

/-- Deeds that are announcements, none of them about a request. -/
def Plain (deeds : List Deed) : Prop :=
  ∀ d ∈ deeds, ∃ e, d = .announce e ∧ e.request? = none

/-- Who holds the conversation, if anybody. -/
inductive Held (s : Session) : Prop
  | plain (hp : Plain s.deeds) (he : s.published = s.conversation.epoch)
  | publishing {deeds : List Deed} (hd : s.deeds = .publish s.conversation.epoch :: deeds)
      (hp : Plain deeds) (he : s.conversation.epoch = s.published + 1)
  | accepting {id : Nat} (hd : ∀ d ∈ s.deeds, ∃ e, d = .announce e ∧ e.request? ∈ [none, some id])
      (he : s.published = s.conversation.epoch)
      (hj : ∀ job ∈ s.undecided, job.id = id → job.epoch = s.published)
      (hr : ∀ reply, (id, reply) ∈ s.decided → reply = .error .closed)
      (ho : s.dropped = false)

theorem Plain.about {deeds : List Deed} (h : Plain deeds) (id : Nat) :
    about id (deeds.filterMap Deed.event?) = [] := by
  refine about_eq_nil fun e he => ?_
  obtain ⟨d, hd, hde⟩ := List.mem_filterMap.1 he
  obtain ⟨e', rfl, hn⟩ := h d hd
  cases hde
  simp [hn]

theorem due_of_ne {id' : Nat}
    (h : ∀ d ∈ s.deeds, ∃ e, d = .announce e ∧ e.request? ∈ [none, some id']) (hne : id ≠ id') :
    about id s.due = [] := by
  refine about_eq_nil fun e he hid => ?_
  obtain ⟨d, hd, hde⟩ := List.mem_filterMap.1 he
  obtain ⟨e', rfl, hn⟩ := h d hd
  cases hde
  simp [hid, hne] at hn

/-- Nothing about a request that is decided is due, unless the session was closed before. -/
theorem Held.due_of_decided (hs : Held s) {reply : Reply} (h : (id, reply) ∈ s.decided)
    (hr : reply ≠ .error .closed) : about id s.due = [] := by
  rcases hs with ⟨hp, -⟩ | ⟨hd, hp, -⟩ | ⟨hd, -, -, hc, -⟩
  · exact hp.about id
  · rw [due, hd]
    exact hp.about id
  · refine due_of_ne hd fun hid => ?_
    subst hid
    exact hr (hc reply h)

theorem Held.published_eq (hs : Held s) (hf : s.isFree) : s.published = s.conversation.epoch := by
  rcases hs with ⟨-, he⟩ | ⟨hd, -, -⟩ | ⟨-, he, -, -, -⟩
  · exact he
  · simp [isFree, hd] at hf
  · exact he

theorem isFree_of_isOpen (h : s.isOpen) : s.isFree := by
  simp only [isOpen, Bool.and_eq_true] at h
  exact h.1

theorem deeds_of_isFree (h : s.isFree) : s.deeds = [] := by
  simpa [isFree] using h

theorem held_new (host : Host) (workspace : Workspace) : Held (.new host workspace) :=
  .plain (fun _ h => by cases h) rfl

/-- Who holds the conversation goes on to hold it while the worker decides no request. -/
theorem Held.congr (hs : Held s) (hd : t.deeds = s.deeds) (hp : t.published = s.published)
    (he : t.conversation.epoch = s.conversation.epoch) (ho : t.dropped = s.dropped)
    (hu : ∀ job ∈ t.undecided, job ∈ s.undecided)
    (hr : ∀ r ∈ t.decided, r ∈ s.decided ∨ r.2 = .error .closed) : Held t := by
  rcases hs with ⟨hpl, hse⟩ | ⟨hsd, hpl, hse⟩ | ⟨hsd, hse, hsj, hsr, hso⟩
  · exact .plain (hd ▸ hpl) (by rw [hp, he, hse])
  · exact .publishing (by rw [hd, he, hsd]) hpl (by rw [hp, he, hse])
  · refine .accepting (hd ▸ hsd) (by rw [hp, he, hse]) (fun job hj hid => ?_)
      (fun reply h => ?_) (ho ▸ hso)
    · rw [hp]
      exact hsj job (hu job hj) hid
    · rcases hr _ h with h | h
      · exact hsr reply h
      · exact h

/-- A conversation that nobody held is held by nobody, or by whoever has just changed it. -/
theorem held_plain (h : s.isFree) (hs : Held s) {deeds : List Deed} (hd : t.deeds = deeds)
    (hpl : Plain deeds) (hp : t.published = s.published)
    (he : t.conversation.epoch = s.conversation.epoch) : Held t :=
  .plain (hd ▸ hpl) (by rw [hp, he, hs.published_eq h])

theorem held_publishing (h : s.isFree) (hs : Held s) {deeds : List Deed}
    (hd : t.deeds = .publish t.conversation.epoch :: deeds) (hpl : Plain deeds)
    (hp : t.published = s.published)
    (he : t.conversation.epoch = s.conversation.epoch + 1) : Held t :=
  .publishing hd hpl (by rw [hp, he, hs.published_eq h])

theorem asked_epoch (c : Conversation) (x : Submission) : (asked c x).epoch = c.epoch := by
  unfold asked
  cases x.newFile? <;> rfl

theorem acceptanceDeeds_announce (c : Conversation) (x : Submission) :
    ∀ d ∈ acceptanceDeeds c id x, ∃ e, d = .announce e ∧ e.request? ∈ [none, some id] := by
  unfold acceptanceDeeds countDeed
  cases x.newFile? <;> simp [Event.request?]

/-- An epoch is published only by whoever has begun it. -/
theorem Held.of_publish (hs : Held s) {epoch : UInt64} {deeds : List Deed}
    (hd : s.deeds = .publish epoch :: deeds) :
    epoch = s.conversation.epoch ∧ Plain deeds ∧ epoch = s.published + 1 := by
  rcases hs with ⟨hp, -⟩ | ⟨hsd, hp, he⟩ | ⟨hsd, -⟩
  · obtain ⟨e, he, -⟩ := hp _ (hd ▸ List.mem_cons_self)
    cases he
  · rw [hd] at hsd
    cases hsd
    exact ⟨rfl, hp, he⟩
  · obtain ⟨e, he, -⟩ := hsd _ (hd ▸ List.mem_cons_self)
    cases he

theorem Held.announce (hs : Held s) {e : Event} {deeds : List Deed}
    (hd : s.deeds = .announce e :: deeds) :
    Held { s with deeds, announced := e :: s.announced } := by
  rcases hs with ⟨hp, he⟩ | ⟨hsd, -⟩ | ⟨hsd, he, hj, hr, ho⟩
  · exact .plain (fun d hm => hp d (hd ▸ List.mem_cons_of_mem _ hm)) he
  · rw [hd] at hsd
    cases hsd
  · exact .accepting (fun d hm => hsd d (hd ▸ List.mem_cons_of_mem _ hm)) he hj hr ho

/-- The new request is of the epoch published, and no request before it has its number. -/
theorem Held.accept (hs : Held s) (ho : Orderly s) (hx : s.isOpen) (x : Submission) :
    Held { s with
      conversation := asked s.conversation x
      accepted := s.accepted + 1
      queue := s.queue ++ [s.jobOf x]
      deeds := acceptanceDeeds (asked s.conversation x) s.accepted x } := by
  have hp := hs.published_eq (isFree_of_isOpen hx)
  refine .accepting (acceptanceDeeds_announce _ x) (by rw [asked_epoch, ← hp]) ?_ ?_ ?_
  · intro job hj hid
    simp only [undecided, ← List.append_assoc, List.mem_append, List.mem_singleton] at hj
    rcases hj with hj | rfl
    · have := ho.undecided_lt (List.mem_append.2 hj)
      omega
    · exact hp.symm
  · intro reply hr
    have := ho.decided_lt hr
    omega
  · simp only [isOpen, Bool.and_eq_true, Bool.not_eq_eq_eq_not, Bool.not_true] at hx
    exact hx.2

/-- A request that is being announced is not given up: its epoch is the one published. -/
theorem Held.giveUp (hs : Held s) {job : Job} (workspace : Workspace)
    (hw : s.worker.undecided? = some job) (hp : s.isPast job) :
    Held { s with workspace, worker := givingUp job } := by
  obtain ⟨hu, hd⟩ := undecided_cons hw
  rcases hs with ⟨hpl, he⟩ | ⟨hsd, hpl, he⟩ | ⟨hsd, he, hj, hr, ho⟩
  · exact .plain hpl he
  · exact .publishing hsd hpl he
  · have hne := fun hid => hj _ (hu ▸ List.mem_cons_self) hid
    refine .accepting hsd he (fun job hm hid => ?_) (fun reply hm => ?_) ho
    · exact hj job (hu ▸ List.mem_cons_of_mem _ hm) hid
    · rcases List.mem_cons.1 hm with h | h
      · cases h
        simp [isPast, ho, hne rfl] at hp
      · exact hr reply (hd ▸ h)

theorem held_step (ho : Orderly s) (hs : Held s) (h : Step s t notes) : Held t := by
  cases h with
  | chore h =>
    obtain ⟨hu, hd⟩ := h.undecided
    obtain ⟨-, hde, hp, hc, hdr⟩ := h.frame
    exact hs.congr hde hp (by rw [hc]) hdr (fun job hj => hu ▸ hj) fun r hr => .inl (hd ▸ hr)
  | accept x hx => exact hs.accept ho hx x
  | append m hx =>
    refine held_plain (isFree_of_isOpen hx) hs rfl ?_ rfl rfl
    simp [Plain, append, countDeed, Event.request?]
  | setFile a hx =>
    refine held_plain (isFree_of_isOpen hx) hs rfl ?_ rfl rfl
    simp [Plain, setFile, countDeed, Event.request?]
  | clear hx =>
    refine held_publishing (isFree_of_isOpen hx) hs rfl ?_ rfl rfl
    simp [Plain, countDeed, Event.request?]
  | cancel hx =>
    refine held_publishing (isFree_of_isOpen hx) hs rfl ?_ rfl rfl
    simp [Plain]
  | drop hx =>
    have hf := isFree_of_isOpen hx
    refine held_plain hf hs (deeds_of_isFree hf) ?_ rfl rfl
    simp [Plain]
  | publish hd =>
    obtain ⟨he, hp, -⟩ := hs.of_publish hd
    exact .plain hp he
  | announce hd => exact hs.announce hd
  | giveUp workspace hw hp => exact hs.giveUp workspace (Worker.undecided_of_runs hw) hp
  | discard hw hf | route hw hf =>
    refine held_plain hf hs (deeds_of_isFree hf) ?_ rfl rfl
    simp [Plain]
  | stop =>
    refine hs.congr rfl rfl rfl rfl (fun job hj => by cases hj) fun r hr => ?_
    simp only [decided, stop, Worker.decided?, Option.toList_none, List.nil_append,
      List.mem_append, List.mem_reverse, List.mem_map] at hr ⊢
    rcases hr with ⟨job, -, rfl⟩ | hr
    · exact .inr rfl
    · exact .inl (.inr hr)

end Session

end AgentConsole
