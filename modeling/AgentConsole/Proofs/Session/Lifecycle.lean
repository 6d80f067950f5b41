import AgentConsole.Proofs.Session.Account

/-!
# The life of a request

What is announced of a request tells one story (`Story`): it is on its way, then perhaps there is a
response, then it is over, in one terminal phase, and there is a response unless it was cancelled.
At any time the events announced so far are the beginning of such a story, and all of it once there
is a reply (`Sound.about_prefix`, `Sound.about_of_replied`). So the requests that are shown as
loading, whenever the worker is between two requests or waits for an answer and nobody holds the
conversation, are those without a reply (`Sound.lastLoading?_eq_true`).
-/

namespace AgentConsole

open AgentConsole.Agent

namespace Session

/-- All the events about a request that is over. -/
def Story (id : Nat) (events : List Event) : Prop :=
  ∃ (response : Option (String × Bool)) (p : Phase),
    p.isTerminal ∧ (response.isSome ↔ p ≠ .cancelled) ∧
      events = [.phase id .dispatched, .loading id true] ++
        (response.toList.map fun r => .response id r.1 r.2) ++
        [.loading id false, .phase id p, .phase id .idle]

/-- What an event says of whether a request is loading. -/
def Event.loading? (id : Nat) : Event → Option Bool
  | loading id' isLoading => if id' = id then some isLoading else none
  | _ => none

/-- What was said last of whether a request is loading. -/
def lastLoading? (s : Session) (id : Nat) : Option Bool :=
  s.announced.findSome? (Event.loading? id)

variable {s : Session} {log : Log} {id : Nat} {job : Job} {reply : Reply}

theorem mem_of_reply? (h : s.reply? id = some reply) : (id, reply) ∈ s.replies := by
  obtain ⟨l₁, l₂, hl, -⟩ := List.lookup_eq_some_iff.1 h
  rw [hl]
  exact List.mem_append_right _ List.mem_cons_self

theorem reply?_eq_none : s.reply? id = none ↔ ∀ reply, (id, reply) ∉ s.replies := by
  simp only [reply?, List.lookup_eq_none_iff]
  constructor
  · intro h reply hm
    simpa using h _ hm
  · rintro h ⟨id', reply⟩ hm
    by_cases hid : id = id'
    · exact absurd (hid ▸ hm) (h reply)
    · simpa using hid

theorem mem_decided_of_mem_replies (h : (id, reply) ∈ s.replies) : (id, reply) ∈ s.decided :=
  List.mem_append_right _ h

theorem Orderly.reply?_of_undecided (hs : Orderly s) (h : job ∈ s.undecided) :
    s.reply? job.id = none := by
  refine reply?_eq_none.2 fun reply hm => ?_
  have := hs.lt (mem_decided_of_mem_replies hm) h
  omega

theorem story_lifecycle (id : Nat) (reply : Reply) : Story id (lifecycle id reply) := by
  refine ⟨spoken reply, closingPhase reply, closingPhase_isTerminal reply, ?_, ?_⟩
  · rcases reply with (e | _ | _ | _) | text
    · cases h : e.isTimeout <;> simp [spoken, closingPhase, h]
    all_goals simp [spoken, closingPhase]
  · simp [lifecycle, opening, closing, endEvents]

theorem about_announced_prefix (s : Session) (id : Nat) :
    about id s.announced.reverse <+: s.tidings id := by
  rw [tidings_eq, List.append_assoc]
  exact List.prefix_append _ _

/-- Everything is announced of a request that has its reply. -/
theorem Sound.about_of_replied (hs : Sound log s) (h : (id, reply) ∈ s.replies)
    (hr : reply ≠ .error .closed) : about id s.announced.reverse = lifecycle id reply := by
  have hd := mem_decided_of_mem_replies h
  have ha := (Prod.mk.inj (hs.accounted.decided id reply hd hr)).1
  rwa [tidings_eq, hs.held.due_of_decided hd hr, List.append_nil,
    workerDue_of_replied hs.orderly hs.settling h, List.append_nil] at ha

/-- What is announced of a request is the beginning of what goes with some reply. -/
theorem Sound.about_prefix (hs : Sound log s) (h : id < s.accepted) :
    ∃ reply, about id s.announced.reverse <+: lifecycle id reply := by
  have hp := about_announced_prefix s id
  rcases hs.orderly.cases h with ⟨job, hj, rfl⟩ | ⟨reply, hd⟩
  · rw [(Prod.mk.inj (hs.accounted.undecided job hj)).1] at hp
    exact ⟨.error .cancelled, hp.trans (List.prefix_append _ _)⟩
  · by_cases hr : reply = .error .closed
    · obtain ⟨-, reply', hl⟩ := hs.accounted.closed id (hr ▸ hd)
      exact ⟨reply', hp.trans hl⟩
    · rw [(Prod.mk.inj (hs.accounted.decided id reply hd hr)).1] at hp
      exact ⟨reply, hp⟩

theorem lastLoading?_eq (s : Session) (id : Nat) : s.lastLoading? id =
    (about id s.announced.reverse).reverse.findSome? (Event.loading? id) := by
  have hn : ∀ e : Event, e.request? ≠ some id → e.loading? id = none := by
    intro e he
    cases e <;> simp_all [Event.request?, Event.loading?]
  rw [lastLoading?, about, List.filter_reverse, List.reverse_reverse, ← about,
    ← List.head?_filterMap, ← List.head?_filterMap, filterMap_about hn]

theorem findSome?_opening (id : Nat) :
    (opening id).reverse.findSome? (Event.loading? id) = some true := by
  simp [opening, Event.loading?]

theorem findSome?_lifecycle (id : Nat) (reply : Reply) :
    (lifecycle id reply).reverse.findSome? (Event.loading? id) = some false := by
  simp [lifecycle, closing, endEvents, List.findSome?_cons, Event.loading?]

/-- When neither the worker nor whoever holds the conversation has anything to announce, the
requests shown as loading are those without a reply. -/
theorem Sound.lastLoading?_eq_true (hs : Sound log s) (hf : s.isFree)
    (hw : s.worker = .idle ∨ ∃ job call, s.worker = .running job call) :
    s.lastLoading? id = some true ↔ id < s.accepted ∧ s.reply? id = none := by
  have hdue : s.due = [] := by rw [due, deeds_of_isFree hf]; rfl
  have hwork : s.worker.due = [] ∧ s.decided = s.replies ∧ s.isClosed = false := by
    unfold decided isClosed
    rcases hw with hw | ⟨job, call, hw⟩ <;> rw [hw] <;> exact ⟨rfl, rfl, rfl⟩
  obtain ⟨hwd, hdec, hcl⟩ := hwork
  have ht : about id s.announced.reverse = s.tidings id := by
    rw [tidings_eq, hdue, hwd, about_nil, List.append_nil, List.append_nil]
  rw [lastLoading?_eq, ht]
  by_cases hid : id < s.accepted
  · rcases hs.orderly.cases hid with ⟨job, hj, rfl⟩ | ⟨reply, hd⟩
    · rw [(Prod.mk.inj (hs.accounted.undecided job hj)).1, findSome?_opening]
      simp only [hid, hs.orderly.reply?_of_undecided hj, and_self]
    · have hr : reply ≠ .error .closed := by
        rintro rfl
        have := (hs.accounted.closed id hd).1
        simp [hcl] at this
      rw [(Prod.mk.inj (hs.accounted.decided id reply hd hr)).1, findSome?_lifecycle]
      have hn : s.reply? id ≠ none := fun hn => reply?_eq_none.1 hn reply (hdec ▸ hd)
      simp [hn]
  · rw [(Prod.mk.inj (hs.accounted.unknown id (Nat.le_of_not_lt hid))).1]
    simp [hid]

/-- The events about an accepted request are the beginning of a story, and all of it once the
request has a reply that does not say that the session is closed. The worker ends a request in a
terminal phase only. Whenever it is idle or waits for an answer and the conversation is free, the
requests shown as loading are those accepted that have no reply. -/
theorem announced_story {host : Host} {workspace : Workspace} {moves : List Move}
    (h : (new host workspace).run? moves = some (s, log)) :
    (∀ id < s.accepted, ∃ events, Story id events ∧ about id s.announced.reverse <+: events) ∧
      (∀ id reply, s.reply? id = some reply → reply ≠ .error .closed →
        Story id (about id s.announced.reverse)) ∧
      (∀ job events reply, s.worker = .settling job events reply →
        (∃ p : Phase, p.isTerminal ∧ events <:+ endEvents job.id p) ∧
          ∀ p, events = endEvents job.id p → p.isTerminal) ∧
      ((s.worker = .idle ∨ ∃ job call, s.worker = .running job call) → s.isFree →
        ∀ id, s.lastLoading? id = some true ↔ id < s.accepted ∧ s.reply? id = none) := by
  have hs := sound_of_run h
  refine ⟨fun id hid => ?_, fun id reply hr hc => ?_, fun job events reply hw => ⟨?_, ?_⟩,
    fun hw hf id => hs.lastLoading?_eq_true hf hw⟩
  · obtain ⟨reply, hp⟩ := hs.about_prefix hid
    exact ⟨lifecycle id reply, story_lifecycle id reply, hp⟩
  · rw [hs.about_of_replied (mem_of_reply? hr) hc]
    exact story_lifecycle id reply
  · exact ⟨closingPhase reply, closingPhase_isTerminal reply, (hs.settling job events reply hw).1⟩
  · rintro p rfl
    have he := (hs.settling job _ reply hw).1.eq_of_length rfl
    simp only [endEvents, List.cons.injEq, Event.phase.injEq, true_and, and_true] at he
    rw [he]
    exact closingPhase_isTerminal reply

theorem announced_story_sample : ∃ s log, (new sampleHost sampleWorkspace).run?
    (.submit sampleSubmission :: sampleMoves) = some (s, log) ∧
      Story 0 (about 0 s.announced.reverse) := by
  obtain ⟨s, log, h, hr⟩ := sample_run
  exact ⟨s, log, h, (announced_story h).2.1 0 _ hr (by simp)⟩

end Session

end AgentConsole
