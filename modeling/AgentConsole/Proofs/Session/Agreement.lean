import AgentConsole.Proofs.Session.Lifecycle

/-!
# Replies and what is told besides

A request with a reply has been told of in three more ways: by messages in the history, by responses
and by the phase it ended in. All go with the reply (`Agrees`), which is given last: by then the
message is in the history (`RepliedLast`).
-/

namespace AgentConsole

open AgentConsole.Agent

namespace Session

/-- The response an event gives to a request, and whether it is an error. -/
def Event.response? (id : Nat) : Event → Option (String × Bool)
  | response id' text isError => if id' = id then some (text, isError) else none
  | _ => none

/-- The terminal phase an event puts a request in. -/
def Event.terminal? (id : Nat) : Event → Option Phase
  | phase id' p => if id' = id ∧ p.isTerminal then some p else none
  | _ => none

/-- These messages, responses and terminal phases go with a reply that the worker decided on. -/
def Agrees (reply : Reply) (messages : List Message) (responses : List (String × Bool))
    (phases : List Phase) : Prop :=
  match reply with
  | .ok text => messages = [⟨.agent, text⟩] ∧ responses = [(text, false)] ∧ phases = [.completed]
  | .error (.agent e) =>
    messages = [⟨.agent, "Error: " ++ e.message⟩] ∧ responses = [("Error: " ++ e.message, true)] ∧
      phases = [if e.isTimeout then .timedOut else .failed]
  | .error .cancelled => messages = [] ∧ responses = [] ∧ phases = [.cancelled]
  | .error .emptyCommand | .error .closed => False

variable {s t : Session} {log notes : Log} {id : Nat} {reply : Reply}

theorem response?_lifecycle (id : Nat) (reply : Reply) :
    (lifecycle id reply).filterMap (Event.response? id) = (spoken reply).toList := by
  cases h : spoken reply <;>
    simp [lifecycle, opening, closing, endEvents, h, List.filterMap_cons, Event.response?]

theorem terminal?_lifecycle (id : Nat) (reply : Reply) :
    (lifecycle id reply).filterMap (Event.terminal? id) = [closingPhase reply] := by
  have ht := closingPhase_isTerminal reply
  have hd : ¬Phase.dispatched.isTerminal := by decide
  have hi : ¬Phase.idle.isTerminal := by decide
  cases h : spoken reply <;>
    simp [lifecycle, opening, closing, endEvents, h, List.filterMap_cons, Event.terminal?, ht,
      hd, hi]

theorem Given.agrees (h : Given reply) :
    Agrees reply (closingMessages reply) (spoken reply).toList [closingPhase reply] := by
  rcases h with rfl | ⟨e | text, rfl⟩ <;> exact ⟨rfl, rfl, rfl⟩

/-- A reply is given alone, and by a worker with nothing left to announce, unless the session is
closed. -/
theorem replied_of_step (h : Step s t notes) (hm : .replied id reply ∈ notes)
    (hc : reply ≠ .error .closed) :
    notes = [.replied id reply] ∧ ∃ job, job.id = id ∧ s.worker = .settling job [] reply := by
  have hend : .replied id reply ∉ s.worker.notes .idle := by
    rw [Worker.notes_idle]
    simp
  cases h with
  | chore h =>
    cases h with
    | answer => exact absurd hm hend
    | @reply job reply' hw =>
      cases List.mem_singleton.1 hm
      exact ⟨rfl, job, rfl, hw⟩
    | _ => simp at hm
  | giveUp => exact absurd hm hend
  | stop =>
    rcases List.mem_append.1 hm with hm | hm
    · exact absurd hm hend
    · obtain ⟨job, -, hj⟩ := List.mem_map.1 hm
      cases hj
      exact absurd rfl hc
  | _ => simp at hm

/-- When a reply is given, the messages that go with it have been added to the history. -/
def RepliedLast (log : Log) : Prop :=
  Always (fun before n => ∀ id reply, n = .replied id reply → reply ≠ .error .closed →
    messagesOf id before = closingMessages reply) log

theorem repliedLast_step (hs : Sound log s) (hl : RepliedLast log) (h : Step s t notes) :
    RepliedLast (log ++ notes) := by
  refine hl.append ?_
  rintro before _ after hn id reply rfl hc
  have hm : .replied id reply ∈ notes := hn ▸ List.mem_append_right _ List.mem_cons_self
  obtain ⟨hnotes, job, rfl, hw⟩ := replied_of_step h hm hc
  have hb : before = [] := by
    rw [hnotes] at hn
    rcases before with _ | ⟨n, before⟩
    · rfl
    · simp at hn
  rw [hb, List.append_nil]
  exact (Prod.mk.inj (hs.accounted.decided _ _ (mem_decided hw) hc)).2

theorem repliedLast_of_run {host : Host} {workspace : Workspace} {moves : List Move}
    (h : (new host workspace).run? moves = some (s, log)) : RepliedLast log :=
  (sound_induct (P := fun log _ => RepliedLast log) (always_nil _) repliedLast_step h).2

/-- The messages added for a request, the responses to it and its terminal phases go with its reply;
and the messages had been added when the reply was given. -/
theorem outputs_agree {host : Host} {workspace : Workspace} {moves : List Move}
    (h : (new host workspace).run? moves = some (s, log)) (hr : s.reply? id = some reply)
    (hc : reply ≠ .error .closed) :
    Agrees reply (messagesOf id log) (s.announced.reverse.filterMap (Event.response? id))
        (s.announced.reverse.filterMap (Event.terminal? id)) ∧
      .replied id reply ∈ log ∧ ∀ before after, log = before ++ .replied id reply :: after →
        messagesOf id before = messagesOf id log := by
  have hs := sound_of_run h
  have hm := mem_of_reply? hr
  have hd := mem_decided_of_mem_replies hm
  have hmsg := (Prod.mk.inj (hs.accounted.decided id reply hd hc)).2
  refine ⟨?_, ?_, fun before after hl => ?_⟩
  · have hresp : ∀ e : Event, e.request? ≠ some id → e.response? id = none := by
      intro e he
      cases e <;> simp_all [Event.request?, Event.response?]
    have hterm : ∀ e : Event, e.request? ≠ some id → e.terminal? id = none := by
      intro e he
      cases e <;> simp_all [Event.request?, Event.terminal?]
    rw [← filterMap_about hresp, ← filterMap_about hterm, hs.about_of_replied hm hc, hmsg,
      response?_lifecycle, terminal?_lifecycle]
    exact ((hs.given _ hd).resolve_left hc).agrees
  · rw [hs.logged.replies, List.mem_reverse, List.mem_filterMap] at hm
    obtain ⟨n, hn, hnr⟩ := hm
    cases n <;> simp_all [Note.reply?]
  · rw [hmsg]
    exact repliedLast_of_run h before _ after hl id reply rfl hc

theorem outputs_agree_sample : ∃ s log, (new sampleHost sampleWorkspace).run?
    (.submit sampleSubmission :: sampleMoves) = some (s, log) ∧
      messagesOf 0 log = [⟨.agent, "hi"⟩] := by
  obtain ⟨s, log, h, hr⟩ := sample_run
  exact ⟨s, log, h, (outputs_agree h hr (by simp)).1.1⟩

end Session

end AgentConsole
