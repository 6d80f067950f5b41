import AgentConsole.Proofs.Session.Order

/-!
# What the log tells

The log of a run tells which requests were accepted, which runs were called and have ended, which
replies were given, and what is in the history (`Logged`). The history is what was added since it
was last cleared, each message with the request of whose outcome it tells, if any (`entries`).
-/

namespace AgentConsole

open AgentConsole.Agent

namespace Session

namespace Note

/-- The request that was accepted. -/
def accepted? : Note → Option Nat
  | accepted id _ => some id
  | _ => none

/-- The request whose run was called. -/
def called? : Note → Option Nat
  | called id _ => some id
  | _ => none

/-- The request whose run ended. -/
def ended? : Note → Option Nat
  | ended id => some id
  | _ => none

/-- The request whose outcome was added to the history. -/
def routed? : Note → Option Nat
  | routed id _ => some id
  | _ => none

/-- The reply that was given. -/
def reply? : Note → Option (Nat × Reply)
  | replied id reply => some (id, reply)
  | _ => none

end Note

/-- The messages of a history after a note, each with the request of whose outcome it tells. -/
def amend (entries : List (Option Nat × Message)) : Note → List (Option Nat × Message)
  | .said m => entries ++ [(none, m)]
  | .loaded a => entries ++ [(none, loadedNotice a)]
  | .accepted _ x => entries ++ [(none, ⟨.user, x.said⟩)]
  | .cleared => []
  | .routed id m => entries ++ [(some id, m)]
  | .cancelled | .published _ | .called _ _ | .ended _ | .replied _ _ => entries

/-- The messages in the history, each with the request of whose outcome it tells. -/
def entries (log : Log) : List (Option Nat × Message) :=
  log.foldl amend [(none, welcome)]

/-- The request the worker waits for. -/
def Worker.awaited? : Worker → Option Nat
  | running job _ => some job.id
  | _ => none

/-- The log tells what became of the session. -/
structure Logged (log : Log) (s : Session) : Prop where
  accepted : log.filterMap Note.accepted? = List.range s.accepted
  called : log.filterMap Note.called? = log.filterMap Note.ended? ++ s.worker.awaited?.toList
  replies : s.replies = (log.filterMap Note.reply?).reverse
  history : s.conversation.history = (entries log).map Prod.snd

variable {s t : Session} {log notes : Log}

theorem Worker.notes_idle (w : Worker) : w.notes .idle = w.awaited?.toList.map Note.ended := by
  cases w <;> rfl

theorem entries_append (log notes : Log) :
    entries (log ++ notes) = notes.foldl amend (entries log) :=
  List.foldl_append

theorem foldl_ended (es : List (Option Nat × Message)) (w : Worker) :
    (w.notes .idle).foldl amend es = es := by
  cases w <;> rfl

theorem foldl_replied (es : List (Option Nat × Message)) (jobs : List Job) (reply : Reply) :
    (jobs.map fun job => Note.replied job.id reply).foldl amend es = es := by
  induction jobs with
  | nil => rfl
  | cons job jobs ih => exact ih

theorem asked_history (c : Conversation) (x : Submission) :
    (asked c x).history = c.history ++ [⟨.user, x.said⟩] := by
  unfold asked
  cases x.newFile? <;> rfl

theorem history_step (h : Step s t notes) {es : List (Option Nat × Message)}
    (hs : s.conversation.history = es.map Prod.snd) :
    t.conversation.history = (notes.foldl amend es).map Prod.snd := by
  cases h with
  | chore h =>
    rw [h.frame.2.2.2.1, hs]
    cases h with
    | answer => rw [foldl_ended]
    | _ => rfl
  | accept x =>
    simp only [List.foldl_cons, List.foldl_nil, amend, List.map_append, ← hs, asked_history]
    rfl
  | append | setFile | route =>
    simp only [List.foldl_cons, List.foldl_nil, amend, List.map_append, ← hs]
    rfl
  | clear => rfl
  | cancel | drop | publish | announce | discard => exact hs
  | giveUp => rwa [foldl_ended]
  | stop => rwa [List.foldl_append, foldl_ended, foldl_replied]

theorem filterMap_ended {α : Type} {f : Note → Option α} (hf : ∀ id, f (.ended id) = none)
    (w : Worker) : (w.notes .idle).filterMap f = [] := by
  rw [Worker.notes_idle, List.filterMap_map]
  exact List.filterMap_eq_nil_iff.2 fun id _ => hf id

theorem filterMap_closed {α : Type} {f : Note → Option α}
    (hf : ∀ id reply, f (.replied id reply) = none) (jobs : List Job) (reply : Reply) :
    (jobs.map fun job => Note.replied job.id reply).filterMap f = [] := by
  rw [List.filterMap_map]
  exact List.filterMap_eq_nil_iff.2 fun job _ => hf job.id reply

theorem accepted_step (h : Step s t notes) :
    List.range s.accepted ++ notes.filterMap Note.accepted? = List.range t.accepted := by
  cases h with
  | chore h =>
    rw [h.frame.1]
    cases h with
    | answer => rw [filterMap_ended fun _ => rfl, List.append_nil]
    | _ => exact List.append_nil _
  | accept => exact List.range_succ.symm
  | giveUp => rw [filterMap_ended fun _ => rfl, List.append_nil]
  | stop =>
    rw [List.filterMap_append, filterMap_ended fun _ => rfl, filterMap_closed fun _ _ => rfl,
      List.append_nil, List.append_nil]
    rfl
  | _ => exact List.append_nil _

theorem replies_step (h : Step s t notes) :
    t.replies = (notes.filterMap Note.reply?).reverse ++ s.replies := by
  cases h with
  | chore h =>
    cases h with
    | answer => rw [filterMap_ended fun _ => rfl]; rfl
    | _ => rfl
  | giveUp => rw [filterMap_ended fun _ => rfl]; rfl
  | stop =>
    rw [List.filterMap_append, filterMap_ended fun _ => rfl, List.nil_append, List.filterMap_map]
    simp [stop, Function.comp_def, Note.reply?]
  | _ => rfl

theorem called_step (h : Step s t notes) :
    s.worker.awaited?.toList ++ notes.filterMap Note.called? =
      notes.filterMap Note.ended? ++ t.worker.awaited?.toList := by
  have hend : (s.worker.notes .idle).filterMap Note.called? = [] := filterMap_ended (fun _ => rfl) _
  have hend' : (s.worker.notes .idle).filterMap Note.ended? = s.worker.awaited?.toList := by
    rw [Worker.notes_idle, List.filterMap_map]
    exact List.filterMap_some
  cases h with
  | chore h =>
    cases h with
    | quiet => exact List.append_nil _
    | take hw | pass hw | call _ _ hw | tell hw | reply hw => rw [hw]; rfl
    | answer => rw [hend, hend']; rfl
  | giveUp => rw [hend, hend']; rfl
  | stop =>
    rw [List.filterMap_append, List.filterMap_append, hend, hend', filterMap_closed fun _ _ => rfl,
      filterMap_closed fun _ _ => rfl]
    simp [stop, Worker.awaited?]
  | discard hw | route hw => rw [hw]; rfl
  | _ => exact List.append_nil _

/-- An outcome is added to the history alone, and its request is decided with it. -/
theorem routed_of_step (h : Step s t notes) : notes.filterMap Note.routed? = [] ∨
    ∃ job m reply, s.undecided = job :: t.undecided ∧
      t.decided = (job.id, reply) :: s.decided ∧ notes = [.routed job.id m] := by
  cases h with
  | chore h =>
    cases h with
    | answer => exact .inl (filterMap_ended (fun _ => rfl) _)
    | _ => exact .inl rfl
  | giveUp => exact .inl (filterMap_ended (fun _ => rfl) _)
  | @route job outcome hw =>
    have hj : s.worker.undecided? = some job := by rw [hw]; rfl
    obtain ⟨hu, hd⟩ := undecided_cons hj
    exact .inr ⟨job, _, outcome.mapError .agent, hu, by rw [hd]; rfl, rfl⟩
  | stop =>
    rw [List.filterMap_append, filterMap_ended fun _ => rfl, filterMap_closed fun _ _ => rfl]
    exact .inl rfl
  | _ => exact .inl rfl

theorem logged_new (host : Host) (workspace : Workspace) : Logged [] (.new host workspace) :=
  ⟨rfl, rfl, rfl, rfl⟩

theorem logged_step (hs : Logged log s) (h : Step s t notes) : Logged (log ++ notes) t := by
  refine ⟨?_, ?_, ?_, ?_⟩
  · rw [List.filterMap_append, hs.accepted, accepted_step h]
  · rw [List.filterMap_append, List.filterMap_append, hs.called, List.append_assoc, called_step h,
      List.append_assoc]
  · rw [List.filterMap_append, List.reverse_append, ← hs.replies, replies_step h]
  · rw [entries_append]
    exact history_step h hs.history

end Session

end AgentConsole
