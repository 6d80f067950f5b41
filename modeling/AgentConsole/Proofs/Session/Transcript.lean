import AgentConsole.Proofs.Session.Transition
import Mathlib.Data.List.DropRight

/-!
# The conversation as a log

Of all the moves of a session few mean anything to its conversation: something is said, a file is
loaded, something is asked and accepted, an outcome is taken in, or all is cleared (`turn?`). A move
changes the messages and the file as its turn says and not otherwise (`snapshot_of_move`), so after
every run they can be read off the turns since the last clear (`refines_transcript`).
-/

namespace AgentConsole

open AgentConsole.Agent

namespace Session

/-- What a move can mean to the conversation. -/
inductive Turn where
  | said (m : Message)
  | loaded (a : Attachment)
  | asked (x : Submission)
  | answered (outcome : Except AgentError String)
  | cleared

namespace Turn

/-- The messages a turn adds: what is said; which file was loaded; what the user asks, with the mark
in front of commands and the name behind what comes with a file; or what the agent says to it. -/
def messages : Turn → List Message
  | said m => [m]
  | loaded a => [⟨.system, "File loaded: " ++ (Files.baseName? a.path).getD a.path⟩]
  | asked (.prompt text) | asked (.code text _) => [⟨.user, text⟩]
  | asked (.mention command _) | asked (.editor command _) => [⟨.user, "@dev-agent " ++ command⟩]
  | asked (.upload name _ command) =>
    [⟨.user, "@dev-agent " ++ command ++ " (File: " ++ name ++ ")"⟩]
  | answered (.ok text) => [⟨.agent, text⟩]
  | answered (.error cause) => [⟨.agent, "Error: " ++ cause.message⟩]
  | cleared => []

/-- The file that becomes the current one: one that is loaded, or in which the agent is asked. -/
def file? : Turn → Option Attachment
  | loaded a | asked (.mention _ a) => some a
  | asked (.prompt _) | asked (.editor _ _) | asked (.upload _ _ _) | asked (.code _ _) => none
  | said _ | answered _ | cleared => none

def isCleared : Turn → Bool
  | cleared => true
  | said _ | loaded _ | asked _ | answered _ => false

end Turn

/-- What a move means to the conversation: a submission something if it is accepted, and an outcome
if its request is of the epoch. -/
def turn? (s : Session) : Move → Option Turn
  | .submit x =>
    match (s.submit x).2 with
    | .ok _ => some (.asked x)
    | .error _ => none
  | .append m => some (.said m)
  | .setFile a => some (.loaded a)
  | .clear => some .cleared
  | .route =>
    match s.worker with
    | .answered job outcome =>
      if s.conversation.epoch = job.epoch then some (.answered outcome) else none
    | _ => none
  | .cancel | .runDirectly _ | .drop | .proceed | .take | .check | .start | .notice | .answer
  | .settle | .stop | .endDirect _ | .elapse _ | .disturb _ => none

/-- What these moves mean to the conversation, in order. -/
def turns (s : Session) : List Move → List Turn
  | [] => []
  | m :: moves =>
    match s.move? m with
    | none => []
    | some (t, _) => (s.turn? m).toList ++ t.turns moves

/-- The turns since the last clear, or all if there was none. -/
def sinceCleared (turns : List Turn) : List Turn :=
  turns.rtakeWhile fun turn => !turn.isCleared

/-- The messages after these turns: a session starts with the welcome, which a clear takes away. -/
def transcript (turns : List Turn) : List Message :=
  (if turns.any Turn.isCleared then [] else [welcome]) ++
    (sinceCleared turns).flatMap Turn.messages

/-- The current file after these turns. -/
def lastFile? (turns : List Turn) : Option Attachment :=
  ((sinceCleared turns).filterMap Turn.file?).getLast?

/-- The messages and the file after one more turn. -/
def Snapshot.after (c : Snapshot) (turn : Turn) : Snapshot :=
  if turn.isCleared then ⟨[], none⟩ else ⟨c.history ++ turn.messages, turn.file?.or c.file⟩

variable {s t : Session} {m : Move} {moves : List Move} {notes log : Log}

@[simp]
theorem messages_loaded (a : Attachment) : (Turn.loaded a).messages = [loadedNotice a] :=
  rfl

@[simp]
theorem messages_asked (x : Submission) : (Turn.asked x).messages = [⟨.user, x.said⟩] := by
  cases x <;> rfl

@[simp]
theorem messages_answered (outcome : Except AgentError String) :
    (Turn.answered outcome).messages = [answerMessage outcome] := by
  cases outcome <;> rfl

@[simp]
theorem file?_asked (x : Submission) : (Turn.asked x).file? = x.newFile? := by
  cases x <;> rfl

theorem snapshot_asked (c : Conversation) (x : Submission) :
    (asked c x).snapshot = c.snapshot.after (.asked x) := by
  unfold asked
  cases h : x.newFile? <;>
    simp [Conversation.snapshot, Conversation.push, Conversation.replaceFile, Snapshot.after,
      Turn.isCleared, h]

/-- A move changes the messages and the file as its turn says. -/
theorem snapshot_of_move (h : s.move? m = some (t, notes)) : t.conversation.snapshot =
    (s.turn? m).toList.foldl Snapshot.after s.conversation.snapshot := by
  cases transition_of_move h with
  | refuse ho hx => simp only [turn?, hx, Option.toList_none, List.foldl_nil]
  | @accept x ho hc hx =>
    simp only [turn?, hx]
    exact snapshot_asked s.conversation x
  | @proceed deed => cases deed <;> rfl
  | @route job outcome hw hf routed hr =>
    subst hr
    simp only [turn?, hw]
    by_cases he : s.conversation.epoch = job.epoch
    · simp [Session.route, he, Snapshot.after, Turn.isCleared, Turn.file?, answerMessage,
        Conversation.snapshot, Conversation.push]
    · simp [Session.route, he]
  | _ => rfl

/-- A run changes the messages and the file as its turns say, one after the other. -/
theorem snapshot_of_run (h : s.run? moves = some (t, log)) :
    t.conversation.snapshot = (s.turns moves).foldl Snapshot.after s.conversation.snapshot := by
  induction moves generalizing s log with
  | nil =>
    obtain ⟨rfl, -⟩ := run?_nil.1 h
    rfl
  | cons m moves ih =>
    obtain ⟨u, notes, rest, hm, hr, -⟩ := run?_cons.1 h
    rw [ih hr, snapshot_of_move hm]
    simp only [turns, hm, List.foldl_append]

theorem sinceCleared_concat (turns : List Turn) (turn : Turn) :
    sinceCleared (turns ++ [turn]) =
      if turn.isCleared then [] else sinceCleared turns ++ [turn] := by
  unfold sinceCleared
  split_ifs with h
  · exact List.rtakeWhile_concat_neg _ _ _ (by simp [h])
  · exact List.rtakeWhile_concat_pos _ _ _ (by simp [h])

/-- One turn after the other, the messages and the file become what can be read off all of them. -/
theorem foldl_after (turns : List Turn) :
    turns.foldl Snapshot.after ⟨[welcome], none⟩ = ⟨transcript turns, lastFile? turns⟩ := by
  induction turns using List.reverseRecOn with
  | nil => rfl
  | append_singleton turns turn ih =>
    rw [List.foldl_append, ih, List.foldl_cons, List.foldl_nil]
    unfold transcript lastFile? Snapshot.after
    rw [sinceCleared_concat]
    by_cases h : turn.isCleared
    · simp [h]
    · cases hf : turn.file? <;> simp [h, hf]

theorem prefix_after (c : Snapshot) {turn : Turn} (h : turn.isCleared = false) :
    c.history <+: (c.after turn).history := by
  simp [Snapshot.after, h]

theorem turn_isCleared {turn : Turn} (h : turn ∈ s.turn? m) : turn.isCleared ↔ m = .clear := by
  cases m with
  | submit x =>
    simp only [turn?] at h
    split at h <;> cases h
    simp [Turn.isCleared]
  | append | setFile | clear =>
    cases h
    simp [Turn.isCleared]
  | route =>
    simp only [turn?] at h
    split at h
    · split_ifs at h
      · cases h
        simp [Turn.isCleared]
      · cases h
    · cases h
  | _ => cases h

theorem prefix_of_move (h : s.move? m = some (t, notes)) (hm : m ≠ .clear) :
    s.conversation.history <+: t.conversation.history := by
  have ht : t.conversation.history = _ := congrArg Snapshot.history (snapshot_of_move h)
  rw [ht]
  cases hturn : s.turn? m with
  | none => exact List.prefix_rfl
  | some turn =>
    have hcl : turn.isCleared = false :=
      Bool.eq_false_iff.2 fun hc => hm ((turn_isCleared hturn).1 hc)
    exact prefix_after s.conversation.snapshot hcl

/-- Without a clear, messages are only added. -/
theorem history_prefix (h : s.run? moves = some (t, log)) (hc : .clear ∉ moves) :
    s.conversation.history <+: t.conversation.history := by
  induction moves generalizing s log with
  | nil =>
    obtain ⟨rfl, -⟩ := run?_nil.1 h
    exact List.prefix_rfl
  | cons m moves ih =>
    obtain ⟨u, notes, rest, hm, hr, -⟩ := run?_cons.1 h
    have hne : m ≠ .clear := fun h => hc (h ▸ List.mem_cons_self)
    exact (prefix_of_move hm hne).trans (ih hr fun h => hc (List.mem_cons_of_mem _ h))

/-- Where a file becomes the current one, something is said. -/
theorem messages_ne_nil {turn : Turn} {a : Attachment} (h : turn.file? = some a) :
    turn.messages ≠ [] := by
  cases turn with
  | asked | loaded => simp
  | said | answered | cleared => cases h

theorem transcript_ne_nil {turns : List Turn} (h : (lastFile? turns).isSome) :
    transcript turns ≠ [] := by
  obtain ⟨a, ha⟩ := Option.isSome_iff_exists.1 h
  obtain ⟨turn, hm, ht⟩ := List.mem_filterMap.1 (List.mem_of_getLast? ha)
  intro hn
  have := (List.append_eq_nil_iff.1 hn).2
  exact messages_ne_nil ht (List.flatMap_eq_nil_iff.1 this turn hm)

/-- After every run the history is what the turns since the last clear added, in their order, with
the welcome in front if there was no clear, and the current file is the last one that a turn of them
brought. So between two points without a clear messages are only added, and where there is a file
there is a message. -/
theorem refines_transcript {host : Host} {workspace : Workspace}
    (h : (new host workspace).run? moves = some (s, log)) :
    s.conversation.history = transcript ((new host workspace).turns moves) ∧
      s.conversation.file = lastFile? ((new host workspace).turns moves) ∧
      (∀ moves' t log', s.run? moves' = some (t, log') → .clear ∉ moves' →
        s.conversation.history <+: t.conversation.history) ∧
      (s.conversation.file.isSome → s.conversation.history ≠ []) := by
  have hs : s.conversation.snapshot = ⟨transcript _, lastFile? _⟩ :=
    (snapshot_of_run h).trans (foldl_after _)
  obtain ⟨hh, hf⟩ := Snapshot.mk.inj hs
  refine ⟨hh, hf, fun moves' t log' ht hc => history_prefix ht hc, fun hsome => ?_⟩
  rw [hh]
  exact transcript_ne_nil (hf ▸ hsome)

/-- A file is loaded, the agent is asked in another one, and answers. -/
def loadAndMentionMoves : List Move :=
  [.setFile ⟨"/src/a.c", "int a;"⟩, .proceed, .proceed,
    .submit (.mention "explain" ⟨"/src/b.c", "int b;"⟩), .proceed] ++ sampleMoves

theorem refines_transcript_sample : ∃ s log,
    (new sampleHost sampleWorkspace).run? loadAndMentionMoves = some (s, log) ∧
      s.conversation.history = [welcome, ⟨.system, "File loaded: a.c"⟩,
        ⟨.user, "@dev-agent explain"⟩, ⟨.agent, "hi"⟩] ∧
      s.conversation.file = some ⟨"/src/b.c", "int b;"⟩ := by
  have h : ((new sampleHost sampleWorkspace).run? loadAndMentionMoves).isSome := by decide +kernel
  obtain ⟨⟨s, log⟩, h⟩ := Option.isSome_iff_exists.1 h
  obtain ⟨hhistory, hfile, -⟩ := refines_transcript h
  refine ⟨s, log, h, hhistory.trans ?_, hfile.trans ?_⟩
  · decide +kernel
  · decide +kernel

end Session

end AgentConsole
