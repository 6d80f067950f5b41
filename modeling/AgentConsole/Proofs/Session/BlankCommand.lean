import AgentConsole.Proofs.Mention.Command
import AgentConsole.Proofs.Session.Acceptance
import AgentConsole.Proofs.Session.Closing

/-!
# Commands without a word

A mention whose command is blank is found where only blanks follow a mark up to the end of the text;
to ask it is refused, and every other mention can be asked (`mention_without_command`). Whatever
else is asked, a blank command is refused as well, but for a mark with nothing behind it: where the
mark is taken away, what is looked at is the text with the mark, and what is asked is the text
without it (`trim_request_eq_empty_iff`). So what waits for the agent is blank just when a mark was
all that was said (`blank_requests`).
-/

namespace AgentConsole

open AgentConsole.Agent AgentConsole.Text

namespace Session

/-- The mark is taken away from what is said, and is all that is said. -/
def Submission.IsBareMark : Submission → Prop
  | prompt text | code text _ => trim text = mark
  | mention _ _ | editor _ _ | upload _ _ _ => False

variable {host : Host} {workspace : Workspace} {moves : List Move}
variable {s t : Session} {m : Move} {x : Submission} {log notes : Log} {job : Job}

theorem Submission.IsBareMark.trim_essence_ne (h : x.IsBareMark) : trim x.essence ≠ "" := by
  have hne : mark ≠ "" := by decide
  cases x with
  | prompt text | code text file =>
    intro he
    exact hne ((show trim text = mark from h).symm.trans he)
  | mention | editor | upload => exact h.elim

/-- What the agent is sent is blank if what was looked at is, or if it was a mark alone. -/
theorem trim_request_eq_empty_iff (x : Submission) (file : Option Attachment) :
    trim (x.request file).command = "" ↔ trim x.essence = "" ∨ x.IsBareMark := by
  cases x with
  | prompt text | code text file => exact trim_stripMention_eq_empty_iff
  | mention | editor | upload => exact (or_iff_left id).symm

theorem submit_eq_emptyCommand_iff :
    (s.submit x).2 = .error .emptyCommand ↔ trim x.essence = "" := by
  by_cases hb : trim x.essence = ""
  · simp [submit_of_blank hb, hb]
  · cases hc : s.isClosed
    · simp [submit_of_not_isClosed hb hc, hb]
    · simp [submit_of_isClosed hb hc, hb]

/-- A mention found in a text has a blank command just when there are only blanks behind its mark,
so the last one at most. To ask it is then refused as empty, and else it is accepted unless the
session is closed. -/
theorem mention_without_command {text : String} {found : Mention} (hf : found ∈ findMentions text)
    (s : Session) (path : String) :
    (trim found.command = "" ↔ BlankBehind text found) ∧
    (BlankBehind text found → ∀ other ∈ findMentions text, other.start ≤ found.start) ∧
    ((s.submit (.mention found.command ⟨path, text⟩)).2 = .error .emptyCommand ↔
      BlankBehind text found) ∧
    (¬BlankBehind text found → s.isClosed = false →
      (s.submit (.mention found.command ⟨path, text⟩)).2 = .ok s.accepted) := by
  have hblank := trim_command_eq_empty_iff hf
  refine ⟨hblank, fun h _ => start_le_of_blankBehind hf h, ?_, fun hb hc => ?_⟩
  · rw [submit_eq_emptyCommand_iff]
    exact hblank
  · exact (submit_of_not_isClosed (x := .mention found.command ⟨path, text⟩) (mt hblank.1 hb) hc).1

theorem mention_without_command_sample :
    findMentions "@dev-agent go\n@dev-agent  " = [⟨"go", 0, 13⟩, ⟨"", 14, 26⟩] ∧
    ((new sampleHost sampleWorkspace).submit
      (.mention "go" ⟨"/src/a.c", "@dev-agent go\n@dev-agent  "⟩)).2 = .ok 0 ∧
    ((new sampleHost sampleWorkspace).submit
      (.mention "" ⟨"/src/a.c", "@dev-agent go\n@dev-agent  "⟩)).2 = .error .emptyCommand := by
  have h : findMentions "@dev-agent go\n@dev-agent  " = [⟨"go", 0, 13⟩, ⟨"", 14, 26⟩] := by
    decide +kernel
  have hfirst : ⟨"go", 0, 13⟩ ∈ findMentions "@dev-agent go\n@dev-agent  " := by
    rw [h]
    exact List.mem_cons_self
  have hlast : ⟨"", 14, 26⟩ ∈ findMentions "@dev-agent go\n@dev-agent  " := by
    rw [h]
    exact List.mem_cons_of_mem _ List.mem_cons_self
  obtain ⟨hgo, -, -, hok⟩ :=
    mention_without_command hfirst (new sampleHost sampleWorkspace) "/src/a.c"
  obtain ⟨hnone, -, hempty, -⟩ :=
    mention_without_command hlast (new sampleHost sampleWorkspace) "/src/a.c"
  exact ⟨h, hok (mt hgo.2 (by decide +kernel)) rfl, hempty.2 (hnone.1 (by decide +kernel))⟩

/-- Two blanks behind a mark make a mention that is refused when it is asked. -/
theorem blank_mention_refused : ∃ found ∈ findMentions "@dev-agent  ",
    trim found.command = "" ∧ (new sampleHost sampleWorkspace).isClosed = false ∧
    ((new sampleHost sampleWorkspace).submit
      (.mention found.command ⟨"/src/a.c", "@dev-agent  "⟩)).2 = .error .emptyCommand := by
  have h : findMentions "@dev-agent  " = [⟨"", 0, 12⟩] := by decide +kernel
  have hb : trim "" = "" := by decide +kernel
  refine ⟨⟨"", 0, 12⟩, ?_, hb, rfl, ?_⟩
  · rw [h]
    exact List.mem_singleton_self _
  · exact submit_eq_emptyCommand_iff.2 hb

/-- What is noted as accepted was asked, and not refused. -/
theorem asked_of_accepted (h : s.move? m = some (t, [.accepted s.accepted x])) :
    m = .submit x ∧ trim x.essence ≠ "" := by
  have hrange := congrArg List.length (accepted_step (step_of_move h))
  have hone : t.accepted = s.accepted + 1 := by simpa [Note.accepted?] using hrange.symm
  cases transition_of_move h with
  | @accept y _ _ hok =>
    rcases notes_of_submit h with hn | ⟨hn, -⟩
    · cases hn
    · cases hn
      refine ⟨rfl, fun hb => ?_⟩
      rw [submit_of_blank hb] at hok
      cases hok
  | @proceed deed => cases deed <;> simp [perform, announce] at hone
  | _ => simp [append, setFile, clear, cancel, drop, stop, announce, elapse] at hone

/-- What waits for the agent was asked in words, and is what was to be sent then. -/
def Asked (log : Log) (s : Session) : Prop :=
  ∀ job ∈ s.undecided, ∃ x file, .accepted job.id x ∈ log ∧ trim x.essence ≠ "" ∧
    job.request = x.request file

theorem asked_move (hs : Asked log s) (h : s.move? m = some (t, notes)) :
    Asked (log ++ notes) t := by
  intro job hj
  rcases mem_undecided_step (step_of_move h) hj with hold | ⟨-, -, x, rfl, rfl⟩
  · obtain ⟨x, file, hx, hrest⟩ := hs job hold
    exact ⟨x, file, List.mem_append_left _ hx, hrest⟩
  · exact ⟨x, s.conversation.file, by simp [jobOf], (asked_of_accepted h).2, rfl⟩

theorem asked_of_run (h : (new host workspace).run? moves = some (s, log)) : Asked log s := by
  have hnew : Asked [] (new host workspace) := fun job hj => by
    simp [undecided, new, Worker.undecided?] at hj
  exact run?_induct (fun hs hm => asked_move hs hm) hnew h

/-- Whatever was done with a session before, something to ask is refused as empty just when what the
agent would be sent is blank, but not if a mark is all that is said: that is accepted unless the
session is closed. So of what is accepted just that is sent with a blank command; and whatever waits
for the agent was accepted, and is blank just when it was that. -/
theorem blank_requests (h : (new host workspace).run? moves = some (s, log)) :
    (∀ x, ((s.submit x).2 = .error .emptyCommand ↔
        trim (x.request s.conversation.file).command = "" ∧ ¬x.IsBareMark) ∧
      (x.IsBareMark → s.isClosed = false → (s.submit x).2 = .ok s.accepted) ∧
      ∀ id, (s.submit x).2 = .ok id → (s.submit x).1.queue = s.queue ++ [s.jobOf x] ∧
        (trim (s.jobOf x).request.command = "" ↔ x.IsBareMark)) ∧
    ∀ job ∈ s.undecided, ∃ x, .accepted job.id x ∈ log ∧
      (trim job.request.command = "" ↔ x.IsBareMark) := by
  refine ⟨fun x => ⟨?_, fun hm hc => (submit_of_not_isClosed hm.trim_essence_ne hc).1,
    fun id hok => ?_⟩, fun job hj => ?_⟩
  · rw [submit_eq_emptyCommand_iff, trim_request_eq_empty_iff]
    constructor
    · exact fun hb => ⟨.inl hb, fun hm => hm.trim_essence_ne hb⟩
    · exact fun ⟨hb, hm⟩ => hb.resolve_right hm
  · have hb : trim x.essence ≠ "" := fun hb => by
      rw [submit_of_blank hb] at hok
      cases hok
    rcases submit_cases s x with ⟨e, hx⟩ | ⟨-, hx⟩
    · rw [hx] at hok
      cases hok
    · rw [hx]
      exact ⟨rfl, (trim_request_eq_empty_iff x _).trans (or_iff_right hb)⟩
  · obtain ⟨x, file, hx, hb, hr⟩ := asked_of_run h job hj
    refine ⟨x, hx, ?_⟩
    rw [hr]
    exact (trim_request_eq_empty_iff x file).trans (or_iff_right hb)

theorem blank_requests_sample : ∃ s log job, (new sampleHost sampleWorkspace).run?
      [.submit (.code " @dev-agent\n" none), .proceed, .proceed, .proceed] = some (s, log) ∧
    s.undecided = [job] ∧ trim job.request.command = "" ∧
    (∃ x, .accepted job.id x ∈ log ∧ x.IsBareMark) ∧
    (s.submit (.prompt "@dev-agent")).2 = .ok 1 ∧
    (s.submit (.prompt "\t")).2 = .error .emptyCommand := by
  have h : ((new sampleHost sampleWorkspace).run?
      [.submit (.code " @dev-agent\n" none), .proceed, .proceed, .proceed]).map (fun p =>
        (p.1.undecided.map fun job => trim job.request.command, p.1.isClosed, p.1.accepted)) =
      some ([""], false, 1) := by decide +kernel
  obtain ⟨⟨s, log⟩, hs, h⟩ := Option.map_eq_some_iff.1 h
  simp only [Prod.mk.injEq] at h
  obtain ⟨hjobs, hclosed, haccepted⟩ := h
  obtain ⟨job, hjob, hblank⟩ := List.map_eq_singleton_iff.1 hjobs
  obtain ⟨hasked, hwaits⟩ := blank_requests hs
  obtain ⟨x, hx, hiff⟩ := hwaits job (by simp [hjob])
  refine ⟨s, log, job, hs, hjob, hblank, ⟨x, hx, hiff.1 hblank⟩, ?_, ?_⟩
  · have hmark : trim "@dev-agent" = mark := by decide +kernel
    rw [(hasked (.prompt "@dev-agent")).2.1 hmark hclosed, haccepted]
  · have htab : trim "\t" = "" := by decide +kernel
    have hne : ¬(Submission.prompt "\t").IsBareMark := fun hm => hm.trim_essence_ne htab
    exact (hasked (.prompt "\t")).1.2
      ⟨(trim_request_eq_empty_iff _ _).2 (.inl htab), hne⟩

/-- A mark alone is accepted as a prompt, and a request without a command waits for the agent. -/
theorem bare_mark_accepted :
    ((new sampleHost sampleWorkspace).submit (.prompt "@dev-agent")).2 = .ok 0 ∧
    ((new sampleHost sampleWorkspace).submit (.prompt "@dev-agent")).1.queue.map
      (fun job => job.request.command) = [""] := by
  have hne : trim "@dev-agent" ≠ "" := by decide +kernel
  have h := submit_of_not_isClosed (s := new sampleHost sampleWorkspace)
    (x := .prompt "@dev-agent") hne rfl
  exact ⟨h.1, by decide +kernel⟩

end Session

end AgentConsole
