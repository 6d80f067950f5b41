import AgentConsole.Proofs.Console.Dialogue
import AgentConsole.Proofs.Session.Closing

/-!
# Commands that fail

A command fails before anything is asked, when a file cannot be read or there is no such mention, or
because what it asks is blank or comes to a closed session (`perform_eq_error_iff`). All it leaves is
a line on the error stream: the session is the same after it, and the next line is looked at. What a
command tells leaves no more (`failing_commands_change_nothing`).
-/

namespace AgentConsole.Console

open AgentConsole.Agent AgentConsole.Files AgentConsole.Session AgentConsole.Setup AgentConsole.Text

namespace Dialogue

/-- Why a command is refused. -/
inductive Refused (env : Environment) (d : Dialogue) : Command → ConsoleError → Prop
  | unasked {c : Command} {e : ConsoleError} (h : Fails env d c e) : Refused env d c e
  | blank {c : Command} {x : Submission} (h : Asks env d c x) (hb : trim x.essence = "") :
    Refused env d c (.session .emptyCommand)
  | closed {c : Command} {x : Submission} (h : Asks env d c x) (hb : trim x.essence ≠ "")
      (hc : d.session.isClosed) : Refused env d c (.session .closed)

/-- All that comes of a command is what has been written after it, and the next line is looked at.
So the session is the same: its messages, its file, its epoch, its requests and the runs of the
agent. -/
structure Untouched (env : Environment) (clock : String) (d : Dialogue) (c : Command)
    (written : Transcript) : Prop where
  handled : d.handle env clock c = { d with transcript := written }
  onward : ∀ line lines, Command.parse line = c → d.goThrough env clock (some line :: lines) =
    ({ d with transcript := written } : Dialogue).goThrough env clock lines

variable {env : Environment} {clock : String} {host : Host} {d t : Dialogue} {c : Command}
variable {x : Submission} {e : ConsoleError} {written : Transcript}

/-- A session that does not take what it is asked is the same, and so is the dialogue. -/
theorem ask_of_error {cause : SessionError} (h : (d.session.submit x).2 = .error cause) :
    d.ask x = (d, some (.session cause)) := by
  rcases submit_cases d.session x with ⟨cause', hx⟩ | ⟨-, hx⟩
  · rw [hx] at h
    cases h
    rw [ask, hx]
  · rw [hx] at h
    cases h

theorem exists_ask (hb : trim x.essence ≠ "") (hc : d.session.isClosed = false) :
    ∃ t, d.ask x = (t, none) := by
  unfold ask
  rw [submit_eq_ok hb hc]
  simp only
  split <;> exact ⟨_, rfl⟩

theorem perform_of_refused (h : Refused env d c e) : d.perform env clock c = (d, some e) := by
  cases h with
  | unasked h => exact perform_of_fails h
  | blank h hb => exact (perform_of_asks h).trans (ask_of_error (by rw [submit_of_blank hb]))
  | closed h hb hc =>
    exact (perform_of_asks h).trans (ask_of_error (by rw [submit_of_isClosed hb hc]))

/-- A command fails just when it is refused, and leaves the dialogue as it was. -/
theorem perform_eq_error_iff :
    d.perform env clock c = (t, some e) ↔ Refused env d c e ∧ t = d := by
  constructor
  · intro h
    have hrefused {e' : ConsoleError} (hr : Refused env d c e') : Refused env d c e ∧ t = d := by
      cases h.symm.trans (perform_of_refused hr)
      exact ⟨hr, rfl⟩
    generalize hr : d.perform env clock c = r at h
    cases hr ▸ performed env clock d c with
    | failed hf => exact hrefused (.unasked hf)
    | @asked _ x ha =>
      by_cases hb : trim x.essence = ""
      · exact hrefused (.blank ha hb)
      · cases hc : d.session.isClosed
        · obtain ⟨t, ht⟩ := exists_ask hb hc
          cases h.symm.trans ht
        · exact hrefused (.closed ha hb hc)
    | _ => cases h
  · rintro ⟨h, rfl⟩
    exact perform_of_refused h

/-- After a command other than to quit the next line is looked at. -/
theorem goThrough_cons {line : String} (hc : Command.parse line = c) (hq : c ≠ .quit)
    (lines : List (Option String)) :
    d.goThrough env clock (some line :: lines) =
      (d.handle env clock c).goThrough env clock lines := by
  rw [goThrough, hc]
  cases c <;> first | rfl | exact (hq rfl).elim

theorem untouched_of_handled (h : d.handle env clock c = { d with transcript := written })
    (hq : c ≠ .quit) : Untouched env clock d c written where
  handled := h
  onward := fun _ lines hc => h ▸ goThrough_cons hc hq lines

theorem Refused.ne_quit (h : Refused env d c e) : c ≠ .quit := by
  rintro rfl
  cases h with
  | unasked h | blank h | closed h => cases h

theorem untouched_of_refused (h : Refused env d c e) :
    Untouched env clock d c (d.transcript.complain ("Error: " ++ e.message)) :=
  untouched_of_handled (handle_of_error (perform_of_refused h)) h.ne_quit

theorem untouched_of_tells (h : Tells d c) (hq : c ≠ .quit) :
    ∃ lines, Untouched env clock d c (d.transcript.print lines) := by
  obtain ⟨lines, hlines⟩ := perform_of_tells env clock h
  exact ⟨lines, untouched_of_handled (handle_of_ok hlines) hq⟩

/-- Whatever a dialogue has come to, a command fails just when it is refused, and then it leaves the
dialogue, and its session, as they were. All that comes of it is one line on the error stream, and of
a command that only tells something the lines it tells: nothing else changes, the agent is not run,
and the next line is looked at. Where a line is waited for no request is pending, and none is after a
command. -/
theorem failing_commands_change_nothing (env : Environment) (clock : String) (d : Dialogue)
    (c : Command) :
    (∀ t e, d.perform env clock c = (t, some e) ↔ Refused env d c e ∧ t = d) ∧
    (∀ e, Refused env d c e →
      Untouched env clock d c (d.transcript.complain ("Error: " ++ e.message))) ∧
    (Tells d c → c ≠ .quit → ∃ lines, Untouched env clock d c (d.transcript.print lines)) ∧
    ∀ host, Prompted env host d → (d.handle env clock c).session.pending = [] :=
  ⟨fun _ _ => perform_eq_error_iff, fun _ => untouched_of_refused, untouched_of_tells,
    fun _ hd => ((change_handle env clock d c).atEase hd.atEase).served⟩

/-- A dialogue whose session was closed when the runner broke down. -/
def brokenDialogue : Dialogue :=
  (opened breakingHost sampleWorkspace.disk).handle ⟨[], "/"⟩ "12:00:00" (Command.parse "hi")

/-- In a closed session a file that is missing is told of first, and a command is refused. -/
theorem failing_commands_change_nothing_sample :
    (brokenDialogue.handle ⟨[], "/"⟩ "12:00:00" (.upload "/doc" "go")).transcript =
      brokenDialogue.transcript.complain
        "Error: Failed to read file /doc: No such file or directory (os error 2)" ∧
    (brokenDialogue.handle ⟨[], "/"⟩ "12:00:00" (.agent "go")).transcript =
      brokenDialogue.transcript.complain "Error: session closed" ∧
    (∃ lines, Untouched ⟨[], "/"⟩ "12:00:00" brokenDialogue .history
      (brokenDialogue.transcript.print lines)) ∧
    (brokenDialogue.handle ⟨[], "/"⟩ "12:00:00" (.agent "go")).session.pending = [] := by
  have hprompted : Prompted ⟨[], "/"⟩ breakingHost brokenDialogue :=
    .typed "12:00:00" "hi" (.opened sampleWorkspace.disk rfl) (by decide +kernel)
  obtain ⟨-, hupload, -⟩ := failing_commands_change_nothing ⟨[], "/"⟩ "12:00:00" brokenDialogue
    (.upload "/doc" "go")
  obtain ⟨-, hagent, -, hserved⟩ := failing_commands_change_nothing ⟨[], "/"⟩ "12:00:00"
    brokenDialogue (.agent "go")
  obtain ⟨-, -, htold, -⟩ := failing_commands_change_nothing ⟨[], "/"⟩ "12:00:00" brokenDialogue
    .history
  have hpath : expandPath ⟨[], "/"⟩ "/doc" = "/doc" := by decide +kernel
  have hmissing : brokenDialogue.disk.readText (expandPath ⟨[], "/"⟩ "/doc") =
      .error .notFound := by decide +kernel
  have hword : trim "go" ≠ "" := by decide +kernel
  have hclosed : brokenDialogue.session.isClosed := by decide +kernel
  have hfile := (hupload _ (.unasked (.upload hmissing))).handled
  have hrefused := (hagent _ (.closed (.agent "go") hword hclosed)).handled
  rw [hpath] at hfile
  exact ⟨congrArg transcript hfile, congrArg transcript hrefused, htold .history (by decide),
    hserved breakingHost hprompted⟩

end Dialogue

end AgentConsole.Console
