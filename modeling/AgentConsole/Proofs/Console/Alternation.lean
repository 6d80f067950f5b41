import AgentConsole.Proofs.Console.Failure
import AgentConsole.Proofs.Session.Answering
import AgentConsole.Shell.Process

/-!
# Conversations in turns

In a dialogue a user and the agent take turns: behind each message of the user there is one of the
agent, and there are no others of the agent (`Alternates`). That is so at first, and a command keeps
it so (`Conversing.change`): what it asks in words is said and answered before the next line is
looked at, and else there are only notices to add. What is written of a reply is the message of the
agent (`exchanged`). Nothing that was asked waits when a line is waited for, so nothing is ever
cancelled by a line (`conversations_alternate`). All this needs a runner that does not break down,
as one that runs the agent as a process (`neverPanics_runProcess`).
-/

namespace AgentConsole.Console

open AgentConsole.Agent AgentConsole.Files AgentConsole.Session AgentConsole.Setup AgentConsole.Text

/-- A message of the agent is right behind each message of a user, and a message of a user is right
before each message of the agent. -/
def Alternates (history : List Message) : Prop :=
  ∀ (before : List Message) (m : Message) (after : List Message), history = before ++ m :: after →
    (m.role = .user → ∃ (reply : Message) (rest : List Message),
      after = reply :: rest ∧ reply.role = .agent) ∧
    (m.role = .agent → ∃ (rest : List Message) (said : Message),
      before = rest ++ [said] ∧ said.role = .user)

section Histories

variable {history more : List Message}

theorem alternates_append (h : Alternates history) (hm : Alternates more) :
    Alternates (history ++ more) := by
  intro before m after heq
  rcases List.append_eq_append_iff.1 heq with ⟨front, rfl, hfront⟩ | ⟨back, hback, hcons⟩
  · obtain ⟨huser, hagent⟩ := hm front m after hfront
    refine ⟨huser, fun hr => ?_⟩
    obtain ⟨rest, said, rfl, hs⟩ := hagent hr
    exact ⟨history ++ rest, said, (List.append_assoc _ _ _).symm, hs⟩
  · cases back with
    | nil =>
      obtain ⟨huser, hagent⟩ := hm [] m after hcons.symm
      refine ⟨huser, fun hr => ?_⟩
      obtain ⟨rest, said, hnil, -⟩ := hagent hr
      simp at hnil
    | cons m' back =>
      obtain ⟨rfl, rfl⟩ := List.cons.inj hcons
      obtain ⟨huser, hagent⟩ := h before m back hback
      refine ⟨fun hr => ?_, hagent⟩
      obtain ⟨reply, rest, rfl, hs⟩ := huser hr
      exact ⟨reply, rest ++ more, rfl, hs⟩

theorem alternates_of_system (h : ∀ m ∈ history, m.role = .system) : Alternates history := by
  rintro before m after rfl
  have hm := h m (by simp)
  exact ⟨fun hr => by simp [hm] at hr, fun hr => by simp [hm] at hr⟩

theorem alternates_exchange (said answer : String) :
    Alternates [⟨.user, said⟩, ⟨.agent, answer⟩] := by
  intro before m after heq
  match before, heq with
  | [], heq =>
    obtain ⟨rfl, rfl⟩ := List.cons.inj heq
    exact ⟨fun _ => ⟨_, [], rfl, rfl⟩, nofun⟩
  | [user], heq =>
    simp only [List.singleton_append, List.cons.injEq] at heq
    obtain ⟨rfl, rfl, -⟩ := heq
    exact ⟨nofun, fun _ => ⟨[], _, rfl, rfl⟩⟩
  | _ :: _ :: before, heq => simp at heq

end Histories

theorem exists_processAnswer (result : Except Shell.Stop Unit) (m : Shell.Machine) :
    ∃ outcome, (Shell.processAnswer result m).ending = .exit outcome := by
  unfold Shell.processAnswer
  split <;> exact ⟨_, rfl⟩

/-- A process ends, or fails to start, or never ends; it does not break down. -/
theorem neverPanics_runProcess (settings : Settings) (env : Environment) :
    NeverPanics ⟨settings, Shell.runProcess env⟩ := by
  intro count invocation disk hpanic
  simp only [Shell.runProcess] at hpanic
  split at hpanic
  · cases hpanic
  · split at hpanic
    · cases hpanic
    · obtain ⟨outcome, ho⟩ := exists_processAnswer _ _
      cases ho.symm.trans hpanic

namespace Dialogue

/-- The session of a dialogue while a line is waited for: nothing waits, whatever was asked has an
outcome for its reply, and the user and the agent take turns. -/
structure Conversing (host : Host) (s : AgentConsole.Session) : Prop where
  host : s.host = host
  atEase : s.AtEase
  directs : s.directs = []
  answered : ∀ r ∈ s.replies, ∃ outcome : Except AgentError String, r.2 = outcome.mapError .agent
  alternates : Alternates s.conversation.history

/-- What a command is to the conversation. What it asks in words is said, the outcome is said right
behind it and written, and that is the reply. Else there is nothing asked but what is blank, and
there are only notices to add, to nothing if the conversation is started over. -/
inductive Exchanged (env : Environment) (d : Dialogue) (c : Command) (t : Dialogue) : Prop
  | answered {x : Submission} (ha : Asks env d c x) (hb : trim x.essence ≠ "")
      (outcome : Except AgentError String)
      (hr : t.session.reply? d.session.accepted = some (outcome.mapError .agent))
      (hh : t.session.conversation.history =
        d.session.conversation.history ++ [⟨.user, x.said⟩, answerMessage outcome])
      (hw : t.transcript = d.transcript.print [(answerMessage outcome).content, ""])
  | unasked (hb : ∀ x, Asks env d c x → trim x.essence = "")
      (ha : t.session.accepted = d.session.accepted) (notices : List Message)
      (hn : ∀ m ∈ notices, m.role = .system)
      (hh : t.session.conversation.history =
        (if c = .clear then [] else d.session.conversation.history) ++ notices)

variable {env : Environment} {clock : String} {host : Host} {d t : Dialogue} {c : Command}
variable {x : Submission} {s s' : AgentConsole.Session} {outcome : Except AgentError String}

section Turns

theorem history_of_answered (h : Answered s x outcome s') : s'.conversation.history =
    s.conversation.history ++ [⟨.user, x.said⟩, answerMessage outcome] := by
  rw [h.conversation, Conversation.push, asked_history, List.append_assoc]
  rfl

theorem asking_of_error {e : SessionError} (h : s.submit x = (s, .error e)) : s.asking x = s := by
  rw [Session.asking, h]

theorem conversing_new (host : Host) (disk : Disk) : Conversing host (.new host (.new disk)) where
  host := rfl
  atEase := atEase_new host (.new disk)
  directs := rfl
  answered := fun _ h => by cases h
  alternates := alternates_of_system (by simp [Session.new, Conversation.push, Conversation.empty,
    welcome])

theorem Conversing.calls (hs : Conversing host s) : s.calls = [] := by
  obtain ⟨hw, -⟩ := List.append_eq_nil_iff.1 hs.atEase.served
  unfold Session.calls
  cases hworker : s.worker <;> simp [hworker, Worker.job?, Worker.call?, hs.directs] at hw ⊢

/-- What was asked in words leaves the session as it is wanted for the next line. -/
theorem Conversing.asking (hs : Conversing host s) (h : Answered s x outcome (s.asking x)) :
    Conversing host (s.asking x) where
  host := h.host.trans hs.host
  atEase := (hs.atEase.asking x).1
  directs := h.directs
  answered := by
    intro r hr
    rw [h.replies] at hr
    rcases List.mem_cons.1 hr with rfl | hr
    · exact ⟨outcome, rfl⟩
    · exact hs.answered r hr
  alternates := by
    rw [history_of_answered h]
    exact alternates_append hs.alternates (alternates_exchange _ _)

/-- Whatever a command does to the session, the conversation goes on in turns. -/
theorem Conversing.change (hs : Conversing host s) (hn : NeverPanics host) (h : Change s s') :
    Conversing host s' := by
  have hease := h.atEase hs.atEase
  have hframe {u : AgentConsole.Session} (hhost : u.host = s.host) (hd : u.directs = s.directs)
      (hr : u.replies = s.replies) (hease : u.finishDeeds.AtEase)
      (ha : Alternates u.conversation.history) : Conversing host u.finishDeeds := by
    obtain ⟨published, announced, hu⟩ := finishDeeds_eq u
    rw [hu] at hease ⊢
    exact ⟨hhost.trans hs.host, hease, hd.trans hs.directs,
      fun r h => hs.answered r (by rwa [← hr]), ha⟩
  cases h with
  | none => exact hs
  | asked x =>
    by_cases hb : trim x.essence = ""
    · rw [asking_of_error (submit_of_blank hb)]
      exact hs
    · obtain ⟨outcome, h⟩ := hs.atEase.answered (hs.host ▸ hn) hs.directs hb
      exact hs.asking h
  | loaded file =>
    exact hframe rfl rfl rfl hease
      (alternates_append hs.alternates (alternates_of_system (by simp [loadedNotice])))
  | cleared => exact hframe rfl rfl rfl hease (alternates_of_system nofun)
  | cancelled => exact hframe rfl rfl rfl hease hs.alternates

/-- Whenever a line is waited for, the conversation has come in turns. -/
theorem Prompted.conversing (h : Prompted env host d) (hn : NeverPanics host) :
    Conversing host d.session := by
  induction h with
  | opened disk h => exact h ▸ conversing_new host disk
  | typed clock line h hq ih => exact ih.change hn (change_handle env clock _ _)
  | elapsed moment h ih =>
    exact ⟨ih.host, (h.elapsed moment).atEase, ih.directs, ih.answered, ih.alternates⟩
  | disturbed disk h ih =>
    exact ⟨ih.host, (h.disturbed disk).atEase, ih.directs, ih.answered, ih.alternates⟩

end Turns

section Lines

/-- What is shown of a reply is what the agent says. -/
theorem replyText_of_outcome (outcome : Except AgentError String) :
    replyText (outcome.mapError .agent) = (answerMessage outcome).content := by
  cases outcome <;> rfl

theorem ask_of_answered (h : Answered d.session x outcome (d.session.asking x)) :
    d.ask x = ({ d with session := d.session.asking x }.print
      [(answerMessage outcome).content, ""], none) := by
  have hreply := h.reply?
  have haccepted := h.accepted
  revert hreply haccepted
  unfold ask Session.asking
  rcases submit_cases d.session x with ⟨e, hx⟩ | ⟨-, hx⟩
  · rw [hx]
    intro _ ha
    simp at ha
  · rw [hx]
    intro hreply _
    simp only at hreply ⊢
    rw [hreply, ← replyText_of_outcome]

/-- What a line comes to in the conversation. -/
theorem exchanged (hn : NeverPanics host) (hs : Conversing host d.session) (env : Environment)
    (clock : String) (c : Command) : Exchanged env d c (d.handle env clock c) := by
  by_cases hasks : ∃ x, Asks env d c x ∧ trim x.essence ≠ ""
  · obtain ⟨x, ha, hb⟩ := hasks
    obtain ⟨outcome, h⟩ := hs.atEase.answered (hs.host ▸ hn) hs.directs hb
    rw [handle_of_ok ((perform_of_asks ha).trans (ask_of_answered h))]
    exact .answered ha hb outcome h.reply? (history_of_answered h) rfl
  · have hblank (x : Submission) (ha : Asks env d c x) : trim x.essence = "" := by
      by_contra hb
      exact hasks ⟨x, ha, hb⟩
    have hsame (hc : c ≠ .clear) (h : (d.handle env clock c).session = d.session) :
        Exchanged env d c (d.handle env clock c) :=
      .unasked hblank (by rw [h]) [] nofun (by rw [h, if_neg hc, List.append_nil])
    generalize hr : d.perform env clock c = result
    cases hr ▸ performed env clock d c with
    | failed hf =>
      refine hsame (by rintro rfl; cases hf) ?_
      rw [handle_of_error hr]
    | @asked _ x ha =>
      refine hsame (by rintro rfl; cases ha) ?_
      rw [session_of_ask hr, asking_of_error (submit_of_blank (hblank x ha))]
    | told h =>
      refine hsame (by rintro rfl; cases h) ?_
      rw [handle_of_ok hr]
      rfl
    | loaded file =>
      obtain ⟨published, announced, hf⟩ := finishDeeds_eq (d.session.setFile file)
      rw [handle_of_ok hr, hf]
      exact .unasked hblank rfl [loadedNotice file] (by simp [loadedNotice]) rfl
    | cleared =>
      obtain ⟨published, announced, hf⟩ := finishDeeds_eq d.session.clear
      rw [handle_of_ok hr, hf]
      exact .unasked hblank rfl [] nofun rfl
    | cancelled =>
      obtain ⟨published, announced, hf⟩ := finishDeeds_eq d.session.cancel
      rw [handle_of_ok hr, hf]
      exact .unasked hblank rfl [] nofun (List.append_nil _).symm

/-- Lines lead from where a line is waited for to where one is waited for. -/
theorem Prompted.goThrough (h : Prompted env host d) (clock : String) (typed : List String)
    (ht : ∀ line ∈ typed, Command.parse line ≠ .quit) (rest : List (Option String)) :
    ∃ t, Prompted env host t ∧
      d.goThrough env clock (typed.map some ++ rest) = t.goThrough env clock rest :=
  ⟨_, h.after clock typed ht, goThrough_append env clock typed ht rest⟩

/-- Where the agent is run as a process, every dialogue is a conversation in turns. -/
theorem alternates_runProcess (settings : Settings) (env : Environment) (disk : Disk)
    (clock : String) (typed : List String) (ht : ∀ line ∈ typed, Command.parse line ≠ .quit) :
    Alternates ((opened ⟨settings, Shell.runProcess env⟩ disk).after env clock
      (typed.map Command.parse)).session.conversation.history := by
  have hprompted := (prompted_opened env ⟨settings, Shell.runProcess env⟩ disk).after clock typed ht
  exact (hprompted.conversing (neverPanics_runProcess settings env)).alternates

end Lines

/-- With a runner that does not break down, whatever lines a dialogue has gone through, and whatever
the agent did and became of the disk meanwhile: when a line is waited for, no request waits and no
run is under way, and in the history the user and the agent take turns. Every reply there has been
is an outcome, so none says that its request was cancelled. What a line asks in words is said in the
history, its outcome is said right behind it, and that text is what is written; other lines add only
notices, or start over. Then the next line is waited for, and so on to the end of the lines. -/
theorem conversations_alternate (hn : NeverPanics host) (hd : Prompted env host d) :
    d.session.pending = [] ∧ d.session.calls = [] ∧ Alternates d.session.conversation.history ∧
    (∀ r ∈ d.session.replies, ∃ outcome : Except AgentError String, r.2 = outcome.mapError .agent) ∧
    (∀ clock c, Exchanged env d c (d.handle env clock c)) ∧
    ∀ clock (typed : List String), (∀ line ∈ typed, Command.parse line ≠ .quit) → ∀ rest, ∃ t,
      Prompted env host t ∧
        d.goThrough env clock (typed.map some ++ rest) = t.goThrough env clock rest := by
  have hs := hd.conversing hn
  exact ⟨hs.atEase.served, hs.calls, hs.alternates, hs.answered,
    fun clock c => exchanged hn hs env clock c, fun clock typed ht rest =>
    hd.goThrough clock typed ht rest⟩

/-- A dialogue after three lines. -/
def spokenDialogue : Dialogue :=
  (opened sampleHost sampleWorkspace.disk).after ⟨[], "/"⟩ "12:00:00"
    (["hi", "/clear", "/agent go"].map Command.parse)

theorem conversations_alternate_sample :
    spokenDialogue.session.conversation.history =
      [⟨.user, "@dev-agent go"⟩, ⟨.agent, "hi"⟩] ∧
    Alternates spokenDialogue.session.conversation.history ∧
    spokenDialogue.session.replies.length = 2 ∧
    (∀ r ∈ spokenDialogue.session.replies, r.2 ≠ .error .cancelled) ∧
    Exchanged ⟨[], "/"⟩ spokenDialogue .clear
      (spokenDialogue.handle ⟨[], "/"⟩ "12:00:00" .clear) := by
  have hlines : ∀ line ∈ ["hi", "/clear", "/agent go"], Command.parse line ≠ .quit := by
    decide +kernel
  have hprompted : Prompted ⟨[], "/"⟩ sampleHost spokenDialogue :=
    (prompted_opened ⟨[], "/"⟩ sampleHost sampleWorkspace.disk).after "12:00:00" _ hlines
  obtain ⟨-, -, halternates, hreplies, hexchanged, -⟩ :=
    conversations_alternate neverPanics_sampleHost hprompted
  refine ⟨by decide +kernel, halternates, by decide +kernel, fun r hr => ?_, hexchanged _ _⟩
  obtain ⟨outcome, ho⟩ := hreplies r hr
  rw [ho]
  cases outcome <;> exact nofun

end Dialogue

end AgentConsole.Console
