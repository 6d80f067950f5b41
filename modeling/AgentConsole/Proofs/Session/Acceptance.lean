import AgentConsole.Proofs.Agent.Run
import AgentConsole.Proofs.Session.Age
import AgentConsole.Proofs.Wire

/-!
# What is asked is fixed when it is accepted

Accepting a request says one thing in the conversation, and makes a job that holds all the agent is
to be told (`accepted_of_submit`). What these are depends on the kind of what is asked, and on the
current file only where it is asked in the conversation (`Accepts`). Whatever happens until the
worker gets to it, it is that job (`fixed_run`); and the runner is called for it with a request file
that holds what the job says, written in such a way that it is read back (`fixed_at_acceptance`).
-/

namespace AgentConsole

open AgentConsole.Agent AgentConsole.Files

namespace Session

/-- In a conversation about this file, or about none, the acceptance of a submission comes to this:
what the user says, what the agent is sent, and the file that the conversation is about then. Only
what is typed or mentioned in a file is classified, and of an editor's file a command tells the name
and code the whole path. -/
inductive Accepts : Option Attachment → Submission → String → Request → Option Attachment → Prop
  | prompt (text : String) :
    Accepts none (.prompt text) text
      ⟨stripMention text, classify (stripMention text), "", ""⟩ none
  | promptAbout (text : String) (file : Attachment) :
    Accepts (some file) (.prompt text) text
      ⟨stripMention text, classify (stripMention text), file.content, file.path⟩ (some file)
  | mention (current : Option Attachment) (command : String) (file : Attachment) :
    Accepts current (.mention command file) ("@dev-agent " ++ command)
      ⟨command, classify command, file.content, file.path⟩ (some file)
  | editor (current : Option Attachment) (command : String) :
    Accepts current (.editor command none) ("@dev-agent " ++ command)
      ⟨command, .custom, "", ""⟩ current
  | editorAbout (current : Option Attachment) (command : String) (file : Attachment) :
    Accepts current (.editor command (some file)) ("@dev-agent " ++ command)
      ⟨command, .custom, file.content, (baseName? file.path).getD file.path⟩ current
  | upload (current : Option Attachment) (name content command : String) :
    Accepts current (.upload name content command)
      ("@dev-agent " ++ command ++ " (File: " ++ name ++ ")")
      ⟨command, .custom, content, name⟩ current
  | code (current : Option Attachment) (text : String) :
    Accepts current (.code text none) text ⟨stripMention text, .custom, "", ""⟩ current
  | codeAbout (current : Option Attachment) (text : String) (file : Attachment) :
    Accepts current (.code text (some file)) text
      ⟨stripMention text, .custom, file.content, file.path⟩ current

variable {host : Host} {workspace : Workspace} {moves : List Move}
variable {s t u v : Session} {m : Move} {x : Submission} {log early notes : Log} {id : Nat}
variable {job : Job}

/-- Something to ask is refused without a note, or it is accepted. -/
theorem notes_of_submit (h : u.move? (.submit x) = some (v, notes)) : notes = [] ∨
    notes = [.accepted u.accepted x] ∧ v.accepted = u.accepted + 1 ∧
      v.conversation = asked u.conversation x ∧ v.undecided = u.undecided ++ [u.jobOf x] := by
  simp only [move?] at h
  split_ifs at h
  rcases submit_cases u x with ⟨e, hs⟩ | ⟨-, hs⟩
  · simp only [submitNoted, hs, Option.some.injEq, Prod.mk.injEq] at h
    exact .inl h.2.symm
  · simp only [submitNoted, hs, Option.some.injEq, Prod.mk.injEq] at h
    obtain ⟨rfl, rfl⟩ := h
    exact .inr (by simp [undecided])

/-- What accepting a request does. -/
theorem accepted_of_submit (h : u.move? (.submit x) = some (v, [.accepted id x])) :
    id = u.accepted ∧ v.accepted = u.accepted + 1 ∧ v.conversation = asked u.conversation x ∧
      v.undecided = u.undecided ++ [u.jobOf x] := by
  rcases notes_of_submit h with hn | ⟨hn, hv⟩
  · cases hn
  · cases hn
    exact ⟨rfl, hv⟩

/-- The acceptance says what the user said, makes a file current if the request comes with a new
one, and does nothing else to the conversation. -/
theorem asked_eq (c : Conversation) (x : Submission) : asked c x =
    ⟨c.history ++ [⟨.user, x.said⟩], x.newFile?.or c.file, c.epoch⟩ := by
  unfold asked
  cases x.newFile? <;> rfl

theorem accepts (current : Option Attachment) (x : Submission) :
    Accepts current x x.said (x.request current) (x.newFile?.or current) := by
  cases x with
  | prompt text =>
    cases current with
    | none => exact .prompt text
    | some file => exact .promptAbout text file
  | mention command file => exact .mention current command file
  | editor command file =>
    cases file with
    | none => exact .editor current command
    | some file => exact .editorAbout current command file
  | upload name content command => exact .upload current name content command
  | code text file =>
    cases file with
    | none => exact .code current text
    | some file => exact .codeAbout current text file

/-- The request has been accepted, and while it is undecided it is this job. -/
def Fixed (job : Job) (s : Session) : Prop :=
  job.id < s.accepted ∧ ∀ job' ∈ s.undecided, job'.id = job.id → job' = job

theorem fixed_step (hs : Fixed job s) (h : Step s t notes) : Fixed job t := by
  obtain ⟨hlt, hall⟩ := hs
  refine ⟨Nat.lt_of_lt_of_le hlt (accepted_le h), fun job' hj hid => ?_⟩
  rcases mem_undecided_step h hj with hj | ⟨-, -, x, rfl, -⟩
  · exact hall job' hj hid
  · simp only [jobOf] at hid
    omega

theorem fixed_run (hs : Fixed job s) (h : s.run? moves = some (t, log)) : Fixed job t :=
  @run?_induct (fun _ s => Fixed job s) (fun hs hm => fixed_step hs (step_of_move hm))
    moves [] s t log hs h

/-- A request is fixed with its acceptance. -/
theorem fixed_of_submit (hu : (new host workspace).run? moves = some (u, early))
    (hx : u.move? (.submit x) = some (v, [.accepted id x])) :
    id = u.accepted ∧ Fixed (u.jobOf x) v := by
  obtain ⟨hid, ha, -, hq⟩ := accepted_of_submit hx
  refine ⟨hid, by rw [ha]; exact Nat.lt_succ_self _, fun job hj hid => ?_⟩
  rw [hq, List.mem_append, List.mem_singleton] at hj
  rcases hj with hj | rfl
  · have := (sound_of_run hu).orderly.undecided_lt hj
    simp only [jobOf] at hid
    omega
  · rfl

/-- A request that is accepted says one thing in the conversation, and makes a file current only if
it comes with it. Whatever is done with the session then, if the runner is called for the request,
it is called on a disk where the path it is told leads to a text that is read as the request as it
was when it was accepted, with the file that was current then. -/
theorem fixed_at_acceptance (hu : (new host workspace).run? moves = some (u, early))
    (hx : u.move? (.submit x) = some (v, [.accepted id x])) :
    ∃ said request current, Accepts u.conversation.file x said request current ∧
    v.conversation =
      ⟨u.conversation.history ++ [⟨.user, said⟩], current, u.conversation.epoch⟩ ∧
    ∀ between s log m t notes call, v.run? between = some (s, log) →
      s.move? m = some (t, notes) → .called id call ∈ notes → ∃ disk text,
        s.host.runner s.workspace.runs.length call.invocation disk =
          (t.workspace.disk, call.answer) ∧
        t.workspace.runs = (call.invocation, text) :: s.workspace.runs ∧
        disk.readText call.invocation.inputFile = .ok text ∧
        Request.shape.reader.readAll text = .ok request := by
  refine ⟨_, _, _, accepts u.conversation.file x, ?_, ?_⟩
  · rw [(accepted_of_submit hx).2.2.1, asked_eq]
  · intro between s log m t notes call hv hm hc
    obtain ⟨job, hw, hid, hstart⟩ := started_of_called (step_of_move hm) hc
    have hj : job ∈ s.undecided := by simp [undecided, hw, Worker.undecided?]
    obtain ⟨rfl, hfixed⟩ := fixed_of_submit hu hx
    obtain rfl := (fixed_run hfixed hv).2 job hj hid
    obtain ⟨disk, hcalled⟩ := called_of_start hstart
    exact ⟨disk, _, hcalled.run, hcalled.runs, hcalled.readText, Request.readAll_fileText _⟩

/-- A file to talk about, and another one. -/
def sampleFile : Attachment :=
  ⟨"/src/a.c", "int a;"⟩

/-- What is done after a prompt was accepted, until the worker is about to start it: another file is
made the current one. -/
def meanwhileMoves : List Move :=
  [.proceed, .proceed, .proceed, .setFile ⟨"/src/b.c", "int b;"⟩, .proceed, .proceed, .take, .check]

theorem fixed_at_acceptance_sample : ∃ u v s t early log notes call,
    (new sampleHost sampleWorkspace).run? [.setFile sampleFile, .proceed, .proceed] =
      some (u, early) ∧
    u.move? (.submit (.prompt "@dev-agent explain it")) =
      some (v, [.accepted 0 (.prompt "@dev-agent explain it")]) ∧
    v.conversation = ⟨[welcome, ⟨.system, "File loaded: a.c"⟩, ⟨.user, "@dev-agent explain it"⟩],
      some sampleFile, 0⟩ ∧
    v.run? meanwhileMoves = some (s, log) ∧ s.move? .start = some (t, notes) ∧
    .called 0 call ∈ notes ∧ ∃ (disk : Disk) (text : String),
      disk.readText call.invocation.inputFile = .ok text ∧
      Request.shape.reader.readAll text = .ok ⟨"explain it", .explain, "int a;", "/src/a.c"⟩ := by
  have h : ((new sampleHost sampleWorkspace).run? [.setFile sampleFile, .proceed, .proceed]).bind
      (fun p => (p.1.move? (.submit (.prompt "@dev-agent explain it"))).bind fun q =>
        (q.1.run? meanwhileMoves).bind fun r => (r.1.move? .start).map fun z =>
          (p.1.conversation, q.2.filterMap Note.accepted?, z.2.filterMap Note.called?)) =
      some (⟨[welcome, ⟨.system, "File loaded: a.c"⟩], some sampleFile, 0⟩, [0], [0]) := by
    decide +kernel
  obtain ⟨⟨u, early⟩, hu, h⟩ := Option.bind_eq_some_iff.1 h
  obtain ⟨⟨v, new⟩, hx, h⟩ := Option.bind_eq_some_iff.1 h
  obtain ⟨⟨s, log⟩, hv, h⟩ := Option.bind_eq_some_iff.1 h
  obtain ⟨⟨t, notes⟩, ht, h⟩ := Option.map_eq_some_iff.1 h
  simp only [Prod.mk.injEq] at h
  obtain ⟨hconversation, haccepted, hcalled⟩ := h
  obtain rfl : new = [.accepted 0 (.prompt "@dev-agent explain it")] := by
    rcases notes_of_submit hx with rfl | ⟨rfl, -⟩
    · cases haccepted
    · simpa [Note.accepted?] using haccepted
  have hmem : 0 ∈ notes.filterMap Note.called? := by simp [hcalled]
  obtain ⟨n, hn, hid⟩ := List.mem_filterMap.1 hmem
  cases n with
  | called id call =>
    cases hid
    obtain ⟨said, request, current, ha, hc, hruns⟩ := fixed_at_acceptance hu hx
    obtain ⟨disk, text, -, -, hread, hall⟩ := hruns _ _ _ _ _ _ _ hv ht hn
    rw [hconversation] at ha hc
    cases ha
    refine ⟨u, v, s, t, early, log, notes, call, hu, hx, hc, hv, ht, hn, disk, text, hread, ?_⟩
    rw [hall]
    decide +kernel
  | _ => cases hid

end Session

end AgentConsole
