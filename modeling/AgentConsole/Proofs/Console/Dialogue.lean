import AgentConsole.Console.Dialogue
import AgentConsole.Proofs.Mention.Listing
import AgentConsole.Proofs.Session.Asking

/-!
# What commands do

A command does one of few things (`performed`): it fails before anything is asked (`Fails`), asks
one thing of the agent (`Asks`), tells something (`Tells`), loads a file, or starts the conversation
over or gives up what was asked. So the session sees one thing at most of it (`Change`), and nothing
of a command that fails. The session of a dialogue is at ease between two commands
(`atEase_after`), which are those of its lines (`goThrough_append`), and so it is whenever a line is
waited for, whatever else goes on meanwhile (`Prompted.atEase`).
-/

namespace AgentConsole.Console

open AgentConsole.Agent AgentConsole.Files AgentConsole.Session AgentConsole.Setup

namespace Dialogue

/-- A dialogue before anything is typed. -/
def opened (host : Host) (disk : Disk) : Dialogue where
  session := .new host (.new disk)
  transcript := .empty

/-- A dialogue after these commands. -/
def after (env : Environment) (clock : String) (d : Dialogue) (commands : List Command) :
    Dialogue :=
  commands.foldl (handle env clock) d

/-- What a command asks of the agent. -/
inductive Asks (env : Environment) (d : Dialogue) : Command → Submission → Prop
  | text {text : String} (h : text ≠ "") : Asks env d (.text text) (.prompt text)
  | upload {path command content : String}
      (h : readFile d.disk (expandPath env path) = .ok content) :
    Asks env d (.upload path command) (.upload (sentName (expandPath env path)) content command)
  | agent (command : String) : Asks env d (.agent command) (.editor command d.file)
  | code (text : String) : Asks env d (.code text) (.code text d.file)
  | mention {number : Option Nat} {file : Attachment} {m : Mention} (hf : d.file = some file)
      (hm : selectMention (findMentions file.content) number = .ok (some m)) :
    Asks env d (.mentions number) (.mention m.command file)

/-- Why a command fails before anything is asked. -/
inductive Fails (env : Environment) (d : Dialogue) : Command → ConsoleError → Prop
  | file {path : String} {cause : IoError}
      (h : d.disk.readText (expandPath env path) = .error cause) :
    Fails env d (.file (some path)) (.unreadable (expandPath env path) cause)
  | upload {path command : String} {cause : IoError}
      (h : d.disk.readText (expandPath env path) = .error cause) :
    Fails env d (.upload path command) (.unreadable (expandPath env path) cause)
  | mention {number : Nat} {file : Attachment} (hf : d.file = some file)
      (hn : number = 0 ∨ (findMentions file.content).length < number) :
    Fails env d (.mentions (some number))
      (.noMention ⟨number, (findMentions file.content).length⟩)

/-- A command that tells something and does nothing else. -/
inductive Tells (d : Dialogue) : Command → Prop
  | empty : Tells d (.text "")
  | file : Tells d (.file none)
  /-- There is no file, or no mention in it is picked. -/
  | mentions {number : Option Nat}
      (h : ∀ file, d.file = some file →
        selectMention (findMentions file.content) number = .ok none) :
    Tells d (.mentions number)
  | history : Tells d .history
  | help (topic : Option String) : Tells d (.help topic)
  | quit : Tells d .quit
  | usage (line : String) : Tells d (.usage line)
  | unknown (word : String) : Tells d (.unknown word)

/-- What a command comes to. -/
inductive Performed (env : Environment) (d : Dialogue) :
    Command → Dialogue × Option ConsoleError → Prop
  | failed {c : Command} {e : ConsoleError} (h : Fails env d c e) : Performed env d c (d, some e)
  | asked {c : Command} {x : Submission} (h : Asks env d c x) : Performed env d c (d.ask x)
  | told {c : Command} (h : Tells d c) (lines : List String) :
    Performed env d c (d.print lines, none)
  | loaded {path : String} (file : Attachment) (lines : List String) :
    Performed env d (.file (some path))
      ({ d with session := (d.session.setFile file).finishDeeds }.print lines, none)
  | cleared (lines : List String) :
    Performed env d .clear ({ d with session := d.session.clear.finishDeeds }.print lines, none)
  | cancelled (lines : List String) :
    Performed env d .cancel ({ d with session := d.session.cancel.finishDeeds }.print lines, none)

/-- What a command is to the session. -/
inductive Change (s : AgentConsole.Session) : AgentConsole.Session → Prop
  | none : Change s s
  | asked (x : Submission) : Change s (s.asking x)
  | loaded (file : Attachment) : Change s (s.setFile file).finishDeeds
  | cleared : Change s s.clear.finishDeeds
  | cancelled : Change s s.cancel.finishDeeds

/-- A dialogue in which a line is waited for: it was opened, and the lines typed so far were carried
out, each at its time of day. Between them time passes, and others may change what is on the disk. -/
inductive Prompted (env : Environment) (host : Host) : Dialogue → Prop
  | opened {d : Dialogue} (disk : Disk) (h : d.session = .new host (.new disk)) :
    Prompted env host d
  | typed {d : Dialogue} (clock line : String) (h : Prompted env host d)
      (hq : Command.parse line ≠ .quit) :
    Prompted env host (d.handle env clock (Command.parse line))
  | elapsed {d : Dialogue} (moment : Nat) (h : Prompted env host d) :
    Prompted env host { d with session := d.session.elapse moment }
  | disturbed {d : Dialogue} (disk : Disk) (h : Prompted env host d) :
    Prompted env host
      { d with session := { d.session with workspace := { d.session.workspace with disk } } }

variable {env : Environment} {clock : String} {host : Host} {d t : Dialogue} {c : Command}
variable {x : Submission} {e : ConsoleError} {file : Attachment} {number : Option Nat} {m : Mention}

section Performing

theorem readFile_of_error {disk : Disk} {path : String} {cause : IoError}
    (h : disk.readText path = .error cause) : readFile disk path = .error (.unreadable path cause) := by
  rw [readFile, h]
  rfl

theorem readFile_cases (disk : Disk) (path : String) :
    (∃ cause, disk.readText path = .error cause) ∨ ∃ content, readFile disk path = .ok content := by
  unfold readFile
  cases disk.readText path with
  | error cause => exact .inl ⟨cause, rfl⟩
  | ok content => exact .inr ⟨content, rfl⟩

theorem selectMention_cases (found : List Mention) (number : Option Nat) :
    (∃ m, selectMention found number = .ok (some m)) ∨ selectMention found number = .ok none ∨
      ∃ n, number = some n ∧ (n = 0 ∨ found.length < n) := by
  rcases number with _ | _ | n
  · rw [selectMention_none]
    split_ifs
    · cases found with
      | nil => exact .inr (.inl rfl)
      | cons m found => exact .inl ⟨m, rfl⟩
    · exact .inr (.inl rfl)
  · exact .inr (.inr ⟨0, rfl, .inl rfl⟩)
  · cases hm : found[n]? with
    | some m => exact .inl ⟨m, selectMention_of_getElem? hm⟩
    | none =>
      have hle : found.length ≤ n := List.getElem?_eq_none_iff.1 hm
      exact .inr (.inr ⟨n + 1, rfl, .inr (Nat.lt_succ_of_le hle)⟩)

theorem perform_of_asks (h : Asks env d c x) : d.perform env clock c = d.ask x := by
  cases h with
  | text h => exact if_neg (by simpa using h)
  | upload h => simp only [perform, h]
  | agent | code => rfl
  | mention hf hm => simp only [perform, mentions, hf, hm]

theorem perform_of_fails (h : Fails env d c e) : d.perform env clock c = (d, some e) := by
  cases h with
  | file h => simp only [perform, load, readFile_of_error h]
  | upload h => simp only [perform, readFile_of_error h]
  | mention hf hn => simp only [perform, mentions, hf, selectMention_eq_error hn]

theorem perform_of_tells (env : Environment) (clock : String) (h : Tells d c) :
    ∃ lines, d.perform env clock c = (d.print lines, none) := by
  cases h with
  | empty | quit => exact ⟨[], rfl⟩
  | file =>
    simp only [perform]
    split <;> exact ⟨_, rfl⟩
  | mentions h =>
    simp only [perform, mentions]
    split
    · exact ⟨_, rfl⟩
    · next file hf =>
      rw [h file hf]
      by_cases hnone : (findMentions file.content).isEmpty
      · exact ⟨_, if_pos hnone⟩
      · exact ⟨_, if_neg hnone⟩
  | history | help | usage | unknown => exact ⟨_, rfl⟩

/-- There is no more to a command than one of these things. -/
theorem performed (env : Environment) (clock : String) (d : Dialogue) (c : Command) :
    Performed env d c (d.perform env clock c) := by
  have hasks {x : Submission} (h : Asks env d c x) : Performed env d c (d.perform env clock c) :=
    perform_of_asks h ▸ .asked h
  have hfails {e : ConsoleError} (h : Fails env d c e) :
      Performed env d c (d.perform env clock c) := perform_of_fails h ▸ .failed h
  have htells (h : Tells d c) : Performed env d c (d.perform env clock c) := by
    obtain ⟨lines, hlines⟩ := perform_of_tells env clock h
    exact hlines ▸ .told h lines
  cases c with
  | text text =>
    by_cases ht : text = ""
    · exact htells (ht ▸ .empty)
    · exact hasks (.text ht)
  | agent command => exact hasks (.agent command)
  | code text => exact hasks (.code text)
  | upload path command =>
    rcases readFile_cases d.disk (expandPath env path) with ⟨cause, h⟩ | ⟨content, h⟩
    · exact hfails (.upload h)
    · exact hasks (.upload h)
  | file path =>
    cases path with
    | none => exact htells .file
    | some path =>
      rcases readFile_cases d.disk (expandPath env path) with ⟨cause, h⟩ | ⟨content, h⟩
      · exact hfails (.file h)
      · simp only [perform, load, h]
        exact .loaded ⟨expandPath env path, content⟩ _
  | mentions number =>
    cases hf : d.file with
    | none => exact htells (.mentions fun file h => by rw [hf] at h; cases h)
    | some file =>
      rcases selectMention_cases (findMentions file.content) number with
        ⟨m, hm⟩ | hnone | ⟨n, rfl, hn⟩
      · exact hasks (.mention hf hm)
      · refine htells (.mentions fun file' h => ?_)
        obtain rfl : file = file' := Option.some.inj (hf.symm.trans h)
        exact hnone
      · exact hfails (.mention hf hn)
  | clear => exact .cleared _
  | cancel => exact .cancelled _
  | history => exact htells .history
  | help topic => exact htells (.help topic)
  | quit => exact htells .quit
  | usage line => exact htells (.usage line)
  | unknown word => exact htells (.unknown word)

end Performing

section Sessions

theorem handle_of_error (h : d.perform env clock c = (t, some e)) : d.handle env clock c =
    { t with transcript := t.transcript.complain ("Error: " ++ e.message) } := by
  rw [handle, h]

theorem handle_of_ok (h : d.perform env clock c = (t, none)) : d.handle env clock c = t := by
  rw [handle, h]

/-- To ask in a dialogue is to ask its session; if that is refused, the session is the same. -/
theorem session_of_ask (h : d.perform env clock c = d.ask x) :
    (d.handle env clock c).session = d.session.asking x := by
  unfold handle
  rw [h]
  unfold ask Session.asking
  rcases submit_cases d.session x with ⟨e, he⟩ | ⟨-, hok⟩
  · rw [he]
  · rw [hok]
    simp only
    split <;> next hreply => split at hreply <;> cases hreply <;> rfl

/-- A mention that is picked in the current file is asked about, with that file. -/
theorem session_of_picked (hf : d.file = some file)
    (hm : selectMention (findMentions file.content) number = .ok (some m)) :
    (d.handle env clock (.mentions number)).session =
      d.session.asking (.mention m.command file) :=
  session_of_ask (perform_of_asks (.mention hf hm))

/-- When no mention is picked the session is left alone. -/
theorem session_of_unpicked (h : ∀ file m, d.file = some file →
    selectMention (findMentions file.content) number ≠ .ok (some m)) :
    (d.handle env clock (.mentions number)).session = d.session := by
  generalize hr : d.perform env clock (.mentions number) = r
  cases hr ▸ performed env clock d (.mentions number) with
  | failed => rw [handle_of_error hr]
  | asked ha =>
    cases ha with
    | mention hf hm => exact (h _ _ hf hm).elim
  | told =>
    rw [handle_of_ok hr]
    rfl

end Sessions

/-- What a command does to the session. -/
theorem change_handle (env : Environment) (clock : String) (d : Dialogue) (c : Command) :
    Change d.session (d.handle env clock c).session := by
  generalize hr : d.perform env clock c = r
  cases hr ▸ performed env clock d c with
  | failed =>
    rw [handle_of_error hr]
    exact .none
  | asked =>
    rw [session_of_ask hr]
    exact .asked _
  | told =>
    rw [handle_of_ok hr]
    exact .none
  | loaded file =>
    rw [handle_of_ok hr]
    exact .loaded file
  | cleared =>
    rw [handle_of_ok hr]
    exact .cleared
  | cancelled =>
    rw [handle_of_ok hr]
    exact .cancelled

theorem Change.atEase {s t : AgentConsole.Session} (h : Change s t) (hs : s.AtEase) : t.AtEase := by
  cases h with
  | none => exact hs
  | asked x => exact (hs.asking x).1
  | loaded file =>
    exact hs.finishDeeds (m := .setFile file) (if_pos hs.isOpen) rfl rfl
  | cleared => exact hs.finishDeeds (m := .clear) (if_pos hs.isOpen) rfl rfl
  | cancelled => exact hs.finishDeeds (m := .cancel) (if_pos hs.isOpen) rfl rfl

/-- Lines that do not quit are carried out one after the other. -/
theorem goThrough_append (env : Environment) (clock : String) (typed : List String)
    (ht : ∀ line ∈ typed, Command.parse line ≠ .quit) (rest : List (Option String)) :
    d.goThrough env clock (typed.map some ++ rest) =
      (d.after env clock (typed.map Command.parse)).goThrough env clock rest := by
  induction typed generalizing d with
  | nil => rfl
  | cons line typed ih =>
    have hrest := fun line' hl => ht line' (List.mem_cons_of_mem line hl)
    rw [List.map_cons, List.cons_append, goThrough]
    split
    · next hquit => exact (ht line List.mem_cons_self hquit).elim
    · exact ih hrest

/-- Between two commands of a dialogue its session is at ease. -/
theorem atEase_after (env : Environment) (clock : String) (commands : List Command)
    (hd : d.session.AtEase) : (d.after env clock commands).session.AtEase := by
  induction commands generalizing d with
  | nil => exact hd
  | cons c commands ih => exact ih ((change_handle env clock d c).atEase hd)

section Prompts

theorem prompted_opened (env : Environment) (host : Host) (disk : Disk) :
    Prompted env host (opened host disk) :=
  .opened disk rfl

/-- A dialogue that goes through lines waits for the next one whenever one has been carried out. -/
theorem Prompted.after (h : Prompted env host d) (clock : String) (typed : List String)
    (ht : ∀ line ∈ typed, Command.parse line ≠ .quit) :
    Prompted env host (d.after env clock (typed.map Command.parse)) := by
  induction typed generalizing d with
  | nil => exact h
  | cons line typed ih =>
    have hrest := fun line' hl => ht line' (List.mem_cons_of_mem line hl)
    exact ih (h.typed clock line (ht line List.mem_cons_self)) hrest

/-- While a line is waited for the session is at ease. -/
theorem Prompted.atEase (h : Prompted env host d) : d.session.AtEase := by
  induction h with
  | opened disk h => exact h ▸ atEase_new host (.new disk)
  | typed clock line h hq ih => exact (change_handle env clock _ _).atEase ih
  | elapsed moment h ih => exact ih.apart (m := .elapse moment) rfl rfl rfl rfl
  | disturbed disk h ih => exact ih.apart (m := .disturb disk) rfl rfl rfl rfl

end Prompts

end Dialogue

end AgentConsole.Console
