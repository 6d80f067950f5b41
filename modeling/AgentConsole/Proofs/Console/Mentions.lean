import AgentConsole.Console.Task
import AgentConsole.Proofs.Console.Dialogue
import AgentConsole.Proofs.Mention.Listing

/-!
# Mentions at the console

The mentions of a file are listed and picked in the same way by a task and in a dialogue. Unless a
mention is picked the agent has no part in it: a task comes to the same on every host, and a
dialogue leaves its session alone. A mention that is picked is asked about, with the whole file, and
the runner is called for that request at most (`mentions_listed_and_picked`).
-/

namespace AgentConsole.Console

open AgentConsole.Agent AgentConsole.Files AgentConsole.Session AgentConsole.Setup

/-- What the agent is sent of a mention that was picked in a file. -/
def pickedRequest (m : Mention) (file : Attachment) : Request :=
  ⟨m.command, classify m.command, file.content, file.path⟩

/-- The task on the mentions of a file with this text asks about the mention picked, in a session of
its own, and leaves the disk as that session does. When none is picked it comes to the same on every
host, and leaves the disk as it is. -/
structure TaskPicks (text : String) : Prop where
  picked : ∀ host disk path pick m, readFile disk path = .ok text →
    selectMention (findMentions text) pick = .ok (some m) →
    let s := Session.new host (.new disk)
    let x := Submission.mention m.command ⟨path, text⟩
    Task.run host disk (.mentions path pick) = askOnce s x ∧
      (askOnce s x).disk = (s.asking x).workspace.disk ∧
      CalledFor (pickedRequest m ⟨path, text⟩) [] (s.asking x).workspace.runs
  unpicked : ∀ host disk path pick, readFile disk path = .ok text →
    (∀ m, selectMention (findMentions text) pick ≠ .ok (some m)) →
    (Task.run host disk (.mentions path pick)).disk = disk ∧
      ∀ host', Task.run host' disk (.mentions path pick) = Task.run host disk (.mentions path pick)

/-- In a dialogue about a file with this text the mention picked is asked about. When none is picked,
or there is no file, the session is left alone. -/
structure DialoguePicks (text : String) : Prop where
  picked : ∀ env clock host disk commands path number m,
    let d := (Dialogue.opened host disk).after env clock commands
    let t := d.handle env clock (.mentions number)
    d.file = some ⟨path, text⟩ → selectMention (findMentions text) number = .ok (some m) →
    t.session = d.session.asking (.mention m.command ⟨path, text⟩) ∧
      CalledFor (pickedRequest m ⟨path, text⟩) d.session.workspace.runs t.session.workspace.runs
  unpicked : ∀ env clock host disk commands path number,
    let d := (Dialogue.opened host disk).after env clock commands
    let t := d.handle env clock (.mentions number)
    d.file = some ⟨path, text⟩ →
    (∀ m, selectMention (findMentions text) number ≠ .ok (some m)) → t.session = d.session
  without : ∀ env clock host disk commands number,
    let d := (Dialogue.opened host disk).after env clock commands
    d.file = none → (d.handle env clock (.mentions number)).session = d.session

section Tasks

/-- A task that asks once leaves the disk of the session when it has been asked. -/
theorem disk_askOnce (s : AgentConsole.Session) (x : Submission) :
    (askOnce s x).disk = (s.asking x).workspace.disk := by
  unfold askOnce Session.asking
  rcases s.submit x with ⟨t, e | id⟩
  · rfl
  · simp only
    split <;> rfl

theorem taskPicks (text : String) : TaskPicks text where
  picked := fun host disk path pick m hr hm => by
    refine ⟨?_, disk_askOnce _ _, ((atEase_new host (.new disk)).asking _).2⟩
    simp only [Task.run, hr, runMention, hm]
  unpicked := fun host disk path pick hr hn => by
    simp only [Task.run, hr, runMention]
    rcases hs : selectMention (findMentions text) pick with e | _ | m
    · exact ⟨rfl, fun _ => rfl⟩
    · refine ⟨?_, fun _ => rfl⟩
      simp only
      split <;> rfl
    · exact (hn m hs).elim

end Tasks

theorem dialoguePicks (text : String) : DialoguePicks text where
  picked := fun env clock host disk commands path number m => by
    intro d t hf hm
    have hease : d.session.AtEase := Dialogue.atEase_after env clock commands (atEase_new host _)
    have ht : t.session = d.session.asking (.mention m.command ⟨path, text⟩) :=
      Dialogue.session_of_picked hf hm
    exact ⟨ht, ht ▸ (hease.asking _).2⟩
  unpicked := fun env clock host disk commands path number => by
    intro d t hf hn
    refine Dialogue.session_of_unpicked fun file m hf' => ?_
    obtain rfl : file = ⟨path, text⟩ := Option.some.inj (hf'.symm.trans hf)
    exact hn m
  without := fun env clock host disk commands number => by
    intro d hf
    refine Dialogue.session_of_unpicked fun file m hf' => ?_
    cases hf.symm.trans hf'

/-- The mentions of a text are listed in order with their numbers, their commands and the lines they
start on, and a number picks the mention that is listed with it. What is picked in a file with this
text, and nothing else, is asked of the agent, with the command of the mention and the whole file:
by the task on the mentions of a file, and in every dialogue that has come to be about the file. -/
theorem mentions_listed_and_picked (text : String) :
    Listing text (findMentions text) ((findMentions text).map fun m => lineNumber text m.start)
      (listMentions text (findMentions text)) ∧
    Picking (findMentions text) ∧ TaskPicks text ∧ DialoguePicks text :=
  ⟨listing_findMentions text, picking_of_mentions _, taskPicks text, dialoguePicks text⟩

/-- A file with two mentions. -/
def sampleText : String :=
  "# é\n@dev-agent explain\n\n@dev-agent\u00a0fix it\r\n"

/-- A disk with this file and the script of the agent. -/
def sampleDisk : Disk :=
  ⟨[(["agent"], .file [] true), (["doc"], .file (Text.Utf8.encode sampleText) false)], []⟩

/-- A dialogue about the file. -/
def sampleDialogue : Dialogue :=
  (Dialogue.opened sampleHost sampleDisk).after ⟨[], "/"⟩ "12:00:00" [.file (some "/doc")]

theorem mentions_listed_and_picked_sample :
    listMentions sampleText (findMentions sampleText) =
      ["  1. explain  (line 2)", "  2. fix it  (line 4)"] ∧
    (∃ invocation body,
      (sampleDialogue.handle ⟨[], "/"⟩ "12:00:00" (.mentions (some 2))).session.workspace.runs =
        [(invocation, body)] ∧
      Request.shape.reader.readAll body = .ok ⟨"fix it", .custom, sampleText, "/doc"⟩) ∧
    ∀ host, Task.run host sampleDisk (.mentions "/doc" none) =
      Task.run sampleHost sampleDisk (.mentions "/doc" none) := by
  have hfile : sampleDialogue.file = some ⟨"/doc", sampleText⟩ := by decide +kernel
  have hfound : (findMentions sampleText)[1]? = some ⟨"fix it", 25, 44⟩ := by decide +kernel
  have hlength : sampleDialogue.session.workspace.runs.length = 0 ∧
      (sampleDialogue.handle ⟨[], "/"⟩ "12:00:00"
        (.mentions (some 2))).session.workspace.runs.length = 1 := by decide +kernel
  have hread : readFile sampleDisk "/doc" = .ok sampleText := by decide +kernel
  have hseveral : (findMentions sampleText).length ≠ 1 := by decide +kernel
  obtain ⟨-, hpicking, htask, hdialogue⟩ := mentions_listed_and_picked sampleText
  obtain ⟨m, hm, hpick⟩ := hpicking.picked 2 (by decide) (by decide +kernel)
  obtain rfl : ⟨"fix it", 25, 44⟩ = m := Option.some.inj (hfound.symm.trans hm)
  obtain ⟨-, hcalled⟩ :=
    hdialogue.picked _ _ sampleHost sampleDisk [.file (some "/doc")] _ _ _ hfile hpick
  have hbefore : sampleDialogue.session.workspace.runs = [] := List.length_eq_zero_iff.1 hlength.1
  refine ⟨by decide +kernel, ?_, (htask.unpicked _ _ _ none hread fun m hm => ?_).2⟩
  · rcases hcalled with hsame | ⟨invocation, body, hruns, hbody⟩
    · have hnone := congrArg List.length (hsame.trans hbefore)
      exact absurd (hlength.2.symm.trans hnone) (by decide)
    · exact ⟨invocation, body, hruns.trans (congrArg _ hbefore), hbody⟩
  · rw [(hpicking.single m).1 hm] at hseveral
    exact hseveral rfl

end AgentConsole.Console
