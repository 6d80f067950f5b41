import AgentConsole.Console.CommandLine
import AgentConsole.Console.Dialogue

/-!
# Tasks

What the program does without a dialogue: one question or one look at a file, over a session of
its own.
-/

namespace AgentConsole.Console

open AgentConsole.Agent AgentConsole.Files AgentConsole.Session

/-- What a task wrote, why it failed if it did, and the disk it leaves. -/
structure TaskResult where
  transcript : Transcript
  error : Option ConsoleError
  disk : Disk

/-- A task that wrote lines. -/
def TaskResult.printed (disk : Disk) (lines : List String) : TaskResult :=
  ⟨Transcript.empty.print lines, none, disk⟩

/-- A task that failed. -/
def TaskResult.failed (disk : Disk) (e : ConsoleError) : TaskResult :=
  ⟨.empty, some e, disk⟩

/-- Asks something once, and writes the reply. -/
def askOnce (s : AgentConsole.Session) (x : Submission) : TaskResult :=
  match s.submit x with
  | (s, .error e) => .failed s.workspace.disk (.session e)
  | (s, .ok id) =>
    let s := s.finishDeeds.waitFor id
    match s.reply? id with
    | some (.ok text) => .printed s.workspace.disk [text]
    | some (.error e) => .failed s.workspace.disk (.session e)
    | none => .failed s.workspace.disk (.session .closed)

/-- Lists the mentions in a file, or has one carried out. -/
def runMention (s : AgentConsole.Session) (file : Attachment) (pick : Option Nat) : TaskResult :=
  let found := findMentions file.content
  let disk := s.workspace.disk
  match selectMention found pick with
  | .error e => .failed disk (.noMention e)
  | .ok (some m) => askOnce s (.mention m.command file)
  | .ok none =>
    if found.isEmpty then .printed disk ["No @dev-agent mentions found in " ++ file.path]
    else
      .printed disk
        (listMentions file.content found ++ ["", "Re-run with --pick <n> to run one."])

/-- Does a task; a dialogue is none. -/
def Task.run (host : Host) (d : Disk) : Task → TaskResult
  | .ask prompt file =>
    let s := Session.new host (.new d)
    let prompt := " ".intercalate prompt
    match file with
    | none => askOnce s (.prompt prompt)
    | some path =>
      match readFile d path with
      | .error e => .failed d e
      | .ok content => askOnce (s.setFile ⟨path, content⟩).finishDeeds (.prompt prompt)
  | .upload path command =>
    match readFile d path with
    | .error e => .failed d e
    | .ok content =>
      askOnce (Session.new host (.new d))
        (.upload (sentName path) content (" ".intercalate command))
  | .mentions path pick =>
    match readFile d path with
    | .error e => .failed d e
    | .ok content => runMention (Session.new host (.new d)) ⟨path, content⟩ pick
  | .classify text => .printed d [(AgentConsole.classify (" ".intercalate text)).name]
  | .repl => .printed d []

end AgentConsole.Console
