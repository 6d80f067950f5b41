import AgentConsole.Console.Command
import AgentConsole.Console.Help
import AgentConsole.Session.Schedule
import AgentConsole.Setup.Settings

/-!
# Dialogues

A dialogue goes through lines, one command after another, over one session. What is asked of the
agent is waited for before the next line is looked at. A command that fails says why on the error
stream, and the dialogue goes on with what the command left.
-/

namespace AgentConsole.Console

open AgentConsole.Files AgentConsole.Setup AgentConsole.Session AgentConsole.Text

/-- Why a command failed. -/
inductive ConsoleError where
  | unreadable (path : String) (cause : IoError)
  | noMention (cause : NoSuchMention)
  | session (cause : SessionError)
  deriving DecidableEq, Repr

/-- The error in words. -/
def ConsoleError.message : ConsoleError → String
  | .unreadable path cause => "Failed to read file " ++ path ++ ": " ++ cause.message
  | .noMention cause => cause.message
  | .session cause => cause.message

/-- What a program has written, line by line; the last line comes first. -/
structure Transcript where
  out : List String
  err : List String
  deriving DecidableEq, Repr

namespace Transcript

/-- Nothing written. -/
def empty : Transcript :=
  ⟨[], []⟩

/-- Writes lines. -/
def print (t : Transcript) (lines : List String) : Transcript :=
  { t with out := lines.reverse ++ t.out }

/-- Writes a line to the error stream. -/
def complain (t : Transcript) (line : String) : Transcript :=
  { t with err := line :: t.err }

/-- Lines, each with its end. -/
def joined (lines : List String) : String :=
  String.join (lines.reverse.map (· ++ "\n"))

/-- All that was written. -/
def stdout (t : Transcript) : String :=
  joined t.out

/-- All that was written to the error stream. -/
def stderr (t : Transcript) : String :=
  joined t.err

end Transcript

/-- The text of a file. -/
def readFile (d : Disk) (path : String) : Except ConsoleError String :=
  (d.readText path).mapError (.unreadable path)

/-- The name a file is sent under: the last name of its path, or else the path. -/
def sentName (path : String) : String :=
  match baseName? path with
  | some name => name
  | none => path

/-- A dialogue under way. -/
structure Dialogue where
  session : AgentConsole.Session
  transcript : Transcript
  /-- It broke off at a line that could not be taken in. -/
  isBroken : Bool := false

namespace Dialogue

/-- The disk the session works on. -/
def disk (d : Dialogue) : Disk :=
  d.session.workspace.disk

/-- The current file. -/
def file (d : Dialogue) : Option Attachment :=
  d.session.conversation.file

/-- Writes lines. -/
def print (d : Dialogue) (lines : List String) : Dialogue :=
  { d with transcript := d.transcript.print lines }

/-- What is shown of a reply. -/
def replyText : Reply → String
  | .ok text => text
  | .error .cancelled => "Cancelled."
  | .error e => "Error: " ++ e.message

/-- Asks something and waits for the reply. -/
def ask (d : Dialogue) (x : Submission) : Dialogue × Option ConsoleError :=
  match d.session.submit x with
  | (session, .error e) => ({ d with session }, some (.session e))
  | (session, .ok id) =>
    let session := session.finishDeeds.waitFor id
    let d := { d with session }
    match session.reply? id with
    | some reply => (d.print [replyText reply, ""], none)
    | none => (d, none)

/-- How a role is shown. -/
def roleLabel : Role → String
  | .user => "you"
  | .agent => "agent"
  | .system => "system"

/-- A message as it is shown, with the time of day. -/
def messageLine (clock : String) (m : Message) : String :=
  "[" ++ clock ++ " " ++ roleLabel m.role ++ "] " ++ m.content

/-- Loads a file. -/
def load (d : Dialogue) (path : String) : Dialogue × Option ConsoleError :=
  match readFile d.disk path with
  | .error e => (d, some e)
  | .ok content =>
    let file : Attachment := ⟨path, content⟩
    let d := { d with session := (d.session.setFile file).finishDeeds }
    (d.print ["File loaded: " ++ file.fileName], none)

/-- Tells of the mentions in the current file, or has one carried out. -/
def mentions (d : Dialogue) (number : Option Nat) : Dialogue × Option ConsoleError :=
  match d.file with
  | none => (d.print ["No file loaded. Use /file <path> first."], none)
  | some file =>
    let found := findMentions file.content
    match selectMention found number with
    | .error cause => (d, some (.noMention cause))
    | .ok (some m) => d.ask (.mention m.command file)
    | .ok none =>
      if found.isEmpty then
        (d.print ["No @dev-agent mentions found in " ++ file.fileName], none)
      else
        (d.print (listMentions file.content found ++ ["Use /mentions <n> to run one."]), none)

/-- Carries out a command, other than to quit. It may have come to something before it fails. -/
def perform (env : Environment) (clock : String) (d : Dialogue) :
    Command → Dialogue × Option ConsoleError
  | .text text => if text.isEmpty then (d, none) else d.ask (.prompt text)
  | .file (some path) => d.load (expandPath env path)
  | .file none =>
    match d.file with
    | some file =>
      (d.print [file.path ++ " (" ++ toString file.content.utf8ByteSize ++ " bytes)"], none)
    | none => (d.print ["No file loaded. Use /file <path>."], none)
  | .upload path command =>
    let path := expandPath env path
    match readFile d.disk path with
    | .error e => (d, some e)
    | .ok content => d.ask (.upload (sentName path) content command)
  | .agent command => d.ask (.editor command d.file)
  | .code text => d.ask (.code text d.file)
  | .mentions number => d.mentions number
  | .history =>
    let history := d.session.conversation.history
    (d.print
      (if history.isEmpty then ["History is empty."] else history.map (messageLine clock)), none)
  | .clear => ({ d with session := d.session.clear.finishDeeds }.print ["Chat cleared."], none)
  | .cancel =>
    ({ d with session := d.session.cancel.finishDeeds }.print ["Pending requests cancelled."], none)
  | .help topic => (d.print (helpLines topic), none)
  | .quit => (d, none)
  | .usage line => (d.print ["Usage: " ++ line], none)
  | .unknown word =>
    (d.print ["Unknown command: /" ++ word ++ ". Type /help for available commands."], none)

/-- Carries out a command, and tells of its failure. -/
def handle (env : Environment) (clock : String) (d : Dialogue) (c : Command) : Dialogue :=
  match d.perform env clock c with
  | (d, none) => d
  | (d, some e) => { d with transcript := d.transcript.complain ("Error: " ++ e.message) }

/-- Goes through lines up to one that quits, or to one that cannot be taken in (`none`). -/
def goThrough (env : Environment) (clock : String) : Dialogue → List (Option String) → Dialogue
  | d, [] => d.print ["^D"]
  | d, none :: _ => { d with isBroken := true }
  | d, some line :: lines =>
    match Command.parse line with
    | .quit => d
    | c => goThrough env clock (d.handle env clock c) lines

/-- A whole dialogue. -/
def run (env : Environment) (clock : String) (d : Dialogue) (lines : List (Option String)) :
    Dialogue :=
  let d := d.print ["Dev Agent REPL v0.1.0", welcome.content,
    "Type /help for commands, /quit to exit", ""]
  let d := d.goThrough env clock lines
  if d.isBroken then d else d.print ["Goodbye!"]

end Dialogue

end AgentConsole.Console
