import AgentConsole.Text.Blank
import AgentConsole.Text.Lowercase
import AgentConsole.Text.Numeral

/-!
# Commands

A line typed at the prompt is text for the agent, or a command behind a slash: a word in any
letter case, and after a space what it is about.
-/

namespace AgentConsole.Console

open AgentConsole.Text

/-- What a line asks for. -/
inductive Command where
  /-- Load a file, or tell which one is loaded. -/
  | file (path : Option String)
  | upload (path command : String)
  | agent (command : String)
  | code (text : String)
  /-- List the mentions in the loaded file, or have one carried out. -/
  | mentions (number : Option Nat)
  | history
  | clear
  | cancel
  | help (topic : Option String)
  | quit
  /-- A known word without what it needs; this is how it is used. -/
  | usage (line : String)
  | unknown (word : String)
  | text (text : String)
  deriving DecidableEq, Repr

/-- A path, blanks, and a command. -/
def parseUpload (argument : List Char) : Command :=
  let path := argument.takeWhile (!isBlank ·)
  let command := trimChars (argument.dropWhile (!isBlank ·))
  if command.isEmpty then .usage "/upload <path> <command>"
  else .upload (String.ofList path) (String.ofList command)

/-- The command of a word, with what it is about. -/
def parseWord (word : String) (argument : List Char) : Command :=
  let given : Option String :=
    if argument.isEmpty then none else some (String.ofList argument)
  match word with
  | "file" | "f" => .file given
  | "upload" | "u" => parseUpload argument
  | "agent" | "a" => (given.map Command.agent).getD (.usage "/agent <command>")
  | "code" => (given.map Command.code).getD (.usage "/code <text>")
  | "mentions" | "m" =>
    match given with
    | none => .mentions none
    | some n => ((count? n).map fun n => Command.mentions (some n)).getD (.usage "/mentions [n]")
  | "history" | "hist" => .history
  | "clear" => .clear
  | "cancel" => .cancel
  | "help" | "h" | "?" => .help given
  | "quit" | "q" | "exit" => .quit
  | word => .unknown word

/-- The command of a line. -/
def Command.parse (line : String) : Command :=
  match trimChars line.toList with
  | '/' :: rest =>
    let word := lowercase (String.ofList (rest.takeWhile (· ≠ ' ')))
    parseWord word (trimChars (rest.dropWhile (· ≠ ' ')))
  | cs => .text (String.ofList cs)

end AgentConsole.Console
