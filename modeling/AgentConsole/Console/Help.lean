import AgentConsole.Text.Lowercase

/-!
# Help

What is told about the commands.
-/

namespace AgentConsole.Console

open AgentConsole.Text

/-- What is told about a command. -/
structure HelpEntry where
  name : String
  aliases : List String
  brief : String
  usage : String
  deriving DecidableEq, Repr

/-- The commands in the order they are listed. -/
def helpEntries : List HelpEntry :=
  [⟨"file", ["f"], "Load a file as the conversation's context (no path: show it)",
    "/file [path]"⟩,
   ⟨"upload", ["u"], "Run a command against a file without loading it",
    "/upload <path> <command>"⟩,
   ⟨"agent", ["a"], "Send an @dev-agent command as-is with the loaded file",
    "/agent <command>"⟩,
   ⟨"code", [], "Send text as a custom command with the loaded file", "/code <text>"⟩,
   ⟨"mentions", ["m"], "List @dev-agent mentions in the loaded file, or run one",
    "/mentions [n]"⟩,
   ⟨"history", ["hist"], "Show the conversation", "/history"⟩,
   ⟨"clear", [], "Clear the conversation and the loaded file", "/clear"⟩,
   ⟨"cancel", [], "Cancel pending requests", "/cancel"⟩,
   ⟨"help", ["h", "?"], "Show help", "/help [command]"⟩,
   ⟨"quit", ["q", "exit"], "Exit the REPL", "/quit"⟩]

/-- What is told about the command with a name or an alias, in any letter case and after any
slashes. -/
def findHelp (topic : String) : Option HelpEntry :=
  let name := lowercase (String.ofList (topic.toList.dropWhile (· = '/')))
  helpEntries.find? fun h => h.name == name || h.aliases.contains name

/-- The text in a column of a width. -/
def column (width : Nat) (s : String) : String :=
  s ++ String.ofList (List.replicate (width - s.length) ' ')

/-- The help on a command. -/
def HelpEntry.lines (h : HelpEntry) : List String :=
  ["/" ++ h.name ++ " - " ++ h.brief] ++
    (if h.aliases.isEmpty then [] else ["Aliases: " ++ ", ".intercalate h.aliases]) ++
    ["Usage: " ++ h.usage]

/-- The help on all commands. -/
def overview : List String :=
  ["Dev Agent REPL", "",
   "Type a question to send it to the agent, with the loaded file as context.",
   "Prefix with @dev-agent to address the agent explicitly.",
   "Ctrl+C while waiting cancels the request.", "", "COMMANDS:"] ++
    helpEntries.map (fun h => "    " ++ column 28 h.usage ++ " " ++ h.brief) ++
    ["", "Type /help <command> for detailed help on a specific command."]

/-- The help on a topic, or on everything. -/
def helpLines : Option String → List String
  | none => overview
  | some topic =>
    match findHelp topic with
    | some h => h.lines
    | none => ["Unknown command: " ++ topic ++ ". Type /help for available commands."]

end AgentConsole.Console
