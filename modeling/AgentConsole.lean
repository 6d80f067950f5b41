import AgentConsole.Agent.Holdings
import AgentConsole.Json.Record
import AgentConsole.Json.Writer
import AgentConsole.Main
import AgentConsole.Proofs.Session.Agreement
import AgentConsole.Proofs.Session.Cancellation
import AgentConsole.Proofs.Session.Flight
import AgentConsole.Proofs.Session.Scheduled
import AgentConsole.Setup.Root
import AgentConsole.Wire
import AgentConsole.Proofs.Session.Transcript
import AgentConsole.Proofs.Session.Vigil
import AgentConsole.Proofs.Session.Age
import AgentConsole.Proofs.Session.Rest
import AgentConsole.Proofs.Json.Quoted
import AgentConsole.Proofs.Json.Record
import AgentConsole.Proofs.Text.Utf8
import AgentConsole.Proofs.Wire
import AgentConsole.Proofs.Agent.RequestFile
import AgentConsole.Proofs.Agent.Run
import AgentConsole.Proofs.Session.Acceptance
import AgentConsole.Proofs.Session.Launch
import AgentConsole.Proofs.Session.RequestFiles
import AgentConsole.Proofs.Session.Subscriber
import AgentConsole.Proofs.Session.Closing
import AgentConsole.Proofs.Agent.Trial
import AgentConsole.Proofs.Session.Independence
import AgentConsole.Proofs.Text.Numeral
import AgentConsole.Proofs.Time.Instant
import AgentConsole.Proofs.Agent.Ending
import AgentConsole.Proofs.Session.Direct
import AgentConsole.Proofs.Session.Timeline
import AgentConsole.Proofs.Files.Traces
import AgentConsole.Proofs.Agent.Prospect
import AgentConsole.Proofs.Agent.Apart
import AgentConsole.Proofs.Session.Shared
import AgentConsole.Proofs.Session.Twin
import AgentConsole.Proofs.Session.Interference
import AgentConsole.Proofs.Text.Blank
import AgentConsole.Proofs.Mention.Reading
import AgentConsole.Proofs.Mention.Scan
import AgentConsole.Proofs.Mention.Lines
import AgentConsole.Proofs.Mention.Command
import AgentConsole.Proofs.Session.BlankCommand
import AgentConsole.Proofs.Text.Lowercase
import AgentConsole.Proofs.Classification
import AgentConsole.Proofs.Session.TypedMention
import AgentConsole.Proofs.Mention.Listing
import AgentConsole.Proofs.Session.Asking
import AgentConsole.Proofs.Console.Dialogue
import AgentConsole.Proofs.Console.Mentions
import AgentConsole.Proofs.Console.Command
import AgentConsole.Proofs.Console.Failure
import AgentConsole.Proofs.Session.Answering
import AgentConsole.Proofs.Console.Alternation
import AgentConsole.Proofs.Agent.Script
import AgentConsole.Proofs.Agent.Interpreter
import AgentConsole.Proofs.Setup.Expansion
import AgentConsole.Proofs.Console.Settings
import AgentConsole.Proofs.Request
import AgentConsole.Proofs.Session.Epoch
import AgentConsole.Proofs.Files.BaseName
import AgentConsole.Proofs.Agent.Holdings
