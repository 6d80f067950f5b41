import AgentConsole.Json.Quoted

/-!
# Writing records

Every member of a record is a text. A record is written on one line (`compact`), or with a line
for each member (`pretty`).
-/

namespace AgentConsole.Json

/-- The names and texts of a record, in the order they are written. -/
abbrev Members := List (String × String)

/-- A name and its text, with `colon` between them. -/
def writeMember (colon : String) (m : String × String) : String :=
  quote m.1 ++ colon ++ quote m.2

/-- The record on one line, without gaps. -/
def compact (members : Members) : String :=
  "\x7b" ++ ",".intercalate (members.map (writeMember ":")) ++ "\x7d"

/-- The record with its members on lines of their own, two columns in. -/
def pretty (members : Members) : String :=
  "\x7b\n" ++ ",\n".intercalate (members.map fun m => "  " ++ writeMember ": " m) ++ "\n\x7d"

end AgentConsole.Json
