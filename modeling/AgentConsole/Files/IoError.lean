/-!
# What goes wrong with files and programs
-/

namespace AgentConsole.Files

/-- Why the system refused a request. -/
inductive IoError where
  | notFound
  | notExecutable
  | notPermitted
  | alreadyExists
  | notDirectory
  | isDirectory
  | nameTooLong
  | notEmpty
  /-- The file holds octets that are not UTF-8. -/
  | notText
  /-- A name holds the character NUL. -/
  | nulInName
  /-- Reported by a program under its own words. -/
  | reported (message : String)
  deriving DecidableEq, Repr

namespace IoError

/-- The words for an error. -/
def words : IoError → String
  | notFound => "No such file or directory"
  | notExecutable => "Exec format error"
  | notPermitted => "Permission denied"
  | alreadyExists => "File exists"
  | notDirectory => "Not a directory"
  | isDirectory => "Is a directory"
  | nameTooLong => "File name too long"
  | notEmpty => "Directory not empty"
  | notText => "stream did not contain valid UTF-8"
  | nulInName => "file name contained an unexpected NUL byte"
  | reported message => message

/-- The system's number for an error of its own. -/
def number? : IoError → Option Nat
  | notFound => some 2
  | notExecutable => some 8
  | notPermitted => some 13
  | alreadyExists => some 17
  | notDirectory => some 20
  | isDirectory => some 21
  | nameTooLong => some 36
  | notEmpty => some 39
  | notText | nulInName | reported _ => none

/-- The error in words, with its number if it has one. -/
def message (e : IoError) : String :=
  match e.number? with
  | some n => e.words ++ " (os error " ++ toString n ++ ")"
  | none => e.words

end IoError

end AgentConsole.Files
