import AgentConsole.Shell.Blocks
import AgentConsole.Shell.Calculation
import AgentConsole.Shell.LineEditor
import AgentConsole.Shell.Selection
import AgentConsole.Shell.Series
import AgentConsole.Shell.Columns
import AgentConsole.Shell.Display
import AgentConsole.Shell.Dump
import AgentConsole.Shell.Encoding
import AgentConsole.Shell.Sorting
import AgentConsole.Shell.Translation

/-!
# The toolbox

Which utilities there are. Of them only those that wait take time.
-/

namespace AgentConsole.Shell

open AgentConsole.Text AgentConsole.Files

/-- A length of time, in milliseconds. -/
def milliseconds? (text : String) : Option Nat :=
  let cs := text.toList
  let whole := cs.takeWhile Char.isDigit
  let (part, rest) : List Char × List Char :=
    match cs.drop whole.length with
    | '.' :: rest => (rest.takeWhile Char.isDigit, rest.dropWhile Char.isDigit)
    | rest => ([], rest)
  let value := digitsValue whole * 1000 + digitsValue ((part ++ ['0', '0', '0']).take 3)
  if whole.isEmpty && part.isEmpty then none
  else
    match rest with
    | [] | ['s'] => some value
    | ['m'] => some (value * 60)
    | ['h'] => some (value * 3600)
    | ['d'] => some (value * 86400)
    | _ => none

/-- Waits. -/
def sleep (s : Start) : Effect :=
  s.withOptions [] fun o =>
    if o.operands.isEmpty then s.refuses "missing operand"
    else
      let wrong := o.operands.filter fun a => (milliseconds? a).isNone && a ≠ "infinity"
      if !wrong.isEmpty then
        s.refuses (("\n" ++ s.name ++ ": ").intercalate
          (wrong.map fun a => "invalid time interval " ++ inQuotes a))
      else if o.operands.contains "infinity" then { s.prints [] with delay := none }
      else
        let times := o.operands.filterMap milliseconds?
        { s.prints [] with delay := some (times.foldl (· + ·) 0) }

/-- The name of the user who runs the script, and of the group of that user. -/
def userName : String := "root"

/-- Writes the name of the user. -/
def whoami (s : Start) : Effect :=
  s.withOptions [] fun o =>
    match o.operands with
    | [] => s.prints (userName ++ "\n").toList
    | extra :: _ => s.refuses ("extra operand " ++ inQuotes extra)

/-- Writes numbers and names of the user and the groups. -/
def identity (s : Start) : Effect :=
  s.withOptions [flag 'u' "user", flag 'g' "group", flag 'G' "groups", flag 'n' "name",
      flag 'r' "real"] fun o =>
    let complaints := (o.operands.filter fun a => a ≠ userName && a ≠ "0").map fun a =>
      s.complaint (inQuotes a ++ ": no such user")
    let chosen := ['u', 'g', 'G'].filter o.has
    let named := "0(" ++ userName ++ ")"
    let line :=
      if chosen.isEmpty then "uid=" ++ named ++ " gid=" ++ named ++ " groups=" ++ named
      else if o.has 'n' then userName
      else "0"
    if chosen.length > 1 then s.fails 1 ["cannot print \"only\" of more than one choice"]
    else if chosen.isEmpty && (o.has 'n' || o.has 'r') then
      s.fails 1 ["cannot print only names or real IDs in default format"]
    else
      let count := if o.operands.isEmpty then 1 else o.operands.length - complaints.length
      s.writes (complaints ++ [.said (unlines (List.replicate count line.toList))])
        (if complaints.isEmpty then 0 else 1)

/-- Writes what the system is called. -/
def uname (s : Start) : Effect :=
  s.withOptions [flag 's' "kernel-name", flag 'o' "operating-system"] fun o =>
    match o.operands with
    | extra :: _ => s.refuses ("extra operand " ++ inQuotes extra)
    | [] =>
      let kernel := if o.has 's' || !o.has 'o' then ["Linux"] else []
      let system := if o.has 'o' then ["GNU/Linux"] else []
      s.prints (" ".intercalate (kernel ++ system) ++ "\n").toList

/-- Writes variables. -/
def printenv (s : Start) : Effect :=
  match s.arguments with
  | [] => s.prints (unlines (s.environment.map fun v => (v.1 ++ "=" ++ v.2).toList))
  | names =>
    let values := names.filterMap (List.lookup · s.environment)
    { s.prints (unlines (values.map (·.toList))) with
      status := if values.length = names.length then 0 else 1 }

/-- Writes its arguments; the first ones may be options, and there are escapes only if one of those
says so. -/
def echo (s : Start) : Effect :=
  let isOption (a : String) : Bool :=
    match a.toList with
    | '-' :: c :: cs => (c :: cs).all ("neE".toList.contains ·)
    | _ => false
  let options := (s.arguments.takeWhile isOption).flatMap fun a => a.toList.drop 1
  let cs := (" ".intercalate (s.arguments.dropWhile isOption)).toList
  let escapes := (options.filter (· ≠ 'n')).getLast? = some 'e'
  let (written, stops) := if escapes then unescape (cs.length + 1) cs else (cs, false)
  s.prints (written ++ if stops || options.contains 'n' then [] else ['\n'])

/-- The utility of a name. -/
def utility? (name : String) : Option (Start → Effect) :=
  match name with
  | "true" => some fun s => s.prints []
  | "false" => some fun s => { s.prints [] with status := 1 }
  | "pwd" => some fun s => s.prints (unlines [(spell s.disk.cwdPath).toList])
  | "echo" => some echo
  | "cat" => some cat
  | "cut" => some cut
  | "head" => some head
  | "tail" => some tail
  | "wc" => some wc
  | "tac" => some tac
  | "paste" => some paste
  | "rev" => some rev
  | "fold" => some fold
  | "expand" => some expand
  | "comm" => some comm
  | "nl" => some nl
  | "od" => some od
  | "tr" => some tr
  | "sort" => some sort
  | "uniq" => some uniq
  | "seq" => some seq
  | "grep" => some grep
  | "egrep" => some fun s => grep { s with name := "grep", arguments := "-E" :: s.arguments }
  | "fgrep" => some fun s => grep { s with name := "grep", arguments := "-F" :: s.arguments }
  | "sed" => some sed
  | "tee" => some tee
  | "basename" => some basename
  | "dirname" => some dirname
  | "rm" => some rm
  | "rmdir" => some rmdir
  | "mkdir" => some mkdir
  | "touch" => some touch
  | "mv" => some (transfer true)
  | "cp" => some (transfer false)
  | "chmod" => some chmod
  | "ls" => some ls
  | "expr" => some expr
  | "base64" => some base64
  | "dd" => some dd
  | "whoami" => some whoami
  | "id" => some identity
  | "uname" => some uname
  | "sleep" => some sleep
  | "printenv" => some printenv
  | "yes" => some fun s =>
    let line := if s.arguments.isEmpty then "y" else " ".intercalate s.arguments
    { s.prints (unlines (List.replicate s.supply line.toList)) with delay := none }
  | _ => none

end AgentConsole.Shell
