import AgentConsole.Agent.Workspace
import AgentConsole.Wire

/-!
# Request files

The agent reads its request from a file that lives as long as the run it is for. Its name is not
in use when the file is made, and no two files of one workspace ever have the same number.
-/

namespace AgentConsole.Agent

open AgentConsole.Files AgentConsole.Text

/-- The name of the request file with this number, made at this time. -/
def requestFileName (now number : Nat) : String :=
  "request_" ++ toString now ++ "_" ++ padded 6 number ++ ".json"

/-- The first number from `number` on, among the next so many, whose name is free. -/
def freeNumber (taken : List String) (now : Nat) : Nat → Nat → Nat
  | 0, number => number
  | tries + 1, number =>
    if taken.contains (requestFileName now number) then freeNumber taken now tries (number + 1)
    else number

/-- The number of the next request file in a directory: the first one that was not given before and
whose name is free. -/
def nextNumber (w : Workspace) (disk : Disk) (directory : String) : Nat :=
  let taken := (disk.names (join disk.cwdPath directory)).toOption.getD []
  freeNumber taken w.now taken.length w.minted

/-- The path of a request file, seen from the working directory of a disk. -/
def requestPath (disk : Disk) (directory : String) (now number : Nat) : String :=
  join (join disk.cwdPath directory) (requestFileName now number)

/-- A request file: its path, and where it is. -/
structure RequestFile where
  path : String
  location : Location
  deriving DecidableEq, Repr

/-- The words for what went wrong at a path. -/
def atPath (e : IoError) (path : String) : IoError :=
  .reported (e.message ++ " at path " ++ quotedPath path)

/-- Removes what the path of a request file leads to, if that can be done: not what is gone already
or cannot be reached any more, and no directory that was made in its place. -/
def RequestFile.giveUp (f : RequestFile) (d : Disk) : Disk :=
  (d.removeFile f.path).toOption.getD d

/-- Makes a directory of request files if it is missing, and a file for the request in it. The file
has an absolute path, which can be too long where that of the directory is not. It is given up at
once if the system refuses to take what is written to it. -/
def RequestFile.create (w : Workspace) (directory : String) (r : Request)
    (refusal : Option IoError) : Workspace × Except AgentError RequestFile :=
  let refused (e : IoError) : Except AgentError RequestFile := .error (.requestFile directory e)
  match w.disk.makeDirectories directory with
  | (disk, .error e) => ({ w with disk }, refused e)
  | (disk, .ok ()) =>
    let number := nextNumber w disk directory
    let path := requestPath disk directory w.now number
    match disk.place path with
    | .error e => ({ w with disk }, refused (atPath e path))
    | .ok location =>
      let file : RequestFile := ⟨path, location⟩
      let disk := disk.put location (.file (Utf8.encode r.fileText) false)
      match refusal with
      | some e =>
        ({ w with disk := file.giveUp disk, minted := number + 1 }, refused (atPath e path))
      | none => ({ w with disk, minted := number + 1 }, .ok file)

end AgentConsole.Agent
