import AgentConsole.Console.Program
import AgentConsole.Shell.Process

/-!
# The program on a machine

What the program finds is read from the machine: the variables, the time, the programs along the
search path, and a copy of what is below the working directory. The run itself is `Start.run`, and
what it leaves on the copy is written back.
-/

namespace AgentConsole

open AgentConsole.Console AgentConsole.Files AgentConsole.Setup AgentConsole.Text

/-- How far below the working directory is looked. -/
def copyDepth : Nat := 12

/-- How much of a program along the search path is looked at. -/
def markSize : USize := 256

/-- A location as a path. -/
def locationPath (l : Location) : String :=
  "/" ++ "/".intercalate l

/-- What an action gives, or a default if it fails. -/
def readOr {α : Type} (default : α) (act : IO α) : IO α := do
  try act catch _ => return default

/-- The names in the directory at a location. -/
def namesAt (l : Location) : IO (List String) :=
  readOr [] do
    let here ← IO.currentDir
    return ((← (here / locationPath l).readDir).map (·.fileName)).toList

/-- There is a directory at a location. -/
def isDirectoryAt (l : Location) : IO Bool := do
  let here ← IO.currentDir
  (here / locationPath l).isDir

/-- The file can be run: it holds machine code or names its interpreter. -/
def isRunnable (octets : List UInt8) : Bool :=
  Shell.machineMark.isPrefixOf octets || [35, 33].isPrefixOf octets

/-- What is at a location and below it. -/
def copyBelow : Nat → Location → IO (List (Location × Entry))
  | 0, _ => return []
  | depth + 1, l => do
    if ← isDirectoryAt l then
      let inside ← (← namesAt l).mapM fun name => copyBelow depth (l ++ [name])
      return (l, .directory) :: inside.flatten
    else
      readOr [] do
        let octets := (← IO.FS.readBinFile (locationPath l)).toList
        return [(l, .file octets (isRunnable octets))]

/-- The programs in a directory, each with what it starts with. -/
def programsIn (l : Location) : IO (List (Location × Entry)) := do
  let found ← (← namesAt l).mapM fun name =>
    readOr [] do
      let l := l ++ [name]
      let start ← IO.FS.withFile (locationPath l) .read fun h => h.read markSize
      let octets := start.toList
      return if isRunnable octets then [(l, Entry.file octets true)] else []
  return found.flatten

/-- The locations on the way to a location, and itself. -/
def upTo (l : Location) : List Location :=
  (List.range l.length).map fun n => l.take (n + 1)

/-- The disk a run starts on. -/
def readDisk (env : Environment) : IO Disk := do
  let cwd := segments (← IO.currentDir).toString
  let searched := ((env.get? "PATH").map fun p => betweenColons [] p.toList).getD []
  let directories := searched.map fun entry => segments (String.ofList entry)
  let programs ← directories.mapM programsIn
  let ways := (cwd :: directories).flatMap upTo
  let known := (ways.map (·, Entry.directory)) ++ [(["dev"], .directory), (["dev", "null"], .sink)]
  return ⟨(← copyBelow copyDepth cwd) ++ programs.flatten ++ known, cwd⟩

/-- Brings what is on the machine from one state of the copy to another. -/
def writeBack (old new : Disk) : IO Unit := do
  for (l, e) in new.entries.reverse do
    if old.at? l ≠ some e then
      match e with
      | .directory => IO.FS.createDirAll (locationPath l)
      | .file octets _ => IO.FS.writeBinFile (locationPath l) ⟨octets.toArray⟩
      | .sink => pure ()
  for (l, _) in old.entries do
    if (new.at? l).isNone then readOr () (IO.FS.removeFile (locationPath l))

/-- The variables of this process. -/
def readEnvironment : IO Environment := do
  let block ← readOr ByteArray.empty (IO.FS.readBinFile "/proc/self/environ")
  return .ofBlock "/" (Utf8.decodeLossy block.toList)

/-- Seconds since a midnight: when the machine was started, and how long ago that is. -/
def readSeconds : IO Nat := do
  let lines := (← readOr "" (IO.FS.readFile "/proc/stat")).splitOn "\n"
  let started := lines.findSome? fun line => after? "btime ".toList line.toList
  let running := (← readOr "" (IO.FS.readFile "/proc/uptime")).toList.takeWhile Char.isDigit
  return digitsValue (started.getD []) + digitsValue running

/-- Runs the program on this machine. -/
def runHere (arguments : List String) : IO UInt32 := do
  let environment ← readEnvironment
  let disk ← readDisk environment
  let input ←
    if asksForDialogue arguments then
      pure (Utf8.decodeLossy (← (← IO.getStdin).readBinToEnd).toList)
    else pure ""
  let installDirectory := ((← IO.appPath).parent.map (·.toString)).getD ""
  let start : Start :=
    { arguments, environment, input, disk, installDirectory
      clock := clockText (← readSeconds) }
  let finish := start.run Shell.runProcess
  (← IO.getStdout).putStr finish.stdout
  (← IO.getStderr).putStr finish.stderr
  writeBack disk finish.disk
  return finish.exitCode.toUInt32

end AgentConsole

/-- Runs the program with the arguments it is given. -/
def main (arguments : List String) : IO UInt32 :=
  AgentConsole.runHere arguments
