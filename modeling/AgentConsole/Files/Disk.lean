import AgentConsole.Files.IoError
import AgentConsole.Files.Path
import AgentConsole.Text.Utf8

/-!
# Disks

A disk maps locations, which are lists of names from the root, to what is there. Paths are walked
on it step by step, from the root or from the working directory: every step has to start in a
directory. Changing one location leaves every other as it was (`at?_put`, `at?_erase`).
-/

namespace AgentConsole.Files

open AgentConsole.Text

/-- The names on the way from the root. -/
abbrev Location := List String

/-- What a location holds. -/
inductive Entry where
  | file (octets : List UInt8) (executable : Bool)
  | directory
  /-- Swallows what is written and is empty to read. -/
  | sink
  deriving DecidableEq, Repr

/-- What is where, and the location relative paths start from. -/
structure Disk where
  entries : List (Location × Entry)
  cwd : Location
  deriving Repr

namespace Disk

/-- What a location holds; the root is always a directory. -/
def at? (d : Disk) (l : Location) : Option Entry :=
  if l.isEmpty then some .directory else d.entries.lookup l

/-- Leaves nothing at a location. -/
def erase (d : Disk) (l : Location) : Disk :=
  { d with entries := d.entries.filter fun p => !(p.1 == l) }

/-- Puts an entry at a location, in place of what was there. -/
def put (d : Disk) (l : Location) (e : Entry) : Disk :=
  { d with entries := (l, e) :: (d.erase l).entries }

theorem lookup_filter_other (entries : List (Location × Entry)) (l l' : Location) :
    (entries.filter fun p => !(p.1 == l)).lookup l' =
      if l' = l then none else entries.lookup l' := by
  induction entries with
  | nil => simp
  | cons p ps ih =>
    obtain ⟨k, e⟩ := p
    by_cases hk : k = l
    · rw [List.filter_cons_of_neg (by simpa using hk), ih, List.lookup_cons]
      by_cases hl : l' = l
      · simp [hl]
      · have : (l' == k) = false := by simp [hk, hl]
        simp [hl, this]
    · rw [List.filter_cons_of_pos (by simpa using hk), List.lookup_cons, List.lookup_cons, ih]
      by_cases hl : l' = k
      · simp [hl, hk]
      · have : (l' == k) = false := by simp [hl]
        simp [this]

theorem at?_erase (d : Disk) (l l' : Location) (h : l' ≠ []) :
    (d.erase l).at? l' = if l' = l then none else d.at? l' := by
  simp only [at?, erase, List.isEmpty_iff, h, ↓reduceIte, lookup_filter_other]

theorem at?_put (d : Disk) (l l' : Location) (e : Entry) (h : l' ≠ []) :
    (d.put l e).at? l' = if l' = l then some e else d.at? l' := by
  by_cases hl : l' = l
  · simp [at?, put, ← hl, h]
  · have : (l' == l) = false := by simp [hl]
    simp only [at?, put, erase, List.isEmpty_iff, h, ↓reduceIte, List.lookup_cons, this,
      lookup_filter_other, hl]

/-- The location holds a directory. -/
def isDirectoryAt (d : Disk) (l : Location) : Bool :=
  d.at? l == some .directory

/-- The names of what a directory holds. -/
def namesIn (d : Disk) (l : Location) : List String :=
  d.entries.filterMap fun p =>
    match p.1.getLast? with
    | some name => if p.1.dropLast = l then some name else none
    | none => none

/-- How many octets a name may have. -/
def nameLimit : Nat := 255

/-- How many octets a path may have, and one more. -/
def pathLimit : Nat := 4096

/-- The location a segment leads to from a location that has to be a directory. -/
def enter (d : Disk) (l : Location) (segment : String) : Except IoError Location :=
  if !d.isDirectoryAt l then .error .notDirectory
  else if segment = "." then .ok l
  else if segment = ".." then .ok l.dropLast
  else if segment.utf8ByteSize > nameLimit then .error .nameTooLong
  else if (d.at? (l ++ [segment])).isSome then .ok (l ++ [segment])
  else .error .notFound

/-- The location that segments lead to. -/
def walk (d : Disk) (l : Location) (segments : List String) : Except IoError Location :=
  segments.foldlM d.enter l

/-- Where the walk along a path starts. -/
def start (d : Disk) (path : String) : Location :=
  if isAbsolute path then [] else d.cwd

/-- What is wrong with a path whatever the disk holds. -/
def checkPath (path : String) : Except IoError Unit :=
  if path.toList.contains (Char.ofNat 0) then .error .nulInName
  else if path.isEmpty then .error .notFound
  else if path.utf8ByteSize ≥ pathLimit then .error .nameTooLong
  else .ok ()

/-- The location a path leads to; a slash at its end asks for a directory. -/
def find (d : Disk) (path : String) : Except IoError Location := do
  checkPath path
  let l ← d.walk (d.start path) (segments path)
  if path.toList.getLast? == some '/' && !d.isDirectoryAt l then .error .notDirectory else .ok l

/-- The location a path leads to, where only what comes before its last name has to exist. A path
that ends in no name leads to what exists already. -/
def place (d : Disk) (path : String) : Except IoError Location := do
  checkPath path
  match (segments path).getLast? with
  | none => .error .alreadyExists
  | some last =>
    let l ← d.walk (d.start path) (segments path).dropLast
    if !d.isDirectoryAt l then .error .notDirectory
    else if last = "." || last = ".." then .error .alreadyExists
    else if last.utf8ByteSize > nameLimit then .error .nameTooLong
    else .ok (l ++ [last])

/-- What a path leads to, if anything. -/
def entry? (d : Disk) (path : String) : Option Entry :=
  match d.find path with
  | .ok l => d.at? l
  | .error _ => none

/-- The path leads to something. -/
def has (d : Disk) (path : String) : Bool :=
  (d.entry? path).isSome

/-- The path leads to a directory. -/
def hasDirectory (d : Disk) (path : String) : Bool :=
  d.entry? path == some .directory

/-- The path leads to a file. -/
def hasFile (d : Disk) (path : String) : Bool :=
  match d.entry? path with
  | some (.file _ _) => true
  | _ => false

/-- The path leads to a file that may be run. -/
def hasProgram (d : Disk) (path : String) : Bool :=
  match d.entry? path with
  | some (.file _ executable) => executable
  | _ => false

/-- The octets a path leads to. -/
def read (d : Disk) (path : String) : Except IoError (List UInt8) := do
  match d.at? (← d.find path) with
  | some (.file octets _) => .ok octets
  | some .directory => .error .isDirectory
  | some .sink => .ok []
  | none => .error .notFound

/-- The text a path leads to. -/
def readText (d : Disk) (path : String) : Except IoError String := do
  match Utf8.decode? (← d.read path) with
  | some s => .ok s
  | none => .error .notText

/-- The names in the directory a path leads to. -/
def names (d : Disk) (path : String) : Except IoError (List String) := do
  let l ← d.find path
  if d.isDirectoryAt l then .ok (d.namesIn l) else .error .notDirectory

/-- Makes one directory. -/
def makeDirectory (d : Disk) (path : String) : Except IoError Disk := do
  let l ← d.place path
  if (d.at? l).isSome then .error .alreadyExists else .ok (d.put l .directory)

/-- Makes the directory after `count` steps of a path, and first those before it while they are
missing; `path` writes so many steps out. What was made stays when a later one cannot be. -/
def makeDirectoriesTo (path : Nat → String) : Nat → Disk → Disk × Except IoError Unit
  | 0, d => (d, .ok ())
  | count + 1, d =>
    let whole := path (count + 1)
    let orThere (d : Disk) (e : IoError) : Except IoError Unit :=
      if d.hasDirectory whole then .ok () else .error e
    match d.makeDirectory whole with
    | .ok d => (d, .ok ())
    | .error .notFound =>
      match makeDirectoriesTo path count d with
      | (d, .error e) => (d, .error e)
      | (d, .ok ()) =>
        match d.makeDirectory whole with
        | .ok d => (d, .ok ())
        | .error e => (d, orThere d e)
    | .error e => (d, orThere d e)

/-- Makes a directory and those on the way to it that are missing. -/
def makeDirectories (d : Disk) (path : String) : Disk × Except IoError Unit :=
  let all := segments path
  let leading := if isAbsolute path then "/" else ""
  let upTo (count : Nat) : String :=
    if count = all.length then path else leading ++ "/".intercalate (all.take count)
  if path.isEmpty || (all.isEmpty && isAbsolute path) then (d, .ok ())
  else makeDirectoriesTo upTo all.length d

/-- Writes a file of its own: nothing may be at its location yet. -/
def createFile (d : Disk) (path : String) (octets : List UInt8) : Except IoError Disk := do
  let l ← d.place path
  if (d.at? l).isSome then .error .alreadyExists else .ok (d.put l (.file octets false))

/-- Writes a file, in place of an earlier one, or after what it holds already. -/
def writeFile (d : Disk) (path : String) (octets : List UInt8) (after : Bool) :
    Except IoError Disk :=
  match d.entry? path with
  | some .directory => .error .isDirectory
  | some .sink => .ok d
  | some (.file old executable) => do
    let l ← d.find path
    return d.put l (.file (if after then old ++ octets else octets) executable)
  | none => do
    let l ← d.place path
    if path.toList.getLast? == some '/' then .error .isDirectory
    else if (d.at? l).isSome then .error .notDirectory
    else return d.put l (.file octets false)

/-- Removes a file. -/
def removeFile (d : Disk) (path : String) : Except IoError Disk := do
  let l ← d.find path
  match d.at? l with
  | some .directory => .error .isDirectory
  | some _ => .ok (d.erase l)
  | none => .error .notFound

/-- The working directory as a path. -/
def cwdPath (d : Disk) : String :=
  "/" ++ "/".intercalate d.cwd

end Disk

end AgentConsole.Files
