import AgentConsole.Shell.Line

/-!
# Tools for files

The utilities that take paths apart, and those that make, copy, move, remove and list files.
-/

namespace AgentConsole.Shell

open AgentConsole.Text AgentConsole.Files

/-! ## Paths -/

/-- The name at the end of a path. -/
def lastName (path : String) : String :=
  match (segments path).getLast? with
  | some name => name
  | none => if path.isEmpty then "" else "/"

/-- The end of what is written for a path. -/
def pathEnding (o : Options) : Char :=
  if o.has 'z' then Char.ofNat 0 else '\n'

/-- Writes the last names of paths, without an ending. -/
def basename (s : Start) : Effect :=
  s.withOptions [flag 'a' "multiple", valued 's' "suffix", flag 'z' "zero"] fun o =>
    let stripped (path ending : String) : List Char :=
      let name := (lastName path).toList
      let ending := ending.toList
      if !ending.isEmpty && ending.isSuffixOf name && decide (ending.length < name.length) then
        name.take (name.length - ending.length)
      else name
    let ending := (o.value? 's').getD ""
    let several := o.has 'a' || o.has 's'
    match o.operands with
    | [] => s.refuses "missing operand"
    | [path] => s.prints (unlines [stripped path ending] (pathEnding o))
    | path :: second :: more =>
      if several then
        s.prints (unlines (o.operands.map fun p => stripped p ending) (pathEnding o))
      else
        match more with
        | [] => s.prints (unlines [stripped path second] (pathEnding o))
        | extra :: _ => s.refuses ("extra operand " ++ inQuotes extra)

/-- What a path has before its last name. -/
def directoryOf (path : String) : String :=
  let trim (cs : List Char) : List Char := (cs.reverse.dropWhile (· = '/')).reverse
  let cs := path.toList
  let before := ((trim cs).reverse.dropWhile (· ≠ '/')).reverse
  if (trim before).isEmpty then
    if cs.head? = some '/' then "/" else "."
  else String.ofList (trim before)

/-- Writes what paths have before their last names. -/
def dirname (s : Start) : Effect :=
  s.withOptions [flag 'z' "zero"] fun o =>
    if o.operands.isEmpty then s.refuses "missing operand"
    else s.prints (unlines (o.operands.map fun p => (directoryOf p).toList) (pathEnding o))

/-! ## Changes -/

/-- A line of output. -/
def lineSaid (words : String) : Piece :=
  .said (words ++ "\n").toList

/-- Does something to the disk for every name. -/
def Start.changes (s : Start) (names : List String)
    (change : Disk → String → Disk × List Piece) : Effect :=
  let (disk, pieces) := names.foldl (fun (disk, pieces) name =>
    let (disk, more) := change disk name
    (disk, pieces ++ more)) (s.disk, [])
  { s.writes pieces (if pieces.any (·.isComplaint) then 1 else 0) with disk }

/-- Leaves nothing below a location and at it. -/
def eraseBelow (d : Disk) (l : Location) : Disk :=
  { d with entries := d.entries.filter fun p => !l.isPrefixOf p.1 }

/-- What is below a location and at it, as paths from a name for the location on: what is in a
directory comes before it. -/
def pathsBelow (d : Disk) (l : Location) (name : String) : List (String × Entry) :=
  let inside := d.entries.filter fun p => l.isPrefixOf p.1
  let paths := inside.map fun p => ("/".intercalate (name :: p.1.drop l.length), p.2)
  paths.mergeSort fun a b => notAfter (b.1.toList ++ ['/']) (a.1.toList ++ ['/'])

/-- Removes files. -/
def rm (s : Start) : Effect :=
  let switches := [flag 'f' "force", flag 'r' "recursive", flag 'R', flag 'd' "dir",
    flag 'v' "verbose"]
  s.withOptions switches fun o =>
    let recursive := o.has 'r' || o.has 'R'
    let said (words : String) : List Piece := if o.has 'v' then [lineSaid words] else []
    if o.operands.isEmpty && !o.has 'f' then s.refuses "missing operand"
    else
      s.changes o.operands fun d name =>
        let complain (words : String) : Disk × List Piece :=
          (d, [s.complaint ("cannot remove " ++ inShellQuotes name ++ ": " ++ words)])
        match d.find (unspell name) with
        | .error e =>
          if o.has 'f' && (e = .notFound || e = .notDirectory) then (d, []) else complain e.words
        | .ok l =>
          if !d.isDirectoryAt l then (d.erase l, said ("removed " ++ inShellQuotes name))
          else if recursive then
            if l.isEmpty then
              (d, [s.complaint "it is dangerous to operate recursively on '/'",
                s.complaint "use --no-preserve-root to override this failsafe"])
            else if [".", ".."].contains (lastName name) then
              (d, [s.complaint ("refusing to remove '.' or '..' directory: skipping " ++
                inShellQuotes name)])
            else
              let removed := (pathsBelow d l name).flatMap fun (path, e) =>
                said ((if e = .directory then "removed directory " else "removed ") ++
                  inShellQuotes path)
              (eraseBelow d l, removed)
          else if !o.has 'd' then complain "Is a directory"
          else if !(d.namesIn l).isEmpty then complain "Directory not empty"
          else (d.erase l, said ("removed directory " ++ inShellQuotes name))

/-- The paths on the way along a path, which is the last of them. -/
def pathsTo (path : String) : List String :=
  let all := segments path
  let leading := if isAbsolute path then "/" else ""
  (List.range all.length).map fun n =>
    if n + 1 = all.length then path else leading ++ "/".intercalate (all.take (n + 1))

/-- Removes directories. -/
def rmdir (s : Start) : Effect :=
  let tolerant := wordOnly 0
  s.withOptions [flag 'p' "parents", flag 'v' "verbose",
      flag tolerant "ignore-fail-on-non-empty"] fun o =>
    if o.operands.isEmpty then s.refuses "missing operand"
    else
      s.changes o.operands fun d name =>
        let paths := if o.has 'p' then (pathsTo name).reverse else [name]
        let (d, pieces, _) := paths.foldl (fun (d, pieces, goesOn) path =>
          let what := if path = name then "failed to remove " else "failed to remove directory "
          let said := if o.has 'v' then
            [lineSaid (s.name ++ ": removing directory, " ++ inShellQuotes path)] else []
          let complain (words : String) : Disk × List Piece × Bool :=
            (d, pieces ++ said ++ [s.complaint (what ++ inShellQuotes path ++ ": " ++ words)],
              false)
          if !goesOn then (d, pieces, false)
          else
            match d.find (unspell path) with
            | .error e => complain e.words
            | .ok l =>
              if !d.isDirectoryAt l then complain "Not a directory"
              else if lastName path = "." then complain "Invalid argument"
              else if !(d.namesIn l).isEmpty then
                if o.has tolerant then (d, pieces ++ said, false)
                else complain "Directory not empty"
              else (d.erase l, pieces ++ said, true)) (d, ([] : List Piece), true)
        (d, pieces)

/-- Whether a file may be run after a change of its mode, where `before` says whether it may be now;
none if the change makes no sense. -/
def modeAfter? (before : Bool) (change : String) : Option Bool :=
  let cs := change.toList
  if !cs.isEmpty && cs.all isOctal then
    if (digitsIn 8 cs).1 ≥ 4096 then none
    else some (cs.any fun c => (c.toNat - '0'.toNat) % 2 = 1)
  else
    (splitAtChar ',' cs).foldlM (fun now clause =>
      match clause.dropWhile ("ugoa".toList.contains ·) with
      | sign :: letters =>
        if !letters.all ("rwxXst".toList.contains ·) && !(["u", "g", "o"].contains
            (String.ofList letters)) then none
        else
          let named := letters.contains 'x' || (letters.any ("Xugo".toList.contains ·) && now)
          match sign with
          | '+' => some (now || named)
          | '-' => some (now && !named)
          | '=' => some named
          | _ => none
      | [] => none) before

/-- Makes directories. -/
def mkdir (s : Start) : Effect :=
  s.withOptions [flag 'p' "parents", flag 'v' "verbose", valued 'm' "mode"] fun o =>
    let wrongMode := (o.values 'm').getLast?.filter fun mode => (modeAfter? true mode).isNone
    if o.operands.isEmpty then s.refuses "missing operand"
    else if let some mode := wrongMode then s.fails 1 ["invalid mode " ++ inQuotes mode]
    else
      s.changes o.operands fun d name =>
        let paths := if o.has 'p' && !name.isEmpty then pathsTo name else [name]
        let (d, pieces, _) := paths.foldl (fun (d, pieces, goesOn) path =>
          let complain (e : IoError) : Disk × List Piece × Bool :=
            (d, pieces ++ [s.complaint
              ("cannot create directory " ++ inShellQuotes path ++ ": " ++ e.words)], false)
          if !goesOn then (d, pieces, false)
          else if o.has 'p' && d.hasDirectory (unspell path) then (d, pieces, true)
          else
            match d.makeDirectory (unspell path) with
            | .ok d =>
              let said := s.name ++ ": created directory " ++ inShellQuotes path
              (d, pieces ++ if o.has 'v' then [lineSaid said] else [], true)
            | .error e =>
              complain (if e = .alreadyExists && path ≠ name then .notDirectory else e))
          (d, ([] : List Piece), true)
        (d, pieces)

/-- Makes empty files. -/
def touch (s : Start) : Effect :=
  let switches := [flag 'a', flag 'c' "no-create", flag 'm', valued 'd' "date", valued 't',
    valued 'r' "reference"]
  s.withOptions switches fun o =>
    let missing := (o.values 'r').find? fun name => !s.disk.has (unspell name)
    if o.operands.isEmpty then s.refuses "missing file operand"
    else if let some name := missing then
      s.fails 1 ["failed to get attributes of " ++ inShellQuotes name ++
        ": No such file or directory"]
    else
      s.changes o.operands fun d name =>
        let complain (what : String) (e : IoError) : Disk × List Piece :=
          (d, [s.complaint (what ++ inShellQuotes name ++ ": " ++ e.words)])
        match d.find (unspell name) with
        | .ok _ => (d, [])
        | .error e =>
          if o.has 'c' && e = .notFound then (d, [])
          else if name.endsWith "/" then complain "setting times of " e
          else
            match d.createFile (unspell name) [] with
            | .ok d => (d, [])
            | .error e => complain "cannot touch " e

/-- Changes the modes of files. -/
def chmod (s : Start) : Effect :=
  let options := ["-R", "-f", "-v", "-c", "--"]
  let recursive := s.arguments.contains "-R"
  match s.arguments.filter fun a => !options.contains a with
  | [] => s.refuses "missing operand"
  | [change] => s.refuses ("missing operand after " ++ inQuotes change)
  | change :: names =>
    if (modeAfter? false change).isNone then s.refuses ("invalid mode: " ++ inQuotes change)
    else
      s.changes names fun d name =>
        match d.find (unspell name) with
        | .error e =>
          (d, [s.complaint ("cannot access " ++ inShellQuotes name ++ ": " ++ e.words)])
        | .ok l =>
          let changed (p : Location × Entry) : Location × Entry :=
            match p.2 with
            | .file octets executable =>
              if p.1 = l || (recursive && l.isPrefixOf p.1) then
                (p.1, .file octets ((modeAfter? executable change).getD executable))
              else p
            | _ => p
          ({ d with entries := d.entries.map changed }, [])

/-! ## Copies -/

/-- Where something with the name `source` goes when it goes to `target`. -/
def targetPath (d : Disk) (source target : String) : String :=
  if d.hasDirectory (unspell target) then join target (lastName source) else target

/-- A copy of what is at a location and below it, at another. -/
def copyBelow (d : Disk) (l onto : Location) : Disk :=
  (d.entries.filter fun p => l.isPrefixOf p.1).foldl
    (fun d p => d.put (onto ++ p.1.drop l.length) p.2) d

/-- Copies a file to a path. -/
def copyFile (s : Start) (d : Disk) (source path : String) (octets : List UInt8)
    (executable : Bool) : Disk × List Piece :=
  let complain (what : String) : Disk × List Piece := (d, [s.complaint what])
  match d.find (unspell source), d.find (unspell path) with
  | .ok l, .ok l' =>
    if l = l' then complain (inShellQuotes source ++ " and " ++ inShellQuotes path ++
      " are the same file")
    else
      match d.at? l' with
      | some (.file _ kept) => (d.put l' (.file octets kept), [])
      | some .directory =>
        complain ("cannot overwrite directory " ++ inShellQuotes path ++ " with non-directory")
      | _ => (d, [])
  | _, _ =>
    let refused (e : IoError) : Disk × List Piece :=
      complain ("cannot create regular file " ++ inShellQuotes path ++ ": " ++ e.words)
    if path.endsWith "/" then refused .notDirectory
    else
      match d.place (unspell path) with
      | .ok l => (d.put l (.file octets executable), [])
      | .error e => refused e

/-- Copies a directory with all that is in it to a path. -/
def copyDirectory (s : Start) (d : Disk) (source path : String) (l : Location) :
    Disk × List Piece :=
  let complain (what : String) : Disk × List Piece := (d, [s.complaint what])
  let cannot (e : IoError) : Disk × List Piece :=
    complain ("cannot create directory " ++ inShellQuotes path ++ ": " ++ e.words)
  let onto : Except IoError Location :=
    match d.find (unspell path) with
    | .ok l' => .ok l'
    | .error _ => d.place (unspell path)
  match onto with
  | .error e => cannot e
  | .ok l' =>
    if l.isPrefixOf l' then
      complain ("cannot copy a directory, " ++ inShellQuotes source ++ ", into itself, " ++
        inShellQuotes path)
    else if (d.at? l').any (· ≠ .directory) then
      complain ("cannot overwrite non-directory " ++ inShellQuotes path ++ " with directory " ++
        inShellQuotes source)
    else (copyBelow d l l', [])

/-- Moves something to a path. -/
def moveTo (s : Start) (d : Disk) (source path : String) (l : Location) : Disk × List Piece :=
  let complain (what : String) : Disk × List Piece := (d, [s.complaint what])
  let isDirectory := d.isDirectoryAt l
  let cannot (e : IoError) : Disk × List Piece :=
    complain ("cannot move " ++ inShellQuotes source ++ " to " ++ inShellQuotes path ++ ": " ++
      e.words)
  let go (l' : Location) : Disk × List Piece :=
    if isDirectory && l.isPrefixOf l' then
      complain ("cannot move " ++ inShellQuotes source ++ " to a subdirectory of itself, " ++
        inShellQuotes path)
    else
      let moved (p : Location × Entry) : Location × Entry :=
        if l.isPrefixOf p.1 then (l' ++ p.1.drop l.length, p.2) else p
      let d := d.erase l'
      ({ d with entries := d.entries.map moved }, [])
  match d.find (unspell path) with
  | .ok l' =>
    if l = l' then
      if isDirectory then
        complain ("cannot move " ++ inShellQuotes source ++ " to a subdirectory of itself, " ++
          inShellQuotes (join path (lastName source)))
      else complain (inShellQuotes source ++ " and " ++ inShellQuotes path ++ " are the same file")
    else if isDirectory && !d.isDirectoryAt l' then
      complain ("cannot overwrite non-directory " ++ inShellQuotes path ++ " with directory " ++
        inShellQuotes source)
    else if !isDirectory && d.isDirectoryAt l' then
      complain ("cannot overwrite directory " ++ inShellQuotes path ++ " with non-directory")
    else if isDirectory && !(d.namesIn l').isEmpty then
      complain ("cannot overwrite " ++ inShellQuotes path ++ ": Directory not empty")
    else go l'
  | .error _ =>
    if path.endsWith "/" && !isDirectory then cannot .notDirectory
    else
      match d.place (unspell path) with
      | .ok l' => go l'
      | .error e => cannot e

/-- Copies or moves files. -/
def transfer (moving : Bool) (s : Start) : Effect :=
  let recursion := if moving then [] else
    [flag 'r' "recursive", flag 'R', flag 'a' "archive", flag 'p' "preserve"]
  let switches := [flag 'f' "force", flag 'n' "no-clobber", flag 'v' "verbose",
    flag 'T' "no-target-directory", valued 't' "target-directory"] ++ recursion
  s.withOptions switches fun o =>
    let recursive := ['r', 'R', 'a'].any o.has
    let work (sources : List String) (target : String) (within : Bool) : Effect :=
      s.changes sources fun d source =>
        let path :=
          if o.has 'T' then target
          else if within then join target (lastName source)
          else targetPath d source target
        let said := if !o.has 'v' then [] else
          [lineSaid ((if moving then "renamed " else "") ++ inShellQuotes source ++ " -> " ++
            inShellQuotes path)]
        let finish (result : Disk × List Piece) : Disk × List Piece :=
          if result.2.isEmpty then (result.1, said) else result
        match d.find (unspell source) with
        | .error e =>
          (d, [s.complaint ("cannot stat " ++ inShellQuotes source ++ ": " ++ e.words)])
        | .ok l =>
          if o.has 'n' && d.hasFile (unspell path) then (d, [])
          else if moving then finish (moveTo s d source path l)
          else
            match d.at? l with
            | some (.file octets executable) =>
              finish (copyFile s d source path octets executable)
            | some .directory =>
              if recursive then finish (copyDirectory s d source path l)
              else (d, [s.complaint
                ("-r not specified; omitting directory " ++ inShellQuotes source)])
            | _ => finish (copyFile s d source path [] false)
    let isDirectory (name : String) : Bool := s.disk.hasDirectory (unspell name)
    let why (name : String) : String :=
      if s.disk.has (unspell name) then "Not a directory" else "No such file or directory"
    match o.value? 't', o.operands.getLast?, o.operands.dropLast with
    | some target, some _, _ =>
      if isDirectory target then work o.operands target true
      else s.fails 1 ["target directory " ++ inShellQuotes target ++ ": " ++ why target]
    | _, none, _ => s.refuses "missing file operand"
    | none, some only, [] =>
      s.refuses ("missing destination file operand after " ++ inShellQuotes only)
    | none, some target, sources =>
      if sources.length > 1 && !isDirectory target then
        s.fails 1 ["target " ++ inShellQuotes target ++ ": " ++ why target]
      else work sources target false

/-! ## Lists -/

/-- The directories to be listed from some on, each after the one it is in. -/
def directoriesBelow (shown : String → List String) (d : Disk) : Nat → List String → List String
  | 0, _ => []
  | depth + 1, names =>
    names.flatMap fun n =>
      let inside := ((shown n).filter fun m => m ≠ "." && m ≠ "..").map (join n ·)
      n :: directoriesBelow shown d depth (inside.filter fun p => d.hasDirectory (unspell p))

/-- Lists directories. -/
def ls (s : Start) : Effect :=
  let switches := [flag '1', flag 'a' "all", flag 'A' "almost-all", flag 'd' "directory",
    flag 'r' "reverse", flag 'R' "recursive", flag 'p', flag 'F' "classify", flag 'm',
    flag 'U', flag 'N' "literal", flag 'Q' "quote-name", flag 'S', flag 'X',
    flag 'B' "ignore-backups", flag 'b' "escape", flag 'k' "kibibytes", flag 'c', flag 'u',
    valued 'w' "width"]
  s.withOptions switches (fun o =>
    let d := s.disk
    let names := if o.operands.isEmpty then ["."] else o.operands
    let known := names.filter fun n => d.has (unspell n)
    let complaints := names.filterMap fun n =>
      match d.find (unspell n) with
      | .ok _ => none
      | .error e => some (s.complaint ("cannot access " ++ inShellQuotes n ++ ": " ++ e.words))
    let (directories, files) :=
      known.partition fun n => d.hasDirectory (unspell n) && !o.has 'd'
    let size (base n : String) : Nat :=
      match d.entry? (unspell (join base n)) with
      | some (.file octets _) => octets.length
      | some .directory => 4096
      | _ => 0
    let ending (n : String) : List Char :=
      let cs := n.toList
      if cs.contains '.' then '.' :: (cs.reverse.takeWhile (· ≠ '.')).reverse else []
    let sorted (base : String) (names : List String) : List String :=
      let byName := names.mergeSort fun a b => notAfter a.toList b.toList
      let inOrder :=
        match o.last? ['S', 'X'] with
        | some 'S' => byName.mergeSort fun a b => size base b ≤ size base a
        | some _ => byName.mergeSort fun a b => notAfter (ending a) (ending b)
        | none => byName
      if o.has 'r' then inOrder.reverse else inOrder
    let shown (n : String) : List String :=
      let inside := ((d.names (unspell n)).toOption.getD []).map spell
      let seen := inside.filter fun n =>
        (o.has 'a' || o.has 'A' || !n.startsWith ".") && !(o.has 'B' && n.endsWith "~")
      sorted n ((if o.has 'a' then [".", ".."] else []) ++ seen)
    let listed := sorted "" directories
    let listed := if o.has 'R' then directoriesBelow shown d 100 listed else listed
    let entry (base n : String) : List Char :=
      let mark :=
        match d.entry? (unspell (join base n)) with
        | some .directory => if o.has 'p' || o.has 'F' then ['/'] else []
        | some (.file _ true) => if o.has 'F' then ['*'] else []
        | _ => []
      (if o.has 'Q' then '"' :: n.toList ++ ['"'] else n.toList) ++ mark
    let written (entries : List (List Char)) : List Char :=
      if o.has 'm' && !entries.isEmpty then [',', ' '].intercalate entries ++ ['\n']
      else unlines entries
    let headed := names.length > 1 || o.has 'R'
    let blocks := (if files.isEmpty then [] else [written ((sorted "" files).map (entry ""))]) ++
      listed.map fun n =>
        (if headed then n.toList ++ [':', '\n'] else []) ++ written ((shown n).map (entry n))
    s.writes (complaints ++ [.said (['\n'].intercalate blocks)])
      (if complaints.isEmpty then 0 else 2))
    2

/-! ## Output to files -/

/-- Writes its input to files and to the output. -/
def tee (s : Start) : Effect :=
  s.withOptions [flag 'a' "append", flag 'i' "ignore-interrupts"] fun o =>
    let written := s.changes o.operands fun d name =>
      match name with
      | "/dev/stdout" => (d, [.said s.input])
      | "/dev/stderr" => (d, [⟨true, s.input⟩])
      | _ =>
        match d.writeFile (unspell name) (toOctets s.input) (o.has 'a') with
        | .ok d => (d, [])
        | .error e => (d, [s.complaint (usualComplaint name e)])
    let (loud, others) := written.pieces.partition fun p => p.text = s.input
    let status := if others.isEmpty then 0 else 1
    { written with pieces := others ++ .said s.input :: loud, status, taken := s.input.length }

end AgentConsole.Shell
