import AgentConsole.Shell.Arithmetic
import AgentConsole.Shell.Naming
import AgentConsole.Shell.Parameter
import AgentConsole.Shell.Running

/-!
# Carrying out scripts

A script is carried out line by line (`performText`). The functions that call each other count down
from a depth that says how far commands may be nested, and a script that goes beyond it is killed.
How often a loop goes round is limited by `roundLimit`; one that goes on after that never ends.
-/

namespace AgentConsole.Shell

open AgentConsole.Text AgentConsole.Files

/-- How often a loop may go round. -/
def roundLimit : Nat := 50000

/-- How deeply commands may be nested. -/
def depthLimit : Nat := 10000

/-- How many functions may be under way. -/
def functionLimit : Nat := 1000

/-- After how many milliseconds what goes on in the background starts. -/
def forkingTime : Nat := 1

/-- What stops a script that is nested too deeply: a segmentation fault. -/
def overflow : Stop := .killed 11

/-- How much a pipe holds of what nobody has read. -/
def pipeSize : Nat := 4096

/-- How much is made of what never ends, at first, and once more where that is not enough. -/
def supplies : List Nat := [65536, 524288]

/-- Stops if options ask for it after a failure. -/
def stopOnFailure : Act Unit := do
  let m ← get
  if m.status ≠ 0 && m.options.contains 'e' && !m.lenient then throw .exit

/-- Goes once through a loop: whether it goes on. -/
def roundOf (body : Act Unit) : Act Bool := do
  let loops := (← get).loops
  modify fun m => { m with loops := loops + 1 }
  let result ← attempt body
  modify fun m => { m with loops }
  match result with
  | .ok () => return true
  | .error (.leave loops again) =>
    if loops ≤ 1 then return again else throw (.leave (loops - 1) again)
  | .error reason => throw reason

/-- The state with variables as they were before. -/
def Machine.restoring (m before : Machine) (names : List String) : Machine :=
  let mine (name : String) : Bool := names.contains name
  { m with
    bindings :=
      before.bindings.filter (fun v => mine v.1) ++ m.bindings.filter (fun v => !mine v.1)
    exported := before.exported.filter mine ++ m.exported.filter (!mine ·) }

/-- The commands whose arguments assign. -/
def assigningBuiltins : List String :=
  ["alias", "export", "local", "readonly"]

/-- Carries out a built-in command: a failure of a usual one is not the end of the script. -/
def inBuiltin (special : Bool) (name : String) (act : Act Unit) : Act Unit := do
  match ← attempt (calledBy name act) with
  | .ok () => return ()
  | .error .failed => if special then throw .failed else return ()
  | .error reason => throw reason

/-- Writes a line to the error stream as it was in another state. -/
def warnAs (other : Machine) (line : String) : Act Unit := do
  let here := (← get).descriptors
  modify fun m => { m with descriptors := other.descriptors }
  warn line
  modify fun m => { m with descriptors := here }

mutual

/-- The items of a word. -/
def wordItems : Nat → Bool → Word → Act (List Item)
  | 0, _, _ => throw overflow
  | depth + 1, split, w => do
    let items := (← w.mapM (partItems depth split)).flatten
    if (← get).arguments.isEmpty && w.any Part.isArguments then
      return items.filter (· ≠ .edge)
    else return items

/-- The items of a part of a word. -/
def partItems : Nat → Bool → Part → Act (List Item)
  | 0, _, _ => throw overflow
  | depth + 1, split, p => do
    match p with
    | .text cs quoted => return if cs.isEmpty then [.edge] else cs.map (.char · quoted)
    | .arithmetic expression quoted =>
      let text ← wordText depth expression
      let m ← get
      match evaluate m.bindings m.fixed text.toList with
      | .ok (n, bindings) =>
        modify fun m => { m with bindings }
        return valueItems (← get) split quoted (toString n).toList
      | .error e => giveUp (e.message text)
    | .substitution command quoted =>
      let before ← get
      let stream ← newStream []
      inSubshell do
        modify fun m => { m with lenient := false }
        connect 1 (some (.stream stream))
        untilEnd depth (perform depth command)
      let m ← get
      match { m with jobs := m.jobs.drop before.jobs.length }.busyUntil? with
      | none => throw .endless
      | some elapsed =>
        let status := if command.isEmpty then before.status else m.status
        set { m with elapsed, substituted := some status, status := before.status }
      let written := withoutLastEnds ((← drain stream).filter (· ≠ Char.ofNat 0))
      return valueItems (← get) split quoted written
    | .parameter name change argument quoted =>
      let m ← get
      let all := name = "@" || name = "*"
      let value :=
        if !all then m.value? name
        else if m.arguments.isEmpty then none
        else some (" ".intercalate m.arguments)
      let plain (m : Machine) (value : Option String) : List Item :=
        if all then argumentItems m name split quoted
        else valueItems m split quoted (value.getD "").toList
      let missing (emptyToo : Bool) : Bool := value.isNone || (emptyToo && value = some "")
      let other (_ : Unit) : Act (List Item) := do
        let items ← wordItems depth split
          (if quoted then argument.map Part.inQuotes else expandTilde m argument)
        return if split && !quoted then resplit m.separators items else items
      match change with
      | .wrong => giveUp "Bad substitution"
      | .plain =>
        if value.isNone && !all && m.options.contains 'u' then
          giveUp (name ++ ": parameter not set")
        else return plain m value
      | .length =>
        if !argument.isEmpty then giveUp "Bad substitution"
        if value.isNone && !all && m.options.contains 'u' then
          giveUp (name ++ ": parameter not set")
        let joined := (m.separators.head?).toList.intercalate (m.arguments.map (·.toList))
        let size := if all then joined.length else (value.getD "").length
        return valueItems m split quoted (toString size).toList
      | .fallback emptyToo => if missing emptyToo then other () else return plain m value
      | .alternative emptyToo => if missing emptyToo then return [] else other ()
      | .assign emptyToo =>
        if missing emptyToo then
          let text ← wordText depth argument
          requireName name
          assign name text
          return plain (← get) (some text)
        else return plain m value
      | .require emptyToo =>
        if missing emptyToo then
          let text ← wordText depth argument
          let words :=
            if !text.isEmpty then text
            else if emptyToo then "parameter not set or null"
            else "parameter not set"
          giveUp (name ++ ": " ++ words)
        else return plain m value
      | .dropStart longest =>
        if value.isNone && !all && m.options.contains 'u' then
          giveUp (name ++ ": parameter not set")
        let pattern := itemsField (← wordItems depth false (expandTilde m argument))
        return valueItems m split quoted (dropFront pattern longest (value.getD "").toList)
      | .dropEnd longest =>
        if value.isNone && !all && m.options.contains 'u' then
          giveUp (name ++ ": parameter not set")
        let pattern := itemsField (← wordItems depth false (expandTilde m argument))
        return valueItems m split quoted (dropBack pattern longest (value.getD "").toList)

/-- The text of a word that is not split. -/
def wordText : Nat → Word → Act String
  | 0, _ => throw overflow
  | depth + 1, w => do
    let w := expandTilde (← get) w
    return String.ofList (itemsText (← wordItems depth false (w.map Part.inQuotes)))

/-- The text of a word that is assigned. -/
def assignedText : Nat → Word → Act String
  | 0, _ => throw overflow
  | depth + 1, w => do
    let w := expandTildes (← get) w
    return String.ofList (itemsText (← wordItems depth false (w.map Part.inQuotes)))

/-- The fields of a word. -/
def wordFields : Nat → Word → Act (List String)
  | 0, _ => throw overflow
  | depth + 1, w => do
    let fields := fieldsFrom none (← wordItems depth true (expandTilde (← get) w))
    let m ← get
    return if m.options.contains 'f' then fields.map fieldText
      else fields.flatMap (·.texts m.disk)

/-- The fields of the words of a command, after those that are known. Where the command assigns, its
arguments may be assignments. -/
def commandFields : Nat → List String → List Word → Act (List String)
  | 0, _, _ => throw overflow
  | depth + 1, known, words => do
    match words with
    | [] => return known
    | w :: more =>
      let name := (known.find? (· ≠ "command")).getD ""
      let fields ←
        match if assigningBuiltins.contains name then assignment? w else none with
        | some (target, value) => do
          pure [target ++ "=" ++ (← assignedText depth value)]
        | none => wordFields depth w
      commandFields depth (known ++ fields) more

/-- Gives variables the values of words. -/
def assignAll : Nat → List (String × Word) → Act (List (String × String))
  | 0, _ => throw overflow
  | depth + 1, assignments =>
    assignments.mapM fun a => do
      let value ← assignedText depth a.2
      assign a.1 value
      return (a.1, value)

/-- Connects descriptors; complains and stops at the first that cannot be. -/
def redirect : Nat → List Redirect → Act Bool
  | 0, _ => throw overflow
  | depth + 1, redirects => do
    match redirects with
    | [] => return true
    | r :: more =>
      let finish (opened : Except String Connection) : Act Bool := do
        match opened with
        | .ok connection =>
          connect r.descriptor (some connection)
          redirect depth more
        | .error words =>
          grumble words
          return false
      match r.kind with
      | .document number =>
        let w := ((← get).documents.lookup number).getD []
        let text ← wordText depth w
        finish (.ok (.stream (← newStream text.toList)))
      | .duplicate =>
        let target ← wordText depth r.target
        match target.toList with
        | ['-'] =>
          connect r.descriptor none
          redirect depth more
        | [c] =>
          if !c.isDigit then giveUp "Syntax error: Bad fd number"
          else
            match ← connection? (c.toNat - '0'.toNat) with
            | some connection => finish (.ok connection)
            | none => finish (.error (target ++ ": Bad file descriptor"))
        | _ => giveUp "Syntax error: Bad fd number"
      | .read => finish (← openToRead (← wordText depth r.target))
      | .write =>
        let keeps := (← get).options.contains 'C'
        finish (← openToWrite (← wordText depth r.target) true false keeps)
      | .overwrite => finish (← openToWrite (← wordText depth r.target) true false false)
      | .append => finish (← openToWrite (← wordText depth r.target) false true false)
      | .update => finish (← openToWrite (← wordText depth r.target) false false false)

/-- Does something with descriptors connected for it alone. Where they cannot be connected, it is
not done. -/
def withRedirects : Nat → List Redirect → Act Unit → Act Unit
  | 0, _, _ => throw overflow
  | depth + 1, redirects, act => do
    let before := (← get).descriptors
    let result ← attempt do
      if ← redirect depth redirects then act else setStatus 2
    modify fun m => { m with descriptors := before }
    match result with
    | .ok () => return ()
    | .error reason => throw reason

/-- Does all that a shell does, and then what it was asked to do at its end. -/
def untilEnd : Nat → Act Unit → Act Unit
  | 0, _ => throw overflow
  | depth + 1, act => do
    let result ← attempt act
    let m ← get
    match result with
    | .error (.killed signal) => throw (.killed signal)
    | .error .endless => throw .endless
    | _ =>
      match m.trap? 0 with
      | none => return ()
      | some action =>
        set { m with traps := [], caller := none, lenient := false }
        match ← attempt (performText depth action.toList) with
        | .ok () => setStatus m.status
        | .error reason => throw reason

/-- Writes out what is carried out next, if options ask for it. -/
def trace : Nat → Machine → List String → Act Unit
  | 0, _, _ => throw overflow
  | depth + 1, outside, words => do
    let m ← get
    if m.options.contains 'x' && !words.isEmpty then
      let sign := (m.value? "PS4").getD ""
      let escaped := sign.toList.flatMap fun c => if c = '"' then ['\\', c] else [c]
      let text := ": \"" ++ String.ofList escaped ++ "\""
      let shown ←
        match nextLine (8 * text.length + 100) (.start text.toList) with
        | .ok (some (.sequence [.simple _ _ [_, w] _], _)) => wordText depth w
        | _ => pure sign
      warnAs outside (shown ++ " ".intercalate words)

/-- Carries out a command. -/
def perform : Nat → Command → Act Unit
  | 0, _ => throw overflow
  | depth + 1, c => do
    match c with
    | .simple line assignments words redirects =>
      modify fun m => { m with line, substituted := none }
      let fields ← commandFields depth [] words
      let before ← get
      let special := (fields.head?).any isSpecialBuiltin
      let connected ← redirect depth redirects
      let restore (m : Machine) : Machine := { m with descriptors := before.descriptors }
      if !connected then
        modify restore
        setStatus 2
        if special then throw .failed
      else
        let act : Act Unit := do
          let values ← assignAll depth assignments
          trace depth before (values.map (fun v => v.1 ++ "=" ++ v.2) ++ fields)
          match fields with
          | [] => modify fun m => { m with status := m.substituted.getD 0 }
          | name :: arguments =>
            if !special || (name = "exec" && !arguments.isEmpty) then
              modify fun m => { m with exported := values.map (·.1) ++ m.exported }
            dispatch depth false name arguments
        let result ← attempt act
        let keeps := fields = ["exec"] || fields = ["command", "exec"]
        if !keeps then modify restore
        match result with
        | .error reason => throw reason
        | .ok () =>
          if !special && !fields.isEmpty && !assignments.isEmpty then
            modify fun m => m.restoring before (assignments.map (·.1))
      stopOnFailure
    | .pipeline stages =>
      performPipeline depth supplies stages
      stopOnFailure
    | .negation c =>
      leniently (perform depth c)
      modify fun m => { m with status := if m.status = 0 then 1 else 0 }
    | .both first second =>
      leniently (perform depth first)
      if (← get).status = 0 then perform depth second
    | .either first second =>
      leniently (perform depth first)
      if (← get).status ≠ 0 then perform depth second
    | .sequence commands =>
      for c in commands do
        perform depth c
    | .background c =>
      let start := (← get).elapsed
      let result ← attempt (inSubshell do
        modify fun m => { m with elapsed := start + forkingTime, lenient := false }
        connect 0 (some .sink)
        untilEnd depth (perform depth c))
      let endless ←
        match result with
        | .ok () => pure false
        | .error .endless => pure true
        | .error reason => throw reason
      modify fun m =>
        let job : Job :=
          ⟨processNumber + 1 + m.jobs.length, if endless then none else some m.elapsed, m.status,
            none, false⟩
        { m with jobs := m.jobs ++ [job], elapsed := start, status := 0 }
    | .grouped line c redirects =>
      modify fun m => { m with line }
      withRedirects depth redirects (perform depth c)
    | .subshell line c redirects =>
      modify fun m => { m with line }
      inSubshell (untilEnd depth (withRedirects depth redirects (perform depth c)))
      stopOnFailure
    | .branch condition yes no =>
      leniently (perform depth condition)
      if (← get).status = 0 then perform depth yes
      else
        setStatus 0
        perform depth no
    | .loop untilTrue condition body =>
      let (last, _) ← repeatedly roundLimit (0, true) fun (_, goesOn) => do
        if !goesOn then return none
        else
          let result ← attempt (roundOf (leniently (perform depth condition)))
          match result with
          | .error reason => throw reason
          | .ok conditionGoesOn =>
            let status := (← get).status
            if !conditionGoesOn then return some (status, false)
            else if (status = 0) = untilTrue then return none
            else
              let goesOn ← roundOf (perform depth body)
              return some ((← get).status, goesOn)
      setStatus last
    | .each line name words body =>
      modify fun m => { m with line }
      let values ←
        match words with
        | none => pure (← get).arguments
        | some ws => pure (← ws.mapM (wordFields depth)).flatten
      setStatus 0
      let _ ← repeatedly (values.length + 1) values fun values => do
        match values with
        | [] => return none
        | v :: rest =>
          assign name v
          if ← roundOf (perform depth body) then return some rest else return none
    | .choose line word cases =>
      modify fun m => { m with line }
      let text := (← wordText depth word).toList
      let chosen ← cases.findM? fun (patterns, _) =>
        patterns.anyM fun p => do
          let w := expandTilde (← get) p
          return patternMatches (itemsField (← wordItems depth false w)) text
      match chosen with
      | some (_, body) => if body.isEmpty then setStatus 0 else perform depth body
      | none => setStatus 0
    | .define _ name body =>
      modify fun m =>
        { m with functions := (name, body) :: m.functions.filter (·.1 ≠ name), status := 0 }

/-- Carries out commands side by side; once more with more of what never ends, if there was too
little of it. -/
def performPipeline : Nat → List Nat → List Command → Act Unit
  | 0, _, _ => throw overflow
  | depth + 1, sizes, stages => do
    let before ← get
    match sizes with
    | [] => throw .endless
    | supply :: more =>
      set { before with supply := max supply before.supply, exhausted := false }
      let result ← attempt (performStages depth before.elapsed none stages)
      if (← get).exhausted then
        set before
        performPipeline depth more stages
      else
        modify fun m => { m with supply := before.supply, exhausted := before.exhausted }
        match result with
        | .ok () => return ()
        | .error reason => throw reason

/-- Carries out commands side by side, each of which reads what the one before it writes. One that
goes on for ever ends if it writes and nobody reads on. -/
def performStages : Nat → Nat → Option Connection → List Command → Act Unit
  | 0, _, _, _ => throw overflow
  | depth + 1, start, input, stages => do
    match stages with
    | [] => return ()
    | stage :: more =>
      let finished := (← get).elapsed
      modify fun m => { m with elapsed := start }
      let output ← if more.isEmpty then pure none else some <$> newStream []
      let result ← attempt (inSubshell do
        if input.isSome then connect 0 input
        match output with
        | some n => connect 1 (some (.stream n))
        | none => pure ()
        untilEnd depth (perform depth stage))
      let m ← get
      set { m with elapsed := max finished m.elapsed }
      let cut ←
        match result with
        | .error .endless =>
          let written := ((output.map (streamContent m)).getD []).length
          if written ≤ pipeSize then throw .endless else pure true
        | .error reason => throw reason
        | .ok () => pure false
      match output with
      | some n =>
        modify fun m =>
          { m with
            unending := if cut || m.exhausted then n :: m.unending else m.unending
            exhausted := false }
      | none => pure ()
      performStages depth start (output.map .stream) more

/-- Carries out a function. -/
def callFunction : Nat → Command → List String → Act Unit
  | 0, _, _ => throw overflow
  | depth + 1, body, arguments => do
    let m ← get
    if m.outer.length ≥ functionLimit then
      giveUp ("Maximum function recursion depth (" ++ toString functionLimit ++ ") reached")
    set { m with arguments, outer := [] :: m.outer, loops := 0, optionPlace := (1, 0) }
    let result ← attempt (perform depth body)
    modify fun after =>
      let values := (after.outer.head?).getD []
      let restored := values.foldl (fun s v =>
        match v.2 with
        | some value => s.setVariable v.1 value
        | none => s.unsetVariable v.1) after
      { restored with
        arguments := m.arguments, outer := m.outer, loops := m.loops, optionPlace := m.optionPlace }
    match result with
    | .ok () | .error .back => return ()
    | .error reason => throw reason

/-- Carries out a command by its name; `plain` says that no function is meant, and that a failure is
not the end of the script. -/
def dispatch : Nat → Bool → String → List String → Act Unit
  | 0, _, _, _ => throw overflow
  | depth + 1, plain, name, arguments => do
    let m ← get
    let special := isSpecialBuiltin name && !plain
    match if plain then none else m.functions.lookup name with
    | some body => callFunction depth body arguments
    | none =>
      match builtin? name with
      | some run => inBuiltin special name (run arguments)
      | none =>
        match name with
        | "eval" =>
          inBuiltin special name (performText depth (" ".intercalate arguments).toList)
        | "." => inBuiltin special name (performFile depth arguments)
        | "exec" =>
          inBuiltin special name do
            match arguments with
            | [] => setStatus 0
            | name :: arguments =>
              launch depth m.searched name arguments
              throw .exit
        | "command" =>
          let before := (← get).caller
          match ← attempt (calledBy name (commandRequest arguments >>= fun r => do
              match r with
              | .describe name => describeNames [name]
              | .locate name => locateName name
              | .nothing => setStatus 0
              | .run usual name arguments =>
                modify fun m => { m with caller := before }
                if usual && !isBuiltin name then launch depth usualPath name arguments
                else dispatch depth true name arguments)) with
          | .ok () | .error .failed => return ()
          | .error reason => throw reason
        | "type" => inBuiltin special name (describeNames arguments)
        | "hash" => inBuiltin special name (hashCommand arguments)
        | "kill" => inBuiltin special name (performKill depth arguments)
        | _ => launch depth m.searched name arguments

/-- Sends signals; one to the script itself may be something it does something on. -/
def performKill : Nat → List String → Act Unit
  | 0, _ => throw overflow
  | depth + 1, arguments => do
    match ← killRequest arguments with
    | .list of => listSignals of
    | .send signal targets =>
      setStatus 0
      for target in targets do
        let number ← targetNumber target
        if number ≠ processNumber then signalJob signal number
        else if haltingSignals.contains signal then throw .endless
        else
          let m ← get
          match if signal = 9 then none else m.trap? signal with
          | none => if !harmlessSignals.contains signal then throw (.killed signal)
          | some action =>
            modify fun m => { m with caller := none }
            performText depth action.toList
            modify fun after => { after with status := m.status, caller := m.caller }

/-- Carries out the script in a file. -/
def performFile : Nat → List String → Act Unit
  | 0, _ => throw overflow
  | depth + 1, arguments => do
    match (← optionsOf [] [] arguments).2 with
    | [] => setStatus 0
    | name :: _ =>
      let m ← get
      let path :=
        if name.toList.contains '/' then some name
        else (pathsAlong m.searched name).find? fun path => m.disk.hasFile (unspell path)
      match path with
      | none => giveUp (name ++ ": not found")
      | some path =>
        match m.disk.read (unspell path) with
        | .error e => giveUp ("cannot open " ++ path ++ ": " ++ openingWords "No such file" e)
        | .ok octets =>
          setStatus 0
          match ← attempt (calledBy path (performText depth (ofOctets octets))) with
          | .ok () | .error .back => return ()
          | .error reason => throw reason

/-- Starts the program of a name. -/
def launch : Nat → String → String → List String → Act Unit
  | 0, _, _, _ => throw overflow
  | depth + 1, searched, name, arguments => do
    match findProgram (← get).disk searched name with
    | .ok path =>
      trackProgram name path
      match ← attempt (runProgram depth path name arguments) with
      | .ok () => return ()
      | .error (.killed signal) =>
        warn (deathWords signal)
        setStatus (128 + signal)
      | .error reason => throw reason
    | .error (.notFound, status) =>
      grumble (name ++ ": not found")
      setStatus status
    | .error (.notPermitted, status) =>
      grumble (name ++ ": Permission denied")
      setStatus status

/-- Runs the program in a file, called by a name. -/
def runProgram : Nat → String → String → List String → Act Unit
  | 0, _, _, _ => throw overflow
  | depth + 1, path, name, arguments => do
    let m ← get
    match m.disk.read (unspell path) with
    | .error _ => setStatus 127
    | .ok octets =>
      match Program.ofFile path octets with
      | .script none text => runShell depth path [] text arguments
      | .script (some (interpreter, argument)) _ =>
        if m.disk.hasProgram (unspell interpreter) then
          runProgram depth interpreter interpreter (argument.toList ++ path :: arguments)
        else if m.disk.has (unspell interpreter) then
          grumble (name ++ ": Permission denied")
          setStatus 126
        else
          grumble (name ++ ": not found")
          setStatus 127
      | .native native =>
        if isShell native then startShell depth name arguments
        else if native = "env" then
          match environmentChange (arguments.length + 1) ⟨false, [], [], []⟩ arguments with
          | .error words =>
            warn (name ++ ": " ++ words)
            warn ("Try '" ++ name ++ " --help' for more information.")
            setStatus 125
          | .ok change =>
            inSubshell do
              modify (·.withEnvironment change)
              let m ← get
              let searched := if (m.bindings.lookup "PATH").isSome then m.searched else usualPath
              match change.command with
              | [] =>
                runUtility name
                  (fun s => s.prints (unlines (s.environment.map fun v =>
                    (v.1 ++ "=" ++ v.2).toList))) []
              | program :: arguments =>
                match findProgram m.disk searched program with
                | .ok path => runProgram depth path program arguments
                | .error (missing, _) =>
                  let (words, status) : String × Nat :=
                    if missing = .notFound then ("No such file or directory", 127)
                    else ("Permission denied", 126)
                  warn (name ++ ": " ++ inShellQuotes program ++ ": " ++ words)
                  setStatus status
        else if native = "xargs" then
          let m ← get
          let complain (words : String) : Act Unit := do
            warn (name ++ ": " ++ words)
            setStatus 1
          match gathering ⟨name, arguments, [], none, [], m.disk, 0⟩ with
          | .error words => complain words
          | .ok g =>
            match g.commands (← takeAll) with
            | .error words => complain words
            | .ok commands =>
              inSubshell do
                connect 0 (some .sink)
                performGathered depth name g.shows commands 0
        else
          match utility? native with
          | some run => runUtility name run arguments
          | none =>
            match builtin? native with
            | some run => inSubshell (inBuiltin false name (run arguments))
            | none =>
              grumble (name ++ ": Exec format error")
              setStatus 126

/-- Carries out commands one after the other, where `sofar` is the status if none fails any more. -/
def performGathered : Nat → String → Bool → List (List String) → Nat → Act Unit
  | 0, _, _, _, _ => throw overflow
  | depth + 1, name, shows, commands, sofar => do
    match commands with
    | [] => setStatus sofar
    | command :: rest =>
      let m ← get
      let program := command.headD ""
      if shows then warn (" ".intercalate command)
      match findProgram m.disk m.searched program with
      | .error (missing, status) =>
        let words :=
          if missing = .notFound then "No such file or directory" else "Permission denied"
        warn (name ++ ": " ++ program ++ ": " ++ words)
        setStatus status
      | .ok path =>
        runProgram depth path program (command.drop 1)
        let status := (← get).status
        match gatheredStatus? sofar status with
        | some sofar => performGathered depth name shows rest sofar
        | none =>
          if status = 255 then
            warn (name ++ ": " ++ program ++ ": exited with status 255; aborting")
            setStatus 124
          else setStatus (if status < 128 then status else 125)

/-- Starts a shell as its arguments say. -/
def startShell : Nat → String → List String → Act Unit
  | 0, _, _ => throw overflow
  | depth + 1, name, arguments => do
    let refuse (words : String) : Act Unit := do
      warn (name ++ ": 0: " ++ words)
      setStatus 2
    match shellStart (arguments.length + 1) ⟨[], false, false, []⟩ arguments with
    | .error words => refuse words
    | .ok start =>
      match start.given, start.arguments with
      | true, [] => refuse "-c requires an argument"
      | true, [text] => runShell depth name start.options text.toList []
      | true, text :: called :: arguments =>
        runShell depth called start.options text.toList arguments
      | false, operands =>
        match operands, start.fromInput with
        | script :: arguments, false =>
          match (← get).disk.read (unspell script) with
          | .ok octets => runShell depth script start.options (ofOctets octets) arguments
          | .error e =>
            refuse ("cannot open " ++ script ++ ": " ++ openingWords "No such file" e)
        | arguments, _ => runShell depth name ('s' :: start.options) (← takeAll) arguments

/-- Runs a shell on a script. -/
def runShell : Nat → String → List Char → List Char → List String → Act Unit
  | 0, _, _, _, _ => throw overflow
  | depth + 1, name, options, text, arguments => do
    inSubshell do
      modify fun m =>
        let own := ["IFS", "OPTIND", "PWD"]
        let seen := m.environment.filter fun v => !own.contains v.1
        let usual := [("PATH", usualPath), ("PS1", "# "), ("PS2", "> "), ("PS4", "+ ")]
        { m with
          bindings :=
            [("IFS", " \t\n"), ("OPTIND", "1"), ("PWD", spell m.disk.cwdPath)] ++ seen ++
              usual.filter fun v => !seen.any (·.1 = v.1)
          fixed := []
          exported := "PWD" :: seen.map (·.1)
          name
          arguments
          functions := []
          outer := []
          options
          status := 0
          loops := 0
          lenient := false
          line := 1
          caller := none
          tracked := []
          aliases := []
          documents := []
          optionPlace := (1, 0) }
      untilEnd depth (performText depth text)

/-- Carries out a text, line by line. -/
def performText : Nat → List Char → Act Unit
  | 0, _ => throw overflow
  | depth + 1, text => do
    let _ ← repeatedly (text.length + 2) (Cursor.start text) fun cursor => do
      let m ← get
      let names := (m.aliases.map fun a => a.2.length).foldl (· + ·) 0
      let fuel := 8 * (text.length + 1) * (names + 1) + 100
      let start := { cursor with aliases := m.aliases, fresh := m.fresh, documents := [] }
      match nextLine fuel start with
      | .error trouble =>
        modify fun m => { m with line := trouble.line }
        giveUp trouble.words
      | .ok none => return none
      | .ok (some (command, rest)) =>
        modify fun m => { m with documents := rest.documents ++ m.documents, fresh := rest.fresh }
        if m.options.contains 'v' then
          let read := cursor.rest.take (cursor.rest.length - rest.rest.length)
          let _ ← emit 2 read
        if !m.options.contains 'n' then perform depth command
        return some rest

end

end AgentConsole.Shell
