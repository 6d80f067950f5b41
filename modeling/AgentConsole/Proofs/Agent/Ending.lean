import AgentConsole.Proofs.Agent.Trial
import AgentConsole.Proofs.Wire

/-!
# What a run comes to

A request that is run with nothing else going on (`Host.run`) goes one of the ways of `Ran`: there is
no script, the request file cannot be made or is not taken by the system, or the runner is called
once, with the request in a file that is given up at the end (`GivenUp`). What is then told depends
on what became of that one call (`Reported`).
-/

namespace AgentConsole.Agent

open AgentConsole.Files AgentConsole.Setup AgentConsole.Text

/-- Starts a request, lets the time of its run come and ends it; none if the runner broke down. -/
def Host.run (h : Host) (w : Workspace) (r : Request) :
    Workspace × Option (Except AgentError String) :=
  match h.start w r with
  | (w, .done result) => (w, some result)
  | (w, .called call) => (call.release { w with now := max w.now call.timer }, call.result? h)

/-- The first of the paths that leads to a file. -/
def IsFirstFile (d : Disk) (paths : List String) (path : String) : Prop :=
  ∃ before after, paths = before ++ path :: after ∧ (∀ p ∈ before, d.hasFile p = false) ∧
    d.hasFile path = true

/-- The paths a script is looked for at under these settings. -/
def scriptPaths (s : Settings) : List String :=
  candidates s.roots s.installDirectory s.script

/-- What is told of a run that the runner answered so, and after how many milliseconds. -/
inductive Reported (s : Settings) (i : Invocation) (a : Answer) :
    Nat → Option (Except AgentError String) → Prop
  | timeout (h : ∀ delay, a.delay = some delay → s.timeout < delay) :
    Reported s i a s.timeout (some (.error (.timeout s.timeout)))
  | spawn {delay : Nat} {cause : IoError} (hd : a.delay = some delay) (ht : delay ≤ s.timeout)
      (he : a.ending = .failure cause) :
    Reported s i a delay (some (.error (.spawn i.line cause)))
  | execution {delay : Nat} {o : Outcome} (hd : a.delay = some delay) (ht : delay ≤ s.timeout)
      (he : a.ending = .exit o) (hc : o.exitCode ≠ 0) :
    Reported s i a delay (some (.error (.execution o.exitCode o.stderr)))
  | silent {delay : Nat} {o : Outcome} (hd : a.delay = some delay) (ht : delay ≤ s.timeout)
      (he : a.ending = .exit o) (hc : o.exitCode = 0) (hout : o.stdout = "") (herr : o.stderr = "") :
    Reported s i a delay (some (.ok "Agent script executed successfully with no output."))
  | plain {delay : Nat} {o : Outcome} (hd : a.delay = some delay) (ht : delay ≤ s.timeout)
      (he : a.ending = .exit o) (hc : o.exitCode = 0) (hout : o.stdout ≠ "") (herr : o.stderr = "") :
    Reported s i a delay (some (.ok o.stdout))
  | warned {delay : Nat} {o : Outcome} (hd : a.delay = some delay) (ht : delay ≤ s.timeout)
      (he : a.ending = .exit o) (hc : o.exitCode = 0) (herr : o.stderr ≠ "") :
    Reported s i a delay (some (.ok (o.stdout ++ "\n\nWarnings/Errors:\n" ++ o.stderr)))
  | panic {delay : Nat} (hd : a.delay = some delay) (ht : delay ≤ s.timeout)
      (he : a.ending = .panic) : Reported s i a delay none

/-- This is the first number from `first` on whose name the directory with the path does not have. -/
structure FirstFree (d : Disk) (base : String) (now first number : Nat) : Prop where
  le : first ≤ number
  free : requestFileName now number ∉ (d.names base).toOption.getD []
  before : ∀ k, first ≤ k → k < number → requestFileName now k ∈ (d.names base).toOption.getD []

/-- The directory of request files has been made, and the next one is to have this path in it. -/
structure Next (w : Workspace) (directory : String) (d : Disk) (number : Nat) (path : String) :
    Prop where
  made : w.disk.makeDirectories directory = (d, .ok ())
  first : FirstFree d (join d.cwdPath directory) w.now w.minted number
  path : path = join (join d.cwdPath directory) (requestFileName w.now number)

/-- The file was removed if its path led to it, and else the disk stayed as it was; in either case
the path leads to nothing any more but a directory made in the file's place. -/
structure GivenUp (f : RequestFile) (d d' : Disk) : Prop where
  removed : d.find f.path = .ok f.location → d.isDirectoryAt f.location = false →
    d' = d.erase f.location
  left : d.find f.path ≠ .ok f.location ∨ d.isDirectoryAt f.location → d' = d
  gone : ∀ e, d'.entry? f.path = some e → e = .directory

/-- The ways a request is run, with the workspace that is left and what is told. -/
inductive Ran (h : Host) (w : Workspace) (r : Request) :
    Workspace → Option (Except AgentError String) → Prop
  | missing (hs : ∀ p ∈ scriptPaths h.settings, w.disk.hasFile p = false) :
    Ran h w r w (some (.ok ("Error: Agent script not found at " ++ h.settings.script ++
      "\n\nCommand that would have been executed:\n" ++
      commandLine h.settings.interpreter h.settings.script none h.settings.extraArguments ++
      "\n\nPlease check the 'script_path' setting.")))
  | blocked {script : String} {d : Disk} {cause : IoError}
      (hs : IsFirstFile w.disk (scriptPaths h.settings) script)
      (hd : w.disk.makeDirectories h.settings.requestDirectory = (d, .error cause)) :
    Ran h w r { w with disk := d } (some (.error (.requestFile h.settings.requestDirectory cause)))
  | unplaced {script path : String} {d : Disk} {number : Nat} {cause : IoError}
      (hs : IsFirstFile w.disk (scriptPaths h.settings) script)
      (hn : Next w h.settings.requestDirectory d number path) (hp : d.place path = .error cause) :
    Ran h w r { w with disk := d }
      (some (.error (.requestFile h.settings.requestDirectory (atPath cause path))))
  | unwritten {script path : String} {d : Disk} {number : Nat} {l : Location} {cause : IoError}
      (hs : IsFirstFile w.disk (scriptPaths h.settings) script)
      (hn : Next w h.settings.requestDirectory d number path) (hp : d.place path = .ok l)
      (hr : w.refusal w.minted r = some cause) :
    Ran h w r { w with disk := d, minted := number + 1 }
      (some (.error (.requestFile h.settings.requestDirectory (atPath cause path))))
  | called {script : String} {d there left after : Disk} {number : Nat} {file : RequestFile}
      {i : Invocation} {a : Answer} {elapsed : Nat} {result : Option (Except AgentError String)}
      (hs : IsFirstFile w.disk (scriptPaths h.settings) script)
      (hn : Next w h.settings.requestDirectory d number file.path)
      (hp : d.place file.path = .ok file.location) (hr : w.refusal w.minted r = none)
      (hfree : d.at? file.location = none)
      (hput : there = d.put file.location (.file (Utf8.encode r.fileText) false))
      (hi : i.interpreter = h.settings.interpreter)
      (ha : i.arguments = [script, "--input-file", file.path] ++ h.settings.extraArguments)
      (hread : there.readText file.path = .ok r.fileText)
      (htext : Request.shape.reader.readAll r.fileText = .ok r)
      (hcall : h.runner w.runs.length i there = (left, a)) (hup : GivenUp file left after)
      (hrep : Reported h.settings i a elapsed result) :
    Ran h w r { w with
      disk := after
      now := w.now + elapsed
      minted := number + 1
      runs := (i, r.fileText) :: w.runs } result

section Script

variable {d : Disk} {roots : List String} {installDirectory script path : String}

theorem isFirstFile_iff {paths : List String} :
    IsFirstFile d paths path ↔ paths.find? d.hasFile = some path := by
  rw [List.find?_eq_some_iff_append]
  constructor
  · rintro ⟨before, after, hp, hb, hf⟩
    exact ⟨hf, before, after, hp, fun p hmem => by simp [hb p hmem]⟩
  · rintro ⟨hf, before, after, hp, hb⟩
    exact ⟨before, after, hp, fun p hmem => by simpa using hb p hmem, hf⟩

theorem resolve_of_isFirstFile
    (h : IsFirstFile d (candidates roots installDirectory script) path) :
    resolve d roots installDirectory script = .found path := by
  rw [resolve, isFirstFile_iff.1 h]

theorem resolve_of_forall
    (h : ∀ p ∈ candidates roots installDirectory script, d.hasFile p = false) :
    resolve d roots installDirectory script = .missing script := by
  have hnone : (candidates roots installDirectory script).find? d.hasFile = none :=
    List.find?_eq_none.2 fun p hp => by simp [h p hp]
  rw [resolve, hnone]

/-- Either no candidate is a file, or there is a first one that is. -/
theorem scriptPaths_cases (d : Disk) (s : Settings) :
    (∀ p ∈ scriptPaths s, d.hasFile p = false) ∨ ∃ path, IsFirstFile d (scriptPaths s) path := by
  cases hf : (scriptPaths s).find? d.hasFile with
  | none => exact .inl fun p hp => by simpa using List.find?_eq_none.1 hf p hp
  | some path => exact .inr ⟨path, isFirstFile_iff.2 hf⟩

end Script

section Report

variable {s : Settings} {i : Invocation} {a : Answer} {elapsed : Nat}
variable {result : Option (Except AgentError String)}

/-- How many milliseconds a run takes that the runner answered so. -/
def Answer.lasting (a : Answer) (s : Settings) : Nat :=
  (a.delay.filter (decide <| · ≤ s.timeout)).getD s.timeout

theorem lasting_of_le {delay : Nat} (hd : a.delay = some delay) (ht : delay ≤ s.timeout) :
    a.lasting s = delay := by
  simp [Answer.lasting, hd, Option.filter, ht]

theorem verdict_of_le {delay : Nat} (hd : a.delay = some delay) (ht : delay ≤ s.timeout) :
    a.verdict? s i =
      match a.ending with
      | .panic => none
      | .failure cause => some (.error (.spawn i.line cause))
      | .exit outcome => some outcome.reply := by
  have hle : a.delay.any (decide <| · ≤ s.timeout) := by simpa [hd] using ht
  exact if_pos hle

theorem lasting_of_late (h : ∀ delay, a.delay = some delay → s.timeout < delay) :
    a.lasting s = s.timeout ∧ a.verdict? s i = some (.error (.timeout s.timeout)) := by
  cases hd : a.delay with
  | none => simp [Answer.lasting, Answer.verdict?, hd]
  | some delay =>
    have hlt : ¬delay ≤ s.timeout := Nat.not_le.2 (h delay hd)
    simp [Answer.lasting, Answer.verdict?, hd, Option.filter, hlt]

theorem Reported.eq (h : Reported s i a elapsed result) :
    a.lasting s = elapsed ∧ a.verdict? s i = result := by
  cases h with
  | timeout hlate => exact lasting_of_late hlate
  | spawn hd ht he | panic hd ht he =>
    rw [verdict_of_le hd ht, he]
    exact ⟨lasting_of_le hd ht, rfl⟩
  | execution hd ht he hc =>
    rw [verdict_of_le hd ht, he]
    refine ⟨lasting_of_le hd ht, ?_⟩
    simp [Outcome.reply, hc]
  | silent hd ht he hc hout herr | plain hd ht he hc hout herr =>
    rw [verdict_of_le hd ht, he]
    refine ⟨lasting_of_le hd ht, ?_⟩
    simp [Outcome.reply, hc, hout, herr, noOutputMessage]
  | warned hd ht he hc herr =>
    rw [verdict_of_le hd ht, he]
    refine ⟨lasting_of_le hd ht, ?_⟩
    simp [Outcome.reply, hc, herr]

/-- Of a script that exits in time, what it wrote and its exit code are told. -/
theorem reported_of_exit {delay : Nat} {o : Outcome} (hd : a.delay = some delay)
    (ht : delay ≤ s.timeout) (he : a.ending = .exit o) : Reported s i a delay (some o.reply) := by
  unfold Outcome.reply
  by_cases hc : o.exitCode = 0
  · rw [if_neg (not_not.2 hc)]
    by_cases herr : o.stderr = ""
    · rw [if_neg (by simp [herr])]
      by_cases hout : o.stdout = ""
      · rw [if_pos (by simp [hout])]
        exact .silent hd ht he hc hout herr
      · rw [if_neg (by simpa using hout)]
        exact .plain hd ht he hc hout herr
    · rw [if_pos (by simpa using herr)]
      exact .warned hd ht he hc herr
  · rw [if_pos hc]
    exact .execution hd ht he hc

/-- Of every answer something is told, and nothing else. -/
theorem reported (s : Settings) (i : Invocation) (a : Answer) :
    Reported s i a (a.lasting s) (a.verdict? s i) := by
  by_cases hlate : ∀ delay, a.delay = some delay → s.timeout < delay
  · obtain ⟨hl, hv⟩ := lasting_of_late (i := i) hlate
    rw [hl, hv]
    exact .timeout hlate
  · simp only [not_forall, Nat.not_lt] at hlate
    obtain ⟨delay, hd, ht⟩ := hlate
    rw [lasting_of_le hd ht, verdict_of_le hd ht]
    cases he : a.ending with
    | panic => exact .panic hd ht he
    | failure cause => exact .spawn hd ht he
    | exit outcome => exact reported_of_exit hd ht he

/-- What is told is that it took too long just when it did. -/
theorem Reported.timeout_iff {outcome : Except AgentError String}
    (h : Reported s i a elapsed (some outcome)) :
    outcome = .error (.timeout s.timeout) ↔ ∀ delay, a.delay = some delay → s.timeout < delay := by
  cases h with
  | timeout hlate => exact ⟨fun _ => hlate, fun _ => rfl⟩
  | spawn hd ht | execution hd ht | silent hd ht | plain hd ht | warned hd ht =>
    refine ⟨fun he => (by cases he), fun hlate => ?_⟩
    exact absurd (hlate _ hd) (Nat.not_lt.2 ht)

theorem append_ne_empty {s t : String} (h : s ≠ "") : s ++ t ≠ "" :=
  fun ht => h (String.append_eq_empty_iff.1 ht).1

theorem Reported.text_ne_empty {text : String} (h : Reported s i a elapsed (some (.ok text))) :
    text ≠ "" := by
  cases h with
  | silent => decide
  | plain _ _ _ _ hout => exact hout
  | warned _ _ _ _ herr => exact fun h => herr (String.append_eq_empty_iff.1 h).2

end Report

section Place

variable {w : Workspace} {d d' : Disk} {directory path : String} {number : Nat} {f : RequestFile}

theorem firstFree_iff : FirstFree d (join d.cwdPath directory) w.now w.minted number ↔
    number = nextNumber w d directory := by
  constructor
  · intro h
    rcases Nat.lt_trichotomy number (nextNumber w d directory) with hlt | heq | hgt
    · exact absurd (mem_of_lt_freeNumber h.le hlt) h.free
    · exact heq
    · exact absurd (h.before _ (le_nextNumber w d directory) hgt) (nextNumber_free w d directory)
  · rintro rfl
    exact ⟨le_nextNumber w d directory, nextNumber_free w d directory,
      fun _ => mem_of_lt_freeNumber⟩

theorem Next.placed (h : Next w directory d number f.path) (hp : d.place f.path = .ok f.location) :
    Placed w directory d number f :=
  ⟨h.made, firstFree_iff.1 h.first, h.path, hp⟩

theorem Placed.toNext (h : Placed w directory d number f) : Next w directory d number f.path :=
  ⟨h.made, firstFree_iff.2 h.next, h.path⟩

/-- There is one thing that can be left when a request file is given up. -/
theorem RequestFile.Steady.givenUp_iff (hf : f.Steady) : GivenUp f d d' ↔ d' = f.giveUp d := by
  have hgone (e : Entry) := hf.entry?_giveUp d (e := e)
  by_cases hfind : d.find f.path = .ok f.location
  · rw [giveUp_of_find hfind] at hgone ⊢
    cases hdir : d.isDirectoryAt f.location with
    | true =>
      simp only [hdir, if_true] at hgone ⊢
      refine ⟨fun h => h.left (.inr hdir), ?_⟩
      rintro rfl
      exact ⟨fun _ h => absurd (hdir.symm.trans h) (by simp), fun _ => rfl, hgone⟩
    | false =>
      simp only [hdir, Bool.false_eq_true, if_false] at hgone ⊢
      refine ⟨fun h => h.removed hfind hdir, ?_⟩
      rintro rfl
      refine ⟨fun _ _ => rfl, fun h => ?_, hgone⟩
      rcases h with h | h
      · exact absurd hfind h
      · exact absurd (hdir.symm.trans h) (by simp)
  · rw [hf.giveUp_of_find_ne hfind] at hgone ⊢
    refine ⟨fun h => h.left (.inl hfind), ?_⟩
    rintro rfl
    exact ⟨fun h => absurd h hfind, fun _ => rfl, hgone⟩

end Place

section Run

variable {h : Host} {w w' : Workspace} {r : Request} {d : Disk} {number : Nat} {f : RequestFile}

/-- A call lasts as long as its answer says, from when it was made. -/
theorem timer_eq {call : Call} {now : Nat} (hdue : call.due = call.answer.delay.map (now + ·))
    (hdeadline : call.deadline = now + h.settings.timeout) :
    call.timer = now + call.answer.lasting h.settings := by
  unfold Call.timer Call.answersAt? Answer.lasting
  rw [hdue, hdeadline]
  cases call.answer.delay with
  | none => rfl
  | some delay => by_cases ht : delay ≤ h.settings.timeout <;> simp [Option.filter, ht]

/-- What a run with a request file that was made comes to. -/
theorem run_of_placed {script : String} {i : Invocation} {left : Disk} {a : Answer}
    (hs : IsFirstFile w.disk (scriptPaths h.settings) script)
    (hf : Placed w h.settings.requestDirectory d number f) (hr : w.refusal w.minted r = none)
    (hi : i = ⟨h.settings.interpreter, script, f.path, h.settings.extraArguments⟩)
    (hc : h.runner w.runs.length i (d.put f.location (.file (Utf8.encode r.fileText) false)) =
      (left, a)) :
    h.run w r = ({ w with
      disk := f.giveUp left
      now := w.now + a.lasting h.settings
      minted := number + 1
      runs := (i, r.fileText) :: w.runs }, a.verdict? h.settings i) := by
  obtain ⟨v, hv⟩ : ∃ v : Workspace, v = { w with
    disk := d.put f.location (.file (Utf8.encode r.fileText) false)
    minted := number + 1 } := ⟨_, rfl⟩
  rcases hcall : h.call v script f with ⟨u, call⟩
  have hthere : v.disk.at? f.location = some (.file (Utf8.encode r.fileText) false) := by
    rw [hv, Disk.at?_put _ _ _ _ (Disk.ne_nil_of_at?_eq_none hf.spec.2), if_pos rfl]
  have hrun : h.runner v.runs.length i v.disk = (left, a) := by rw [hv, hc]
  have hu : u = { v with disk := left, runs := (i, r.fileText) :: w.runs } := by
    have hcall' := congrArg Prod.fst hcall
    unfold Host.call at hcall'
    simp only [hthere, ← hi, hrun, Utf8.decodeLossy_encode] at hcall'
    rw [← hcall', hv]
  have hinv : call.invocation = i := (invocation_of_call hcall).trans hi.symm
  have hanswer : call.answer = a := by
    have hcall' := congrArg Prod.snd hcall
    unfold Host.call at hcall'
    simp only [← hi, hrun] at hcall'
    rw [← hcall']
  obtain ⟨hdue, hdeadline⟩ := times_of_call hcall
  have htimer := timer_eq hdue hdeadline
  have hresult := verdict_of_call hcall
  rw [hinv, hrun] at hresult
  rw [hanswer, hv] at htimer
  rw [Host.run, Host.start, resolve_of_isFirstFile hs]
  simp only
  rw [hr, create_of_placed hf, ← hv]
  simp only [hcall]
  rw [hresult, htimer, Call.release, file_of_call hcall, hu, hv,
    Nat.max_eq_right (Nat.le_add_right _ _)]

theorem run_of_error {script : String} {e : AgentError}
    (hs : IsFirstFile w.disk (scriptPaths h.settings) script)
    (hc : RequestFile.create w h.settings.requestDirectory r (w.refusal w.minted r) =
      (w', .error e)) : h.run w r = (w', some (.error e)) := by
  rw [Host.run, Host.start, resolve_of_isFirstFile hs]
  simp only [hc]

/-- A request is run in one of the ways there are. -/
theorem ran_run (h : Host) (w : Workspace) (r : Request) :
    Ran h w r (h.run w r).1 (h.run w r).2 := by
  rcases scriptPaths_cases w.disk h.settings with hnone | ⟨script, hs⟩
  · rw [Host.run, Host.start, resolve_of_forall hnone]
    exact .missing hnone
  rcases placing_cases w h.settings.requestDirectory with
    ⟨d, e, hd⟩ | ⟨d, hd, ⟨e, hp⟩ | ⟨f, hf⟩⟩
  · rw [run_of_error hs (create_of_error hd)]
    exact .blocked hs hd
  · rw [run_of_error hs (create_of_place_error hd rfl hp)]
    exact .unplaced hs ⟨hd, firstFree_iff.2 rfl, rfl⟩ hp
  cases hr : w.refusal w.minted r with
  | some e =>
    rw [run_of_error hs (hr ▸ create_of_refusal hf)]
    exact .unwritten hs hf.toNext hf.place hr
  | none =>
    have hmade : Made w r f _ := .intro hf
    rw [run_of_placed hs hf hr rfl rfl]
    exact .called hs hf.toNext hf.place hr hf.spec.2 rfl rfl rfl hmade.readText r.readAll_fileText
      rfl (hf.steady.givenUp_iff.2 rfl) (reported _ _ _)

theorem IsFirstFile.unique {d : Disk} {paths : List String} {p p' : String}
    (hp : IsFirstFile d paths p) (hp' : IsFirstFile d paths p') : p = p' := by
  rw [isFirstFile_iff] at hp hp'
  cases hp.symm.trans hp'
  rfl

/-- There is one way to run a request. -/
theorem Ran.eq {result : Option (Except AgentError String)} (hran : Ran h w r w' result) :
    h.run w r = (w', result) := by
  cases hran with
  | missing hs =>
    rw [Host.run, Host.start, resolve_of_forall hs]
    rfl
  | blocked hs hd => exact run_of_error hs (create_of_error hd)
  | unplaced hs hn hp =>
    refine run_of_error hs (create_of_place_error hn.made ?_ hp)
    rw [hn.path, firstFree_iff.1 hn.first]
    rfl
  | @unwritten script path d number l cause hs hn hp hr =>
    have hf : Placed w h.settings.requestDirectory d number ⟨path, l⟩ := Next.placed hn hp
    have hc := create_of_refusal (r := r) (e := cause) hf
    rw [← hr] at hc
    exact run_of_error hs hc
  | @called script d there left after number f i a elapsed _ hs hn hp hr hfree hput hi ha hread
      htext hcall hup hrep =>
    have hf := hn.placed hp
    obtain ⟨rfl, rfl⟩ := hrep.eq
    have hinv : i = ⟨h.settings.interpreter, script, f.path, h.settings.extraArguments⟩ := by
      obtain ⟨interpreter, script', path, extra⟩ := i
      simp only [Invocation.arguments, List.cons_append, List.nil_append, List.cons.injEq] at ha
      obtain ⟨rfl, -, rfl, rfl⟩ := ha
      obtain rfl : interpreter = _ := hi
      rfl
    rw [run_of_placed hs hf hr hinv (hput ▸ hcall), hf.steady.givenUp_iff.1 hup]

theorem run_eq_iff {result : Option (Except AgentError String)} :
    h.run w r = (w', result) ↔ Ran h w r w' result := by
  constructor
  · intro heq
    have hran := ran_run h w r
    rwa [heq] at hran
  · exact Ran.eq

/-- A text that is told is never empty. -/
theorem Ran.text_ne_empty {text : String} (hran : Ran h w r w' (some (.ok text))) : text ≠ "" := by
  cases hran with
  | missing =>
    have hfirst : "Error: Agent script not found at " ≠ "" := by decide
    iterate 4 refine append_ne_empty ?_
    exact hfirst
  | called _ _ _ _ _ _ _ _ _ _ _ _ hrep => exact hrep.text_ne_empty

end Run

end AgentConsole.Agent
