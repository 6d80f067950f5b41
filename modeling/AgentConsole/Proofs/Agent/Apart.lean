import AgentConsole.Proofs.Agent.Ending
import AgentConsole.Proofs.Files.Traces
import Mathlib.Data.List.Find

/-!
# Runs apart from each other

When a request is started in two workspaces and finds the same there, the runs differ in nothing but
the names of their request files (`Begun.like`), and so do the outcomes if the answers are the same
(`Call.Like.result?`). What a request finds is not changed by the request files of other runs and
by the directory they are in, if these leave no trace that it could find (`Discreet`).
-/

namespace AgentConsole.Agent

open AgentConsole.Files AgentConsole.Setup AgentConsole.Text

/-- The calls differ in nothing but the name of the request file. -/
structure Call.Like (c c' : Call) : Prop where
  answer : c'.answer = c.answer
  due : c'.due = c.due
  deadline : c'.deadline = c.deadline
  invocation : ∃ (i : Invocation) (d : Disk) (directory : String) (now number now' number' : Nat),
    c.invocation = { i with inputFile := requestPath d directory now number } ∧
      c'.invocation = { i with inputFile := requestPath d directory now' number' }

/-- What the requests came to differs in nothing but the name of the request file. -/
inductive Started.Like : Started → Started → Prop
  | done {o o' : Except AgentError String} (h : Alike o o') : Started.Like (.done o) (.done o')
  | called {c c' : Call} (h : c.Like c') : Started.Like (.called c) (.called c')

variable {host : Host} {w w' w₁ w₂ w₁' w₂' : Workspace} {r : Request} {p : Prospect}
variable {d d' : Disk} {directory : String} {c c' : Call}

section Paths

theorem requestPath_congr (h : d'.cwd = d.cwd) (directory : String) (now number : Nat) :
    requestPath d' directory now number = requestPath d directory now number := by
  unfold requestPath Disk.cwdPath
  rw [h]

theorem exists_nextPath (w : Workspace) (directory : String) :
    ∃ number, nextPath w directory = requestPath w.disk directory w.now number := by
  rw [nextPath_of_makeDirectories rfl]
  exact ⟨_, requestPath_congr (w.disk.makeDirectories_grows directory).cwd _ _ _⟩

end Paths

section Likeness

theorem Call.Like.timer (h : c.Like c') : c'.timer = c.timer := by
  unfold Call.timer Call.answersAt?
  rw [h.due, h.deadline]

theorem Call.Like.result? (h : c.Like c') (host : Host) :
    Option.Rel Alike (c.result? host) (c'.result? host) := by
  unfold Call.result? Call.answersAt?
  rw [h.due, h.deadline, h.answer]
  split
  · exact .some (.refl _)
  · cases c.answer.ending with
    | panic => exact .none
    | failure cause =>
      obtain ⟨i, d, directory, now, number, now', number', hi, hi'⟩ := h.invocation
      rw [hi, hi']
      exact .some (.spawn i d directory cause now number now' number')
    | exit outcome => exact .some (.refl _)

/-- Requests that find the same are started alike, as long as the runner answers them alike. -/
theorem Begun.like {started₁ started₂ : Started} (h₁ : Begun host w₁ r p w₁' started₁)
    (h₂ : Begun host w₂ r p w₂' started₂) (hnow : w₂.now = w₁.now)
    (hcwd : w₂.disk.cwd = w₁.disk.cwd)
    (ha : ∀ c₁ c₂, started₁ = .called c₁ → started₂ = .called c₂ → c₂.answer = c₁.answer) :
    started₁.Like started₂ := by
  obtain ⟨n₁, hpath₁⟩ := exists_nextPath w₁ host.settings.requestDirectory
  obtain ⟨n₂, hpath₂⟩ := exists_nextPath w₂ host.settings.requestDirectory
  rw [requestPath_congr hcwd, hnow] at hpath₂
  cases h₁ with
  | missing => cases h₂ with | missing => exact .done (.refl _)
  | blocked => cases h₂ with | blocked => exact .done (.refl _)
  | refused _ _ hn₁ =>
    cases h₂ with
    | refused _ _ hn₂ =>
      rw [← hn₁, ← hn₂, hpath₁, hpath₂]
      exact .done (.requestFile _ _ _ _ _ _ _)
  | @called script _ _ _ _ c₁ _ _ hn₁ _ hc₁ =>
    cases h₂ with
    | @called _ _ _ _ _ c₂ _ _ hn₂ _ hc₂ =>
      have hanswer := ha c₁ c₂ rfl rfl
      obtain ⟨hdue₁, hdeadline₁⟩ := times_of_call hc₁
      obtain ⟨hdue₂, hdeadline₂⟩ := times_of_call hc₂
      refine .called ⟨hanswer, ?_, ?_, ?_⟩
      · rw [hdue₁, hdue₂, hanswer, hnow]
      · rw [hdeadline₁, hdeadline₂, hnow]
      · refine ⟨⟨host.settings.interpreter, script, "", host.settings.extraArguments⟩, w₁.disk,
          host.settings.requestDirectory, w₁.now, n₁, w₁.now, n₂, ?_, ?_⟩
        · rw [invocation_of_call hc₁, ← hn₁, hpath₁]
        · rw [invocation_of_call hc₂, ← hn₂, hpath₂]

/-- What a request comes to depends on the settings, on the disk and whether the system takes what
is written to it, on the time and the number in the name of its file, and on the answer it gets. -/
theorem run_congr {host' : Host} (hs : host'.settings = host.settings) (hd : w'.disk = w.disk)
    (hnow : w'.now = w.now) (hm : w'.minted = w.minted) {r : Request}
    (hr : w'.refusal w'.minted r = w.refusal w.minted r)
    (ha : ∀ i d, (host'.runner w'.runs.length i d).2 = (host.runner w.runs.length i d).2) :
    (host'.run w' r).2 = (host.run w r).2 := by
  have hpath (directory : String) : nextPath w' directory = nextPath w directory := by
    unfold nextPath nextNumber
    rw [hd, hnow, hm]
  unfold Host.run
  rcases hstart : host.start w r with ⟨v, started⟩
  rcases hstart' : host'.start w' r with ⟨v', started'⟩
  have hb := begun_of_start hstart
  have hb' := begun_of_start hstart'
  rw [hs, hd, hpath, hr] at hb'
  generalize prospect host.settings w.disk (nextPath w host.settings.requestDirectory)
    (w.refusal w.minted r) = p at hb hb'
  cases hb with
  | missing =>
    cases hb' with
    | missing => simp only [hs]
  | blocked =>
    cases hb' with
    | blocked => simp only [hs]
  | refused _ _ hn =>
    cases hb' with
    | refused _ _ hn' =>
      rw [hs, hpath, hn] at hn'
      simp only [hs, hn']
  | @called _ _ _ f _ _ _ hf hn _ hc =>
    cases hb' with
    | @called _ _ _ f' _ _ _ hf' hn' _ hc' =>
      have hmade := hf'.made
      rw [hs, hd, hf.made] at hmade
      cases hmade
      rw [hs, hpath, hn] at hn'
      have hplace := hf.place
      rw [hn', hf'.place, Except.ok.injEq] at hplace
      simp only
      rw [verdict_of_call hc', verdict_of_call hc, invocation_of_call hc', invocation_of_call hc, hs,
        hn', hplace]
      exact congrArg (Answer.verdict? · host.settings _) (ha _ _)

end Likeness

section Discretion

/-- The name of some request file. -/
def IsRequestFileName (name : String) : Prop :=
  ∃ now number, name = requestFileName now number

/-- Runs that start from this disk do not change what others find: the script is found where it is,
whether the directory of request files has been made or not, and is not looked for among them; and
if that directory cannot be made, the reason stays the same. -/
structure Discreet (host : Host) (d : Disk) : Prop where
  rooted : d.Rooted
  names : ∀ path ∈ scriptPaths host.settings, ∀ segment ∈ segments path,
    ¬IsRequestFileName segment
  program : host.program (d.makeDirectories host.settings.requestDirectory).1 = host.program d
  again : ∀ d' e, d.makeDirectories host.settings.requestDirectory = (d', .error e) →
    d'.makeDirectories host.settings.requestDirectory = (d', .error e)

/-- The disk is as it was at first, or as it is when the directory of request files has been made,
but for these request files; there are none before the directory has been made. -/
structure Unmarked (host : Host) (d₀ : Disk) (ls : List Location) (d : Disk) : Prop where
  named : Disk.Named IsRequestFileName ls
  bare : d.without ls = d₀ ∨
    d.without ls = (d₀.makeDirectories host.settings.requestDirectory).1
  made : ls ≠ [] → ∃ l d₁, d₀.makeDirectories host.settings.requestDirectory = (d₁, .ok ()) ∧
    d.without ls = d₁ ∧ d₁.isDirectoryAt l ∧
    let base := join d₁.cwdPath host.settings.requestDirectory
    d₁.walk (d₁.start base) (segments base) = .ok l

variable {d₀ d₁ : Disk} {ls ls' : List Location} {l : Location}

theorem Unmarked.refl (host : Host) (d : Disk) : Unmarked host d [] d where
  named := fun _ h => by cases h
  bare := .inl (Disk.without_nil d)
  made := fun h => absurd rfl h

theorem Unmarked.cwd (hu : Unmarked host d₀ ls d) : d.cwd = d₀.cwd := by
  rcases hu.bare with hb | hb
  · rw [← hb]
    rfl
  · rw [← (d₀.makeDirectories_grows host.settings.requestDirectory).cwd, ← hb]
    rfl

/-- Once it was tried to make the directory of request files, trying again changes nothing. -/
theorem Discreet.stable (hd : Discreet host d₀) :
    (d₀.makeDirectories host.settings.requestDirectory).1.makeDirectories
      host.settings.requestDirectory = d₀.makeDirectories host.settings.requestDirectory := by
  rcases hm : d₀.makeDirectories host.settings.requestDirectory with ⟨d₁, e | ⟨⟩⟩
  · exact hd.again d₁ e hm
  · exact Disk.makeDirectories_again hm (.refl d₁) rfl

theorem Unmarked.program (hd : Discreet host d₀) (hu : Unmarked host d₀ ls d) :
    host.program d = host.program d₀ := by
  have hr : (d.without ls).Rooted := by
    rcases hu.bare with hb | hb
    · exact hb ▸ hd.rooted
    · exact hb ▸ hd.rooted.makeDirectories _
  have hbare : host.program d = host.program (d.without ls) := by
    have hfind : (scriptPaths host.settings).find? d.hasFile =
        (scriptPaths host.settings).find? (d.without ls).hasFile :=
      List.find?_congr fun path hpath =>
        (Disk.hasFile_without hr hu.named (hd.names path hpath)).symm
    unfold scriptPaths at hfind
    rw [Host.program, resolve, hfind, Host.program, resolve]
  rcases hu.bare with hb | hb
  · rw [hbare, hb]
  · rw [hbare, hb, hd.program]

/-- The directory of request files is made, or cannot be made, as at first. -/
theorem Unmarked.makeDirectories (hd : Discreet host d₀) (hu : Unmarked host d₀ ls d)
    {made : Except IoError Unit}
    (hm : d₀.makeDirectories host.settings.requestDirectory = (d₁, made)) :
    ∃ d', d.makeDirectories host.settings.requestDirectory = (d', made) ∧ d'.without ls = d₁ := by
  by_cases hls : ls = []
  · subst hls
    refine ⟨d₁, ?_, Disk.without_nil d₁⟩
    have hb := hu.bare
    rw [Disk.without_nil] at hb
    rcases hb with rfl | rfl
    · exact hm
    · rw [hd.stable, hm]
  · obtain ⟨l, d₂, hm', hb, -, -⟩ := hu.made hls
    cases hm.symm.trans hm'
    have hk : d₁.Keeps d := hb ▸ d.without_keeps ls
    exact ⟨d, Disk.makeDirectories_again hm hk (hb ▸ rfl), hb⟩

/-- A request file is placed, or refused, as if there were no others. -/
theorem Unmarked.place (hu : Unmarked host d₀ ls d)
    (hm : d₀.makeDirectories host.settings.requestDirectory = (d₁, .ok ()))
    (hd' : d'.without ls = d₁) (now number : Nat) :
    d'.place (requestPath d' host.settings.requestDirectory now number) =
      d₁.place (requestPath d₁ host.settings.requestDirectory now number) := by
  by_cases hls : ls = []
  · rw [hls, Disk.without_nil] at hd'
    rw [hd']
  · obtain ⟨l, d₂, hm', -, hdir, hwalk⟩ := hu.made hls
    cases hm.symm.trans hm'
    have hk : d₁.Keeps d' := hd' ▸ d'.without_keeps ls
    have hcwd : d'.cwd = d₁.cwd := by
      rw [← hd']
      rfl
    have hbase := isAbsolute_cwd d₁ host.settings.requestDirectory
    have hstart : d'.start (join d₁.cwdPath host.settings.requestDirectory) =
        d₁.start (join d₁.cwdPath host.settings.requestDirectory) := by
      rw [Disk.start, Disk.start, hcwd]
    rw [requestPath_congr hcwd]
    unfold requestPath
    rw [place_join d' hbase, place_join d₁ hbase, hstart, hwalk, Disk.walk_of_keeps hk hwalk]
    simp only [Except.bind, hdir, hk.isDirectoryAt hdir]

/-- What a request finds is what it would have found at first. -/
theorem Unmarked.prospect (hd : Discreet host d₀) (hu : Unmarked host d₀ ls d) (now number : Nat)
    (refusal : Option IoError) : prospect host.settings d
        (requestPath d₀ host.settings.requestDirectory now number) refusal =
      prospect host.settings d₀
        (requestPath d₀ host.settings.requestDirectory now number) refusal := by
  have hp := hu.program hd
  rcases hm : d₀.makeDirectories host.settings.requestDirectory with ⟨d₁, e | ⟨⟩⟩
  · obtain ⟨d', hd', -⟩ := hu.makeDirectories hd hm
    unfold Host.program at hp
    unfold Agent.prospect
    rw [hp, hd', hm]
  · obtain ⟨d', hd', hb⟩ := hu.makeDirectories hd hm
    have hplace := hu.place hm hb now number
    have hcwd₁ : d₁.cwd = d₀.cwd := by
      have hg := d₀.makeDirectories_grows host.settings.requestDirectory
      rw [hm] at hg
      exact hg.cwd
    have hcwd' : d'.cwd = d₀.cwd := by
      rw [← hcwd₁, ← hb]
      rfl
    rw [requestPath_congr hcwd₁, requestPath_congr hcwd'] at hplace
    unfold Host.program at hp
    unfold Agent.prospect hindrance?
    rw [hp, hd', hm]
    simp only [hplace]

/-- Two requests find the same if there is the same room for their files. -/
theorem prospect_of_room {now number now' number' : Nat}
    (hr : room (requestPath d directory now number) = room (requestPath d directory now' number'))
    (s : Settings) (refusal : Option IoError) : prospect s d (requestPath d directory now number) refusal =
      prospect s d (requestPath d directory now' number') refusal := by
  unfold prospect
  cases resolve d s.roots s.installDirectory s.script with
  | missing script => rfl
  | found script =>
    rcases hm : d.makeDirectories s.requestDirectory with ⟨d', e | ⟨⟩⟩
    · rfl
    · have hcwd : d'.cwd = d.cwd := by
        have hg := d.makeDirectories_grows s.requestDirectory
        rw [hm] at hg
        exact hg.cwd
      rw [← requestPath_congr hcwd, ← requestPath_congr hcwd] at hr ⊢
      simp only [hindrance?_congr rfl rfl hr]

end Discretion

section Marking

variable {started : Started} {o : Except AgentError String}

/-- A request for which nothing is called leaves a directory at most. -/
theorem Unmarked.done (hd : Discreet host d₀) (hu : Unmarked host d₀ ls w.disk)
    (hb : Begun host w r p w' (.done o)) : Unmarked host d₀ ls w'.disk := by
  have hmade {d : Disk} {made : Except IoError Unit}
      (hm : w.disk.makeDirectories host.settings.requestDirectory = (d, made)) :
      Unmarked host d₀ ls d := by
    rcases hm₀ : d₀.makeDirectories host.settings.requestDirectory with ⟨d₁, made'⟩
    obtain ⟨d', hd', hbare⟩ := hu.makeDirectories hd hm₀
    cases hm.symm.trans hd'
    refine ⟨hu.named, .inr (by rw [hbare, hm₀]), fun hls => ?_⟩
    obtain ⟨l, d₂, hm', -, hdir, hwalk⟩ := hu.made hls
    rw [hm₀] at hm'
    cases hm'
    exact ⟨l, d₁, hm₀, hbare, hdir, hwalk⟩
  cases hb with
  | missing => exact hu
  | blocked _ hm | refused _ hm => exact hmade hm

/-- A request that is run leaves its file, and the directory of it. -/
theorem Unmarked.called (hd : Discreet host d₀) (ht : Tactful host)
    (hu : Unmarked host d₀ ls w.disk) (hb : Begun host w r p w' (.called c)) :
    c.file.Steady ∧ Unmarked host d₀ (c.file.location :: ls) w'.disk := by
  cases hb with
  | @called script d number f _ _ _ hf hn ho hc =>
    rw [file_of_call hc]
    have herase := disk_of_call ht hf rfl hc
    rcases hm₀ : d₀.makeDirectories host.settings.requestDirectory with ⟨d₁, made⟩
    obtain ⟨d', hd', hbare⟩ := hu.makeDirectories hd hm₀
    cases hf.made.symm.trans hd'
    have hp := hf.place
    rw [hf.path, hu.place hm₀ hbare] at hp
    obtain ⟨dir, hdir, hwalk, hl⟩ := walk_of_place_join (isAbsolute_cwd _ _) hp
    have hbare' : w'.disk.without (f.location :: ls) = d₁ := by
      rw [← Disk.erase_without, herase, hbare]
    refine ⟨hf.steady, ?_, .inr (by rw [hbare', hm₀]),
      fun _ => ⟨dir, d₁, hm₀, hbare', hdir, hwalk⟩⟩
    intro l hmem
    rcases List.mem_cons.1 hmem with rfl | hmem
    · exact ⟨dir, _, hl, w.now, number, rfl⟩
    · exact hu.named l hmem

/-- Giving one of these request files up leaves no more than there was. -/
theorem Unmarked.release {f : RequestFile} (hu : Unmarked host d₀ ls d) (hf : f.Steady)
    (hl : f.location ∈ ls) : Unmarked host d₀ ls (f.giveUp d) := by
  have hbare : (f.giveUp d).without ls = d.without ls := by
    rcases hf.giveUp_cases d with h | h <;> rw [h]
    rw [Disk.erase_without]
    exact d.without_congr fun l => ⟨fun h => (List.mem_cons.1 h).elim (· ▸ hl) id,
      List.mem_cons_of_mem _⟩
  refine ⟨hu.named, ?_, ?_⟩
  · rw [hbare]
    exact hu.bare
  · rw [hbare]
    exact hu.made

end Marking

end AgentConsole.Agent
