import AgentConsole.Agent.Run
import AgentConsole.Proofs.Agent.RequestFile

/-!
# What starting a request does

A request that is started either comes to something at once, and then nothing was made but
directories; or the runner is called, on a disk that holds the request in a file made for it, at the
path the runner is told (`start_cases`).
-/

namespace AgentConsole.Agent

open AgentConsole.Files AgentConsole.Text

/-- The runner was called for a request, on the disk `d`. -/
structure Called (h : Host) (w : Workspace) (r : Request) (w' : Workspace) (call : Call)
    (d : Disk) : Prop where
  made : Made w r call.file { w with disk := d, minted := w'.minted }
  path : call.invocation.inputFile = call.file.path
  run : h.runner w.runs.length call.invocation d = (w'.disk, call.answer)
  runs : w'.runs = (call.invocation, r.fileText) :: w.runs
  now : w'.now = w.now
  refusal : w'.refusal = w.refusal

/-- Whether the system takes what is written to a request file depends on the request only. -/
def Workspace.Evenhanded (w : Workspace) : Prop :=
  ∀ n n' r, w.refusal n r = w.refusal n' r

variable {h : Host} {w w' : Workspace} {r : Request} {call : Call} {d : Disk}

theorem called_of_made {f : RequestFile} {script : String} (hm : Made w r f w') :
    Called h w r (h.call w' script f).1 (h.call w' script f).2 w'.disk := by
  have hthere := hm.at?
  cases hm with
  | intro hf =>
    constructor
    · exact .intro hf
    · rfl
    · rfl
    · unfold Host.call
      rw [hthere]
      simp only [Utf8.decodeLossy_encode]
    · rfl
    · rfl

/-- A request that is started makes directories at most, or the runner is called for it. -/
theorem start_cases (h : Host) (w : Workspace) (r : Request) :
    (∃ d minted result, w.disk.Grows d ∧ w.minted ≤ minted ∧
      h.start w r = ({ w with disk := d, minted }, .done result)) ∨
    ∃ w' call d, h.start w r = (w', .called call) ∧ Called h w r w' call d := by
  unfold Host.start
  split
  · exact .inl ⟨w.disk, w.minted, _, .refl w.disk, Nat.le_refl _, rfl⟩
  · rename_i script _
    rcases create_cases w h.settings.requestDirectory r (w.refusal w.minted r) with
      ⟨d, minted, e, hd, hm, hc⟩ | ⟨f, w', hc, hm⟩
    · rw [hc]
      exact .inl ⟨d, minted, _, hd, hm, rfl⟩
    · rw [hc]
      exact .inr ⟨_, _, w'.disk, rfl, called_of_made hm⟩

theorem called_of_start (hs : h.start w r = (w', .called call)) : ∃ d, Called h w r w' call d := by
  rcases start_cases h w r with ⟨d, minted, result, -, -, hd⟩ | ⟨w₁, call₁, d, hc, hcalled⟩
  · rw [hs] at hd
    cases hd
  · rw [hs] at hc
    cases hc
    exact ⟨d, hcalled⟩

theorem grows_of_start {result : Except AgentError String}
    (hs : h.start w r = (w', .done result)) : ∃ d minted, w.disk.Grows d ∧ w.minted ≤ minted ∧
      w' = { w with disk := d, minted } := by
  rcases start_cases h w r with ⟨d, minted, result, hg, hm, hd⟩ | ⟨w₁, call₁, d, hc, hcalled⟩
  · rw [hs] at hd
    cases hd
    exact ⟨d, minted, hg, hm, rfl⟩
  · rw [hs] at hc
    cases hc

theorem now_of_start {started : Started} (hs : h.start w r = (w', started)) : w'.now = w.now := by
  cases started with
  | done result =>
    obtain ⟨d, minted, -, -, rfl⟩ := grows_of_start hs
    rfl
  | called call =>
    obtain ⟨d, hc⟩ := called_of_start hs
    exact hc.now

theorem refusal_of_start {started : Started} (hs : h.start w r = (w', started)) :
    w'.refusal = w.refusal := by
  cases started with
  | done result =>
    obtain ⟨d, minted, -, -, rfl⟩ := grows_of_start hs
    rfl
  | called call =>
    obtain ⟨d, hc⟩ := called_of_start hs
    exact hc.refusal

/-- The runner finds the request at the path it is told. -/
theorem Called.readText (hc : Called h w r w' call d) :
    d.readText call.invocation.inputFile = .ok r.fileText := by
  rw [hc.path]
  exact hc.made.readText

/-- The path the runner is told leads to the request file. -/
theorem Called.find (hc : Called h w r w' call d) :
    d.find call.invocation.inputFile = .ok call.file.location := by
  rw [hc.path]
  exact hc.made.find

/-- The request file is made where nothing was, and nothing that was there is lost. -/
theorem Called.keeps (hc : Called h w r w' call d) :
    w.disk.at? call.file.location = none ∧ w.disk.Keeps d := by
  obtain ⟨d₁, number, hd, -, -, -, hfree, he⟩ := hc.made.spec
  refine ⟨hd.keeps.at?_eq_none hfree, ?_⟩
  change d = _ at he
  rw [he]
  exact hd.keeps.trans (Disk.keeps_put hfree _)

/-- The runner finds the files there were, and the request file. -/
theorem Called.file? (hc : Called h w r w' call d) (l : Location) : d.file? l =
    if l = call.file.location then some (Utf8.encode r.fileText, false) else w.disk.file? l := by
  obtain ⟨d₁, number, hd, -, -, -, hfree, he⟩ := hc.made.spec
  change d = _ at he
  rw [he, Disk.file?_put _ (Disk.ne_nil_of_at?_eq_none hfree), hd.file?]

/-- The number of a request file has not been given to another. -/
theorem Called.number (hc : Called h w r w' call d) : ∃ dir number,
    call.file.location = dir ++ [requestFileName w.now number] ∧ w.minted ≤ number ∧
      w'.minted = number + 1 := by
  obtain ⟨d₁, number, -, hn, hm, ⟨dir, hl⟩, -, -⟩ := hc.made.spec
  exact ⟨dir, number, hl, hn, hm⟩

end AgentConsole.Agent
