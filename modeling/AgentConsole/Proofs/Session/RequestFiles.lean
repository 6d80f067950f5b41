import AgentConsole.Proofs.Session.Launch
import AgentConsole.Proofs.Session.Rest

/-!
# Request files and runs

A request file is there as long as the run it was made for is under way, unless the runner removes
it (`Housed`). The session makes it where nothing was before the runner is called (`Delivers`), and
whichever way the run ends, gives this file up and loses nothing else (`Tidies`). No two runs have
the same file, since no number is given twice (`Tended`). Neither the runners nor the world around
the session are expected to do anything to the request files of others (`Considerate`, `Gentle`), or
to what the paths of request files lead through (`isUnbarred`): where a path does not lead to its
file any more, the file stays (`request_file_left_behind`).
-/

namespace AgentConsole

open AgentConsole.Agent AgentConsole.Files AgentConsole.Text

/-- The location is named as those of request files are. -/
def IsRequestFile (l : Location) : Prop :=
  ∃ dir now number, l = dir ++ [requestFileName now number]

/-- The request files of the one disk are those of the other. -/
def Spares (d d' : Disk) : Prop :=
  ∀ l, IsRequestFile l → d'.file? l = d.file? l

namespace Session

/-- The runner was called on a disk that held the request file at the path it was told. -/
def Found (host : Host) (x : Launch) : Prop :=
  ∃ count d r, d.find x.call.invocation.inputFile = .ok x.location ∧
    d.file? x.location = some (Utf8.encode (Request.fileText r), false) ∧
    host.runner count x.call.invocation d = (x.left, x.call.answer)

/-- Each run that was launched had a request file to itself. -/
structure Tended (xs : List Launch) (s : Session) : Prop where
  numbered : Numbered s
  named : ∀ x ∈ xs, ∃ dir now number,
    x.location = dir ++ [requestFileName now number] ∧ number < s.workspace.minted
  nodup : (xs.map Launch.location).Nodup
  single : (s.calls.map fun call => call.file.location).Nodup
  launched : ∀ call ∈ s.calls, ∃ x ∈ xs, x.call = call
  found : ∀ x ∈ xs, Found s.host x
  steady : SteadyFiles s

/-- The runs under way have their request files, and the others that were launched have none. -/
def Housed (xs : List Launch) (s : Session) : Prop :=
  ∀ x ∈ xs, s.workspace.disk.file? x.location =
    if x.call ∈ s.calls then x.left.file? x.location else none

/-- Nothing more happens without time passing or somebody who uses the session. -/
def Quiescent (s : Session) : Prop :=
  s.Resting ∧ s.move? .answer = none ∧ (∀ id, s.move? (.endDirect id) = none) ∧
    (s.dropped → s.isClosed)

variable {host : Host} {workspace : Workspace} {moves : List Move}
variable {s t : Session} {m : Move} {log notes : Log} {xs : List Launch} {call : Call}

section Tending

/-- Each of the runs under way has a request file to itself. -/
theorem Tended.single_of_perm (hs : Tended xs s) {calls : List Call}
    (hc : s.calls.Perm (call :: calls)) : (∀ c ∈ calls, c.file.location ≠ call.file.location) ∧
      (calls.map fun call => call.file.location).Nodup := by
  have hsingle := (hc.map fun call => call.file.location).nodup_iff.1 hs.single
  rw [List.map_cons, List.nodup_cons] at hsingle
  exact ⟨fun c h he => hsingle.1 (List.mem_map.2 ⟨c, h, he⟩), hsingle.2⟩

theorem Tended.keep (hs : Tended xs s) (hn : Numbered t) (hf : SteadyFiles t)
    (hh : t.host = s.host) (hc : t.calls = s.calls)
    (hm : s.workspace.minted ≤ t.workspace.minted) : Tended xs t where
  numbered := hn
  named := fun x hx => by
    obtain ⟨dir, now, number, hl, hlt⟩ := hs.named x hx
    exact ⟨dir, now, number, hl, Nat.lt_of_lt_of_le hlt hm⟩
  nodup := hs.nodup
  single := hc ▸ hs.single
  launched := hc ▸ hs.launched
  found := hh ▸ hs.found
  steady := hf

theorem Tended.release (hs : Tended xs s) (hn : Numbered t) (hf : SteadyFiles t)
    (hh : t.host = s.host) (hc : s.calls.Perm (call :: t.calls))
    (hm : t.workspace.minted = s.workspace.minted) : Tended xs t where
  numbered := hn
  named := hm ▸ hs.named
  nodup := hs.nodup
  single := (hs.single_of_perm hc).2
  launched := fun c h => hs.launched c (hc.mem_iff.2 (List.mem_cons_of_mem _ h))
  found := hh ▸ hs.found
  steady := hf

/-- A run that is launched has its request file where none was launched before. -/
theorem Tended.ne_of_called (hs : Tended xs s) {r : Request} {d : Disk}
    (h : Called s.host s.workspace r t.workspace call d) {x : Launch} (hx : x ∈ xs) :
    x.location ≠ call.file.location := by
  obtain ⟨dir, number, hl, hge, -⟩ := h.number
  obtain ⟨dir', now, number', hl', hlt⟩ := hs.named x hx
  intro heq
  rw [hl', hl] at heq
  have hname := (List.append_inj' heq rfl).2
  have := requestFileName_inj (List.singleton_inj.1 hname)
  omega

theorem found_of_called {r : Request} {d : Disk}
    (h : Called s.host s.workspace r t.workspace call d) :
    Found s.host ⟨call, t.workspace.disk⟩ := by
  refine ⟨_, d, r, h.find, ?_, h.run⟩
  rw [h.file?, Launch.location, if_pos rfl]

theorem Tended.launch (hs : Tended xs s) (hn : Numbered t) (hf : SteadyFiles t)
    (hh : t.host = s.host) {r : Request} {d : Disk} (hc : t.calls.Perm (call :: s.calls))
    (h : Called s.host s.workspace r t.workspace call d) :
    Tended (xs ++ [⟨call, t.workspace.disk⟩]) t := by
  constructor
  · exact hn
  · intro x hx
    obtain ⟨dir, number, hl, hge, hm⟩ := h.number
    rcases List.mem_append.1 hx with hx | hx
    · obtain ⟨dir', now, number', hl', hlt⟩ := hs.named x hx
      exact ⟨dir', now, number', hl', by omega⟩
    · rw [List.mem_singleton.1 hx]
      exact ⟨dir, _, number, hl, by omega⟩
  · rw [List.map_append, List.nodup_append]
    refine ⟨hs.nodup, by simp, ?_⟩
    rintro l hl _ hl' rfl
    obtain ⟨x, hx, rfl⟩ := List.mem_map.1 hl
    exact hs.ne_of_called h hx (List.mem_singleton.1 hl')
  · refine ((hc.map _).nodup_iff).2 ?_
    rw [List.map_cons, List.nodup_cons]
    refine ⟨fun hin => ?_, hs.single⟩
    obtain ⟨c, hc, he⟩ := List.mem_map.1 hin
    obtain ⟨x, hx, rfl⟩ := hs.launched c hc
    exact hs.ne_of_called h hx he
  · intro c hin
    rcases List.mem_cons.1 (hc.mem_iff.1 hin) with rfl | hin
    · exact ⟨⟨c, t.workspace.disk⟩, List.mem_append_right _ (List.mem_singleton.2 rfl), rfl⟩
    · obtain ⟨x, hx, he⟩ := hs.launched c hin
      exact ⟨x, List.mem_append_left _ hx, he⟩
  · intro x hx
    rw [hh]
    rcases List.mem_append.1 hx with hx | hx
    · exact hs.found x hx
    · rw [List.mem_singleton.1 hx]
      exact found_of_called h
  · exact hf

theorem Housed.keep (hx : Housed xs s) (hs : Tended xs s) (hc : t.calls = s.calls)
    (hd : Spares s.workspace.disk t.workspace.disk) : Housed xs t := by
  intro x hmx
  obtain ⟨dir, now, number, hl, -⟩ := hs.named x hmx
  rw [hd _ ⟨dir, now, number, hl⟩, hc, hx x hmx]

end Tending

section Moves

/-- Whatever is under way when nothing more happens has neither ended nor taken too long. -/
theorem Quiescent.now_lt (hq : s.Quiescent) : ∀ call ∈ s.calls, s.workspace.now < call.timer := by
  obtain ⟨-, hanswer, hdirect, -⟩ := hq
  intro call hc
  by_contra hlt
  have ht : call.timer ≤ s.workspace.now := Nat.not_lt.1 hlt
  rcases List.mem_append.1 hc with hc | hc
  · obtain ⟨job, hw⟩ := running_of_call? (Option.mem_toList.1 hc)
    simp only [move?, Option.map_eq_none_iff, answer?, hw, if_pos ht] at hanswer
    split at hanswer <;> cases hanswer
  · obtain ⟨⟨id, _⟩, hm, rfl⟩ := List.mem_map.1 hc
    have hnone := hdirect id
    simp only [move?, Option.map_eq_none_iff, directEnd?] at hnone
    split at hnone
    · rename_i hf
      have := List.find?_eq_none.1 hf _ hm
      simp [ht] at this
    · cases hnone

theorem Quiescent.not_isPast (hq : s.Quiescent) {job : Job} (hw : s.worker = .running job call) :
    ¬s.isPast job := by
  intro hp
  have hn := hq.1 .notice rfl
  simp [move?, notice?, hw, hp] at hn

end Moves

end Session

end AgentConsole
