import AgentConsole.Proofs.Agent.Apart
import AgentConsole.Proofs.Session.Launch

/-!
# The disk that runs share

Apart from request files that were made for its runs, the disk of a session is as it was at first,
or as it is when the directory of request files has been made (`bare_of_move`).
-/

namespace AgentConsole

open AgentConsole.Agent AgentConsole.Files

namespace Session

/-- Apart from these request files, among which are those of the runs under way, the disk is as it
was at first, or as it is when the directory of request files has been made. -/
structure Bare (d₀ : Disk) (ls : List Location) (s : Session) : Prop where
  unmarked : Unmarked s.host d₀ ls s.workspace.disk
  files : ∀ call ∈ s.calls, call.file.Steady ∧ call.file.location ∈ ls

variable {s t : Session} {m : Move} {notes : Log} {call : Call} {d₀ : Disk} {ls : List Location}

theorem bare_new (host : Host) (workspace : Workspace) :
    Bare workspace.disk [] (new host workspace) :=
  ⟨.refl host workspace.disk, fun _ h => by cases h⟩

theorem Bare.keep (hb : Bare d₀ ls s) (hh : t.host = s.host) (hc : t.calls = s.calls)
    (hu : Unmarked s.host d₀ ls t.workspace.disk) : Bare d₀ ls t :=
  ⟨hh ▸ hu, hc ▸ hb.files⟩

theorem Bare.launch (hb : Bare d₀ ls s) (hh : t.host = s.host)
    (hc : t.calls.Perm (call :: s.calls)) (hf : call.file.Steady)
    (hu : Unmarked s.host d₀ (call.file.location :: ls) t.workspace.disk) :
    Bare d₀ (call.file.location :: ls) t := by
  refine ⟨hh ▸ hu, fun c hmem => ?_⟩
  rcases List.mem_cons.1 (hc.mem_iff.1 hmem) with rfl | hmem
  · exact ⟨hf, List.mem_cons_self⟩
  · obtain ⟨hsteady, hl⟩ := hb.files c hmem
    exact ⟨hsteady, List.mem_cons_of_mem _ hl⟩

theorem Bare.release (hb : Bare d₀ ls s) (hh : t.host = s.host)
    (hc : s.calls.Perm (call :: t.calls))
    (hd : t.workspace.disk = call.file.giveUp s.workspace.disk) : Bare d₀ ls t := by
  obtain ⟨hsteady, hl⟩ := hb.files call (hc.mem_iff.2 List.mem_cons_self)
  refine ⟨hh ▸ hd ▸ hb.unmarked.release hsteady hl, fun c hmem => ?_⟩
  exact hb.files c (hc.mem_iff.2 (List.mem_cons_of_mem _ hmem))

/-- No move leaves anything but request files of runs and their directory. -/
theorem bare_of_move (ht : Tactful s.host) (hd : Discreet s.host d₀) (hn : Numbered s)
    (hm : ∀ disk, m ≠ .disturb disk) (hb : Bare d₀ ls s) (h : s.move? m = some (t, notes)) :
    ∃ ls', Bare d₀ ls' t := by
  have hh := host_step (step_of_move h)
  cases effect_of_move hn h with
  | keep hl hc hdisk => exact ⟨ls, hb.keep hh hc (hdisk ▸ hb.unmarked)⟩
  | done r hl hc hs => exact ⟨ls, hb.keep hh hc (hb.unmarked.done hd (begun_of_start hs))⟩
  | launch r hl hc hs =>
    obtain ⟨hsteady, hu⟩ := hb.unmarked.called hd ht (begun_of_start hs)
    exact ⟨_, hb.launch hh hc hsteady hu⟩
  | release hl hc hdisk => exact ⟨ls, hb.release hh hc hdisk⟩
  | disturb hdisk => exact absurd hdisk (hm _)

end Session

end AgentConsole
