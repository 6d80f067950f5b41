import AgentConsole.Proofs.Agent.Run
import AgentConsole.Proofs.Session.Order
import AgentConsole.Proofs.Session.Transition
import Mathlib.Data.List.Perm.Basic

/-!
# Launching and ending runs

A session calls the runner when the worker starts a request and when a request is run past the queue
(`launched?`). For the runs under way, and for the disk they share, every move does one of five
things: it launches a run, it starts a request that comes to something at once, it ends a run and
gives up its request file, it leaves the runs and the disk alone, or it is something else that
changes the disk (`effect_of_move`).
-/

namespace AgentConsole

namespace Agent

/-- The call that starting a request led to. -/
def Started.call? : Started → Option Call
  | .called call => some call
  | .done _ => none

end Agent

open AgentConsole.Agent AgentConsole.Files

namespace Session

/-- The run that a move launches. -/
def launched? (s : Session) : Move → Option Call
  | .start =>
    match s.worker with
    | .fresh job => (s.host.start s.workspace job.request).2.call?
    | _ => none
  | .runDirectly r => (s.host.start s.workspace r).2.call?
  | _ => none

/-- A run that was launched, and the disk as its runner left it. -/
structure Launch where
  call : Call
  left : Disk

/-- Where the request file of a launch is. -/
def Launch.location (x : Launch) : Location :=
  x.call.file.location

/-- The runs past the queue are numbered one after the other. -/
def Numbered (s : Session) : Prop :=
  (s.directs.map Prod.fst).Nodup ∧ ∀ d ∈ s.directs, d.1 < s.directCount

/-- What a move is to the runs under way and to the disk. -/
inductive Effect (s : Session) (m : Move) (t : Session) : Prop
  | keep (hl : s.launched? m = none) (hc : t.calls = s.calls)
      (hd : t.workspace.disk = s.workspace.disk) (hm : t.workspace.minted = s.workspace.minted)
  | done (r : Request) {result : Except AgentError String} (hl : s.launched? m = none)
      (hc : t.calls = s.calls) (hs : s.host.start s.workspace r = (t.workspace, .done result))
  | launch (r : Request) {call : Call} (hl : s.launched? m = some call)
      (hc : t.calls.Perm (call :: s.calls))
      (hs : s.host.start s.workspace r = (t.workspace, .called call))
  | release {call : Call} (hl : s.launched? m = none) (hc : s.calls.Perm (call :: t.calls))
      (hd : t.workspace.disk = call.file.giveUp s.workspace.disk)
      (hm : t.workspace.minted = s.workspace.minted)
  | disturb {disk : Disk} (hm : m = .disturb disk) (hc : t.calls = s.calls)
      (hd : t.workspace = { s.workspace with disk })

variable {s t : Session} {m : Move} {notes : Log}

section Numbering

theorem numbered_new (host : Host) (workspace : Workspace) : Numbered (.new host workspace) :=
  ⟨List.nodup_nil, fun _ h => by cases h⟩

theorem numbered_step (hs : Numbered s) (h : s.move? m = some (t, notes)) : Numbered t := by
  obtain ⟨hn, hlt⟩ := hs
  cases transition_of_move h with
  | direct r workspace result h =>
    exact ⟨hn, fun d hd => Nat.lt_succ_of_lt (hlt d hd)⟩
  | directCall r workspace call h =>
    refine ⟨?_, fun d hd => ?_⟩
    · rw [List.map_append, List.nodup_append]
      refine ⟨hn, by simp, ?_⟩
      rintro id hid _ hid' rfl
      obtain ⟨d, hd, rfl⟩ := List.mem_map.1 hid
      have := hlt d hd
      simp at hid'
      omega
    · rcases List.mem_append.1 hd with hd | hd
      · exact Nat.lt_succ_of_lt (hlt d hd)
      · rw [List.mem_singleton.1 hd]
        exact Nat.lt_succ_self _
  | endDirect hm ht =>
    exact ⟨hn.sublist (List.filter_sublist.map _), fun d hd => hlt d (List.mem_of_mem_filter hd)⟩
  | @proceed deed => cases deed <;> exact ⟨hn, hlt⟩
  | _ => exact ⟨hn, hlt⟩

end Numbering

/-- One of several with different keys can be brought to the front. -/
theorem perm_cons_filter_ne {α : Type} {k : Nat} {a : α} {ps : List (Nat × α)}
    (hn : (ps.map Prod.fst).Nodup) (h : (k, a) ∈ ps) :
    ps.Perm ((k, a) :: ps.filter fun p => p.1 ≠ k) := by
  induction ps with
  | nil => cases h
  | cons p ps ih =>
    rw [List.map_cons, List.nodup_cons] at hn
    rcases List.mem_cons.1 h with rfl | h
    · have hne : ∀ p ∈ ps, p.1 ≠ k := by
        rintro p hp rfl
        exact hn.1 (List.mem_map.2 ⟨p, hp, rfl⟩)
      have hself : ps.filter (fun p => p.1 ≠ k) = ps :=
        List.filter_eq_self.2 fun p hp => by simpa using hne p hp
      rw [List.filter_cons_of_neg (by simp), hself]
    · have hne : p.1 ≠ k := by
        rintro rfl
        exact hn.1 (List.mem_map.2 ⟨_, h, rfl⟩)
      rw [List.filter_cons_of_pos (by simpa using hne)]
      exact ((ih hn.2 h).cons p).trans (.swap _ _ _)

theorem running_of_call? {call : Call} (h : s.worker.call? = some call) :
    ∃ job, s.worker = .running job call := by
  cases hw : s.worker <;> simp [hw, Worker.call?] at h
  exact ⟨_, by rw [h]⟩

theorem calls_of_running {job : Job} {call : Call} (hw : s.worker = .running job call) :
    s.calls = call :: s.directs.map Prod.snd ∧ s.released = call.release s.workspace := by
  simp [calls, released, hw, Worker.call?]

theorem calls_of_waiting (hw : s.worker.call? = none) :
    s.calls = s.directs.map Prod.snd ∧ s.released = s.workspace := by
  simp [calls, released, hw]

/-- When the worker is stopped, the run it waits for ends. -/
theorem effect_stop (hl : s.launched? m = none) : Effect s m s.stop := by
  have hstop : s.stop.calls = s.directs.map Prod.snd := rfl
  cases hw : s.worker.call? with
  | none =>
    obtain ⟨hc, hr⟩ := calls_of_waiting hw
    refine .keep hl (hstop.trans hc.symm) ?_ ?_
    · change s.released.disk = _
      rw [hr]
    · change s.released.minted = _
      rw [hr]
  | some call =>
    obtain ⟨job, hw⟩ := running_of_call? hw
    obtain ⟨hc, hr⟩ := calls_of_running hw
    refine .release hl (.of_eq (hc.trans (by rw [hstop]))) ?_ ?_
    · change s.released.disk = _
      rw [hr]
      rfl
    · change s.released.minted = _
      rw [hr]
      rfl

/-- A move launches a run, ends one, leaves them alone, or is something else. -/
theorem effect_of_move (hs : Numbered s) (h : s.move? m = some (t, notes)) : Effect s m t := by
  have hkeep {t : Session} (hl : s.launched? m = none) (hc : t.calls = s.calls)
      (hw : t.workspace.disk = s.workspace.disk ∧ t.workspace.minted = s.workspace.minted) :
      Effect s m t := .keep hl hc hw.1 hw.2
  cases transition_of_move h with
  | refuse | accept | append | setFile | clear | cancel | drop | elapse =>
    exact hkeep rfl rfl ⟨rfl, rfl⟩
  | @proceed deed => cases deed <;> exact hkeep rfl rfl ⟨rfl, rfl⟩
  | take hw | pass hw | refrain hw | route hw | tell hw | reply hw =>
    exact hkeep rfl (by simp [calls, hw, Worker.call?, givingUp, announce]) ⟨rfl, rfl⟩
  | direct r workspace result hs => exact .done r (by rw [launched?, hs]; rfl) rfl hs
  | directCall r workspace call hs =>
    refine .launch r (by rw [launched?, hs]; rfl) ?_ hs
    simp only [calls, List.map_append, List.map_cons, List.map_nil, ← List.append_assoc]
    exact List.perm_append_singleton call _
  | start workspace result hw hs =>
    refine .done _ ?_ ?_ hs
    · simp [launched?, hw, hs, Started.call?]
    · simp [calls, hw, Worker.call?]
  | call workspace call hw hs =>
    refine .launch _ ?_ (.of_eq ?_) hs
    · simp [launched?, hw, hs, Started.call?]
    · simp [calls, hw, Worker.call?]
  | notice hw hp =>
    rcases hw with hw | ⟨call, hw⟩
    · obtain ⟨hc, hr⟩ := calls_of_waiting (s := s) (by rw [hw]; rfl)
      exact hkeep rfl hc.symm (by simp [hr])
    · obtain ⟨hc, hr⟩ := calls_of_running hw
      refine .release rfl (.of_eq hc) ?_ ?_
      · simp [hr, Call.release]
      · simp [hr, Call.release]
  | answer hw ht hr => exact .release rfl (.of_eq (calls_of_running hw).1) rfl rfl
  | panic | stop => exact effect_stop rfl
  | @endDirect id call hm ht =>
    refine .release rfl ?_ rfl rfl
    have hp := (perm_cons_filter_ne hs.1 hm).map Prod.snd
    exact (hp.append_left _).trans List.perm_middle
  | disturb disk => exact .disturb rfl rfl rfl

/-- The paths of the request files of runs under way lead nowhere but to these files. -/
def SteadyFiles (s : Session) : Prop :=
  ∀ call ∈ s.calls, call.file.Steady

theorem steadyFiles_new (host : Host) (workspace : Workspace) :
    SteadyFiles (.new host workspace) :=
  fun _ h => by cases h

theorem steadyFiles_of_move (hn : Numbered s) (hs : SteadyFiles s)
    (h : s.move? m = some (t, notes)) : SteadyFiles t := by
  cases effect_of_move hn h with
  | keep _ hc | done _ _ hc | disturb _ hc => exact fun call hm => hs call (hc ▸ hm)
  | launch r _ hc hstart =>
    obtain ⟨d, hcalled⟩ := called_of_start hstart
    intro c hm
    rcases List.mem_cons.1 (hc.mem_iff.1 hm) with rfl | hm
    · exact hcalled.made.steady
    · exact hs c hm
  | release _ hc => exact fun call hm => hs call (hc.mem_iff.2 (List.mem_cons_of_mem _ hm))

theorem steadyFiles_of_run {host : Host} {workspace : Workspace} {moves : List Move} {log : Log}
    (h : (new host workspace).run? moves = some (s, log)) : SteadyFiles s :=
  (@run?_induct (fun _ s => Numbered s ∧ SteadyFiles s)
    (fun hs hm => ⟨numbered_step hs.1 hm, steadyFiles_of_move hs.1 hs.2 hm⟩) moves [] _ s log
    ⟨numbered_new host workspace, steadyFiles_new host workspace⟩ h).2

/-- What the system takes or refuses does not change. -/
theorem refusal_of_move (h : s.move? m = some (t, notes)) :
    t.workspace.refusal = s.workspace.refusal := by
  have hreleased : s.released.refusal = s.workspace.refusal := by
    cases hw : s.worker.call? <;> simp [released, hw, Call.release]
  cases transition_of_move h with
  | direct r workspace result hs | directCall r workspace call hs => exact refusal_of_start hs
  | start workspace result hw hs | call workspace call hw hs => exact refusal_of_start hs
  | notice | panic | stop => exact hreleased
  | @proceed deed => cases deed <;> rfl
  | _ => rfl

theorem evenhanded_of_move (he : s.workspace.Evenhanded) (h : s.move? m = some (t, notes)) :
    t.workspace.Evenhanded := by
  rwa [Workspace.Evenhanded, refusal_of_move h]

end Session

end AgentConsole
