import AgentConsole.Proofs.Agent.Ending
import AgentConsole.Proofs.Session.Launch

/-!
# Runs past the queue

A run past the queue is a run like any other (`Host.run`), and in a session with nothing else to do
it is the whole of what happens (`waitForDirect_new`). Whatever else happens in a session, what such
a run comes to is settled when it is started (`comesTo_run`).
-/

namespace AgentConsole

open AgentConsole.Agent AgentConsole.Files AgentConsole.Text

namespace Session

section Alone

variable {h : Host} {w w' : Workspace} {call : Call} {result : Except AgentError String}

/-- A session with one run under way and nothing else. -/
def withDirect (h : Host) (w : Workspace) (call : Call) : Session :=
  { new h w with directCount := 1, directs := [(0, call)] }

/-- The session when that run is at its end. -/
def withoutDirect (h : Host) (w : Workspace) (call : Call) : Session :=
  { new h (call.release w) with
    directCount := 1
    directReplies := ((call.result? h).map (0, ·)).toList }

theorem next?_withDirect (h : Host) (w : Workspace) (call : Call) : (withDirect h w call).next? =
    if call.timer ≤ w.now then some (withoutDirect h w call) else none := by
  change (none : Option Session).or (directAnswer? _) = _
  rw [Option.none_or]
  unfold directAnswer? directEnd?
  by_cases ht : call.timer ≤ w.now
  · simp [withDirect, withoutDirect, new, ht]
  · simp [withDirect, new, ht]

theorem settle_withDirect (h : Host) (w : Workspace) (call : Call) :
    (withDirect h w call).settle =
      if call.timer ≤ w.now then withoutDirect h w call else withDirect h w call := by
  have hwork : (withDirect h w call).work = 1 := rfl
  unfold settle
  rw [hwork, settleFor, next?_withDirect]
  split_ifs <;> rfl

theorem directReply?_withoutDirect (h : Host) (w : Workspace) (call : Call) :
    (withoutDirect h w call).directReply? 0 = call.result? h := by
  unfold directReply? withoutDirect
  cases call.result? h <;> rfl

theorem waitForDirect_withDirect (h : Host) (w : Workspace) (call : Call) :
    (withDirect h w call).waitForDirect 0 =
      withoutDirect h { w with now := max w.now call.timer } call := by
  unfold waitForDirect
  rw [settle_withDirect]
  by_cases ht : call.timer ≤ w.now
  · rw [if_pos ht, Nat.max_eq_left ht]
    rfl
  · rw [if_neg ht]
    -- There is one timer, and nothing is left to wait for when it has passed.
    change ((withDirect h w call).elapse call.timer).settle = _
    have hlater : (withDirect h w call).elapse call.timer =
        withDirect h { w with now := max w.now call.timer } call := rfl
    rw [hlater, settle_withDirect, if_pos (Nat.le_max_right _ _)]

theorem runDirectly_new_called (r : Request) (hs : h.start w r = (w', .called call)) :
    (new h w).runDirectly r = (withDirect h w' call, 0) := by
  have hstart : (new h w).host.start (new h w).workspace r = (w', .called call) := hs
  unfold runDirectly
  simp only [hstart]
  rfl

theorem runDirectly_new_done (r : Request) (hs : h.start w r = (w', .done result)) :
    (new h w).runDirectly r =
      ({ new h w' with directCount := 1, directReplies := [(0, result)] }, 0) := by
  have hstart : (new h w).host.start (new h w).workspace r = (w', .done result) := hs
  unfold runDirectly
  simp only [hstart]
  rfl

/-- A run past the queue of a session that does nothing else, waited for. -/
theorem waitForDirect_new (h : Host) (w : Workspace) (r : Request) :
    let (s, id) := (new h w).runDirectly r
    h.run w r = ((s.waitForDirect id).workspace, (s.waitForDirect id).directReply? id) := by
  unfold Host.run
  rcases hs : h.start w r with ⟨w', result | call⟩
  · rw [runDirectly_new_done r hs]
    rfl
  · rw [runDirectly_new_called r hs]
    simp only
    rw [waitForDirect_withDirect, directReply?_withoutDirect]
    rfl

/-- A run past the queue, waited for in a session that does nothing else, goes one of the ways of
`Ran`, and in no other; if it comes to a text, the text is not empty. Whenever a run that called the
runner is ended, by its answer or before, its request file is given up: its path leads to no file
any more, and if it led to the file, the file is gone. -/
theorem direct_run_outcome (h : Host) (w : Workspace) (r : Request) :
    (let (s, id) := (new h w).runDirectly r
     h.run w r = ((s.waitForDirect id).workspace, (s.waitForDirect id).directReply? id)) ∧
    (∀ w' result, h.run w r = (w', result) ↔ Ran h w r w' result) ∧
    (∀ w' text, h.run w r = (w', some (.ok text)) → text ≠ "") ∧
    ∀ w' call, h.start w r = (w', .called call) →
      call.invocation.inputFile = call.file.path ∧ ∀ later : Workspace,
        GivenUp call.file later.disk (call.release later).disk ∧
          (call.file.isReached later.disk →
            (call.release later).disk.file? call.file.location = none) := by
  refine ⟨waitForDirect_new h w r, fun w' result => run_eq_iff, fun w' text hrun => ?_,
    fun w' call hs => ?_⟩
  · exact (run_eq_iff.1 hrun).text_ne_empty
  · obtain ⟨d, hc⟩ := called_of_start hs
    have hsteady := hc.made.steady
    refine ⟨hc.path, fun later => ⟨hsteady.givenUp_iff.2 rfl, fun hreached => ?_⟩⟩
    exact (hsteady.file?_giveUp hreached _).trans (if_pos rfl)

/-- What is asked in the samples. -/
def sampleRequest : Request :=
  ⟨"go", .custom, "", ""⟩

theorem direct_run_outcome_sample : ∃ w i,
    Ran sampleHost sampleWorkspace sampleRequest w (some (.ok "hi")) ∧
      w.runs = [(i, sampleRequest.fileText)] ∧
      w.disk.entries.map Prod.fst = [["agent"]] := by
  have h : (fun p : Workspace × Option (Except AgentError String) =>
      (p.2.bind Except.toOption, p.1.runs.map Prod.snd, p.1.disk.entries.map Prod.fst))
        (sampleHost.run sampleWorkspace sampleRequest) =
      (some "hi", [sampleRequest.fileText], [["agent"]]) := by decide +kernel
  rcases hrun : sampleHost.run sampleWorkspace sampleRequest with ⟨w, result⟩
  simp only [hrun, Prod.mk.injEq] at h
  obtain ⟨htext, hruns, hfiles⟩ := h
  obtain ⟨⟨i, text⟩, hruns, rfl⟩ := List.map_eq_singleton_iff.1 hruns
  rw [eq_ok_of_toOption htext] at hrun
  exact ⟨w, i, ((direct_run_outcome _ _ _).2.1 _ _).1 hrun, hruns, hfiles⟩

/-- Where a run removes what the path of its request file leads through, the file stays. -/
theorem direct_run_leaves_file : ∃ w call,
    detourHost.start sampleWorkspace sampleRequest = (w, .called call) ∧
      call.result? detourHost = some (.ok "hi") ∧
      (detourHost.run sampleWorkspace sampleRequest).1.disk.file? call.file.location =
        some (Utf8.encode sampleRequest.fileText, false) := by
  have h : (detourHost.start sampleWorkspace sampleRequest).2.call?.map (fun call =>
      ((call.result? detourHost).bind Except.toOption,
        (detourHost.run sampleWorkspace sampleRequest).1.disk.file? call.file.location)) =
      some (some "hi", some (Utf8.encode sampleRequest.fileText, false)) := by decide +kernel
  obtain ⟨call, hcall, h⟩ := Option.map_eq_some_iff.1 h
  rcases hstart : detourHost.start sampleWorkspace sampleRequest with ⟨w, result | call'⟩
  · rw [hstart] at hcall
    cases hcall
  · rw [hstart] at hcall
    cases hcall
    obtain ⟨htext, hfile⟩ := Prod.mk.inj h
    exact ⟨w, call, rfl, eq_ok_of_toOption htext, hfile⟩

end Alone

/-- The runs past the queue are numbered one after the other, and so are their results. -/
structure Tallied (s : Session) : Prop where
  numbered : Numbered s
  recorded : ∀ p ∈ s.directReplies, p.1 < s.directCount

/-- The run past the queue with this number is under way and will come to this, or has come to
it. -/
structure ComesTo (id : Nat) (result : Option (Except AgentError String)) (s : Session) : Prop where
  lt : id < s.directCount
  known : (∃ call, (id, call) ∈ s.directs ∧ call.result? s.host = result ∧
      s.directReply? id = none) ∨
    (∀ call, (id, call) ∉ s.directs) ∧ s.directReply? id = result

section Followed

variable {host : Host} {workspace : Workspace} {s t : Session} {m : Move} {moves : List Move}
variable {log notes : Log} {id : Nat} {r : Request} {result : Option (Except AgentError String)}

theorem tallied_step (hs : s.Tallied) (h : s.move? m = some (t, notes)) : t.Tallied := by
  refine ⟨numbered_step hs.numbered h, ?_⟩
  have hrecorded := hs.recorded
  cases transition_of_move h with
  | direct r workspace result hstart =>
    intro p hp
    rcases List.mem_cons.1 hp with rfl | hp
    · exact Nat.lt_succ_self _
    · exact Nat.lt_succ_of_lt (hrecorded p hp)
  | directCall => exact fun p hp => Nat.lt_succ_of_lt (hrecorded p hp)
  | @endDirect id call hm ht =>
    intro p hp
    rcases List.mem_append.1 hp with hp | hp
    · obtain ⟨o, -, rfl⟩ := Option.map_eq_some_iff.1 (Option.mem_toList.1 hp)
      exact hs.numbered.2 _ hm
    · exact hrecorded p hp
  | @proceed deed => cases deed <;> exact hrecorded
  | _ => exact hrecorded

theorem tallied_of_run (h : (new host workspace).run? moves = some (s, log)) : s.Tallied :=
  @run?_induct (fun _ s => s.Tallied) (fun hs hm => tallied_step hs hm) moves [] _ s log
    ⟨numbered_new host workspace, fun _ h => by cases h⟩ h

/-- What a run past the queue comes to is settled when it is started. -/
theorem comesTo_runDirectly (hs : s.Tallied) (h : s.move? (.runDirectly r) = some (t, notes)) :
    t.ComesTo s.directCount (s.host.run s.workspace r).2 := by
  have hunder : ∀ call, (s.directCount, call) ∉ s.directs := fun call hm =>
    Nat.lt_irrefl _ (hs.numbered.2 _ hm)
  unfold Host.run
  cases transition_of_move h with
  | direct r workspace result hstart =>
    refine ⟨Nat.lt_succ_self _, .inr ⟨hunder, ?_⟩⟩
    rw [hstart]
    simp [directReply?]
  | directCall r workspace call hstart =>
    refine ⟨Nat.lt_succ_self _, .inl ⟨call, by simp, by rw [hstart], ?_⟩⟩
    refine List.lookup_eq_none_iff.2 fun p hp => ?_
    have := hs.recorded p hp
    simpa using Nat.ne_of_gt this

theorem lookup_append_of_ne {pairs : List (Nat × Except AgentError String)} {id' : Nat}
    (hne : id ≠ id') (o : Option (Except AgentError String)) :
    ((o.map (id', ·)).toList ++ pairs).lookup id = pairs.lookup id := by
  cases o with
  | none => rfl
  | some o =>
    have hb : (id == id') = false := beq_eq_false_iff_ne.2 hne
    simp [List.lookup_cons, hb]

/-- Nothing that happens meanwhile changes what a run past the queue comes to. -/
theorem comesTo_step (hn : Numbered s) (hs : s.ComesTo id result)
    (h : s.move? m = some (t, notes)) : t.ComesTo id result := by
  obtain ⟨hlt, hknown⟩ := hs
  cases transition_of_move h with
  | direct r workspace o hstart =>
    have hne : id ≠ s.directCount := Nat.ne_of_lt hlt
    have hsame : ((s.directCount, o) :: s.directReplies).lookup id = s.directReplies.lookup id :=
      lookup_append_of_ne hne (some o)
    refine ⟨Nat.lt_succ_of_lt hlt, ?_⟩
    rwa [directReply?, ← hsame] at hknown
  | directCall r workspace call hstart =>
    have hne : id ≠ s.directCount := Nat.ne_of_lt hlt
    refine ⟨Nat.lt_succ_of_lt hlt, ?_⟩
    rcases hknown with ⟨call', hm, hr⟩ | ⟨hm, hr⟩
    · exact .inl ⟨call', List.mem_append_left _ hm, hr⟩
    · refine .inr ⟨fun call' hm' => ?_, hr⟩
      rcases List.mem_append.1 hm' with hm' | hm'
      · exact hm call' hm'
      · simp [hne] at hm'
  | @endDirect id' call' hm' ht =>
    refine ⟨hlt, ?_⟩
    by_cases hne : id = id'
    · subst hne
      rcases hknown with ⟨call, hm, hr, hnone⟩ | ⟨hm, -⟩
      · have hcall : (id, call') = (id, call) := List.inj_on_of_nodup_map hn.1 hm' hm rfl
        cases hcall
        refine .inr ⟨fun call' hm' => by simp at hm', ?_⟩
        unfold directReply? at hnone ⊢
        rw [hr]
        cases result with
        | none => exact hnone
        | some o => simp
      · exact absurd hm' (hm call')
    · unfold directReply? at hknown ⊢
      rw [lookup_append_of_ne hne]
      simpa [hne] using hknown
  | @proceed deed => cases deed <;> exact ⟨hlt, hknown⟩
  | _ => exact ⟨hlt, hknown⟩

theorem comesTo_run (hn : s.Tallied) (hs : s.ComesTo id result)
    (h : s.run? moves = some (t, log)) : t.ComesTo id result :=
  (@run?_induct (fun _ s => s.Tallied ∧ s.ComesTo id result)
    (fun hs hm => ⟨tallied_step hs.1 hm, comesTo_step hs.1.numbered hs.2 hm⟩) moves [] s t log
    ⟨hn, hs⟩ h).2

/-- In every run of a session, a run past the queue that is started in the course of it comes to
what it would have come to alone. -/
theorem comesTo_of_run {before after : List Move} {u : Session} {log₁ : Log}
    (h : (new host workspace).run? (before ++ .runDirectly r :: after) = some (s, log))
    (hu : (new host workspace).run? before = some (u, log₁)) :
    s.ComesTo u.directCount (u.host.run u.workspace r).2 := by
  obtain ⟨v, log', rest, hv, hrest, -⟩ := run?_append.1 h
  cases hu.symm.trans hv
  obtain ⟨w, notes, log₂, hw, hafter, -⟩ := run?_cons.1 hrest
  have htallied := tallied_of_run hu
  exact comesTo_run (tallied_step htallied hw) (comesTo_runDirectly htallied hw) hafter

end Followed

end Session

end AgentConsole
