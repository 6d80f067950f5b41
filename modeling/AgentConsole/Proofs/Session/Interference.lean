import AgentConsole.Proofs.Session.Direct
import AgentConsole.Proofs.Session.Independence
import AgentConsole.Proofs.Session.Shared
import AgentConsole.Proofs.Session.Twin

/-!
# Runs past the queue and the conversation

When the runs past the queue are left out of a run of a session, the others find the same on the
disk, and what is left is a run of a twin session (`twin_of_run`). The two share the directory of
request files, so this needs that making it changes neither where the script is found nor whether
the directory can be made (`Discreet`). Where it does, a run past the queue can be told from the
conversation (`direct_run_shows`).
-/

namespace AgentConsole

open AgentConsole.Agent AgentConsole.Files AgentConsole.Text

namespace Session

/-- These moves but for those of runs past the queue. -/
def apart (moves : List Move) : List Move :=
  moves.filter fun m => !m.isDirect

/-- How the runner answers the request of the queue that a move starts, with its number. -/
def answerTo? (s : Session) : Move → Option (Nat × Answer)
  | .start => s.worker.job?.bind fun job =>
    (s.host.start s.workspace job.request).2.call?.map fun call => (job.id, call.answer)
  | _ => none

/-- How the runner answers the requests of the queue in the course of these moves. -/
def answersTo (s : Session) : List Move → List (Nat × Answer)
  | [] => []
  | m :: moves =>
    match s.move? m with
    | none => []
    | some (t, _) => (s.answerTo? m).toList ++ t.answersTo moves

/-- Twins whose disks bear no marks of the runs past the queue. -/
structure Paired (d₀ : Disk) (s t : Session) : Prop where
  twin : Twin s t
  left : Numbered s ∧ ∃ ls, Bare d₀ ls s
  right : Numbered t ∧ ∃ ls, Bare d₀ ls t
  fair : s.workspace.Evenhanded
  refusal : t.workspace.refusal = s.workspace.refusal

variable {host : Host} {workspace : Workspace} {s t s' : Session} {m : Move} {moves : List Move}
variable {log notes : Log} {d₀ : Disk} {answers : Nat → Answer} {job : Job}

section Pairs

theorem paired_new (host : Host) (he : workspace.Evenhanded) :
    Paired workspace.disk (new host workspace) (new host workspace) where
  twin := ⟨rfl, rfl, .refl _, rfl, rfl, rfl, rfl, .idle, rfl, .nil, .nil⟩
  left := ⟨numbered_new host workspace, [], bare_new host workspace⟩
  right := ⟨numbered_new host workspace, [], bare_new host workspace⟩
  fair := he
  refusal := rfl

/-- A run past the queue changes nothing of what twins share. -/
theorem Twin.of_direct (h : Twin s t) (hm : m.isDirect) (hs : Transition s m s') :
    Twin s' t := by
  have hsame {u : Session} (hu : u.workspace.now = s.workspace.now)
      (he : u = { s with
        workspace := u.workspace, directCount := u.directCount, directs := u.directs,
        directReplies := u.directReplies }) : Twin u t := by
    rw [he]
    exact ⟨h.host, h.now.trans hu.symm, h.conversation, h.published, h.deeds, h.accepted, h.queue,
      h.worker, h.dropped, h.announced, h.replies⟩
  cases hs with
  | direct r workspace result hstart => exact hsame (now_of_start hstart) rfl
  | directCall r workspace call hstart => exact hsame (now_of_start hstart) rfl
  | endDirect => exact hsame rfl rfl
  | _ => cases hm

/-- Twins start a request alike when there is the same room for its file. -/
theorem Paired.started_like (h : Paired d₀ s t) (hd : Discreet s.host d₀) (r : Request)
    (hroom : room (nextPath s.workspace s.host.settings.requestDirectory) =
      room (nextPath t.workspace s.host.settings.requestDirectory))
    (ha : ∀ c c', (s.host.start s.workspace r).2 = .called c →
      (t.host.start t.workspace r).2 = .called c' → c'.answer = c.answer) :
    (s.host.start s.workspace r).2.Like (t.host.start t.workspace r).2 := by
  obtain ⟨ls, hbare⟩ := h.left.2
  obtain ⟨ls', hbare'⟩ := h.right.2
  have hcwd := hbare.unmarked.cwd
  have hcwd' := hbare'.unmarked.cwd
  have hunmarked : Unmarked s.host d₀ ls' t.workspace.disk := h.twin.host ▸ hbare'.unmarked
  obtain ⟨n, hpath⟩ := exists_nextPath s.workspace s.host.settings.requestDirectory
  obtain ⟨n', hpath'⟩ := exists_nextPath t.workspace s.host.settings.requestDirectory
  rw [requestPath_congr hcwd] at hpath
  rw [requestPath_congr hcwd', h.twin.now] at hpath'
  rw [hpath, hpath'] at hroom
  rw [h.twin.host] at ha ⊢
  rcases hs : s.host.start s.workspace r with ⟨v, started⟩
  rcases ht : s.host.start t.workspace r with ⟨v', started'⟩
  have hb := begun_of_start hs
  have hb' := begun_of_start ht
  have hrefusal : s.workspace.refusal s.workspace.minted r =
      t.workspace.refusal t.workspace.minted r := by
    rw [h.refusal]
    exact h.fair _ _ r
  -- Both find what they would have found at first.
  rw [hpath, hbare.unmarked.prospect hd, prospect_of_room hroom, ← hunmarked.prospect hd, ← hpath',
    hrefusal] at hb
  refine hb.like hb' h.twin.now (hcwd'.trans hcwd.symm) fun c c' hc hc' => ha c c' ?_ ?_
  · rw [hs, hc]
  · rw [ht, hc']

theorem Paired.step (h : Paired d₀ s t) (ht : Tactful s.host) (hd : Discreet s.host d₀)
    (hm : m.isDirect = false) (hdisk : ∀ disk, m ≠ .disturb disk)
    (hroom : (s.requestPath? m).map room = (t.requestPath? m).map room)
    (ha : ∀ x ∈ s.answerTo? m, x.2 = answers x.1) (ha' : ∀ x ∈ t.answerTo? m, x.2 = answers x.1)
    (hs : s.move? m = some (s', notes)) :
    ∃ t' notes', t.move? m = some (t', notes') ∧ Paired d₀ s' t' := by
  have hstart : ∀ job, m = .start → s.worker = .fresh job →
      (s.host.start s.workspace job.request).2.Like (t.host.start t.workspace job.request).2 := by
    rintro job rfl hw
    have hjob : s.worker.job? = some job := by rw [hw]; rfl
    have hjob' : t.worker.job? = some job := h.twin.worker.job?.trans hjob
    simp only [requestPath?, hjob, hjob', Option.map_some, Option.some.injEq, h.twin.host] at hroom
    refine h.started_like hd job.request hroom fun c c' hc hc' => ?_
    have hx := ha (job.id, c.answer) (by simp [answerTo?, hjob, hc, Started.call?])
    have hx' := ha' (job.id, c'.answer) (by simp [answerTo?, hjob', hc', Started.call?])
    exact hx'.trans hx.symm
  obtain ⟨t', htransition, htwin⟩ :=
    h.twin.of_transition hm hdisk hstart (transition_of_move hs)
  obtain ⟨⟨u, notes'⟩, hmove, rfl⟩ :=
    Option.map_eq_some_iff.1 (move?_of_transition htransition hm)
  obtain ⟨ls, hbare⟩ := h.left.2
  obtain ⟨ls', hbare'⟩ := h.right.2
  refine ⟨u, notes', hmove, htwin, ⟨numbered_step h.left.1 hs, ?_⟩,
    ⟨numbered_step h.right.1 hmove, ?_⟩, ?_, ?_⟩
  · exact bare_of_move ht hd h.left.1 hdisk hbare hs
  · exact bare_of_move (h.twin.host.symm ▸ ht) (h.twin.host.symm ▸ hd) h.right.1 hdisk hbare' hmove
  · exact evenhanded_of_move h.fair hs
  · rw [refusal_of_move hmove, refusal_of_move hs, h.refusal]

/-- Where the one session starts a request the other can, and there is the same room. -/
theorem Paired.head (h : Paired d₀ s t) {rest : List (Bool × Bool)} (hs : (s.move? m).isSome)
    (hroom : (s.requestPath? m).toList.map room ++ rest = (t.requestPaths (m :: moves)).map room) :
    (m = .start → (t.move? m).isSome) ∧
      (s.requestPath? m).map room = (t.requestPath? m).map room := by
  cases m with
  | start =>
    have hjob : (s.requestPath? .start).isSome := by
      obtain ⟨⟨s', notes⟩, hs⟩ := Option.isSome_iff_exists.1 hs
      cases transition_of_move hs with
      | start _ _ hw | call _ _ hw => simp [requestPath?, hw, Worker.job?]
    obtain ⟨path, hpath⟩ := Option.isSome_iff_exists.1 hjob
    have hjob' : (t.requestPath? .start).isSome := by
      rw [requestPath?, h.twin.worker.job?, Option.isSome_map]
      rwa [requestPath?, Option.isSome_map] at hjob
    obtain ⟨path', hpath'⟩ := Option.isSome_iff_exists.1 hjob'
    rw [requestPaths, hpath, hpath'] at hroom
    cases ht : t.move? .start with
    | none => simp [ht] at hroom
    | some p =>
      simp only [ht, Option.toList_some, List.map_append, List.map_cons, List.map_nil,
        List.cons_append, List.cons.injEq] at hroom
      exact ⟨fun _ => rfl, by rw [hpath, hpath', Option.map_some, Option.map_some, hroom.1]⟩
  | _ => exact ⟨fun he => (by cases he), rfl⟩

theorem Paired.direct (h : Paired d₀ s t) (ht : Tactful s.host) (hd : Discreet s.host d₀)
    (hm : m.isDirect) (hs : s.move? m = some (s', notes)) : Paired d₀ s' t := by
  have hdisk : ∀ disk, m ≠ .disturb disk := by
    rintro disk rfl
    cases hm
  obtain ⟨ls, hbare⟩ := h.left.2
  refine ⟨h.twin.of_direct hm (transition_of_move hs), ⟨numbered_step h.left.1 hs, ?_⟩, h.right,
    ?_, ?_⟩
  · exact bare_of_move ht hd h.left.1 hdisk hbare hs
  · exact evenhanded_of_move h.fair hs
  · rw [refusal_of_move hs, h.refusal]

/-- Without the runs past the queue, what happened in a session happens in a twin of it. -/
theorem Paired.run (h : Paired d₀ s t) (ht : Tactful s.host) (hd : Discreet s.host d₀)
    (hdisk : ∀ m ∈ moves, ∀ disk, m ≠ .disturb disk)
    (hroom : (s.requestPaths moves).map room = (t.requestPaths (apart moves)).map room)
    (ha : ∀ x ∈ s.answersTo moves, x.2 = answers x.1)
    (ha' : ∀ x ∈ t.answersTo (apart moves), x.2 = answers x.1)
    (hs : s.run? moves = some (s', log)) :
    ∃ t' log', t.run? (apart moves) = some (t', log') ∧ Paired d₀ s' t' := by
  induction moves generalizing s t log with
  | nil =>
    obtain ⟨rfl, -⟩ := run?_nil.1 hs
    exact ⟨t, [], rfl, h⟩
  | cons m moves ih =>
    obtain ⟨u, notes, rest, hu, hr, -⟩ := run?_cons.1 hs
    have hhost : u.host = s.host := host_step (step_of_move hu)
    have hrest := fun m' hm' => hdisk m' (List.mem_cons_of_mem m hm')
    simp only [requestPaths, answersTo, hu, List.map_append, List.mem_append] at hroom ha
    by_cases hm : m.isDirect
    · have hskip : apart (m :: moves) = apart moves := List.filter_cons_of_neg (by simp [hm])
      have hnone : s.requestPath? m = none := by cases m <;> first | rfl | cases hm
      rw [hskip] at hroom ha' ⊢
      rw [hnone, Option.toList_none, List.map_nil, List.nil_append] at hroom
      exact ih (h.direct ht hd hm hu) (hhost ▸ ht) (hhost ▸ hd) hrest hroom
        (fun x hx => ha x (.inr hx)) ha' hr
    · have hkeep : apart (m :: moves) = m :: apart moves := List.filter_cons_of_pos (by simp [hm])
      rw [hkeep] at hroom ha' ⊢
      obtain ⟨hstart, hhead⟩ := h.head (Option.isSome_iff_exists.2 ⟨_, hu⟩) hroom
      have hanswer : ∀ x ∈ t.answerTo? m, x.2 = answers x.1 := by
        intro x hx
        have hm : m = .start := by cases m <;> first | rfl | cases hx
        obtain ⟨p, hp⟩ := Option.isSome_iff_exists.1 (hstart hm)
        refine ha' x ?_
        rw [answersTo, hp]
        exact List.mem_append_left _ (Option.mem_toList.2 hx)
      obtain ⟨v, notes', hv, huv⟩ := h.step ht hd (Bool.eq_false_iff.2 hm)
        (hdisk m List.mem_cons_self) hhead (fun x hx => ha x (.inl (Option.mem_toList.2 hx)))
        hanswer hu
      simp only [requestPaths, answersTo, hv, List.map_append, List.mem_append] at hroom ha'
      have hheads : (s.requestPath? m).toList.map room = (t.requestPath? m).toList.map room := by
        rw [← Option.toList_map, ← Option.toList_map, hhead]
      rw [hheads] at hroom
      obtain ⟨t', log', ht', hst⟩ := ih huv (hhost ▸ ht) (hhost ▸ hd) hrest
        (List.append_cancel_left hroom) (fun x hx => ha x (.inr hx)) (fun x hx => ha' x (.inr hx)) hr
      exact ⟨t', _, run?_cons.2 ⟨v, notes', log', hv, ht', rfl⟩, hst⟩

end Pairs

section Interference

theorem lookup_like {ps ps' : List (Nat × Reply)}
    (h : List.Forall₂ (fun p p' => p'.1 = p.1 ∧ p.2.Like p'.2) ps ps') (id : Nat) :
    Option.Rel Reply.Like (ps.lookup id) (ps'.lookup id) := by
  induction h with
  | nil => exact .none
  | @cons p p' ps ps' hp _ ih =>
    obtain ⟨k, reply⟩ := p
    obtain ⟨k', reply'⟩ := p'
    obtain ⟨rfl, hlike⟩ : k' = k ∧ reply.Like reply' := hp
    rw [List.lookup_cons, List.lookup_cons]
    cases id == k' with
    | true => exact .some hlike
    | false => exact ih

/-- Take the runs past the queue out of a run of a session, which nobody else disturbs, with a
runner that changes nothing on the disk but the request file and answers each request of the queue
in the same way with and without them, and with a system that takes or refuses what is written to a
request file by the request. If they leave no trace that a request could find, what is left is a run
of a session in the same conversation, at the same epoch and with the same queue, which announced
the same and gave the same replies, but for the names of request files in the words of errors. And
what a run past the queue comes to depends on the settings, the disk and whether the system takes
what is written to its file, the time and the number in the name of its file, and its own answer;
whatever else is done meanwhile, it is under way or has come to that. -/
theorem noninterference_of_direct_runs
    (h : (new host workspace).run? moves = some (s, log))
    (hdisk : ∀ m ∈ moves, ∀ disk, m ≠ .disturb disk) (ht : Tactful host)
    (hd : Discreet host workspace.disk) (he : workspace.Evenhanded)
    (hroom : ((new host workspace).requestPaths moves).map room =
      ((new host workspace).requestPaths (apart moves)).map room)
    (ha : ∀ x ∈ (new host workspace).answersTo moves, x.2 = answers x.1)
    (ha' : ∀ x ∈ (new host workspace).answersTo (apart moves), x.2 = answers x.1) :
    (∃ t log', (new host workspace).run? (apart moves) = some (t, log') ∧ Twin s t ∧
      ∀ id, Option.Rel Reply.Like (s.reply? id) (t.reply? id)) ∧
    ∀ before r after u log₁, moves = before ++ .runDirectly r :: after →
      (new host workspace).run? before = some (u, log₁) →
      ((∃ call, (u.directCount, call) ∈ s.directs) ∨
        s.directReply? u.directCount = (host.run u.workspace r).2) ∧
      ∀ (host' : Host) (w : Workspace), host'.settings = host.settings →
        w.disk = u.workspace.disk → w.now = u.workspace.now → w.minted = u.workspace.minted →
        w.refusal w.minted r = u.workspace.refusal u.workspace.minted r →
        (∀ i d, (host'.runner w.runs.length i d).2 =
          (host.runner u.workspace.runs.length i d).2) →
        (host'.run w r).2 = (host.run u.workspace r).2 := by
  constructor
  · obtain ⟨t, log', hrun, hpaired⟩ :=
      (paired_new host he).run ht hd hdisk hroom ha ha' h
    exact ⟨t, log', hrun, hpaired.twin, lookup_like hpaired.twin.replies⟩
  · rintro before r after u log₁ rfl hu
    have hhost : u.host = host := host_run hu
    refine ⟨?_, fun host' w hs hdisk hnow hminted hrefusal hanswer =>
      run_congr hs hdisk hnow hminted hrefusal hanswer⟩
    rcases (comesTo_of_run h hu).known with ⟨call, hm, -⟩ | ⟨-, hr⟩
    · exact .inl ⟨call, hm⟩
    · rw [hhost] at hr
      exact .inr hr

/-- A host whose directory of request files is not there at first. -/
def remoteHost : Host where
  settings := { sampleHost.settings with requestDirectory := "/tmp" }
  runner := fun _ _ disk => (disk, ⟨some 5, .failure .notExecutable⟩)

/-- A request is answered, and then all is cleared, while a run past the queue is under way. -/
def overlappedMoves : List Move :=
  [.submit sampleSubmission, .proceed, .proceed, .proceed, .elapse 3,
    .runDirectly ⟨"look", .custom, "", ""⟩, .take, .check, .start, .elapse 8, .answer, .route,
    .settle, .settle, .settle, .settle, .clear, .proceed, .endDirect 0, .proceed, .proceed]

theorem discreet_remoteHost : Discreet remoteHost sampleWorkspace.disk where
  rooted := by
    refine ⟨rfl, fun l hl => ?_⟩
    by_cases hn : l = []
    · subst hn
      rfl
    · have hat : sampleWorkspace.disk.at? l ≠ some .directory := by
        unfold Disk.at? sampleWorkspace Workspace.new
        rw [if_neg (by simpa using hn)]
        simp only [List.lookup_cons, List.lookup_nil]
        split <;> simp
      rw [Disk.isDirectoryAt, beq_iff_eq] at hl
      exact absurd hl hat
  names := by
    rintro path hpath segment hsegment ⟨now, number, rfl⟩
    have hsegments : (scriptPaths remoteHost.settings).flatMap segments = ["agent"] := by
      decide +kernel
    have hmem : requestFileName now number ∈ ["agent"] :=
      hsegments ▸ List.mem_flatMap.2 ⟨path, hpath, hsegment⟩
    have hname := congrArg String.toList (List.mem_singleton.1 hmem)
    rw [toList_requestFileName] at hname
    cases hname
  program := by decide +kernel
  again := by
    intro d e h
    have hok : (sampleWorkspace.disk.makeDirectories
        remoteHost.settings.requestDirectory).2.isOk := by decide +kernel
    rw [h] at hok
    cases hok

theorem noninterference_of_direct_runs_sample : ∃ s log t log' u log₁,
    (new remoteHost sampleWorkspace).run? overlappedMoves = some (s, log) ∧
    (new remoteHost sampleWorkspace).run? (apart overlappedMoves) = some (t, log') ∧
    Twin s t ∧ Option.Rel Reply.Like (s.reply? 0) (t.reply? 0) ∧
    (new remoteHost sampleWorkspace).run? (overlappedMoves.take 5) = some (u, log₁) ∧
    s.directReply? 0 = (remoteHost.run u.workspace ⟨"look", .custom, "", ""⟩).2 := by
  have hs : ((new remoteHost sampleWorkspace).run? overlappedMoves).map (fun p =>
      p.1.directs.length) = some 0 := by decide +kernel
  have hu : ((new remoteHost sampleWorkspace).run? (overlappedMoves.take 5)).map (fun p =>
      p.1.directCount) = some 0 := by decide +kernel
  obtain ⟨⟨s, log⟩, hs, hdirects⟩ := Option.map_eq_some_iff.1 hs
  obtain ⟨⟨u, log₁⟩, hu, hcount⟩ := Option.map_eq_some_iff.1 hu
  obtain ⟨answers, ha⟩ : ∃ answers : Nat → Answer,
      ∀ x ∈ (new remoteHost sampleWorkspace).answersTo overlappedMoves ++
        (new remoteHost sampleWorkspace).answersTo (apart overlappedMoves),
      x.2 = answers x.1 := ⟨fun _ => ⟨some 5, .failure .notExecutable⟩, by decide +kernel⟩
  obtain ⟨⟨t, log', ht, htwin, hreplies⟩, hdirect⟩ := noninterference_of_direct_runs hs
    (by simp [overlappedMoves]) (fun _ _ _ _ _ => rfl) discreet_remoteHost (fun _ _ _ => rfl)
    (by decide +kernel)
    (fun x hx => ha x (List.mem_append_left _ hx)) (fun x hx => ha x (List.mem_append_right _ hx))
  obtain ⟨hknown, -⟩ := hdirect _ _ _ u log₁ rfl hu
  rw [hcount] at hknown
  refine ⟨s, log, t, log', u, log₁, hs, ht, htwin, hreplies 0, hu, ?_⟩
  rcases hknown with ⟨call, hm⟩ | hr
  · rw [List.length_eq_zero_iff.1 hdirects] at hm
    cases hm
  · exact hr

/-- A host that looks for the script by way of the directory of request files. -/
def roundaboutHost : Host where
  settings :=
    { script := "agent.sh", interpreter := "sh", extraArguments := [], timeout := 30000
      roots := ["tmp/.."], installDirectory := "inst", requestDirectory := "tmp" }
  runner := fun _ _ disk => (disk, ⟨some 0, .failure (.reported "no such program")⟩)

/-- A workspace with the script in two places, and no directory of request files. -/
def roundaboutWorkspace : Workspace :=
  .new ⟨[(["agent.sh"], .file [] false), (["inst"], .directory), (["inst", "scripts"], .directory),
    (["inst", "scripts", "agent.sh"], .file [] false)], []⟩

/-- A run past the queue, and then a request. -/
def precededMoves : List Move :=
  [.runDirectly ⟨"look", .custom, "", ""⟩, .endDirect 0, .submit (.prompt "ask"), .proceed,
    .proceed, .proceed, .take, .check, .start, .answer, .route, .settle, .settle, .settle, .settle]

/-- A run past the queue makes the directory of request files, and by way of it the next request
finds another script. -/
theorem direct_run_shows : NeverPanics roundaboutHost ∧
    (∃ a, ∀ n i d, (roundaboutHost.runner n i d).2 = a) ∧ ∃ s log t log',
    (new roundaboutHost roundaboutWorkspace).run? precededMoves = some (s, log) ∧
    (new roundaboutHost roundaboutWorkspace).run? (apart precededMoves) = some (t, log') ∧
    s.reply? 0 = some (.error (.agent (.spawn
      "sh \"tmp/../agent.sh\" --input-file \"/tmp/request_0_000001.json\""
      (.reported "no such program")))) ∧
    t.reply? 0 = some (.error (.agent (.spawn
      "sh \"inst/scripts/agent.sh\" --input-file \"/tmp/request_0_000000.json\""
      (.reported "no such program")))) := by
  have hs : ((new roundaboutHost roundaboutWorkspace).run? precededMoves).map (fun p =>
      p.1.reply? 0) = some (some (.error (.agent (.spawn
        "sh \"tmp/../agent.sh\" --input-file \"/tmp/request_0_000001.json\""
        (.reported "no such program"))))) := by decide +kernel
  have ht : ((new roundaboutHost roundaboutWorkspace).run? (apart precededMoves)).map (fun p =>
      p.1.reply? 0) = some (some (.error (.agent (.spawn
        "sh \"inst/scripts/agent.sh\" --input-file \"/tmp/request_0_000000.json\""
        (.reported "no such program"))))) := by decide +kernel
  obtain ⟨⟨s, log⟩, hs, hreply⟩ := Option.map_eq_some_iff.1 hs
  obtain ⟨⟨t, log'⟩, ht, hreply'⟩ := Option.map_eq_some_iff.1 ht
  refine ⟨fun n i d h => ?_, ⟨_, fun n i d => rfl⟩, s, log, t, log', hs, ht, hreply, hreply'⟩
  simp [roundaboutHost] at h

end Interference

end Session

end AgentConsole
