import AgentConsole.Proofs.Agent.Trial
import AgentConsole.Proofs.Session.Closing
import AgentConsole.Proofs.Session.Launch
import AgentConsole.Proofs.Session.Transcript

/-!
# What does not depend on the schedule

As long as nothing is given up (`Calm`), what is asked and what else is said is up to whoever uses
the session (`turn?_of_calm`), and the worker runs one request after the other, each to its end
(`account_of_run`). So the same operations lead to the same requests, run one after the other from
the same disk, whenever the worker gets to move and however much time passes in between
(`schedule_independence`). Only the order in which the outcomes come among the other messages is
open.
-/

namespace AgentConsole

open AgentConsole.Agent AgentConsole.Text

namespace Session

/-- The move is made by whoever uses the session. -/
def Move.isOperation : Move → Bool
  | .submit _ | .append _ | .setFile _ | .clear | .cancel | .runDirectly _ | .drop => true
  | .proceed | .take | .check | .start | .notice | .answer | .route | .settle | .stop
  | .endDirect _ | .elapse _ | .disturb _ => false

/-- The move gives nothing up, runs nothing past the queue, and leaves the disk to the session. -/
def Move.isSteady : Move → Bool
  | .clear | .cancel | .runDirectly _ | .drop | .disturb _ => false
  | .submit _ | .append _ | .setFile _ | .proceed | .take | .check | .start | .notice | .answer
  | .route | .settle | .stop | .endDirect _ | .elapse _ => true

/-- What a steady operation means to the conversation of a session that takes requests. -/
def Move.turn? : Move → Option Turn
  | .submit x => if isAllBlank x.essence then none else some (.asked x)
  | .append m => some (.said m)
  | .setFile a => some (.loaded a)
  | _ => none

/-- The outcome that was taken in. -/
def Turn.outcome? : Turn → Option (Except AgentError String)
  | answered outcome => some outcome
  | said _ | loaded _ | asked _ | cleared => none

def Turn.isAnswered (turn : Turn) : Bool :=
  turn.outcome?.isSome

/-- The request that a turn makes in a conversation about this file. -/
def Turn.request? (file : Option Attachment) : Turn → Option Request
  | asked x => some (x.request file)
  | said _ | loaded _ | answered _ | cleared => none

/-- The requests that these turns make from a conversation on. -/
def requestsFrom (c : Snapshot) : List Turn → List Request
  | [] => []
  | turn :: turns => (turn.request? c.file).toList ++ requestsFrom (c.after turn) turns

/-- The path a move tries to make a request file at. -/
def requestPath? (s : Session) : Move → Option String
  | .start => s.worker.job?.map fun _ => nextPath s.workspace s.host.settings.requestDirectory
  | _ => none

/-- The paths at which request files are tried to be made in the course of these moves. -/
def requestPaths (s : Session) : List Move → List String
  | [] => []
  | m :: moves =>
    match s.move? m with
    | none => []
    | some (t, _) => (s.requestPath? m).toList ++ t.requestPaths moves

/-- Nothing was given up, nothing runs past the queue, and the worker goes on. -/
structure Calm (s : Session) : Prop where
  alive : Alive s
  used : s.dropped = false
  directs : s.directs = []
  deeds : ∀ deed ∈ s.deeds, deed.isPublish = false
  published : s.published = s.conversation.epoch
  epochs : ∀ job ∈ s.undecided, job.epoch = s.conversation.epoch

/-- The requests that the worker has run were run one after the other, and the one under way will
have been run behind them. -/
def Underway (s : Session) (b : Bool × Bool) (g : Ground) (trials : List Trial) : Prop :=
  match s.worker with
  | .running job call => ∃ g', Course s.host b g trials g' ∧
    (Started.called call).Tries s.host b g' job.request s.workspace
  | .answered job outcome => ∃ g', Course s.host b g trials g' ∧
    Tried s.host b g' job.request outcome s.workspace.ground
  | _ => Course s.host b g trials s.workspace.ground

/-- What became of a calm session in these turns: its requests are those of the turns, and of those
that are decided the outcomes are in the turns and in the replies. -/
structure Account (b : Bool × Bool) (g : Ground) (trials : List Trial) (turns : List Turn)
    (s : Session) : Prop where
  course : s.Underway b g trials
  outcomes : trials.map Prod.snd = turns.filterMap Turn.outcome?
  requests : trials.map Prod.fst ++ s.undecided.map Job.request =
    requestsFrom ⟨[welcome], none⟩ turns
  replies : (s.decided.map Prod.snd).reverse = trials.map fun trial => trial.2.mapError .agent
  snapshot : s.conversation.snapshot = turns.foldl Snapshot.after ⟨[welcome], none⟩

/-- These moves are a schedule of the operations, at the end of which every request has its reply.
There is always the same room for request files. -/
structure Schedule (host : Host) (workspace : Workspace) (operations : List Move) (b : Bool × Bool)
    (moves : List Move) (s : Session) : Prop where
  run : ∃ log, (new host workspace).run? moves = some (s, log)
  steady : ∀ m ∈ moves, m.isSteady
  operations : moves.filter Move.isOperation = operations
  room : ∀ path ∈ (new host workspace).requestPaths moves, room path = b
  settled : ∀ id < s.accepted, (s.reply? id).isSome

variable {host : Host} {workspace : Workspace} {moves : List Move}
variable {s t : Session} {m : Move} {log notes : Log} {job : Job}

section Calm

theorem calm_new (host : Host) (workspace : Workspace) : Calm (new host workspace) where
  alive := ⟨rfl, fun _ _ h => by cases h⟩
  used := rfl
  directs := rfl
  deeds := fun _ h => by cases h
  published := rfl
  epochs := fun _ h => by cases h

theorem Calm.not_isPast (hs : s.Calm) (hj : job ∈ s.undecided) : s.isPast job = false := by
  simp [isPast, hs.published, hs.epochs job hj, hs.used]

theorem isPublish_acceptanceDeeds {c : Conversation} {id : Nat} {x : Submission} {deed : Deed}
    (h : deed ∈ acceptanceDeeds c id x) : deed.isPublish = false := by
  obtain ⟨e, rfl, -⟩ := acceptanceDeeds_announce c x deed h
  rfl

theorem epoch_of_steady (hm : m.isSteady) (h : s.move? m = some (t, notes)) :
    t.conversation.epoch = s.conversation.epoch := by
  cases transition_of_move h with
  | accept => exact asked_epoch _ _
  | clear | cancel | drop | direct | directCall | disturb => cases hm
  | @proceed deed => cases deed <;> rfl
  | @route job outcome hw hf routed hr =>
    subst hr
    unfold Session.route
    split <;> rfl
  | _ => rfl

theorem calm_of_move (hn : NeverPanics s.host) (hs : s.Calm) (hm : m.isSteady)
    (h : s.move? m = some (t, notes)) : t.Calm := by
  have hepoch := epoch_of_steady hm h
  have hframe : t.dropped = false ∧ t.directs = [] ∧
      (∀ deed ∈ t.deeds, deed.isPublish = false) ∧ t.published = s.published := by
    obtain ⟨-, hused, hdirects, hdeeds, -, -⟩ := hs
    cases transition_of_move h with
    | accept => exact ⟨hused, hdirects, fun _ => isPublish_acceptanceDeeds, rfl⟩
    | append | setFile =>
      exact ⟨hused, hdirects, by simp [append, setFile, countDeed, Deed.isPublish], rfl⟩
    | @proceed deed deeds hd =>
      rw [hd] at hdeeds
      have hrest := fun deed hdeed => hdeeds deed (List.mem_cons_of_mem _ hdeed)
      cases deed with
      | publish epoch => cases hdeeds _ List.mem_cons_self
      | announce e => exact ⟨hused, hdirects, hrest, rfl⟩
    | endDirect hd => simp [hdirects] at hd
    | clear | cancel | drop | direct | directCall | disturb => cases hm
    | _ => exact ⟨hused, hdirects, hdeeds, rfl⟩
  obtain ⟨hused, hdirects, hdeeds, hpublished⟩ := hframe
  have halive := alive_step hn hs.alive (step_of_move h) hused
  refine ⟨halive, hused, hdirects, hdeeds, ?_, fun job hj => ?_⟩
  · rw [hpublished, hepoch, hs.published]
  · rw [hepoch]
    rcases mem_undecided_step (step_of_move h) hj with hj | ⟨-, -, x, rfl, -⟩
    · exact hs.epochs job hj
    · rfl

theorem calm_of_run (hn : NeverPanics s.host) (hs : s.Calm) (hm : ∀ m ∈ moves, m.isSteady)
    (h : s.run? moves = some (t, log)) : t.Calm := by
  induction moves generalizing s log with
  | nil =>
    obtain ⟨rfl, -⟩ := run?_nil.1 h
    exact hs
  | cons m moves ih =>
    obtain ⟨u, notes, rest, hu, hr, -⟩ := run?_cons.1 h
    have hhost := host_step (step_of_move hu)
    exact ih (hhost ▸ hn) (calm_of_move hn hs (hm m List.mem_cons_self) hu)
      (fun m' hm' => hm m' (List.mem_cons_of_mem _ hm')) hr

end Calm

section Turns

variable {c : Snapshot}

theorem requestsFrom_append (c : Snapshot) (turns turns' : List Turn) :
    requestsFrom c (turns ++ turns') =
      requestsFrom c turns ++ requestsFrom (turns.foldl Snapshot.after c) turns' := by
  induction turns generalizing c with
  | nil => rfl
  | cons turn turns ih =>
    rw [List.cons_append, requestsFrom, requestsFrom, ih, List.append_assoc]
    rfl

/-- The outcomes that are taken in between change nothing of what is asked. -/
theorem requestsFrom_filter {c' : Snapshot} (turns : List Turn) (hc : c.file = c'.file) :
    requestsFrom c turns = requestsFrom c' (turns.filter fun turn => !turn.isAnswered) := by
  induction turns generalizing c c' with
  | nil => rfl
  | cons turn turns ih =>
    cases turn with
    | answered outcome =>
      exact ih (by simpa [Snapshot.after, Turn.isCleared, Turn.file?] using hc)
    | asked =>
      simp only [List.filter_cons, Turn.isAnswered, Turn.outcome?, requestsFrom, hc]
      exact congrArg _ (ih (by simp [Snapshot.after, Turn.isCleared, hc]))
    | said | loaded | cleared =>
      simp only [List.filter_cons, Turn.isAnswered, Turn.outcome?, requestsFrom, hc]
      exact congrArg _ (ih (by simp [Snapshot.after, Turn.isCleared, Turn.file?, hc]))

/-- A steady move that is no outcome means to the conversation what the operation says. -/
theorem turn?_of_calm (hs : s.Calm) (hm : m.isSteady) (h : s.move? m = some (t, notes)) :
    (s.turn? m).toList.filter (fun turn => !turn.isAnswered) = m.turn?.toList := by
  cases m with
  | submit x =>
    have hc : s.isClosed = false := hs.alive.1
    simp only [turn?, submit, Move.turn?, hc]
    by_cases hb : isAllBlank x.essence
    · simp [hb]
    · simp [hb, Turn.isAnswered, Turn.outcome?]
  | route =>
    simp only [turn?, Move.turn?]
    split
    · split <;> rfl
    · rfl
  | append | setFile => rfl
  | clear => cases hm
  | _ => rfl

theorem filterMap_turn? (moves : List Move) :
    moves.filterMap Move.turn? = (moves.filter Move.isOperation).filterMap Move.turn? := by
  rw [List.filterMap_filter]
  congr 1
  funext m
  cases m <;> rfl

end Turns

section Account

variable {b : Bool × Bool} {g : Ground} {trials : List Trial} {turns : List Turn}

theorem account_new (host : Host) (workspace : Workspace) (b : Bool × Bool) :
    Account b workspace.ground [] [] (new host workspace) :=
  ⟨.nil, rfl, rfl, rfl, rfl⟩

/-- The worker goes on and decides nothing. -/
theorem Account.same (ha : Account b g trials turns s) (hc : t.Underway b g trials)
    (hu : t.undecided = s.undecided) (hd : t.decided = s.decided)
    (hs : t.conversation = s.conversation) : Account b g trials turns t :=
  ⟨hc, ha.outcomes, hu ▸ ha.requests, hd ▸ ha.replies, hs ▸ ha.snapshot⟩

/-- Whoever uses the session says something, and perhaps asks for something. -/
theorem Account.said (ha : Account b g trials turns s) {turn : Turn}
    (ho : turn.outcome? = none) (hc : t.Underway b g trials)
    (hu : t.undecided.map Job.request =
      s.undecided.map Job.request ++ (turn.request? s.conversation.file).toList)
    (hd : t.decided = s.decided)
    (hs : t.conversation.snapshot = s.conversation.snapshot.after turn) :
    Account b g trials (turns ++ [turn]) t := by
  refine ⟨hc, ?_, ?_, hd ▸ ha.replies, ?_⟩
  · rw [ha.outcomes, List.filterMap_append]
    simp [ho]
  · have hfile : (turns.foldl Snapshot.after ⟨[welcome], none⟩).file = s.conversation.file := by
      rw [← ha.snapshot]
      rfl
    rw [hu, ← List.append_assoc, ha.requests, requestsFrom_append]
    simp [requestsFrom, hfile]
  · rw [hs, ha.snapshot, List.foldl_append]
    rfl

/-- The worker takes an outcome into the conversation. -/
theorem Account.answered (ha : Account b g trials turns s) {outcome : Except AgentError String}
    (hc : t.Underway b g (trials ++ [(job.request, outcome)]))
    (hu : s.undecided = job :: t.undecided)
    (hd : t.decided = (job.id, outcome.mapError .agent) :: s.decided)
    (hs : t.conversation.snapshot = s.conversation.snapshot.after (.answered outcome)) :
    Account b g (trials ++ [(job.request, outcome)]) (turns ++ [.answered outcome]) t := by
  refine ⟨hc, ?_, ?_, ?_, ?_⟩
  · rw [List.map_append, ha.outcomes, List.filterMap_append]
    rfl
  · have hrequests := ha.requests
    rw [hu, List.map_cons] at hrequests
    rw [List.map_append, List.append_assoc, requestsFrom_append, ← hrequests]
    simp [requestsFrom, Turn.request?]
  · rw [hd, List.map_cons, List.reverse_cons, ha.replies, List.map_append]
    rfl
  · rw [hs, ha.snapshot, List.foldl_append]
    rfl

/-- Each steady move keeps the account, and taking an outcome in adds a trial to it. -/
theorem account_of_move (hp : Predictable s.host) (he : s.workspace.Evenhanded) (hs : s.Calm)
    (hm : m.isSteady)
    (hroom : ∀ path ∈ s.requestPath? m, room path = b) (ha : Account b g trials turns s)
    (h : s.move? m = some (t, notes)) :
    ∃ more, Account b g (trials ++ more) (turns ++ (s.turn? m).toList) t := by
  have hcourse := ha.course
  have hsame (hn : s.turn? m = none) (hc : t.Underway b g trials)
      (hj : t.undecided = s.undecided ∧ t.decided = s.decided)
      (hs : t.conversation = s.conversation) :
      ∃ more, Account b g (trials ++ more) (turns ++ (s.turn? m).toList) t := by
    refine ⟨[], ?_⟩
    rw [hn, Option.toList_none, List.append_nil, List.append_nil]
    exact ha.same hc hj.1 hj.2 hs
  cases transition_of_move h with
  | refuse ho hx => exact hsame (by simp only [turn?, hx]) hcourse ⟨rfl, rfl⟩ rfl
  | @accept x ho hc hx =>
    have hturn : s.turn? (.submit x) = some (.asked x) := by simp only [turn?, hx]
    rw [hturn]
    refine ⟨[], ?_⟩
    rw [List.append_nil]
    exact ha.said rfl hcourse (by simp [undecided, jobOf, Turn.request?]) rfl (snapshot_asked _ x)
  | append | setFile =>
    refine ⟨[], ?_⟩
    rw [List.append_nil]
    exact ha.said rfl hcourse (List.append_nil _).symm rfl rfl
  | @proceed deed => cases deed <;> exact hsame rfl hcourse ⟨rfl, rfl⟩ rfl
  | take hw hq =>
    rw [Underway, hw] at hcourse
    exact hsame rfl hcourse
      (by simp [undecided, decided, hw, hq, Worker.undecided?, Worker.decided?]) rfl
  | pass hw | tell hw | reply hw =>
    rw [Underway, hw] at hcourse
    exact hsame rfl hcourse
      (by simp [undecided, decided, announce, hw, Worker.undecided?, Worker.decided?]) rfl
  | refrain hw he =>
    have hpast := hs.not_isPast (mem_undecided (by rw [hw]; rfl))
    simp [isPast, he] at hpast
  | start _ _ hw hstart | call _ _ hw hstart =>
    -- Whatever comes of it, now or later, the request is tried on what the last one left.
    rw [Underway, hw] at hcourse
    have htried := tried_of_start hp he hstart
    rw [hroom _ (by simp [requestPath?, hw, Worker.job?])] at htried
    exact hsame rfl ⟨_, hcourse, htried⟩
      (by simp [undecided, decided, hw, Worker.undecided?, Worker.decided?]) rfl
  | notice hw hpast =>
    rw [hs.not_isPast (mem_undecided (Worker.undecided_of_runs (.inr hw)))] at hpast
    cases hpast
  | answer hw ht hr =>
    rw [Underway, hw] at hcourse
    obtain ⟨g', hc, htries⟩ := hcourse
    exact hsame rfl ⟨g', hc, htries _ hr⟩
      (by simp [undecided, decided, hw, Worker.undecided?, Worker.decided?]) rfl
  | panic hw ht hr => exact absurd hr (hs.alive.2 _ _ hw)
  | @route job outcome hw hf routed hr =>
    subst hr
    have hj : s.worker.undecided? = some job := by rw [hw]; rfl
    have he : s.conversation.epoch = job.epoch := (hs.epochs job (mem_undecided hj)).symm
    have hturn : s.turn? .route = some (.answered outcome) := by simp only [turn?, hw, he, if_true]
    have hsnapshot := snapshot_of_move h
    rw [hturn] at hsnapshot ⊢
    rw [Underway, hw] at hcourse
    obtain ⟨g', hc, htried⟩ := hcourse
    obtain ⟨hu, hd⟩ := undecided_cons hj
    refine ⟨_, ha.answered (hc.snoc htried) hu ?_ hsnapshot⟩
    have hreply := replyOf_told outcome
    simp [decided, Worker.decided?, hw, Session.route, he, hreply]
  | stop hd => simp [hs.used] at hd
  | endDirect hd => simp [hs.directs] at hd
  | elapse => exact hsame rfl hcourse ⟨rfl, rfl⟩ rfl
  | clear | cancel | drop | direct | directCall | disturb => cases hm

/-- A steady run keeps the account, and what is said in it besides outcomes is what the operations
say. -/
theorem account_of_run (hp : Predictable s.host) (he : s.workspace.Evenhanded)
    (hn : NeverPanics s.host) (hm : ∀ m ∈ moves, m.isSteady)
    (hroom : ∀ path ∈ s.requestPaths moves, room path = b)
    (hs : s.Calm) (ha : Account b g trials turns s) (h : s.run? moves = some (t, log)) :
    (∃ more, Account b g (trials ++ more) (turns ++ s.turns moves) t) ∧
      (s.turns moves).filter (fun turn => !turn.isAnswered) = moves.filterMap Move.turn? ∧
      ∀ turn ∈ s.turns moves, turn.isCleared = false := by
  induction moves generalizing s trials turns log with
  | nil =>
    obtain ⟨rfl, -⟩ := run?_nil.1 h
    refine ⟨⟨[], ?_⟩, rfl, fun turn h => by cases h⟩
    simpa [Session.turns] using ha
  | cons m moves ih =>
    obtain ⟨u, notes, rest, hu, hr, -⟩ := run?_cons.1 h
    have hhost := host_step (step_of_move hu)
    have hsteady := hm m List.mem_cons_self
    simp only [requestPaths, hu, List.mem_append, Option.mem_toList] at hroom
    obtain ⟨more, hau⟩ := account_of_move hp he hs hsteady
      (fun path hpath => hroom path (.inl hpath)) ha hu
    obtain ⟨⟨more', hat⟩, hturns, hcleared⟩ := ih (hhost ▸ hp) (evenhanded_of_move he hu)
      (hhost ▸ hn) (fun m' hm' => hm m' (List.mem_cons_of_mem _ hm'))
      (fun path hpath => hroom path (.inr hpath)) (calm_of_move hn hs hsteady hu) hau hr
    simp only [Session.turns, hu]
    refine ⟨⟨more ++ more', ?_⟩, ?_, fun turn hturn => ?_⟩
    · rwa [← List.append_assoc, ← List.append_assoc]
    · rw [List.filter_append, turn?_of_calm hs hsteady hu, hturns]
      cases hturn : m.turn? <;> simp [hturn]
    · rcases List.mem_append.1 hturn with hturn | hturn
      · refine Bool.eq_false_iff.2 fun hc => ?_
        rw [(turn_isCleared (Option.mem_toList.1 hturn)).1 hc] at hsteady
        cases hsteady
      · exact hcleared turn hturn

/-- The reply to a request is what its trial came to. -/
theorem Account.reply (ha : Account b g trials turns s) (ho : Orderly s) {id : Nat} {reply : Reply}
    (h : s.reply? id = some reply) :
    ∃ trial, trials[id]? = some trial ∧ reply = trial.2.mapError .agent := by
  have hmem : (id, reply) ∈ s.decided.reverse :=
    List.mem_reverse.2 (mem_decided_of_mem_replies (mem_of_reply? h))
  obtain ⟨k, hk⟩ := List.mem_iff_getElem?.1 hmem
  have hids := congrArg (·[k]?) ho.decided_ids
  have hreplies := congrArg (·[k]?) ha.replies
  simp only [← List.map_reverse, List.getElem?_map, hk, Option.map_some] at hids hreplies
  obtain ⟨hlt, hid⟩ := List.getElem?_eq_some_iff.1 hids.symm
  obtain rfl : k = id := by rwa [List.getElem_range] at hid
  obtain ⟨trial, htrial, he⟩ := Option.map_eq_some_iff.1 hreplies.symm
  exact ⟨trial, htrial, he.symm⟩

/-- When every request has its reply, all were tried one after the other. -/
theorem Account.settled (ha : Account b g trials turns s) (ho : Orderly s)
    (hr : ∀ id < s.accepted, (s.reply? id).isSome) :
    trials.map Prod.fst = requestsFrom ⟨[welcome], none⟩ turns ∧
      Course s.host b g trials s.workspace.ground ∧ trials.length = s.accepted := by
  have hu : s.undecided = [] := List.eq_nil_iff_forall_not_mem.2 fun job hj => by
    have hsome := hr job.id (ho.undecided_lt hj)
    rw [ho.reply?_of_undecided hj] at hsome
    cases hsome
  refine ⟨?_, ?_, ?_⟩
  · rw [← ha.requests, hu]
    exact (List.append_nil _).symm
  · have hcourse := ha.course
    unfold Underway at hcourse
    cases hw : s.worker with
    | running | answered => simp [undecided, hw, Worker.undecided?] at hu
    | _ => rwa [hw] at hcourse
  · have hlength := congrArg List.length ho
    have hreplies := congrArg List.length ha.replies
    simp [hu] at hlength hreplies
    omega

theorem history_of_turns (c : Snapshot) (hc : ∀ turn ∈ turns, turn.isCleared = false) :
    (turns.foldl Snapshot.after c).history = c.history ++ turns.flatMap Turn.messages := by
  induction turns generalizing c with
  | nil => exact (List.append_nil _).symm
  | cons turn turns ih =>
    rw [List.foldl_cons, ih _ fun turn' h => hc turn' (List.mem_cons_of_mem _ h)]
    simp [Snapshot.after, hc turn List.mem_cons_self]

end Account

section Schedules

variable {operations moves₁ moves₂ : List Move} {b : Bool × Bool} {s₁ s₂ : Session}

/-- What becomes of one schedule. -/
theorem Schedule.spec (hp : Predictable host) (he : workspace.Evenhanded) (hn : NeverPanics host)
    (h : Schedule host workspace operations b moves s) :
    let turns := (new host workspace).turns moves
    (turns.filter fun turn => !turn.isAnswered) = operations.filterMap Move.turn? ∧
    s.conversation.history = welcome :: turns.flatMap Turn.messages ∧
    ∃ trials, Course host b workspace.ground trials s.workspace.ground ∧
      trials.map Prod.fst = requestsFrom ⟨[welcome], none⟩ (operations.filterMap Move.turn?) ∧
      trials.map Prod.snd = turns.filterMap Turn.outcome? ∧ trials.length = s.accepted ∧
      ∀ id < s.accepted, ∃ trial, trials[id]? = some trial ∧
        s.reply? id = some (trial.2.mapError .agent) := by
  obtain ⟨log, hrun⟩ := h.run
  obtain ⟨⟨trials, ha⟩, hturns, hcleared⟩ := account_of_run hp he hn h.steady h.room
    (calm_new host workspace) (account_new host workspace b) hrun
  rw [List.nil_append, List.nil_append] at ha
  rw [filterMap_turn?, h.operations] at hturns
  have hhost : s.host = host := host_run hrun
  have ho := (sound_of_run hrun).orderly
  obtain ⟨hrequests, hcourse, hlength⟩ := ha.settled ho h.settled
  refine ⟨hturns, ?_, trials, hhost ▸ hcourse, ?_, ha.outcomes, hlength, fun id hid => ?_⟩
  · have hhistory := congrArg Snapshot.history ha.snapshot
    rwa [history_of_turns _ hcleared] at hhistory
  · rw [hrequests, ← hturns]
    exact requestsFrom_filter _ rfl
  · obtain ⟨reply, hr⟩ := Option.isSome_iff_exists.1 (h.settled id hid)
    obtain ⟨trial, htrial, rfl⟩ := ha.reply ho hr
    exact ⟨trial, htrial, hr⟩

/-- Two schedules of the same operations, which clear, cancel, drop and run nothing past the queue,
come to the same for whoever uses the session, when what becomes of a run depends only on how many
there were before it, nobody else changes the disk, and the system takes or refuses a request file
for what is in it. As many requests are accepted, and each gets the same reply; the runner is called
for the same requests in the same order; and the histories are made up of the same outcomes and the
same other messages, which may come in between each other in different ways. The words of an error
may name another request file. -/
theorem schedule_independence (hp : Predictable host) (he : workspace.Evenhanded)
    (hn : NeverPanics host) (h₁ : Schedule host workspace operations b moves₁ s₁)
    (h₂ : Schedule host workspace operations b moves₂ s₂) :
    let turns₁ := (new host workspace).turns moves₁
    let turns₂ := (new host workspace).turns moves₂
    s₁.accepted = s₂.accepted ∧
    (∀ id < s₁.accepted, ∃ o₁ o₂, s₁.reply? id = some (o₁.mapError .agent) ∧
      s₂.reply? id = some (o₂.mapError .agent) ∧ Alike o₁ o₂) ∧
    s₁.workspace.runs.map Prod.snd = s₂.workspace.runs.map Prod.snd ∧
    s₁.conversation.history = welcome :: turns₁.flatMap Turn.messages ∧
    s₂.conversation.history = welcome :: turns₂.flatMap Turn.messages ∧
    List.Forall₂ Alike (turns₁.filterMap Turn.outcome?) (turns₂.filterMap Turn.outcome?) ∧
    (turns₁.filter fun turn => !turn.isAnswered) = turns₂.filter fun turn => !turn.isAnswered := by
  intro turns₁ turns₂
  obtain ⟨hturns₁, hhistory₁, trials₁, hc₁, hr₁, ho₁, hl₁, hreply₁⟩ := h₁.spec hp he hn
  obtain ⟨hturns₂, hhistory₂, trials₂, hc₂, hr₂, ho₂, hl₂, hreply₂⟩ := h₂.spec hp he hn
  obtain ⟨halike, hground⟩ := hc₁.alike hp hc₂ (hr₁.trans hr₂.symm)
  have haccepted : s₁.accepted = s₂.accepted := by
    have hlength := congrArg List.length (hr₁.trans hr₂.symm)
    rw [List.length_map, List.length_map] at hlength
    omega
  refine ⟨haccepted, fun id hid => ?_, congrArg Ground.bodies hground, hhistory₁, hhistory₂,
    ho₁ ▸ ho₂ ▸ halike, hturns₁.trans hturns₂.symm⟩
  obtain ⟨trial₁, htrial₁, hreply₁⟩ := hreply₁ id hid
  obtain ⟨trial₂, htrial₂, hreply₂⟩ := hreply₂ id (haccepted ▸ hid)
  refine ⟨trial₁.2, trial₂.2, hreply₁, hreply₂, ?_⟩
  obtain ⟨hlt₁, rfl⟩ := List.getElem?_eq_some_iff.1 htrial₁
  obtain ⟨hlt₂, rfl⟩ := List.getElem?_eq_some_iff.1 htrial₂
  have := (List.forall₂_iff_get.1 halike).2 id (by simpa using hlt₁) (by simpa using hlt₂)
  simpa using this

/-- A host whose script answers once and cannot be run again. -/
def failingHost : Host :=
  { sampleHost with
    runner := fun count _ disk =>
      (disk, ⟨some 0, if count = 0 then .exit ⟨"hi", "", 0⟩ else .failure .notExecutable⟩) }

/-- What the worker does for one request. -/
def workMoves : List Move :=
  [.take, .check, .start, .answer, .route, .settle, .settle, .settle, .settle]

/-- A request is made, with its announcements. -/
def askMoves (x : Submission) : List Move :=
  [.submit x, .proceed, .proceed, .proceed]

/-- A file is loaded, with its announcements. -/
def loadMoves : List Move :=
  [.setFile ⟨"/src/a.c", "int a;"⟩, .proceed, .proceed]

/-- The worker keeps up with what is asked. -/
def promptMoves : List Move :=
  askMoves sampleSubmission ++ workMoves ++ loadMoves ++ askMoves (.prompt "why") ++ workMoves

/-- The worker does nothing until all is asked, and then time passes. -/
def belatedMoves : List Move :=
  askMoves sampleSubmission ++ loadMoves ++ askMoves (.prompt "why") ++ workMoves ++
    Move.elapse 12 :: workMoves

theorem predictable_failingHost : Predictable failingHost :=
  ⟨fun _ _ _ _ _ => rfl, fun _ _ _ _ _ => rfl, fun _ _ _ _ _ h => h⟩

theorem neverPanics_failingHost : NeverPanics failingHost := by
  intro count invocation d
  by_cases hc : count = 0 <;> simp [failingHost, hc]

/-- What went wrong, if that is what a reply tells. -/
def failure? : Reply → Option SessionError
  | .error e => some e
  | .ok _ => none

theorem eq_error_of_failure? {o : Option Reply} {e : SessionError}
    (h : o.bind failure? = some e) : o = some (.error e) := by
  rcases o with _ | e' | text
  · cases h
  · rw [← Option.some.inj h]
  · cases h

/-- Whether the worker keeps up or not, both requests have their replies in the end. In the one
history the first answer stands where the other has the file; and what went wrong with the second
request is told with the name of its file. -/
theorem schedules_failingHost : ∃ operations s₁ s₂,
    Schedule failingHost sampleWorkspace operations (true, true) promptMoves s₁ ∧
    Schedule failingHost sampleWorkspace operations (true, true) belatedMoves s₂ ∧
    s₁.conversation.history[2]?.map Message.role = some .agent ∧
    s₂.conversation.history[2]?.map Message.role = some .system ∧
    s₁.reply? 1 = some (.error (.agent (.spawn
      "sh \"/agent\" --input-file \"/request_0_000001.json\"" .notExecutable))) ∧
    s₂.reply? 1 = some (.error (.agent (.spawn
      "sh \"/agent\" --input-file \"/request_12_000001.json\"" .notExecutable))) ∧
    s₁.conversation.history.filter (fun m => m.role = .agent) = [⟨.agent, "hi"⟩,
      ⟨.agent, "Error: Failed to run agent command `sh \"/agent\" --input-file " ++
        "\"/request_0_000001.json\"`: Exec format error (os error 8)"⟩] ∧
    s₂.conversation.history.filter (fun m => m.role = .agent) = [⟨.agent, "hi"⟩,
      ⟨.agent, "Error: Failed to run agent command `sh \"/agent\" --input-file " ++
        "\"/request_12_000001.json\"`: Exec format error (os error 8)"⟩] := by
  have h₁ : ((new failingHost sampleWorkspace).run? promptMoves).map (fun p =>
      ((p.1.accepted, (p.1.reply? 0).isSome, (p.1.reply? 1).bind failure?),
        p.1.conversation.history[2]?.map Message.role,
        p.1.conversation.history.filter fun m => m.role = .agent)) =
      some ((2, true, some (.agent (.spawn
        "sh \"/agent\" --input-file \"/request_0_000001.json\"" .notExecutable))), some .agent,
        [⟨.agent, "hi"⟩, ⟨.agent, "Error: Failed to run agent command `sh \"/agent\" " ++
          "--input-file \"/request_0_000001.json\"`: Exec format error (os error 8)"⟩]) := by
    decide +kernel
  have h₂ : ((new failingHost sampleWorkspace).run? belatedMoves).map (fun p =>
      ((p.1.accepted, (p.1.reply? 0).isSome, (p.1.reply? 1).bind failure?),
        p.1.conversation.history[2]?.map Message.role,
        p.1.conversation.history.filter fun m => m.role = .agent)) =
      some ((2, true, some (.agent (.spawn
        "sh \"/agent\" --input-file \"/request_12_000001.json\"" .notExecutable))), some .system,
        [⟨.agent, "hi"⟩, ⟨.agent, "Error: Failed to run agent command `sh \"/agent\" " ++
          "--input-file \"/request_12_000001.json\"`: Exec format error (os error 8)"⟩]) := by
    decide +kernel
  obtain ⟨⟨s₁, log₁⟩, hrun₁, h₁⟩ := Option.map_eq_some_iff.1 h₁
  obtain ⟨⟨s₂, log₂⟩, hrun₂, h₂⟩ := Option.map_eq_some_iff.1 h₂
  simp only [Prod.mk.injEq] at h₁ h₂
  obtain ⟨⟨ha₁, hfirst₁, hreply₁⟩, hrole₁, htold₁⟩ := h₁
  obtain ⟨⟨ha₂, hfirst₂, hreply₂⟩, hrole₂, htold₂⟩ := h₂
  replace hreply₁ := eq_error_of_failure? hreply₁
  replace hreply₂ := eq_error_of_failure? hreply₂
  have hsettled {s : Session} {reply : Reply} (ha : s.accepted = 2) (h : (s.reply? 0).isSome)
      (h' : s.reply? 1 = some reply) : ∀ id < s.accepted, (s.reply? id).isSome := by
    intro id hid
    obtain rfl | rfl : id = 0 ∨ id = 1 := by omega
    · exact h
    · exact Option.isSome_of_eq_some h'
  exact ⟨_, s₁, s₂,
    ⟨⟨log₁, hrun₁⟩, by decide +kernel, rfl, by decide +kernel, hsettled ha₁ hfirst₁ hreply₁⟩,
    ⟨⟨log₂, hrun₂⟩, by decide +kernel, rfl, by decide +kernel, hsettled ha₂ hfirst₂ hreply₂⟩,
    hrole₁, hrole₂, hreply₁, hreply₂, htold₁, htold₂⟩

theorem schedule_independence_sample : ∃ operations s₁ s₂,
    Schedule failingHost sampleWorkspace operations (true, true) promptMoves s₁ ∧
    Schedule failingHost sampleWorkspace operations (true, true) belatedMoves s₂ ∧
    s₁.workspace.runs.map Prod.snd = s₂.workspace.runs.map Prod.snd ∧
    s₁.conversation.history ≠ s₂.conversation.history := by
  obtain ⟨operations, s₁, s₂, hearly, hlate, hrole₁, hrole₂, -⟩ := schedules_failingHost
  obtain ⟨-, -, hbodies, -⟩ := schedule_independence predictable_failingHost
    (fun _ _ _ => rfl) neverPanics_failingHost hearly hlate
  refine ⟨operations, s₁, s₂, hearly, hlate, hbodies, fun heq => ?_⟩
  rw [heq, hrole₂] at hrole₁
  cases hrole₁

/-- The result of a request and the agent messages are not the same in every schedule: the words of
an error name the request file, and this is named for the time at which it was made. -/
theorem schedules_told_apart : Predictable failingHost ∧ sampleWorkspace.Evenhanded ∧
    NeverPanics failingHost ∧ ∃ operations s₁ s₂,
      Schedule failingHost sampleWorkspace operations (true, true) promptMoves s₁ ∧
      Schedule failingHost sampleWorkspace operations (true, true) belatedMoves s₂ ∧
      s₁.reply? 1 = some (.error (.agent (.spawn
        "sh \"/agent\" --input-file \"/request_0_000001.json\"" .notExecutable))) ∧
      s₂.reply? 1 = some (.error (.agent (.spawn
        "sh \"/agent\" --input-file \"/request_12_000001.json\"" .notExecutable))) ∧
      s₁.conversation.history.filter (fun m => m.role = .agent) ≠
        s₂.conversation.history.filter fun m => m.role = .agent := by
  obtain ⟨operations, s₁, s₂, hearly, hlate, -, -, hreply₁, hreply₂, htold₁, htold₂⟩ :=
    schedules_failingHost
  refine ⟨predictable_failingHost, fun _ _ _ => rfl, neverPanics_failingHost, operations, s₁, s₂,
    hearly, hlate, hreply₁, hreply₂, ?_⟩
  rw [htold₁, htold₂]
  decide

end Schedules

end Session

end AgentConsole
