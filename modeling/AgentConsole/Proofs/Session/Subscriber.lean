import AgentConsole.Proofs.Session.Account
import AgentConsole.Proofs.Session.Transcript
import Mathlib.Data.List.Chain

/-!
# What a subscriber knows

Some events say how many messages there are and some which file is the current one: these are news.
Every turn of the conversation puts its news among the deeds of whoever holds the conversation, in
the same move and nowhere else (`news_of_move`). Nobody else can change the conversation until they
are announced, so the news of a run are those of its turns, in their order, up to what is due
(`news_of_run`). A subscriber that hears them all therefore knows how many messages there are and
which file is the current one whenever the conversation is free.
-/

namespace AgentConsole

open AgentConsole.Agent

namespace Session

/-- The event is about the messages or the file, and not about a request. -/
def Event.isNews : Event → Bool
  | updated _ | file _ => true
  | loading _ _ | response _ _ _ | phase _ _ => false

/-- How many messages there are, if the event says it. -/
def Event.count? : Event → Option Nat
  | updated count => some count
  | _ => none

/-- What a subscriber hears that reads what is announced in these portions. -/
def heard (portions : List (List Event)) : List Event :=
  portions.flatMap fun unseen => (received eventCapacity unseen).2

/-- How many messages there are, and which file is the current one. -/
structure Picture where
  count : Nat
  file : Option Attachment
  deriving DecidableEq, Repr

/-- The picture of a new session. -/
def Picture.first : Picture :=
  ⟨1, none⟩

/-- The picture after one more event. -/
def Picture.after (p : Picture) : Event → Picture
  | .updated count => { p with count }
  | .file file => { p with file }
  | .loading _ _ | .response _ _ _ | .phase _ _ => p

/-- The picture that events give: what the last one of each kind says, or else the first picture. -/
def picture (events : List Event) : Picture :=
  events.foldl Picture.after .first

/-- The picture of a conversation. -/
def Snapshot.picture (c : Snapshot) : Picture :=
  ⟨c.history.length, c.file⟩

/-- How many messages there are after a turn. -/
def Turn.count (n : Nat) (turn : Turn) : Nat :=
  if turn.isCleared then 0 else n + 1

/-- The news of a turn after which there are so many messages. -/
def Turn.news (n : Nat) : Turn → List Event
  | cleared => [.file none, .updated n]
  | loaded a => [.file (some a), .updated n]
  | asked x => (x.newFile?.map fun a => Event.file (some a)).toList ++ [.updated n]
  | said _ | answered _ => [.updated n]

/-- The news of these turns, when there are so many messages before them. -/
def newsOf (n : Nat) : List Turn → List Event
  | [] => []
  | turn :: turns => turn.news (turn.count n) ++ newsOf (turn.count n) turns

/-- The news announced so far, and then those that are due. -/
def news (s : Session) : List Event :=
  (s.announced.reverse ++ s.due).filter Event.isNews

variable {s t : Session} {m : Move} {moves : List Move} {log notes : Log}

section Announcing

theorem news_of_isFree (hf : s.isFree) : s.news = s.announced.reverse.filter Event.isNews := by
  rw [news, due, deeds_of_isFree hf]
  simp

theorem isNews_of_request? {e : Event} {id : Nat} (h : e.request? = some id) :
    e.isNews = false := by
  cases e <;> simp_all [Event.request?, Event.isNews]

/-- What is due of an acceptance tells the news and that the request is on its way. -/
theorem filter_acceptance (c : Conversation) (id : Nat) (x : Submission) :
    ((acceptanceDeeds c id x).filterMap Deed.event?).filter Event.isNews =
      (Turn.asked x).news c.history.length := by
  simp only [acceptanceDeeds, countDeed, Turn.news]
  cases x.newFile? <;> rfl

/-- Changing the conversation while nobody holds it adds the news that become due. -/
theorem news_of_deeds (hf : s.isFree) (ha : t.announced = s.announced) :
    t.news = s.news ++ (t.deeds.filterMap Deed.event?).filter Event.isNews := by
  rw [news_of_isFree hf, news, due, ha, List.filter_append]

/-- A move announces, now or as soon as it is due, the news of what it means to the conversation,
and no other. -/
theorem news_of_move (hs : Settling s) (h : s.move? m = some (t, notes)) : t.news =
    s.news ++ (s.turn? m).toList.flatMap (Turn.news t.conversation.history.length) := by
  have hsame (hn : s.turn? m = none) (he : t.news = s.news) : t.news =
      s.news ++ (s.turn? m).toList.flatMap (Turn.news t.conversation.history.length) := by
    rw [hn, he]
    exact (List.append_nil _).symm
  cases transition_of_move h with
  | refuse ho hx => exact hsame (by simp only [turn?, hx]) rfl
  | accept ho hc hx =>
    simp only [turn?, hx, Option.toList_some, List.flatMap_singleton]
    refine (news_of_deeds (isFree_of_isOpen ho) (by rfl)).trans ?_
    rw [filter_acceptance]
  | append | setFile | clear | cancel =>
    rename_i ho
    exact news_of_deeds (isFree_of_isOpen ho) (by rfl)
  | @proceed deed deeds hd =>
    refine hsame rfl ?_
    unfold news due
    rw [hd]
    cases deed <;> simp [perform, announce, Deed.event?, List.filterMap_cons]
  | @route job outcome hw hf routed hr =>
    subst hr
    by_cases he : s.conversation.epoch = job.epoch
    · simp only [turn?, hw, he, if_true]
      rw [news_of_isFree hf, news_of_isFree (by exact hf)]
      simp [Session.route, he, Turn.news, Event.isNews]
    · refine hsame (by simp only [turn?, hw, he, if_false]) ?_
      simp [news, due, Session.route, he]
  | @tell job e events reply hw =>
    refine hsame rfl ?_
    have hn := isNews_of_request? (hs.request hw e List.mem_cons_self)
    simp [news, due, announce, hn]
  | _ => exact hsame rfl rfl

end Announcing

section Reading

theorem received_of_le {capacity : Nat} {unseen : List Event} (h : unseen.length ≤ capacity) :
    received capacity unseen = (0, unseen) := by
  simp [received, Nat.sub_eq_zero_of_le h]

/-- A subscriber that misses nothing hears what was announced. -/
theorem heard_eq_flatten {portions : List (List Event)}
    (h : ∀ unseen ∈ portions, (received eventCapacity unseen).1 = 0) :
    heard portions = portions.flatten := by
  induction portions with
  | nil => rfl
  | cons unseen portions ih =>
    have hle : unseen.length ≤ eventCapacity :=
      Nat.le_of_sub_eq_zero (h unseen List.mem_cons_self)
    have hrest := ih fun u hu => h u (List.mem_cons_of_mem _ hu)
    rw [heard, List.flatMap_cons, received_of_le hle, ← heard, hrest, List.flatten_cons]

theorem picture_filter (events : List Event) : picture (events.filter Event.isNews) =
    picture events := by
  unfold picture
  generalize Picture.first = p
  induction events generalizing p with
  | nil => rfl
  | cons e events ih => cases e <;> simp [List.filter_cons, Event.isNews, Picture.after, ih]

theorem counts_filter (events : List Event) :
    (events.filter Event.isNews).filterMap Event.count? = events.filterMap Event.count? := by
  induction events with
  | nil => rfl
  | cons e events ih =>
    cases e <;> simp [List.filter_cons, List.filterMap_cons, Event.isNews, Event.count?, ih]

end Reading

section Turns

/-- After a turn there is one message more, or none. -/
theorem length_after (c : Snapshot) (turn : Turn) :
    (c.after turn).history.length = turn.count c.history.length := by
  cases turn with
  | asked | answered => simp [Snapshot.after, Turn.isCleared, Turn.count]
  | said | loaded | cleared => simp [Snapshot.after, Turn.isCleared, Turn.messages, Turn.count]

/-- The news of a turn change the picture as the turn changes the conversation. -/
theorem foldl_turn_news (c : Snapshot) (turn : Turn) :
    (turn.news (turn.count c.history.length)).foldl Picture.after c.picture =
      (c.after turn).picture := by
  rw [Snapshot.picture, Snapshot.picture, length_after]
  cases turn with
  | asked x =>
    cases hx : x.newFile? <;>
      simp [Turn.news, hx, Picture.after, Snapshot.after, Turn.isCleared]
  | _ => simp [Turn.news, Picture.after, Snapshot.after, Turn.isCleared, Turn.file?]

theorem foldl_newsOf (c : Snapshot) (turns : List Turn) :
    (newsOf c.history.length turns).foldl Picture.after c.picture =
      (turns.foldl Snapshot.after c).picture := by
  induction turns generalizing c with
  | nil => rfl
  | cons turn turns ih =>
    rw [newsOf, List.foldl_append, foldl_turn_news, List.foldl_cons, ← ih, length_after]

/-- The numbers of messages that the news tell go up by one or down to none. -/
theorem isChain_newsOf (n : Nat) (turns : List Turn) :
    (n :: (newsOf n turns).filterMap Event.count?).IsChain fun k l => l = k + 1 ∨ l = 0 := by
  induction turns generalizing n with
  | nil => exact .singleton n
  | cons turn turns ih =>
    have hcount : (newsOf n (turn :: turns)).filterMap Event.count? =
        turn.count n :: (newsOf (turn.count n) turns).filterMap Event.count? := by
      rw [newsOf, List.filterMap_append]
      cases turn with
      | asked x => cases hx : x.newFile? <;> simp [Turn.news, hx, Event.count?, List.filterMap_cons]
      | _ => rfl
    rw [hcount]
    refine .cons_cons ?_ (ih _)
    cases turn <;> simp [Turn.count, Turn.isCleared]

/-- The news of a run are those of its turns. -/
theorem news_of_run (hs : Sound log s) (h : s.run? moves = some (t, notes)) :
    t.news = s.news ++ newsOf s.conversation.history.length (s.turns moves) := by
  induction moves generalizing s log notes with
  | nil =>
    obtain ⟨rfl, -⟩ := run?_nil.1 h
    exact (List.append_nil _).symm
  | cons m moves ih =>
    obtain ⟨u, new, rest, hm, hr, rfl⟩ := run?_cons.1 h
    have hlen := congrArg (fun c => c.history.length) (snapshot_of_move hm)
    rw [ih (sound_step hs (step_of_move hm)) hr, news_of_move hs.settling hm, List.append_assoc]
    simp only [turns, hm]
    cases hturn : s.turn? m with
    | none =>
      rw [hturn] at hlen
      have hlen : u.conversation.history.length = s.conversation.history.length := hlen
      rw [hlen]
      rfl
    | some turn =>
      rw [hturn] at hlen
      have hlen : u.conversation.history.length = turn.count s.conversation.history.length :=
        hlen.trans (length_after s.conversation.snapshot turn)
      rw [hlen]
      simp [newsOf]

end Turns

/-- A subscriber that is there from the start and misses nothing knows how many messages there are
and which file is the current one whenever the conversation is free. The numbers it hears go up by
one or down to none. What it hears of the messages and the file are the news of the turns of the
conversation, each once and in their order, except for those of the last turn that are due while the
conversation is held. -/
theorem events_reconstruct {host : Host} {workspace : Workspace} {portions : List (List Event)}
    (h : (new host workspace).run? moves = some (s, log))
    (ha : portions.flatten = s.announced.reverse)
    (hm : ∀ unseen ∈ portions, (received eventCapacity unseen).1 = 0) :
    (s.isFree → picture (heard portions) =
      ⟨s.conversation.history.length, s.conversation.file⟩) ∧
    (1 :: (heard portions).filterMap Event.count?).IsChain (fun k l => l = k + 1 ∨ l = 0) ∧
    (heard portions).filter Event.isNews ++ s.due.filter Event.isNews =
      newsOf 1 ((new host workspace).turns moves) := by
  have hnews : s.news = newsOf 1 ((new host workspace).turns moves) :=
    news_of_run (sound_new host workspace) h
  rw [heard_eq_flatten hm, ha]
  refine ⟨fun hf => ?_, ?_, ?_⟩
  · have hsnap : (s.conversation.snapshot).picture = _ :=
      congrArg Snapshot.picture (snapshot_of_run h)
    rw [← picture_filter, ← news_of_isFree hf, hnews]
    exact (foldl_newsOf (new host workspace).conversation.snapshot _).trans hsnap.symm
  · have hchain := isChain_newsOf 1 ((new host workspace).turns moves)
    rw [← hnews, news, counts_filter, List.filterMap_append, ← List.cons_append] at hchain
    exact hchain.left_of_append
  · rw [← hnews, news, List.filter_append]

/-- A mention is asked and answered, and nobody holds the conversation. -/
def mentionMoves : List Move :=
  [.submit (.mention "go" ⟨"/src/a.c", "int a;"⟩), .proceed, .proceed, .proceed, .proceed, .take,
    .check, .start, .answer, .route]

/-- The first four events are read in one portion and the others in another. -/
theorem events_reconstruct_sample : ∃ s log,
    (new sampleHost sampleWorkspace).run? mentionMoves = some (s, log) ∧
    let portions := [s.announced.reverse.take 4, s.announced.reverse.drop 4]
    portions.flatten = s.announced.reverse ∧
    (∀ unseen ∈ portions, (received eventCapacity unseen).1 = 0) ∧ s.isFree ∧
    picture (heard portions) = ⟨3, some ⟨"/src/a.c", "int a;"⟩⟩ := by
  have h : ((new sampleHost sampleWorkspace).run? mentionMoves).map (fun p =>
      (p.1.announced.length, p.1.isFree, p.1.conversation.history.length, p.1.conversation.file)) =
      some (6, true, 3, some ⟨"/src/a.c", "int a;"⟩) := by decide +kernel
  obtain ⟨⟨s, log⟩, hs, h⟩ := Option.map_eq_some_iff.1 h
  simp only [Prod.mk.injEq] at h
  obtain ⟨hlength, hfree, hcount, hfile⟩ := h
  have hflat : [s.announced.reverse.take 4, s.announced.reverse.drop 4].flatten =
      s.announced.reverse := by simp
  have hmissed : ∀ unseen ∈ [s.announced.reverse.take 4, s.announced.reverse.drop 4],
      (received eventCapacity unseen).1 = 0 := by
    simp [received, hlength, eventCapacity]
  refine ⟨s, log, hs, hflat, hmissed, hfree, ?_⟩
  rw [(events_reconstruct hs hflat hmissed).1 hfree, hcount, hfile]

end Session

end AgentConsole
