import AgentConsole.Proofs.Session.Run

/-!
# Schedules are runs

Whatever a session does by itself, and whoever uses it lets it do, is made of moves
(`reaches_advance`, `reaches_waitFor`), so what holds after every run holds of it too.
-/

namespace AgentConsole

open AgentConsole.Agent

namespace Session

/-- Some moves lead from one session to the other. -/
def Reaches (s t : Session) : Prop :=
  ∃ moves log, s.run? moves = some (t, log)

variable {s t u : Session}

theorem Reaches.refl (s : Session) : Reaches s s :=
  ⟨[], [], rfl⟩

theorem Reaches.trans (h : Reaches s t) (h' : Reaches t u) : Reaches s u := by
  obtain ⟨moves, log, hm⟩ := h
  obtain ⟨moves', log', hm'⟩ := h'
  exact ⟨moves ++ moves', log ++ log', run?_append.2 ⟨t, log, log', hm, hm', rfl⟩⟩

theorem reaches_of_move {m : Move} {notes : Log} (h : s.move? m = some (t, notes)) :
    Reaches s t :=
  ⟨[m], notes, run?_cons.2 ⟨t, notes, [], h, rfl, (List.append_nil _).symm⟩⟩

theorem perform_deeds (s : Session) (d : Deed) (deeds : List Deed) :
    { s with deeds }.perform d = { s.perform d with deeds } := by
  cases d <;> rfl

/-- The conversation is let go of by doing one deed after the other. -/
theorem run?_finishDeeds (s : Session) :
    ∃ log, s.run? (List.replicate s.deeds.length .proceed) = some (s.finishDeeds, log) := by
  have hall : ∀ (deeds : List Deed) (s : Session), ∃ log,
      { s with deeds }.run? (List.replicate deeds.length .proceed) =
        some (deeds.foldl perform { s with deeds := [] }, log) := by
    intro deeds
    induction deeds with
    | nil => exact fun s => ⟨[], rfl⟩
    | cons d deeds ih =>
      intro s
      obtain ⟨log, hrun⟩ := ih (s.perform d)
      have hmove : { s with deeds := d :: deeds }.move? .proceed =
          some ({ s.perform d with deeds }, Deed.notes d) := by
        rw [← perform_deeds]
        simp [move?, proceed?]
      rw [List.foldl_cons, perform_deeds]
      exact ⟨_, run?_cons.2 ⟨_, _, log, hmove, hrun, rfl⟩⟩
  exact hall s.deeds s

theorem reaches_finishDeeds (s : Session) : Reaches s s.finishDeeds := by
  obtain ⟨log, h⟩ := run?_finishDeeds s
  exact ⟨_, log, h⟩

/-- The first run past the queue whose time has come can be picked out by its number. -/
theorem directEnd?_of_directAnswer? (h : s.directAnswer? = some t) :
    ∃ id, s.directEnd? (· == id) = some t := by
  unfold directAnswer? directEnd? at h
  split at h
  · cases h
  · rename_i id call hf
    obtain ⟨hp, before, after, hl, hb⟩ := List.find?_eq_some_iff_append.1 hf
    have hid : s.directs.find? (fun d => d.1 == id && decide (d.2.timer ≤ s.workspace.now)) =
        some (id, call) := by
      refine List.find?_eq_some_iff_append.2 ⟨by simpa using hp, before, after, hl, fun d hd => ?_⟩
      have := hb d hd
      simp only [Bool.true_and] at this
      simp [this]
    refine ⟨id, ?_⟩
    rw [directEnd?, hid]
    exact h

theorem reaches_next (h : s.next? = some t) : Reaches s t := by
  have hdirect : s.directAnswer? = some t → Reaches s t := fun h => by
    obtain ⟨id, hid⟩ := directEnd?_of_directAnswer? h
    exact reaches_of_move (m := .endDirect id) (Option.map_eq_some_iff.2 ⟨t, hid, rfl⟩)
  unfold next? at h
  split at h
  · rcases Option.or_eq_some_iff.1 h with h | ⟨-, h⟩
    · exact reaches_of_move (m := .take) (Option.map_eq_some_iff.2 ⟨t, h, rfl⟩)
    · exact hdirect h
  · exact reaches_of_move (m := .check) (Option.map_eq_some_iff.2 ⟨t, h, rfl⟩)
  · exact reaches_of_move (m := .start) (Option.map_eq_some_iff.2 ⟨t, h, rfl⟩)
  · rcases Option.or_eq_some_iff.1 h with h | ⟨-, h⟩
    · rcases Option.or_eq_some_iff.1 h with h | ⟨-, h⟩
      · exact reaches_of_move (m := .notice) (Option.map_eq_some_iff.2 ⟨t, h, rfl⟩)
      · exact reaches_of_move (m := .answer) (Option.map_eq_some_iff.2 ⟨t, h, rfl⟩)
    · exact hdirect h
  · rcases Option.or_eq_some_iff.1 h with h | ⟨-, h⟩
    · exact reaches_of_move (m := .route) (Option.map_eq_some_iff.2 ⟨t, h, rfl⟩)
    · exact hdirect h
  · exact reaches_of_move (m := .settle) (Option.map_eq_some_iff.2 ⟨t, h, rfl⟩)
  · exact hdirect h

theorem reaches_settleFor (steps : Nat) : ∀ s : Session, Reaches s (settleFor steps s) := by
  induction steps with
  | zero => exact fun s => .refl s
  | succ steps ih =>
    intro s
    unfold settleFor
    split
    · exact .refl s
    · rename_i t h
      exact (reaches_next h).trans (ih t)

theorem reaches_settle (s : Session) : Reaches s s.settle :=
  reaches_settleFor s.work s

theorem reaches_elapse (s : Session) (moment : Nat) : Reaches s (s.elapse moment) :=
  reaches_of_move (m := .elapse moment) rfl

/-- What is kept when time passes up to a timer and the session settles is kept from timer to
timer. -/
theorem passTimers_induct {P : Session → Prop}
    (step : ∀ {s moment}, P s → s.nextTimer? = some moment → P (s.elapse moment).settle)
    (enough : Session → Bool) (limit : Option Nat) (count : Nat) :
    ∀ {s : Session}, P s → P (passTimers enough limit count s) := by
  induction count with
  | zero => exact fun hs => hs
  | succ count ih =>
    intro s hs
    unfold passTimers
    split
    · exact hs
    · split
      · exact hs
      · rename_i moment hmoment
        split
        · exact hs
        · exact ih (step hs hmoment)

theorem reaches_passTimers (enough : Session → Bool) (limit : Option Nat) (count : Nat)
    (s : Session) : Reaches s (passTimers enough limit count s) :=
  passTimers_induct (fun h _ => (h.trans (reaches_elapse _ _)).trans (reaches_settle _)) enough limit
    count (.refl s)

theorem reaches_waitFor (s : Session) (id : Nat) : Reaches s (s.waitFor id) :=
  (reaches_settle s).trans (reaches_passTimers _ _ _ _)

theorem reaches_advance (s : Session) (milliseconds : Nat) : Reaches s (s.advance milliseconds) :=
  (((reaches_settle s).trans (reaches_passTimers _ _ _ _)).trans (reaches_elapse _ _)).trans
    (reaches_settle _)

end Session

end AgentConsole
