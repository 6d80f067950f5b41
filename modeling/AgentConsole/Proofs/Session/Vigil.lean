import AgentConsole.Proofs.Session.Cancellation
import AgentConsole.Session.Lookout
import Mathlib.Logic.Relation

/-!
# No epoch is missed

The worker gives a request up when its lookout is over. To read what is published and to wait for
the next publication are two things, and something may be published in between. Still a lookout that
has nothing to do but to wait has read what was published last (`Watch.published_eq`). So whatever
has happened since it began, it comes to its end just when the request need not be waited for
(`Watch.leads_to_ended`).
-/

namespace AgentConsole

open Relation

namespace Session

/-- What is published in a session. -/
def board (log : Log) (s : Session) : Board :=
  ⟨s.published, log.countP Note.isPublished, s.dropped⟩

/-- Somebody looks out for another epoch than `own` while the session goes on. -/
inductive Watch (own : UInt64) : Log → Session → Lookout → Prop
  | begin (log : Log) (s : Session) : Watch own log s .reading
  | move {log notes : Log} {s t : Session} {l : Lookout} {m : Move} (hw : Watch own log s l)
      (h : s.move? m = some (t, notes)) : Watch own (log ++ notes) t l
  | look {log : Log} {s : Session} {l l' : Lookout} (hw : Watch own log s l)
      (h : l.look? own (board log s) = some l') : Watch own log s l'

/-- Whoever looks out at what is published gets from the one point to the other. -/
def Leads (own : UInt64) (b : Board) : Lookout → Lookout → Prop :=
  ReflTransGen fun l l' => l.look? own b = some l'

variable {s t : Session} {log notes : Log} {own : UInt64} {b : Board} {l l' : Lookout}

/-- Without a publication the same epoch stays published. -/
theorem published_of_step (h : Step s t notes) (hn : notes.countP Note.isPublished = 0) :
    t.published = s.published := by
  cases h with
  | chore h => exact h.frame.2.2.1
  | publish => simp [Note.isPublished] at hn
  | _ => rfl

/-- What was read is what is published, unless something has been published since. -/
theorem Watch.seen (hw : Watch own log s l) {seen : Nat} (hl : l = .waiting seen) :
    seen ≤ log.countP Note.isPublished ∧
      (seen = log.countP Note.isPublished → s.published = own) := by
  induction hw with
  | begin => cases hl
  | @move log notes s t l m hw h ih =>
    obtain ⟨hle, heq⟩ := ih hl
    rw [List.countP_append]
    refine ⟨by omega, fun hs => ?_⟩
    rw [published_of_step (step_of_move h) (by omega)]
    exact heq (by omega)
  | @look log s l l' hw h ih =>
    subst hl
    cases l with
    | reading =>
      simp only [Lookout.look?] at h
      split_ifs at h with hp
      · cases h
      obtain rfl := Lookout.waiting.inj (Option.some.inj h)
      exact ⟨Nat.le_refl (board log s).count, fun _ => Decidable.not_not.1 hp⟩
    | waiting seen' =>
      simp only [Lookout.look?] at h
      split_ifs at h <;> cases h
    | ended => cases h

/-- A lookout waiting for the next publication has read the last one. -/
theorem Watch.published_eq (hw : Watch own log s (.waiting (board log s).count)) :
    s.published = own :=
  (hw.seen rfl).2 rfl

theorem look?_waiting_of_ne {seen : Nat} (h : b.count ≠ seen) :
    (Lookout.waiting seen).look? own b = some .reading := by
  simp [Lookout.look?, h]

/-- While the own epoch is published and others may follow, looking does not come to an end. -/
theorem ne_ended_of_leads (he : b.epoch = own) (hb : b.isFinal = false) (hl : l ≠ .ended)
    (h : Leads own b l l') : l' ≠ .ended := by
  induction h with
  | refl => exact hl
  | @tail l₁ l₂ _ hstep ih =>
    cases l₁ with
    | reading =>
      simp only [Lookout.look?, he, ne_eq, not_true_eq_false, if_false] at hstep
      cases hstep
      simp
    | waiting seen =>
      simp only [Lookout.look?, hb, Bool.false_eq_true, if_false] at hstep
      split_ifs at hstep
      cases hstep
      simp
    | ended => exact absurd rfl ih

theorem reading_leads_to_ended (h : b.epoch ≠ own ∨ b.isFinal) : Leads own b .reading .ended := by
  by_cases he : b.epoch ≠ own
  · exact .single (by simp [Lookout.look?, he])
  · have hread : Lookout.reading.look? own b = some (.waiting b.count) := by
      simp [Lookout.look?, he]
    have hwait : (Lookout.waiting b.count).look? own b = some .ended := by
      simp [Lookout.look?, h.resolve_left he]
    exact .head hread (.single hwait)

/-- A lookout comes to its end just when another epoch than the own one is published or none can be
published any more, whatever was published since it began. -/
theorem Watch.leads_to_ended (hw : Watch own log s l) (hl : l ≠ .ended) :
    Leads own (board log s) l .ended ↔ s.published ≠ own ∨ s.dropped := by
  constructor
  · intro h
    by_contra hn
    simp only [not_or, not_not, Bool.not_eq_true] at hn
    exact ne_ended_of_leads (b := board log s) hn.1 hn.2 hl h rfl
  · intro h
    cases l with
    | reading => exact reading_leads_to_ended h
    | waiting seen =>
      by_cases hs : (board log s).count = seen
      · have he : s.published = own := Watch.published_eq (hs ▸ hw)
        have hf : (board log s).isFinal := h.resolve_left (not_not.2 he)
        exact .single (by simp [Lookout.look?, hs, hf])
      · exact .head (look?_waiting_of_ne hs) (reading_leads_to_ended h)
    | ended => exact absurd rfl hl

/-- The worker gives a request up just when its lookout comes to its end. -/
theorem notice_iff_leads {job : Job} (hw : Watch job.epoch log s l) (hl : l ≠ .ended)
    (hr : s.worker.Runs job) :
    s.notice?.isSome ↔ Leads job.epoch (board log s) l .ended := by
  rw [hw.leads_to_ended hl]
  have hn : s.notice?.isSome ↔ s.isPast job := by
    unfold notice?
    rcases hr with hr | ⟨call, hr⟩ <;> rw [hr] <;> by_cases hp : s.isPast job <;> simp [hp]
  simp [hn, isPast]

end Session

end AgentConsole
