/-!
# Readers of JSON

A reader takes a value off the front of a text and hands on what is left, which is always shorter
(`Reader.shorter`), so a loop over readers ends. What goes wrong is one of three faults.
-/

namespace AgentConsole.Json

/-- Why a text was refused: it is not JSON, it is JSON of another shape than asked for, or it ends
before the value does. -/
inductive Fault where
  | malformed
  | mismatch
  | truncated
  deriving DecidableEq, Repr

/-- The four characters that may stand between the parts of a JSON text. -/
def isGap (c : Char) : Bool :=
  c = ' ' || c = '\t' || c = '\n' || c = '\r'

/-- Without the gaps in front. -/
def dropGaps (cs : List Char) : List Char :=
  cs.dropWhile isGap

theorem length_dropWhile_le {α : Type} (p : α → Bool) (cs : List α) :
    (cs.dropWhile p).length ≤ cs.length :=
  (List.dropWhile_sublist p).length_le

theorem length_dropGaps_le (cs : List Char) : (dropGaps cs).length ≤ cs.length :=
  length_dropWhile_le isGap cs

theorem length_lt_of_dropGaps {cs rest : List Char} {c : Char} (h : dropGaps cs = c :: rest) :
    rest.length < cs.length := by
  have := length_dropGaps_le cs
  rw [h, List.length_cons] at this
  omega

/-- Reads a value off the front of a text. -/
structure Reader (α : Type) where
  run : List Char → Except Fault (α × List Char)
  shorter : ∀ {cs rest : List Char} {a : α}, run cs = .ok (a, rest) → rest.length < cs.length

namespace Reader

variable {α β : Type}

theorem map_shorter (f : α → β) (r : Reader α) {cs rest : List Char} {b : β}
    (h : (r.run cs).map (Prod.map f id) = .ok (b, rest)) : rest.length < cs.length := by
  cases hr : r.run cs with
  | error e => simp [hr, Except.map] at h
  | ok p =>
    simp only [hr, Except.map, Except.ok.injEq] at h
    have : p.2.length < cs.length := r.shorter hr
    simpa [← (Prod.mk.inj h).2] using this

/-- The same reader with what it reads passed through `f`. -/
def map (f : α → β) (r : Reader α) : Reader β :=
  ⟨fun cs => (r.run cs).map (Prod.map f id), map_shorter f r⟩

/-- Reads a whole text: one value with nothing but gaps around it. -/
def readAll (r : Reader α) (s : String) : Except Fault α :=
  match r.run s.toList with
  | .error f => .error f
  | .ok (a, rest) => if (dropGaps rest).isEmpty then .ok a else .error .malformed

end Reader

end AgentConsole.Json
