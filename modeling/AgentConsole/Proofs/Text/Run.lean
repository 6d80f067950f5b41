import Mathlib.Data.List.TakeWhile

/-!
# Runs of characters

Where a run of characters ends, and what is in front of the first of one kind.
-/

namespace AgentConsole.Text

variable {c : Char} {cs run : List Char} {p : Char → Bool}

theorem takeWhile_append_stop (hrun : ∀ d ∈ run, p d) (hstop : ∀ d ∈ cs.head?, ¬p d) :
    (run ++ cs).takeWhile p = run ∧ (run ++ cs).dropWhile p = cs := by
  rw [List.takeWhile_append_of_pos hrun, List.dropWhile_append_of_pos hrun]
  rcases cs with _ | ⟨d, cs⟩
  · simp
  · have hd : ¬p d := hstop d rfl
    simp [hd]

theorem not_mem_takeWhile_ne : c ∉ cs.takeWhile (· ≠ c) := fun h => by
  simpa using List.mem_takeWhile_imp h

theorem takeWhile_ne_append_tail (h : c ∈ cs) :
    cs.takeWhile (· ≠ c) ++ c :: (cs.dropWhile (· ≠ c)).tail = cs := by
  induction cs with
  | nil => simp at h
  | cons d cs ih =>
    by_cases hd : d = c
    · simp [hd]
    · have hc : c ∈ cs := by simpa [Ne.symm hd] using h
      simpa [hd] using ih hc

end AgentConsole.Text
