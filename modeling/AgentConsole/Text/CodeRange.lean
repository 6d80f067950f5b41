/-!
# Ranges of code points

A Unicode property is kept as the list of the ranges of code points that have it.
-/

namespace AgentConsole.Text

/-- The code points from the first to the second, both included. -/
abbrev CodeRange := Nat × Nat

/-- The character lies in one of the ranges. -/
def covers (ranges : List CodeRange) (c : Char) : Bool :=
  ranges.any fun r => r.1 ≤ c.toNat && c.toNat ≤ r.2

theorem covers_iff {ranges : List CodeRange} {c : Char} :
    covers ranges c = true ↔ ∃ r ∈ ranges, r.1 ≤ c.toNat ∧ c.toNat ≤ r.2 := by
  simp [covers]

end AgentConsole.Text
