/-!
# Searching

Where a text occurs in another.
-/

namespace AgentConsole.Text

/-- What follows `start` in a text that starts with it. -/
def after? : List Char → List Char → Option (List Char)
  | [], cs => some cs
  | _ :: _, [] => none
  | s :: start, c :: cs => if c = s then after? start cs else none

/-- `needle` occurs in the text. -/
def occursIn (needle : List Char) : List Char → Bool
  | [] => needle.isEmpty
  | c :: cs => (after? needle (c :: cs)).isSome || occursIn needle cs

theorem after?_eq_some_iff {start cs rest : List Char} :
    after? start cs = some rest ↔ cs = start ++ rest := by
  induction start generalizing cs with
  | nil => simp [after?]
  | cons s start ih =>
    cases cs with
    | nil => simp [after?]
    | cons c cs =>
      by_cases h : c = s
      · simp [after?, h, ih]
      · simp [after?, h]

theorem occursIn_iff {needle cs : List Char} : occursIn needle cs = true ↔ needle <:+: cs := by
  induction cs with
  | nil => simp [occursIn]
  | cons c cs ih =>
    rw [occursIn, Bool.or_eq_true, ih, List.infix_cons_iff, Option.isSome_iff_exists]
    exact or_congr_left
      ⟨fun ⟨rest, h⟩ => ⟨rest, (after?_eq_some_iff.1 h).symm⟩,
        fun ⟨rest, h⟩ => ⟨rest, after?_eq_some_iff.2 h.symm⟩⟩

end AgentConsole.Text
