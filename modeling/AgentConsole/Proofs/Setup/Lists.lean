import AgentConsole.Setup.Settings
import Mathlib.Data.List.Basic

/-!
# Lists in one text

A list of directories is what stands between the colons of a text (`betweenColons_eq_splitOn`,
`parseRoots_eq`), and a list of words what stands between its blanks (`words_eq`), empty pieces
left out.
-/

namespace AgentConsole.Setup

open AgentConsole.Text

theorem modifyHead_self {α : Type} (xs : List α) : xs.modifyHead (fun x => x) = xs := by
  cases xs <;> rfl

theorem betweenColons_eq (piece cs : List Char) :
    betweenColons piece cs = (cs.splitOn ':').modifyHead (piece.reverse ++ ·) := by
  induction cs generalizing piece with
  | nil => simp [betweenColons]
  | cons c cs ih =>
    rw [betweenColons, ih, ih, List.splitOn_cons_eq_if_modifyHead]
    by_cases hc : c = ':'
    · simp [hc, modifyHead_self]
    · simp [hc, List.modifyHead_modifyHead, Function.comp_def]

theorem betweenColons_eq_splitOn (cs : List Char) : betweenColons [] cs = cs.splitOn ':' := by
  simp [betweenColons_eq, modifyHead_self]

/-- The entries of a list with colons between them, the empty ones left out. -/
def entries (list : String) : List String :=
  ((list.toList.splitOn ':').filter (!·.isEmpty)).map String.ofList

theorem parseRoots_eq (env : Environment) (list : String) :
    parseRoots env list = (entries list).map (expandPath env) := by
  simp [parseRoots, entries, betweenColons_eq_splitOn]

theorem wordsFrom_eq (word cs : List Char) : wordsFrom word cs =
    ((cs.splitOnP isBlank).modifyHead (word.reverse ++ ·)).filter (!·.isEmpty) := by
  induction cs generalizing word with
  | nil => by_cases hw : word = [] <;> simp [wordsFrom, hw]
  | cons c cs ih =>
    rw [wordsFrom, ih, ih, List.splitOnP_cons_eq_if_modifyHead]
    by_cases hc : isBlank c
    · by_cases hw : word = [] <;> simp [hc, hw, modifyHead_self]
    · simp [hc, List.modifyHead_modifyHead, Function.comp_def]

theorem words_eq (s : String) :
    words s = ((s.toList.splitOnP isBlank).filter (!·.isEmpty)).map String.ofList := by
  simp [words, wordsFrom_eq, modifyHead_self]

end AgentConsole.Setup
