import AgentConsole.Shell.Utility

/-!
# Lines

Texts as lines, with their ends or without. The last line of a text need not have an end.
-/

namespace AgentConsole.Shell

/-- Puts a character before the first of some texts. -/
def onFirst (c : Char) : List (List Char) → List (List Char)
  | [] => [[c]]
  | piece :: more => (c :: piece) :: more

/-- The pieces of a text between separators. -/
def splitAtChar (separator : Char) (cs : List Char) : List (List Char) :=
  cs.foldr (fun c pieces => if c = separator then [] :: pieces else onFirst c pieces) [[]]

theorem splitAtChar_cons (separator c : Char) (cs : List Char) :
    splitAtChar separator (c :: cs) =
      if c = separator then [] :: splitAtChar separator cs
      else onFirst c (splitAtChar separator cs) := rfl

theorem splitAtChar_ne_nil (separator : Char) (cs : List Char) :
    splitAtChar separator cs ≠ [] := by
  cases cs with
  | nil => simp [splitAtChar]
  | cons c cs =>
    rw [splitAtChar_cons]
    split
    · simp
    · cases splitAtChar separator cs <;> simp [onFirst]

theorem intercalate_splitAtChar (separator : Char) (cs : List Char) :
    [separator].intercalate (splitAtChar separator cs) = cs := by
  induction cs with
  | nil => simp [splitAtChar]
  | cons c cs ih =>
    obtain ⟨x, xs, hx⟩ := List.exists_cons_of_ne_nil (splitAtChar_ne_nil separator cs)
    rw [splitAtChar_cons]
    rw [hx] at ih ⊢
    split
    · simp [List.intercalate_cons_cons, *]
    · cases xs with
      | nil => simpa [onFirst] using ih
      | cons y ys => simpa [onFirst, List.intercalate_cons_cons] using ih

/-- Pieces of so many elements; the last one may be shorter. -/
def inPieces {α : Type} (size : Nat) : Nat → List α → List (List α)
  | 0, _ => []
  | _, [] => []
  | fuel + 1, xs => xs.take size :: inPieces size fuel (xs.drop size)

/-- The lines of a text without their ends. -/
def linesOf (cs : List Char) (ending : Char := '\n') : List (List Char) :=
  let pieces := splitAtChar ending cs
  if pieces.getLast? = some [] then pieces.dropLast else pieces

/-- Lines with their ends. -/
def unlines (lines : List (List Char)) (ending : Char := '\n') : List Char :=
  lines.flatMap (· ++ [ending])

/-- The lines of a text, or its octets, with their ends. -/
def itemsOf (octets : Bool) (text : List Char) (ending : Char := '\n') : List (List Char) :=
  if octets then text.map ([·])
  else
    let lines := linesOf text ending
    if text.isEmpty || text.getLast? = some ending then lines.map (· ++ [ending])
    else lines.dropLast.map (· ++ [ending]) ++ lines.getLast?.toList

/-- The words of a text that something is seen of. -/
def wordsIn (cs : List Char) : List (List Char) :=
  (splitAtChar ' ' (cs.map fun c => if isSpace c then ' ' else c)).filter
    (·.any fun c => '!' ≤ c && c ≤ '~')

/-- A number in a column. -/
def column (width n : Nat) : List Char :=
  let digits := (toString n).toList
  List.replicate (width - digits.length) ' ' ++ digits

/-- What a letter behind a number multiplies it by; none if there is no such letter. -/
def multiplier? (suffix : List Char) : Option Nat :=
  let power (letter : Char) : Option Nat :=
    ("KMGTPEZYRQ".toList.findIdx? (· = letter)).map (· + 1)
  match suffix with
  | [] => some 1
  | ['b'] => some 512
  | c :: rest =>
    let letter := if c = 'k' then 'K' else if c = 'm' then 'M' else c
    match power letter, rest with
    | some n, [] | some n, ['i', 'B'] => some (Nat.pow 1024 n)
    | some n, ['B'] => some (Nat.pow 1000 n)
    | _, _ => none

/-- A number with a letter that multiplies it. -/
def sized? (cs : List Char) : Option Nat :=
  let cs := if cs.head? = some '+' then cs.drop 1 else cs
  let digits := cs.takeWhile Char.isDigit
  if digits.isEmpty then none
  else (multiplier? (cs.drop digits.length)).map (Text.digitsValue digits * ·)

end AgentConsole.Shell
