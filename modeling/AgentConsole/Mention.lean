import AgentConsole.Text.Blank
import AgentConsole.Text.Numeral
import AgentConsole.Text.Search
import AgentConsole.Text.Utf8

/-!
# Mentions

A document addresses the agent with a mark, at least one blank and a command that runs to the end
of its line. The blanks may go on over the ends of lines, as long as something is left that can
start the command; `findMentions` takes the mentions from left to right, without overlap.
-/

namespace AgentConsole

open AgentConsole.Text

/-- What addresses the agent. -/
def mark : String := "@dev-agent"

/-- A command found in a document, and the octets from which and up to which it was found. -/
structure Mention where
  command : String
  start : Nat
  stop : Nat
  deriving DecidableEq, Repr

/-- The text after a mark in front and without the blanks around; as it is without a mark. -/
def stripMention (text : String) : String :=
  match after? mark.toList (trimChars text.toList) with
  | some rest => String.ofList (trimChars rest)
  | none => text

/-- How many octets characters take. -/
def octets : List Char → Nat
  | [] => 0
  | c :: cs => c.utf8Size + octets cs

theorem octets_append (as bs : List Char) : octets (as ++ bs) = octets as + octets bs := by
  induction as with
  | nil => simp [octets]
  | cons a as ih =>
    simp only [List.cons_append, octets, ih]
    omega

/-- The line that starts a text, without its end. -/
def lineOf (cs : List Char) : List Char :=
  cs.takeWhile (· ≠ '\n')

/-- The last point after the first character from which a line goes on, among the first so many
points: the text before it and from it on. -/
def lastSplit (cs : List Char) : Nat → Option (List Char × List Char)
  | 0 => none
  | n + 1 =>
    match cs.drop (n + 1) with
    | c :: rest => if c ≠ '\n' then some (cs.take (n + 1), c :: rest) else lastSplit cs n
    | [] => lastSplit cs n

/-- The blanks and the command that follow a mark, if a command follows: as many blanks as leave
something of a line for the command. -/
def commandAfter? (cs : List Char) : Option (List Char × List Char) :=
  (lastSplit cs (cs.takeWhile isBlank).length).map fun p => (p.1, lineOf p.2)

/-- A mention that starts a text: the whole of it, its command untrimmed, and what is left. -/
def mentionAt? (cs : List Char) : Option (List Char × List Char × List Char) :=
  match after? mark.toList cs with
  | none => none
  | some rest =>
    match commandAfter? rest with
    | none => none
    | some (blanks, command) =>
      let whole := mark.toList ++ blanks ++ command
      some (whole, command, cs.drop whole.length)

theorem mentionAt?_shorter {cs whole command rest : List Char}
    (h : mentionAt? cs = some (whole, command, rest)) : rest.length < cs.length := by
  unfold mentionAt? at h
  split at h
  · simp at h
  · next after ha =>
    split at h
    · simp at h
    · simp only [Option.some.injEq, Prod.mk.injEq] at h
      have hmark : mark.toList.length = 10 := by decide
      rw [← h.2.2, after?_eq_some_iff.1 ha]
      simp only [List.length_drop, List.length_append]
      omega

/-- The mentions of a text that starts at `offset`, onto `found` backwards. -/
def mentionsFrom (found : List Mention) (offset : Nat) (cs : List Char) : List Mention :=
  match hm : mentionAt? cs with
  | some (whole, command, rest) =>
    have := mentionAt?_shorter hm
    let stop := offset + octets whole
    mentionsFrom (⟨String.ofList (trimChars command), offset, stop⟩ :: found) stop rest
  | none =>
    match cs with
    | [] => found.reverse
    | c :: cs => mentionsFrom found (offset + c.utf8Size) cs
  termination_by cs.length

/-- The mentions of a document, in order. -/
def findMentions (text : String) : List Mention :=
  mentionsFrom [] 0 text.toList

/-- The number of the line that holds the octet `offset`, or of the last line. -/
def lineNumber (text : String) (offset : Nat) : Nat :=
  (((Utf8.encode text).take offset).filter (· = 10)).length + 1

/-- The mentions of a document as numbered lines. -/
def listMentions (text : String) (mentions : List Mention) : List String :=
  mentions.zipIdx.map fun (m, i) =>
    "  " ++ toString (i + 1) ++ ". " ++ m.command ++ "  (line " ++
      toString (lineNumber text m.start) ++ ")"

/-- No mention has the number asked for. -/
structure NoSuchMention where
  number : Nat
  count : Nat
  deriving DecidableEq, Repr

/-- The error in words. -/
def NoSuchMention.message (e : NoSuchMention) : String :=
  "No mention #" ++ toString e.number ++ "; found " ++ toString e.count

/-- The mention with the number asked for, counted from one; without a number the only mention,
if there is just one. -/
def selectMention (mentions : List Mention) (number : Option Nat) :
    Except NoSuchMention (Option Mention) :=
  match number with
  | none => .ok (if mentions.length = 1 then mentions.head? else none)
  | some 0 => .error ⟨0, mentions.length⟩
  | some (i + 1) =>
    match mentions[i]? with
    | some m => .ok (some m)
    | none => .error ⟨i + 1, mentions.length⟩

end AgentConsole
