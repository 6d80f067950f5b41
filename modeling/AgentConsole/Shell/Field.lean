import AgentConsole.Shell.OctetText
import AgentConsole.Shell.Pattern
import AgentConsole.Files.Disk

/-!
# Fields

What the references in words stand for is split into fields, where it is not quoted; and a field
with wildcards stands for the names on the disk that it matches, if there are any.
-/

namespace AgentConsole.Shell

open AgentConsole.Files

/-- A piece of a word with its references replaced. -/
inductive Item where
  | char (c : Char) (quoted : Bool)
  /-- Blanks between fields. -/
  | gap
  /-- The end of a field, even of an empty one. -/
  | cut
  /-- There is a field here, even if it is empty. -/
  | edge
  deriving DecidableEq, Repr

/-- A character between fields that may come several times. -/
def isSoftSeparator (c : Char) : Bool :=
  c = ' ' || c = '\t' || c = '\n'

/-- Without the gaps beside cuts and the second one of two. -/
def mergeGaps : List Item → List Item
  | [] => []
  | i :: items =>
    match i, mergeGaps items with
    | .gap, .gap :: rest => .gap :: rest
    | .gap, .cut :: rest => .cut :: rest
    | .cut, .gap :: rest => .cut :: rest
    | i, rest => i :: rest

/-- The items of a value that is split at separators. -/
def splitItems (separators : List Char) (cs : List Char) : List Item :=
  mergeGaps (cs.map fun c =>
    if separators.contains c then if isSoftSeparator c then .gap else .cut else .char c false)

/-- The items of a quoted value. -/
def quotedItems (cs : List Char) : List Item :=
  cs.map (.char · true)

/-- The items with the separators among their own characters made to split, too. -/
def resplit (separators : List Char) (items : List Item) : List Item :=
  mergeGaps (items.map fun i =>
    match i with
    | .char c false =>
      if separators.contains c then if isSoftSeparator c then .gap else .cut else i
    | _ => i)

/-- The characters of a field, and which ones are quoted. -/
abbrev Field := List (Char × Bool)

/-- The fields of items; `current` is the one under way, backwards. -/
def fieldsFrom (current : Option Field) : List Item → List Field
  | [] => (current.map List.reverse).toList
  | .char c quoted :: items => fieldsFrom (some ((c, quoted) :: current.getD [])) items
  | .edge :: items => fieldsFrom (some (current.getD [])) items
  | .gap :: items =>
    match current with
    | some field => field.reverse :: fieldsFrom none items
    | none => fieldsFrom none items
  | .cut :: items => (current.getD []).reverse :: fieldsFrom none items

/-- The text of items that are not split. -/
def itemsText (items : List Item) : List Char :=
  items.filterMap fun i =>
    match i with
    | .char c _ => some c
    | .gap | .cut => some ' '
    | .edge => none

/-- The characters of items that are not split. -/
def itemsField (items : List Item) : Field :=
  items.filterMap fun i =>
    match i with
    | .char c quoted => some (c, quoted)
    | .gap | .cut => some (' ', false)
    | .edge => none

/-- The text of a field. -/
def fieldText (f : Field) : String :=
  String.ofList (f.map (·.1))

/-- The field has signs that stand for other characters. -/
def hasWildcard (f : Field) : Bool :=
  f.any fun p => !p.2 && (p.1 = '*' || p.1 = '?' || p.1 = '[')

/-- The pieces of a field between slashes; `piece` is the one under way, backwards. -/
def fieldPieces (piece : Field) : Field → List Field
  | [] => [piece.reverse]
  | p :: f => if p.1 = '/' then piece.reverse :: fieldPieces [] f else fieldPieces (p :: piece) f

/-- The paths that start with `before` and go on as the pieces say. -/
def matchingPaths (d : Disk) (before : String) : List Field → List String
  | [] => if d.has (unspell before) then [before] else []
  | piece :: pieces =>
    let ending := if pieces.isEmpty then "" else "/"
    if !hasWildcard piece then matchingPaths d (before ++ fieldText piece ++ ending) pieces
    else
      let inside := (d.names (if before.isEmpty then "." else unspell before)).toOption.getD []
      let names := ((inside.map fun n => (spell n).toList).filter fun n =>
        patternMatches piece n && (n.head? ≠ some '.' || (piece.head?.map (·.1)) = some '.'))
      (names.mergeSort notAfter).flatMap fun n =>
        matchingPaths d (before ++ String.ofList n ++ ending) pieces

/-- What a field stands for: the paths it matches, or else itself. -/
def Field.texts (f : Field) (d : Disk) : List String :=
  if hasWildcard f then
    match matchingPaths d "" (fieldPieces [] f) with
    | [] => [fieldText f]
    | paths => paths
  else [fieldText f]

/-- Without the shortest or longest front that a pattern matches. -/
def dropFront (pattern : Field) (longest : Bool) (cs : List Char) : List Char :=
  let fits := (List.range (cs.length + 1)).filter fun n => patternMatches pattern (cs.take n)
  match if longest then fits.getLast? else fits.head? with
  | some n => cs.drop n
  | none => cs

/-- Without the shortest or longest end that a pattern matches. -/
def dropBack (pattern : Field) (longest : Bool) (cs : List Char) : List Char :=
  let fits := (List.range (cs.length + 1)).filter fun n => patternMatches pattern (cs.drop n)
  match if longest then fits.head? else fits.getLast? with
  | some n => cs.take n
  | none => cs

end AgentConsole.Shell
