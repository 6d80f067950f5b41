import AgentConsole.Shell.Line

/-!
# Blocks

What `dd` does: it copies blocks of a file to another, from a block on and up to a count, and says
how many there were, those that are full and the last one if it is not.
-/

namespace AgentConsole.Shell

open AgentConsole.Text AgentConsole.Files

/-- What is asked of a copy of blocks. -/
structure BlockCopy where
  source : Option String
  target : Option String
  /-- How many octets are read at once. -/
  readSize : Nat
  /-- How many octets are written at once. -/
  writeSize : Nat
  skipped : Nat
  sought : Nat
  limit : Option Nat
  /-- What is said at the end: nothing, or also how many octets there were. -/
  status : String
  conversions : List String

/-- A number of octets or blocks: factors with a cross between them, each of which may have a letter
behind it. -/
def blockNumber? (written : String) : Option Nat :=
  let factor (cs : List Char) : Option Nat :=
    let digits := cs.takeWhile Char.isDigit
    if digits.isEmpty then none
    else
      let unit :=
        match cs.drop digits.length with
        | ['c'] => some 1
        | ['w'] => some 2
        | letters => multiplier? letters
      unit.map (digitsValue digits * ·)
  ((splitAtChar 'x' written.toList).mapM factor).map fun ns => ns.foldl (· * ·) 1

/-- Conversions that are known. -/
def knownConversions : List String :=
  ["lcase", "ucase", "notrunc", "noerror", "sync", "fsync", "fdatasync", "excl", "nocreat"]

/-- Adds what an operand says; else a complaint, and whether it comes with a hint. -/
def BlockCopy.with (y : BlockCopy) (operand : String) : Except (String × Bool) BlockCopy := do
  let name := String.ofList (operand.toList.takeWhile (· ≠ '='))
  let value := String.ofList (operand.toList.drop (name.length + 1))
  let number (least : Nat) : Except (String × Bool) Nat :=
    match blockNumber? value with
    | some n => if n < least then .error ("invalid number: " ++ inQuotes value, false) else .ok n
    | none => .error ("invalid number: " ++ inQuotes value, false)
  let unknown : Except (String × Bool) BlockCopy :=
    .error ("unrecognized operand " ++ inQuotes operand, true)
  if !operand.toList.contains '=' then unknown
  else
    match name with
    | "if" => return { y with source := some value }
    | "of" => return { y with target := some value }
    | "bs" =>
      let n ← number 1
      return { y with readSize := n, writeSize := n }
    | "ibs" => return { y with readSize := ← number 1 }
    | "obs" => return { y with writeSize := ← number 1 }
    | "count" => return { y with limit := some (← number 0) }
    | "skip" | "iseek" => return { y with skipped := ← number 0 }
    | "seek" | "oseek" => return { y with sought := ← number 0 }
    | "iflag" | "oflag" => return y
    | "status" =>
      if ["none", "noxfer", "progress"].contains value then return { y with status := value }
      else throw ("invalid status level: " ++ inQuotes value, true)
    | "conv" =>
      let asked := (splitAtChar ',' value.toList).map String.ofList
      match asked.find? fun c => !knownConversions.contains c with
      | some wrong => throw ("invalid conversion: " ++ inQuotes wrong, true)
      | none => return { y with conversions := y.conversions ++ asked }
    | _ => unknown

/-- Full blocks and the rest, as they are counted. -/
def blockCount (size count : Nat) : String :=
  toString (count / size) ++ "+" ++ (if count % size = 0 then "0" else "1")

/-- What is put into a file behind so many octets of it. -/
def BlockCopy.placed (y : BlockCopy) (old text : List Char) : List Char :=
  let before := y.sought * y.writeSize
  let front := (old ++ List.replicate (before - old.length) (Char.ofNat 0)).take before
  let behind := if y.conversions.contains "notrunc" then old.drop (before + text.length) else []
  front ++ text ++ behind

/-- Copies blocks. -/
def dd (s : Start) : Effect :=
  let start : BlockCopy := ⟨none, none, 512, 512, 0, 0, none, "", []⟩
  let operands := if s.arguments.head? = some "--" then s.arguments.drop 1 else s.arguments
  match operands.find? (·.startsWith "--") with
  | some option => s.refuses ("unrecognized option " ++ inQuotes option)
  | none =>
    match operands.foldlM BlockCopy.with start with
    | .error (words, true) => s.refuses words
    | .error (words, false) => s.fails 1 [words]
    | .ok y =>
      let opening (name : String) (e : IoError) : Effect :=
        s.fails 1 ["failed to open " ++ inShellQuotes name ++ ": " ++ e.words]
      let content := y.source.elim (.ok s.input) (contentOf s)
      match content, y.source with
      | .error e, name => opening (name.getD "") e
      | .ok all, _ =>
        let rest := all.drop (y.skipped * y.readSize)
        let text := (y.limit.map (· * y.readSize)).elim rest rest.take
        let shaped :=
          if y.conversions.contains "ucase" then text.map Char.toUpper
          else if y.conversions.contains "lcase" then text.map Char.toLower
          else text
        let count := text.length
        let records := blockCount y.readSize count ++ " records in\n" ++
          blockCount y.writeSize count ++ " records out\n"
        let octets := toString count ++ (if count = 1 then " byte" else " bytes") ++
          " copied, 0 s, 0 B/s\n"
        let report : List Piece :=
          if y.status = "none" then []
          else [⟨true, (records ++ if y.status = "noxfer" then "" else octets).toList⟩]
        let effect :=
          match y.target with
          | none => s.writes (.said shaped :: report)
          | some name =>
            let old := ((s.disk.read (unspell name)).toOption.map ofOctets).getD []
            match s.disk.writeFile (unspell name) (toOctets (y.placed old shaped)) false with
            | .ok disk => { s.writes report with disk }
            | .error e => opening name e
        if y.source.isSome then effect
        else { effect with taken := min s.input.length (y.skipped * y.readSize + count) }

end AgentConsole.Shell
