import AgentConsole.Attachment
import AgentConsole.Console.Dialogue
import AgentConsole.Proofs.Files.Path

/-!
# The names paths end in

A path ends in a name when that is all there is behind its last slash, but for slashes and dots that
lead no further (`EndsIn`). Every path ends in one name or is one of a few that end in none
(`endsIn_or_nameless`), and where there is a name it is the base name (`baseName?_of_endsIn`). What
is before the last slash makes no difference, and neither do slashes and dots behind the name.
-/

namespace AgentConsole

namespace Files

/-- Slashes, each with or without a dot behind it. -/
inductive IsTail : String → Prop
  | none : IsTail ""
  | slash {tail : String} (h : IsTail tail) : IsTail (tail ++ "/")
  | dot {tail : String} (h : IsTail tail) : IsTail (tail ++ "/.")

/-- What may come before a name: nothing, or a directory and a slash. -/
def IsLead (lead : String) : Prop :=
  lead = "" ∨ ∃ directory, lead = directory ++ "/"

/-- The name of a step that leads down. -/
structure IsName (name : String) : Prop where
  ne_empty : name ≠ ""
  slash_not_mem : '/' ∉ name.toList
  ne_dot : name ≠ "."
  ne_dots : name ≠ ".."

/-- The path ends in the name. -/
def EndsIn (path name : String) : Prop :=
  IsName name ∧ ∃ lead tail, path = lead ++ name ++ tail ∧ IsLead lead ∧ IsTail tail

/-- The path ends in no name. -/
inductive Nameless : String → Prop
  | bare {tail : String} (ht : IsTail tail) : Nameless tail
  | here {tail : String} (ht : IsTail tail) : Nameless ("." ++ tail)
  | above {lead tail : String} (hl : IsLead lead) (ht : IsTail tail) :
    Nameless (lead ++ ".." ++ tail)

/-- The name of a step, if it leads down. -/
def Component.name? : Component → Option String
  | .normal name => some name
  | .root | .here | .parent => none

variable {path name lead tail tail' : String}

section Shape

theorem IsTail.append (h : IsTail tail) (h' : IsTail tail') : IsTail (tail ++ tail') := by
  induction h' with
  | none => rwa [String.append_empty]
  | slash _ ih =>
    rw [← String.append_assoc]
    exact ih.slash
  | dot _ ih =>
    rw [← String.append_assoc]
    exact ih.dot

theorem EndsIn.append (h : EndsIn path name) (ht : IsTail tail) : EndsIn (path ++ tail) name := by
  obtain ⟨hn, lead, tail', rfl, hl, ht'⟩ := h
  exact ⟨hn, lead, tail' ++ tail, String.append_assoc .., hl, ht'.append ht⟩

theorem EndsIn.below (h : EndsIn path name) (directory : String) :
    EndsIn (directory ++ "/" ++ path) name := by
  obtain ⟨hn, lead, tail, rfl, hl, ht⟩ := h
  refine ⟨hn, directory ++ "/" ++ lead, tail, by simp only [String.append_assoc], .inr ?_, ht⟩
  rcases hl with rfl | ⟨directory', rfl⟩
  · exact ⟨directory, String.append_empty⟩
  · exact ⟨directory ++ "/" ++ directory', (String.append_assoc ..).symm⟩

theorem Nameless.append (h : Nameless path) (ht : IsTail tail) : Nameless (path ++ tail) := by
  cases h with
  | bare ht' => exact .bare (ht'.append ht)
  | here ht' =>
    rw [String.append_assoc]
    exact .here (ht'.append ht)
  | above hl ht' =>
    rw [String.append_assoc]
    exact .above hl (ht'.append ht)

/-- What is behind the last slash of a path. -/
theorem exists_lead (path : String) :
    ∃ lead last, path = lead ++ last ∧ IsLead lead ∧ '/' ∉ last.toList := by
  by_cases hs : '/' ∈ path.toList
  · obtain ⟨front, behind, hpath, hf⟩ := List.eq_append_cons_of_mem (List.mem_reverse.2 hs)
    have hrev : path.toList = behind.reverse ++ '/' :: front.reverse := by
      rw [← List.reverse_reverse path.toList, hpath]
      simp
    refine ⟨String.ofList behind.reverse ++ "/", String.ofList front.reverse, ?_,
      .inr ⟨_, rfl⟩, by simpa using hf⟩
    rw [← String.toList_inj, hrev]
    simp
  · exact ⟨"", path, by simp, .inl rfl, hs⟩

/-- Whatever is behind the last slash of a path is a name or two dots; or it is a dot or nothing,
and the path ends as what is before that slash does. -/
theorem endsIn_or_nameless (path : String) : Nameless path ∨ ∃ name, EndsIn path name := by
  induction hn : path.length using Nat.strongRecOn generalizing path with
  | ind n ih =>
    obtain ⟨lead, last, rfl, hl, hs⟩ := exists_lead path
    by_cases hrest : last = "" ∨ last = "."
    · -- what is before the last slash is shorter, and decides
      rcases hl with rfl | ⟨directory, rfl⟩
      · rw [String.empty_append]
        rcases hrest with rfl | rfl
        · exact .inl (.bare .none)
        · exact .inl (.here .none)
      · have ht : IsTail ("/" ++ last) := by
          rcases hrest with rfl | rfl
          · exact IsTail.none.slash
          · exact IsTail.none.dot
        have hlt : directory.length < n := by
          rw [← hn, String.length_append, String.length_append]
          have : "/".length = 1 := rfl
          omega
        rw [String.append_assoc]
        rcases ih _ hlt directory rfl with h | ⟨name, h⟩
        · exact .inl (h.append ht)
        · exact .inr ⟨name, h.append ht⟩
    · rw [not_or] at hrest
      rw [← String.append_empty (s := lead ++ last)]
      by_cases hdots : last = ".."
      · subst hdots
        exact .inl (.above hl .none)
      · exact .inr ⟨last, ⟨hrest.1, hs, hrest.2, hdots⟩, lead, "", rfl, hl, .none⟩

end Shape

section Last

theorem getLast?_cons_bind {step : Component} (h : step.name? = none) (steps : List Component) :
    (step :: steps).getLast?.bind Component.name? = steps.getLast?.bind Component.name? := by
  cases steps with
  | nil => exact h
  | cons next steps => rw [List.getLast?_cons_cons]

/-- The base name is the name of the last step, if that leads down. -/
theorem baseName?_eq (path : String) :
    baseName? path = ((segments path).filterMap step?).getLast?.bind Component.name? := by
  have hlast : baseName? path = (components path).getLast?.bind Component.name? := by
    unfold baseName?
    cases (components path).getLast? with
    | none => rfl
    | some step => cases step <;> rfl
  rw [hlast, components]
  split_ifs
  · exact getLast?_cons_bind rfl _
  · split
    · rename_i rest hr
      rw [hr]
      exact getLast?_cons_bind rfl _
    · rfl

theorem baseName?_of_segments {front : List String} {last : String}
    (h : segments path = front ++ [last]) : baseName? path =
      if last = "." then (front.filterMap step?).getLast?.bind Component.name?
      else if last = ".." then none else some last := by
  rw [baseName?_eq, h, List.filterMap_append]
  split_ifs with hdot hdots
  · simp [step?, hdot]
  · simp [step?, hdots, Component.name?]
  · simp [step?, hdot, hdots, Component.name?]

/-- Slashes and dots at the end lead no further. -/
theorem baseName?_append (path : String) (ht : IsTail tail) :
    baseName? (path ++ tail) = baseName? path := by
  induction ht with
  | none => rw [String.append_empty]
  | @slash tail _ ih =>
    have hs : segments (path ++ (tail ++ "/")) = segments (path ++ tail) := by
      have hp : path ++ (tail ++ "/") = path ++ tail ++ "/" ++ "" := by
        simp only [String.append_assoc, String.append_empty]
      rw [hp, segments_append]
      exact List.append_nil _
    rw [← ih, baseName?_eq, hs, ← baseName?_eq]
  | @dot tail _ ih =>
    have hs : segments (path ++ (tail ++ "/.")) = segments (path ++ tail) ++ ["."] := by
      have hp : path ++ (tail ++ "/.") = path ++ tail ++ "/" ++ "." := by
        simp only [String.append_assoc]
        rfl
      rw [hp, segments_append]
      rfl
    rw [← ih, baseName?_of_segments hs, if_pos rfl, ← baseName?_eq]

/-- What is behind the last slash is the last of the segments. -/
theorem segments_lead (hl : IsLead lead) (hn : name ≠ "") (hs : '/' ∉ name.toList) :
    ∃ front, segments (lead ++ name) = front ++ [name] := by
  rcases hl with rfl | ⟨directory, rfl⟩
  · exact ⟨[], by rw [String.empty_append, segments_of_not_mem hn hs]; rfl⟩
  · exact ⟨segments directory, by rw [segments_append, segments_of_not_mem hn hs]⟩

theorem baseName?_of_endsIn (h : EndsIn path name) : baseName? path = some name := by
  obtain ⟨hn, lead, tail, rfl, hl, ht⟩ := h
  obtain ⟨front, hf⟩ := segments_lead hl hn.ne_empty hn.slash_not_mem
  rw [baseName?_append _ ht, baseName?_of_segments hf, if_neg hn.ne_dot, if_neg hn.ne_dots]

theorem baseName?_of_nameless (h : Nameless path) : baseName? path = none := by
  cases h with
  | bare ht =>
    rw [← String.empty_append (s := path), baseName?_append _ ht]
    rfl
  | here ht =>
    rw [baseName?_append _ ht]
    decide
  | above hl ht =>
    obtain ⟨front, hf⟩ := segments_lead hl (by decide : ".." ≠ "") (by decide)
    rw [baseName?_append _ ht, baseName?_of_segments hf]
    rfl

theorem nameless_iff : Nameless path ↔ ∀ name, ¬EndsIn path name := by
  constructor
  · intro h name he
    cases (baseName?_of_nameless h).symm.trans (baseName?_of_endsIn he)
  · intro h
    rcases endsIn_or_nameless path with hn | ⟨name, he⟩
    · exact hn
    · exact absurd he (h name)

end Last

end Files

open Files

/-- A file goes by one name wherever it is shown and sent. If its path ends in a name, that is it: a
name without slashes, whatever slashes and dots come behind it and whatever directory the path is
put in. The paths that end in no name are those of slashes and dots, of a dot alone and of two dots
at the end, and the name is then the path. -/
theorem base_names_agree (path content : String) :
    Attachment.fileName ⟨path, content⟩ = Console.sentName path ∧
    (∀ name, EndsIn path name →
      Attachment.fileName ⟨path, content⟩ = name ∧ name ≠ "" ∧ '/' ∉ name.toList ∧
      (∀ tail, IsTail tail → Attachment.fileName ⟨path ++ tail, content⟩ = name) ∧
      ∀ directory, Attachment.fileName ⟨directory ++ "/" ++ path, content⟩ = name) ∧
    (Nameless path → Attachment.fileName ⟨path, content⟩ = path) ∧
    (Nameless path ↔ ∀ name, ¬EndsIn path name) := by
  have hname {path name : String} (h : EndsIn path name) :
      Attachment.fileName ⟨path, content⟩ = name := by
    rw [Attachment.fileName, baseName?_of_endsIn h]
    rfl
  refine ⟨?_, fun name h => ?_, fun h => ?_, nameless_iff⟩
  · unfold Attachment.fileName Console.sentName
    cases baseName? path <;> rfl
  · exact ⟨hname h, h.1.ne_empty, h.1.slash_not_mem, fun tail ht => hname (h.append ht),
      fun directory => hname (h.below directory)⟩
  · rw [Attachment.fileName, baseName?_of_nameless h]
    rfl

theorem base_names_agree_sample :
    EndsIn "/srv/./notes.txt/." "notes.txt" ∧
    Console.sentName "/srv/./notes.txt/." = "notes.txt" ∧
    Attachment.fileName ⟨"..//srv/./notes.txt/.", ""⟩ = "notes.txt" ∧
    Nameless "/srv/.." ∧ Console.sentName "/srv/.." = "/srv/.." := by
  have hends : EndsIn "/srv/./notes.txt/." "notes.txt" :=
    ⟨⟨by decide, by decide, by decide, by decide⟩, "/srv/./", "/.", by decide,
      .inr ⟨"/srv/.", by decide⟩, IsTail.none.dot⟩
  have hless : Nameless ("/srv/" ++ ".." ++ "") := .above (.inr ⟨"/srv", rfl⟩) .none
  obtain ⟨hagree, hname, -⟩ := base_names_agree "/srv/./notes.txt/." ""
  obtain ⟨hagree', -, hpath, -⟩ := base_names_agree "/srv/.." ""
  obtain ⟨hfile, -, -, -, hbelow⟩ := hname _ hends
  exact ⟨hends, hagree.symm.trans hfile, hbelow "..", hless, hagree'.symm.trans (hpath hless)⟩

end AgentConsole
