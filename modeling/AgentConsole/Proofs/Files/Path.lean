import AgentConsole.Files.Path
import Mathlib.Data.List.Basic

/-!
# Paths and their steps

A relative path goes on where the path leads that it is joined to (`segments_join_of_relative`),
wherever that ends in a slash or not, so a name leads one step further (`segments_join`). Only a
path that ends in a slash or in a dot has a slash in it and still no more than one step
(`ends_of_length_components`).
-/

namespace AgentConsole.Files

theorem piecesFrom_append_slash (piece cs ds : List Char) :
    piecesFrom piece (cs ++ '/' :: ds) = piecesFrom piece cs ++ piecesFrom [] ds := by
  induction cs generalizing piece with
  | nil => simp [piecesFrom]
  | cons c cs ih =>
    rw [List.cons_append, piecesFrom, piecesFrom]
    split
    · rw [ih, List.cons_append]
    · exact ih _

theorem piecesFrom_of_not_mem {cs : List Char} (h : '/' ∉ cs) (piece : List Char) :
    piecesFrom piece cs = [piece.reverse ++ cs] := by
  induction cs generalizing piece with
  | nil => simp [piecesFrom]
  | cons c cs ih =>
    rw [List.mem_cons, not_or] at h
    rw [piecesFrom, if_neg (Ne.symm h.1), ih h.2]
    simp

theorem isAbsolute_of_not_mem {name : String} (hs : '/' ∉ name.toList) :
    isAbsolute name = false := by
  rw [isAbsolute, beq_eq_false_iff_ne]
  exact fun h => hs (List.mem_of_head? h)

/-- What is joined to a path without a slash comes after the path. -/
theorem join_of_not_mem {base name : String} (hb : base ≠ "") (hs : '/' ∉ name.toList) :
    join base name =
      if base.toList.getLast? == some '/' then base ++ name else base ++ "/" ++ name := by
  have he : base.isEmpty = false := by simpa using hb
  rw [join, isAbsolute_of_not_mem hs, he]
  rfl

/-- What comes of joining starts with the path and ends with the name. -/
theorem join_eq_append {base name : String} (hb : base ≠ "") (hs : '/' ∉ name.toList) :
    ∃ slash, join base name = base ++ slash ++ name := by
  rw [join_of_not_mem hb hs]
  split
  · exact ⟨"", by simp⟩
  · exact ⟨"/", rfl⟩

theorem isAbsolute_append {base : String} (hb : isAbsolute base) (rest : String) :
    isAbsolute (base ++ rest) := by
  simp only [isAbsolute, beq_iff_eq] at hb ⊢
  rw [String.toList_append, List.head?_append, hb]
  rfl

theorem ne_empty_of_isAbsolute {base : String} (hb : isAbsolute base) : base ≠ "" := by
  rintro rfl
  cases hb

/-- What is joined to an absolute path is absolute. -/
theorem isAbsolute_join {base : String} (hb : isAbsolute base) (path : String) :
    isAbsolute (join base path) := by
  unfold join
  split
  · rename_i h
    have he : base.isEmpty = false := by simpa using ne_empty_of_isAbsolute hb
    simpa [he] using h
  · split
    · exact isAbsolute_append hb path
    · rw [String.append_assoc]
      exact isAbsolute_append hb _

/-- The pieces around a slash are those of the two sides. -/
theorem segments_append (base rest : String) :
    segments (base ++ "/" ++ rest) = segments base ++ segments rest := by
  simp [segments, piecesFrom_append_slash]

theorem segments_of_not_mem {name : String} (hn : name ≠ "") (hs : '/' ∉ name.toList) :
    segments name = [name] := by
  simp [segments, piecesFrom_of_not_mem hs, hn]

/-- A relative path goes on where the one leads that it is joined to. -/
theorem segments_join_of_relative {base path : String} (hb : base ≠ "")
    (ha : isAbsolute path = false) :
    segments (join base path) = segments base ++ segments path := by
  have he : base.isEmpty = false := by simpa using hb
  simp only [join, ha, he, Bool.or_false, Bool.false_eq_true, if_false]
  split_ifs with hl
  · obtain ⟨cs, hcs⟩ := List.getLast?_eq_some_iff.1 (beq_iff_eq.1 hl)
    obtain rfl : base = String.ofList cs ++ "/" ++ "" := by
      rw [← String.toList_inj]
      simp [hcs]
    have hempty : segments "" = [] := rfl
    rw [segments_append, hempty, String.append_empty, segments_append, List.append_nil]
  · rw [segments_append]

/-- A name joined to a path leads one step further. -/
theorem segments_join {base name : String} (hb : base ≠ "") (hn : name ≠ "")
    (hs : '/' ∉ name.toList) : segments (join base name) = segments base ++ [name] := by
  rw [segments_join_of_relative hb (isAbsolute_of_not_mem hs), segments_of_not_mem hn hs]

/-- What is joined is at the end. -/
theorem getLast?_join (base : String) {path : String} (hn : path ≠ "") :
    (join base path).toList.getLast? = path.toList.getLast? := by
  have hne : path.toList ≠ [] := by simpa using hn
  unfold join
  split_ifs
  · rfl
  · rw [String.toList_append, List.getLast?_append_of_ne_nil _ hne]
  · rw [String.toList_append, List.getLast?_append_of_ne_nil _ hne]

section Steps

variable {path : String} {first : String} {others : List String}

/-- The first step of a relative path counts, even if it is a dot. -/
theorem length_components (ha : isAbsolute path = false) (hs : segments path = first :: others) :
    (components path).length = (others.filterMap step?).length + 1 := by
  by_cases hf : first = "."
  · simp [components, ha, hs, hf]
  · have hstep : step? first = some (if first = ".." then .parent else .normal first) := by
      simp [step?, hf]
    simp [components, ha, hs, hf, hstep]

/-- The first step of a relative path is what stands before its first slash. -/
theorem segments_of_relative (hne : path ≠ "") (ha : isAbsolute path = false) :
    segments path = [path] ∨
      ∃ first rest, path = first ++ "/" ++ rest ∧ segments path = first :: segments rest := by
  by_cases hs : '/' ∈ path.toList
  · right
    obtain ⟨front, behind, hpath, hf⟩ := List.eq_append_cons_of_mem hs
    obtain rfl : path = String.ofList front ++ "/" ++ String.ofList behind := by
      rw [← String.toList_inj, hpath]
      simp
    have hfront : front ≠ [] := by
      rintro rfl
      simp [isAbsolute] at ha
    refine ⟨_, _, rfl, ?_⟩
    rw [segments_append, segments_of_not_mem (by simpa using hfront) (by simpa using hf)]
    rfl
  · exact .inl (segments_of_not_mem hne hs)

theorem segments_ne_nil (hne : path ≠ "") (ha : isAbsolute path = false) : segments path ≠ [] := by
  rcases segments_of_relative hne ha with h | ⟨first, rest, -, h⟩ <;> simp [h]

/-- A path of one step that has a slash in it ends in a slash or in a dot. -/
theorem ends_of_length_components (ha : isAbsolute path = false) (hl : (components path).length ≤ 1)
    (hs : '/' ∈ path.toList) :
    path.toList.getLast? = some '/' ∨ (segments path).getLast? = some "." := by
  -- Cut at the last slash: the step behind it is one more, unless it is empty or a dot.
  obtain ⟨behind, front, hcut, hb⟩ := List.eq_append_cons_of_mem (List.mem_reverse.2 hs)
  obtain ⟨base, last, rfl, hlast⟩ :
      ∃ base last, path = base ++ "/" ++ last ∧ '/' ∉ last.toList := by
    refine ⟨String.ofList front.reverse, String.ofList behind.reverse, ?_, by simpa using hb⟩
    rw [← String.toList_inj, ← List.reverse_inj, hcut]
    simp
  by_cases hn : last = ""
  · left
    simp [hn]
  · right
    have hbase : base ≠ "" := by
      rintro rfl
      simp [isAbsolute] at ha
    have hrelative : isAbsolute base = false := by
      rw [Bool.eq_false_iff]
      intro h
      rw [isAbsolute_append (isAbsolute_append h "/") last] at ha
      cases ha
    obtain ⟨first, others, hfirst⟩ := List.exists_cons_of_ne_nil (segments_ne_nil hbase hrelative)
    have hsegments : segments (base ++ "/" ++ last) = first :: (others ++ [last]) := by
      rw [segments_append, segments_of_not_mem hn hlast, hfirst, List.cons_append]
    rw [length_components ha hsegments, List.filterMap_append, List.length_append] at hl
    have hdot : last = "." := by
      by_contra hne
      have hstep : step? last = some (if last = ".." then .parent else .normal last) := by
        simp [step?, hne]
      simp [hstep] at hl
    rw [hsegments, hdot, ← List.cons_append, List.getLast?_concat]

/-- What a path starts with whose first step is this name. -/
theorem eq_or_prefix_of_components {steps : List Component}
    (h : components path = .normal first :: steps) :
    path = first ∨ first.toList ++ ['/'] <+: path.toList := by
  have ha : isAbsolute path = false := by
    by_contra ha
    simp [components, Bool.not_eq_false _ ▸ ha] at h
  have hne : path ≠ "" := by
    rintro rfl
    cases h
  have hfirst : ∀ name others, segments path = name :: others → name = first := by
    intro name others hs
    by_cases hdot : name = "."
    · simp [components, ha, hs, hdot] at h
    · by_cases hdots : name = ".." <;> simp [components, ha, hs, hdot, hdots, step?] at h
      exact h.1
  rcases segments_of_relative hne ha with hs | ⟨name, rest, hpath, hs⟩
  · exact .inl (hfirst _ _ hs)
  · right
    rw [hpath, hfirst _ _ hs]
    exact ⟨rest.toList, by simp⟩

end Steps

end AgentConsole.Files
