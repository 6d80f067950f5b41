import AgentConsole.Proofs.Text.Run
import AgentConsole.Setup.Expansion
import Mathlib.Data.List.Forall2
import Mathlib.Tactic.NthRewrite

/-!
# What a path expands to

A `Template` is one way to read a path as plain characters and references, and `pieces` finds it
(`pieces_eq_iff`): there is one for every path, and never two. A path all of whose references have
a value is those values in a row, and then the tilde; one in which a reference has none keeps all
of them, and only its tilde is looked at (`expansion_of_template`).
-/

namespace AgentConsole.Setup

open AgentConsole.Text

/-! ## The grammar of references -/

/-- What stands between braces is a name and, behind the first `:-`, a fallback. -/
def IsNamed (name fallback : List Char) : Prop :=
  name ≠ [] ∧ ¬[':', '-'] <:+: name ∧ '\x7d' ∉ name ∧ '\x7d' ∉ fallback

/-- What stands between braces is all a name: no `:-` is in it but in front. -/
def IsUnnamed (name : List Char) : Prop :=
  '\x7d' ∉ name ∧ ([':', '-'] <:+: name → [':', '-'] <+: name)

/-- A path that reads as these parts. -/
inductive Template : List Char → List Piece → Prop
  | nil : Template [] []
  | plain {c cs ps} : c ≠ '$' → Template cs ps → Template (c :: cs) (.plain c :: ps)
  | doubled {cs ps} : Template cs ps → Template ('$' :: '$' :: cs) (.plain '$' :: ps)
  | named {name cs ps} : name ≠ [] → (∀ d ∈ name, isNameChar d) →
      (∀ d ∈ cs.head?, ¬isNameChar d) → Template cs ps →
      Template ('$' :: (name ++ cs)) (.reference name none :: ps)
  | braced {name cs ps} : IsUnnamed name → Template cs ps →
      Template ('$' :: '\x7b' :: (name ++ '\x7d' :: cs)) (.reference name none :: ps)
  | withFallback {name fallback cs ps} : IsNamed name fallback → Template cs ps →
      Template ('$' :: '\x7b' :: (name ++ ':' :: '-' :: fallback ++ '\x7d' :: cs))
        (.reference name (some fallback) :: ps)
  | unclosed {cs ps} : '\x7d' ∉ cs → Template cs ps →
      Template ('$' :: '\x7b' :: cs) (.plain '$' :: .plain '\x7b' :: ps)
  | loose {cs ps} : (∀ d ∈ cs.head?, d ≠ '$' ∧ d ≠ '\x7b' ∧ ¬isNameChar d) → Template cs ps →
      Template ('$' :: cs) (.plain '$' :: ps)

variable {env other : Environment} {c : Char} {cs name fallback : List Char} {ps : List Piece}

section Braces

theorem splitFallback_eq_none_iff : splitFallback cs = none ↔ ¬[':', '-'] <:+: cs := by
  induction cs with
  | nil => simp [splitFallback]
  | cons c cs ih =>
    rw [splitFallback, List.infix_cons_iff, List.cons_prefix_cons]
    have hhead : ['-'] <+: cs ↔ cs.head? = some '-' := by
      rcases cs with _ | ⟨d, cs⟩ <;> simp [eq_comm]
    split_ifs with h
    · simp [h.1, hhead, h.2]
    · rw [Option.map_eq_none_iff, ih, hhead, eq_comm, not_or, and_iff_right h]

theorem splitFallback_append (h : ¬[':', '-'] <:+: name) :
    splitFallback (name ++ ':' :: '-' :: fallback) = some (name, fallback) := by
  induction name with
  | nil => simp [splitFallback]
  | cons c name ih =>
    rw [List.infix_cons_iff, List.cons_prefix_cons, not_or] at h
    rw [List.cons_append, splitFallback, ih h.2]
    have hhead : ¬(c = ':' ∧ (name ++ ':' :: '-' :: fallback).head? = some '-') := by
      rintro ⟨rfl, hd⟩
      rcases name with _ | ⟨d, name⟩
      · simp at hd
      · simp only [List.cons_append, List.head?_cons, Option.some.injEq] at hd
        exact h.1 ⟨rfl, by simp [hd]⟩
    rw [if_neg hhead]
    rfl

theorem splitFallback_eq_some (h : splitFallback cs = some (name, fallback)) :
    cs = name ++ ':' :: '-' :: fallback ∧ ¬[':', '-'] <:+: name := by
  induction cs generalizing name with
  | nil => simp [splitFallback] at h
  | cons c cs ih =>
    rw [splitFallback] at h
    split_ifs at h with hc
    · obtain ⟨rfl, hd⟩ := hc
      rcases cs with _ | ⟨d, cs⟩
      · simp at hd
      · simp only [List.head?_cons, Option.some.injEq, List.tail_cons, Prod.mk.injEq] at h hd
        obtain ⟨rfl, rfl⟩ := h
        simp [hd]
    · obtain ⟨⟨before, after⟩, hp, h⟩ := Option.map_eq_some_iff.1 h
      obtain ⟨rfl, rfl⟩ := Prod.mk.inj h
      obtain ⟨rfl, hbefore⟩ := ih hp
      refine ⟨rfl, fun hin => ?_⟩
      rcases List.infix_cons_iff.1 hin with hpre | hin
      · obtain ⟨rfl, hpre⟩ := List.cons_prefix_cons.1 hpre
        rcases before with _ | ⟨d, before⟩
        · simp at hpre
        · exact hc ⟨rfl, by simpa [eq_comm] using hpre⟩
      · exact hbefore hin

theorem braced_of_unnamed (h : IsUnnamed name) : braced name = .reference name none := by
  unfold braced
  split
  · rename_i c before fallback hsplit
    obtain ⟨rfl, hbefore⟩ := splitFallback_eq_some hsplit
    have hpre := h.2 ⟨c :: before, fallback, by simp⟩
    rcases before with _ | ⟨d, before⟩
    · simp at hpre
    · obtain ⟨rfl, rfl⟩ : ':' = c ∧ '-' = d := by simpa [List.cons_prefix_cons] using hpre
      exact (hbefore ⟨[], before, rfl⟩).elim
  · rfl

theorem braced_of_named (h : IsNamed name fallback) :
    braced (name ++ ':' :: '-' :: fallback) = .reference name (some fallback) := by
  obtain ⟨hne, hname, -⟩ := h
  unfold braced
  rw [splitFallback_append hname]
  rcases name with _ | ⟨c, name⟩
  · contradiction
  · rfl

/-- What stands between braces is all a name, or has a fallback. -/
theorem unnamed_or_named (h : '\x7d' ∉ cs) :
    IsUnnamed cs ∨
      ∃ name fallback, IsNamed name fallback ∧ cs = name ++ ':' :: '-' :: fallback := by
  rcases hs : splitFallback cs with _ | ⟨name, fallback⟩
  · exact .inl ⟨h, fun hin => (splitFallback_eq_none_iff.1 hs hin).elim⟩
  · obtain ⟨rfl, hname⟩ := splitFallback_eq_some hs
    by_cases hne : name = []
    · exact .inl ⟨h, fun _ => ⟨fallback, by simp [hne]⟩⟩
    · simp only [List.mem_append, List.mem_cons, not_or] at h
      exact .inr ⟨name, fallback, ⟨hne, hname, h.1, h.2.2.2⟩, rfl⟩

end Braces

section Scan

theorem not_isNameChar_dollar : ¬isNameChar '$' := by decide +kernel

theorem not_isNameChar_brace : ¬isNameChar '\x7b' := by decide +kernel

theorem template_pieces (cs : List Char) : Template cs (pieces cs) := by
  fun_induction pieces cs with
  | case1 => exact .nil
  | case2 c cs hc ih => exact .plain hc ih
  | case3 c hc =>
    obtain rfl := of_not_not hc
    exact .loose (by simp) .nil
  | case4 c hc rest ih =>
    obtain rfl := of_not_not hc
    exact .doubled ih
  | case5 c hc rest hclosed _ _ ih =>
    obtain rfl := of_not_not hc
    have hrest : '\x7d' ∈ rest := by simpa using hclosed
    nth_rewrite 1 [← takeWhile_ne_append_tail hrest]
    rcases unnamed_or_named (not_mem_takeWhile_ne (c := '\x7d')) with
      hname | ⟨name, fallback, hname, heq⟩
    · rw [braced_of_unnamed hname]
      exact .braced hname ih
    · rw [heq, braced_of_named hname]
      exact .withFallback hname ih
  | case6 c hc rest hopen _ ih =>
    obtain rfl := of_not_not hc
    exact .unclosed (by simpa using hopen) ih
  | case7 c hc d rest hd hd' hname _ ih =>
    obtain rfl := of_not_not hc
    have hrest : d :: rest = (d :: rest.takeWhile isNameChar) ++ rest.dropWhile isNameChar := by
      rw [List.cons_append, List.takeWhile_append_dropWhile]
    rw [hrest]
    refine .named (by simp) ?_ ?_ ih
    · intro e he
      rcases List.mem_cons.1 he with rfl | he
      · exact hname
      · exact List.mem_takeWhile_imp he
    · intro e he
      have hnot := List.head?_dropWhile_not isNameChar rest
      rw [he] at hnot
      simpa using hnot
  | case8 c hc d rest hd hd' hname ih =>
    obtain rfl := of_not_not hc
    exact .loose (by simp [hd, hd', hname]) ih

theorem pieces_plain (h : c ≠ '$') : pieces (c :: cs) = .plain c :: pieces cs := by
  rcases cs with _ | ⟨d, cs⟩ <;> simp [pieces, h]

theorem pieces_braced (h : '\x7d' ∉ name) :
    pieces ('$' :: '\x7b' :: (name ++ '\x7d' :: cs)) = braced name :: pieces cs := by
  obtain ⟨htake, hdrop⟩ := takeWhile_append_stop (p := (· ≠ '\x7d'))
    (fun d hd => by simpa using ne_of_mem_of_not_mem hd h)
    (show ∀ d ∈ ('\x7d' :: cs).head?, ¬decide (d ≠ '\x7d') by simp)
  rw [pieces, if_neg (by simp), if_neg (by simp), if_pos rfl, if_pos (by simp)]
  simp only [htake, hdrop, List.tail_cons]

theorem pieces_of_template (h : Template cs ps) : pieces cs = ps := by
  induction h with
  | nil => rw [pieces]
  | plain hc _ ih => rw [pieces_plain hc, ih]
  | doubled _ ih =>
    rw [pieces]
    simp [ih]
  | @named name cs _ hne hname hstop _ ih =>
    rcases name with _ | ⟨d, name⟩
    · contradiction
    · rw [List.forall_mem_cons] at hname
      obtain ⟨htake, hdrop⟩ := takeWhile_append_stop hname.2 hstop
      have hd : d ≠ '$' := by
        rintro rfl
        exact not_isNameChar_dollar hname.1
      have hd' : d ≠ '\x7b' := by
        rintro rfl
        exact not_isNameChar_brace hname.1
      rw [List.cons_append, pieces]
      simp [hd, hd', hname.1, htake, hdrop, ih]
  | braced hname _ ih => rw [pieces_braced hname.1, braced_of_unnamed hname, ih]
  | @withFallback name fallback _ _ hname _ ih =>
    have hclosed : '\x7d' ∉ name ++ ':' :: '-' :: fallback := by
      simp [hname.2.2.1, hname.2.2.2]
    rw [pieces_braced hclosed, braced_of_named hname, ih]
  | unclosed hopen _ ih =>
    rw [pieces]
    simp [hopen, ih]
  | @loose cs _ hnext _ ih =>
    rcases cs with _ | ⟨d, cs⟩
    · simp [← ih, pieces]
    · obtain ⟨hd, hd', hname⟩ := hnext d rfl
      rw [pieces]
      simp [hd, hd', hname, ih]

theorem pieces_eq_iff : pieces cs = ps ↔ Template cs ps := by
  constructor
  · rintro rfl
    exact template_pieces cs
  · exact pieces_of_template

end Scan

/-! ## Values -/

/-- What a part comes to: a variable that is set to its value, another one to its fallback. -/
inductive Stands (env : Environment) : Piece → List Char → Prop
  | plain (c : Char) : Stands env (.plain c) [c]
  | value (name : List Char) (fallback : Option (List Char)) {value : String} :
      env.get? (String.ofList name) = some value →
      Stands env (.reference name fallback) value.toList
  | fallback (name fallback : List Char) : env.get? (String.ofList name) = none →
      Stands env (.reference name (some fallback)) fallback

section Values

theorem value?_eq_some_iff {p : Piece} {v : List Char} :
    p.value? env = some v ↔ Stands env p v := by
  constructor
  · intro h
    rcases p with c | ⟨name, fallback⟩
    · obtain rfl : [c] = v := by simpa [Piece.value?] using h
      exact .plain c
    · rw [Piece.value?] at h
      split at h
      · rename_i value hset
        obtain rfl : value.toList = v := by simpa using h
        exact .value name fallback hset
      · rename_i hunset
        subst h
        exact .fallback name v hunset
  · rintro (c | ⟨name, fallback, hset⟩ | ⟨name, fallback, hunset⟩)
    · rfl
    · simp [Piece.value?, hset]
    · simp [Piece.value?, hunset]

theorem value?_eq_none_iff {p : Piece} : p.value? env = none ↔
    ∃ name, p = .reference name none ∧ env.get? (String.ofList name) = none := by
  rcases p with c | ⟨name, fallback⟩
  · simp [Piece.value?]
  · rcases hv : env.get? (String.ofList name) with _ | value
    · simp only [Piece.value?, hv, Piece.reference.injEq]
      constructor
      · rintro rfl
        exact ⟨name, ⟨rfl, rfl⟩, hv⟩
      · rintro ⟨-, ⟨-, rfl⟩, -⟩
        rfl
    · simp only [Piece.value?, hv, Piece.reference.injEq, reduceCtorEq, false_iff]
      rintro ⟨_, ⟨rfl, -⟩, hunset⟩
      simp [hv] at hunset

theorem fill?_of_values {values : List (List Char)} (h : List.Forall₂ (Stands env) ps values) :
    fill? env ps = some values.flatten := by
  suffices ps.mapM (Piece.value? env) = some values by rw [fill?, this, Option.map_some]
  induction h with
  | nil => rfl
  | cons hp _ ih => simp [List.mapM_cons, value?_eq_some_iff.2 hp, ih]

theorem mapM_eq_none {p : Piece} (hp : p ∈ ps) (h : p.value? env = none) :
    ps.mapM (Piece.value? env) = none := by
  induction ps with
  | nil => cases hp
  | cons q ps ih =>
    rcases List.mem_cons.1 hp with rfl | hp
    · simp [List.mapM_cons, h]
    · rcases hq : q.value? env with _ | v <;> simp [List.mapM_cons, hq, ih hp]

/-- All parts have a value, or there is a reference that has none. -/
theorem values_or_unset (env : Environment) (ps : List Piece) :
    (∃ values, List.Forall₂ (Stands env) ps values) ∨
    ∃ name, .reference name none ∈ ps ∧ env.get? (String.ofList name) = none := by
  induction ps with
  | nil => exact .inl ⟨[], .nil⟩
  | cons p ps ih =>
    rcases hp : p.value? env with _ | v
    · obtain ⟨name, rfl, hunset⟩ := value?_eq_none_iff.1 hp
      exact .inr ⟨name, List.mem_cons_self, hunset⟩
    · rcases ih with ⟨values, hvalues⟩ | ⟨name, hmem, hunset⟩
      · exact .inl ⟨v :: values, .cons (value?_eq_some_iff.1 hp) hvalues⟩
      · exact .inr ⟨name, List.mem_cons_of_mem _ hmem, hunset⟩

theorem expandTilde_of_head? {path : String} (h : path.toList.head? ≠ some '~') :
    expandTilde env path = path := by
  unfold expandTilde
  split
  · rename_i ht
    simp [ht] at h
  · rfl

theorem expandTilde_cons (rest : List Char) : expandTilde env (String.ofList ('~' :: rest)) =
    if rest.isEmpty || rest.head? = some '/' then env.home ++ String.ofList rest
    else String.ofList ('~' :: rest) := by
  simp [expandTilde]

theorem expandPath_of_values {path : String} {values : List (List Char)}
    (ht : Template path.toList ps) (h : List.Forall₂ (Stands env) ps values) :
    expandPath env path = if path.toList.head? = some '~'
      then expandTilde env (String.ofList values.flatten) else String.ofList values.flatten := by
  rw [expandPath, pieces_of_template ht, fill?_of_values h]
  by_cases hp : path.toList.head? = some '~'
  · simp [hp]
  · by_cases hv : values.flatten.head? = some '~'
    · simp [hp, hv]
    · simp only [hp, hv, ne_eq, not_false_iff, and_false, if_false]
      exact expandTilde_of_head? (by simpa using hv)

theorem expandPath_of_unset {path : String} (ht : Template path.toList ps)
    (hmem : .reference name none ∈ ps) (h : env.get? (String.ofList name) = none) :
    expandPath env path = expandTilde env path := by
  have hnone := mapM_eq_none hmem (value?_eq_none_iff.2 ⟨name, rfl, h⟩)
  rw [expandPath, pieces_of_template ht, fill?, hnone]
  rfl

end Values

/-- The path has a reference to a variable of this name. -/
def RefersTo (path name : String) : Prop :=
  ∃ cs fallback, .reference cs fallback ∈ pieces path.toList ∧ String.ofList cs = name

section Reading

theorem expandTilde_congr (h : env.home = other.home) (path : String) :
    expandTilde env path = expandTilde other path := by
  unfold expandTilde
  rw [h]

theorem fill?_congr (h : ∀ p ∈ ps, p.value? env = p.value? other) :
    fill? env ps = fill? other ps := by
  suffices ps.mapM (Piece.value? env) = ps.mapM (Piece.value? other) by rw [fill?, fill?, this]
  induction ps with
  | nil => rfl
  | cons p ps ih =>
    rw [List.forall_mem_cons] at h
    rw [List.mapM_cons, List.mapM_cons, h.1, ih h.2]

/-- Of the environment, a path reads the home directory and the variables it refers to. -/
theorem expandPath_congr {path : String} (hhome : env.home = other.home)
    (h : ∀ name, RefersTo path name → env.get? name = other.get? name) :
    expandPath env path = expandPath other path := by
  have hfill : fill? env (pieces path.toList) = fill? other (pieces path.toList) := by
    refine fill?_congr fun p hp => ?_
    rcases p with c | ⟨name, fallback⟩
    · rfl
    · simp only [Piece.value?, h (String.ofList name) ⟨name, fallback, hp, rfl⟩]
  simp only [expandPath, hfill, expandTilde_congr hhome]

end Reading

/-! ## Texts without references -/

/-- The text with every dollar sign written twice. -/
def withDollarsDoubled (cs : List Char) : List Char :=
  cs.flatMap fun c => if c = '$' then ['$', '$'] else [c]

section Plain

theorem template_doubled (cs : List Char) : Template (withDollarsDoubled cs) (cs.map .plain) := by
  induction cs with
  | nil => exact .nil
  | cons c cs ih =>
    by_cases hc : c = '$'
    · simpa [withDollarsDoubled, hc] using ih.doubled
    · simpa [withDollarsDoubled, hc] using ih.plain hc

theorem template_of_not_mem (h : '$' ∉ cs) : Template cs (cs.map .plain) := by
  induction cs with
  | nil => exact .nil
  | cons c cs ih =>
    rw [List.mem_cons, not_or] at h
    exact (ih h.2).plain (Ne.symm h.1)

theorem values_plain (cs : List Char) :
    List.Forall₂ (Stands env) (cs.map .plain) (cs.map fun c => [c]) := by
  induction cs with
  | nil => exact .nil
  | cons c cs ih => exact .cons (.plain c) ih

theorem head?_withDollarsDoubled (cs : List Char) : (withDollarsDoubled cs).head? = cs.head? := by
  rcases cs with _ | ⟨c, cs⟩
  · rfl
  · by_cases hc : c = '$' <;> simp [withDollarsDoubled, hc]

theorem expandPath_of_plain {path : String} (h : Template path.toList (cs.map .plain))
    (hhead : path.toList.head? = cs.head?) :
    expandPath env path = expandTilde env (String.ofList cs) := by
  have hvalues : (cs.map fun c => [c]).flatten = cs := by
    rw [← List.flatMap_def, List.flatMap_singleton']
  rw [expandPath_of_values h (values_plain cs), hvalues]
  split_ifs with ht
  · rfl
  · rw [expandTilde_of_head?]
    rwa [String.toList_ofList, ← hhead]

end Plain

/-- A path is read in one way. If each of its references has a value, the values take their places,
and then its own tilde the home directory; if one has none, only the tilde does. -/
theorem expansion_all_or_nothing (env : Environment) (path : String) :
    (∃! ps, Template path.toList ps) ∧
    (∀ ps, Template path.toList ps →
      ((∃ values, List.Forall₂ (Stands env) ps values) ∨
        ∃ name, .reference name none ∈ ps ∧ env.get? (String.ofList name) = none) ∧
      (∀ values, List.Forall₂ (Stands env) ps values →
        expandPath env path = if path.toList.head? = some '~'
          then expandTilde env (String.ofList values.flatten) else String.ofList values.flatten) ∧
      ∀ name, .reference name none ∈ ps → env.get? (String.ofList name) = none →
        expandPath env path = expandTilde env path) ∧
    (path.toList.head? ≠ some '~' →
      expandPath env (String.ofList (withDollarsDoubled path.toList)) = path) ∧
    ('$' ∉ path.toList → expandPath env path = expandTilde env path) ∧
    (path.toList.head? ≠ some '~' → expandTilde env path = path) ∧
    ∀ rest, expandTilde env (String.ofList ('~' :: rest)) =
      if rest.isEmpty || rest.head? = some '/' then env.home ++ String.ofList rest
      else String.ofList ('~' :: rest) := by
  refine ⟨⟨pieces path.toList, template_pieces _, fun ps h => (pieces_of_template h).symm⟩,
    fun ps ht => ⟨values_or_unset env ps, fun values => expandPath_of_values ht,
      fun name => expandPath_of_unset ht⟩, fun hp => ?_, fun hp => ?_, expandTilde_of_head?,
    expandTilde_cons⟩
  · have hread : Template (String.ofList (withDollarsDoubled path.toList)).toList
        (path.toList.map .plain) := by
      rw [String.toList_ofList]
      exact template_doubled _
    rw [expandPath_of_plain hread, String.ofList_toList, expandTilde_of_head? hp]
    rw [String.toList_ofList, head?_withDollarsDoubled]
  · rw [expandPath_of_plain (template_of_not_mem hp) rfl, String.ofList_toList]

/-- Two variables that are set, and one that is not. -/
def sampleEnvironment : Environment :=
  ⟨[("E", ""), ("A", "$E:~")], "/h"⟩

theorem expansion_all_or_nothing_sample :
    expandPath sampleEnvironment "~/$A$\x7bB:-$E\x7d" = "/h/$E:~$E" ∧
    expandPath sampleEnvironment "~/$A$B" = "/h/$A$B" ∧
    expandPath sampleEnvironment "$$E" = "$E" := by
  have hset : sampleEnvironment.get? "A" = some "$E:~" := by decide +kernel
  have hunset : sampleEnvironment.get? "B" = none := by decide +kernel
  refine ⟨?_, ?_, ?_⟩
  · obtain ⟨-, hread, -⟩ := expansion_all_or_nothing sampleEnvironment "~/$A$\x7bB:-$E\x7d"
    obtain ⟨-, hvalues, -⟩ := hread
      [.plain '~', .plain '/', .reference ['A'] none, .reference ['B'] (some ['$', 'E'])]
      (pieces_eq_iff.1 (by decide +kernel))
    rw [hvalues [['~'], ['/'], "$E:~".toList, ['$', 'E']]
      (.cons (.plain _) (.cons (.plain _) (.cons (.value _ _ hset)
        (.cons (.fallback _ _ hunset) .nil))))]
    decide +kernel
  · obtain ⟨-, hread, -⟩ := expansion_all_or_nothing sampleEnvironment "~/$A$B"
    obtain ⟨-, -, hraw⟩ := hread
      [.plain '~', .plain '/', .reference ['A'] none, .reference ['B'] none]
      (pieces_eq_iff.1 (by decide +kernel))
    rw [hraw ['B'] (by simp) hunset]
    decide +kernel
  · obtain ⟨-, -, hdoubled, -⟩ := expansion_all_or_nothing sampleEnvironment "$E"
    exact hdoubled (by decide +kernel)

/-- The tilde of a path stays if an empty value is what stands before it. -/
theorem tilde_behind_empty_value :
    Template "$E~/x".toList [.reference ['E'] none, .plain '~', .plain '/', .plain 'x'] ∧
    List.Forall₂ (Stands sampleEnvironment)
      [.reference ['E'] none, .plain '~', .plain '/', .plain 'x'] [[], ['~'], ['/'], ['x']] ∧
    expandTilde sampleEnvironment "~/x" = "/h/x" ∧
    expandPath sampleEnvironment "$E~/x" = "~/x" := by
  have hread : Template "$E~/x".toList
      [.reference ['E'] none, .plain '~', .plain '/', .plain 'x'] :=
    pieces_eq_iff.1 (by decide +kernel)
  have hempty : sampleEnvironment.get? "E" = some "" := by decide +kernel
  have hvalues : List.Forall₂ (Stands sampleEnvironment)
      [.reference ['E'] none, .plain '~', .plain '/', .plain 'x'] [[], ['~'], ['/'], ['x']] :=
    .cons (.value _ _ hempty) (.cons (.plain _) (.cons (.plain _) (.cons (.plain _) .nil)))
  refine ⟨hread, hvalues, by decide +kernel, ?_⟩
  rw [expandPath_of_values hread hvalues]
  decide +kernel

end AgentConsole.Setup
