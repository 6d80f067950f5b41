import AgentConsole.Proofs.Json.Unread

/-!
# What readers make of values

What a reader makes of a value does not depend on how the value is written, nor on what comes
behind it (`Reader.Reads`). A text is read from a string and from nothing else (`text_reads`); one
of some named values from its name, or from an object with a field of that name (`tag_reads`).
-/

namespace AgentConsole.Json

variable {α β : Type} {v : Value} {cs gap gap' rest : List Char}

/-- The reader makes this of a value, however it is written. -/
def Reader.Reads (r : Reader α) (meaning : Value → Except Fault α) : Prop :=
  ∀ {v : Value} {cs : List Char}, Writes (.value v) cs → ∀ {gap rest : List Char},
    (∀ c ∈ gap, isGap c) → Stops rest → r.run (gap ++ (cs ++ rest)) = (meaning v).map (·, rest)

/-- A value as a text. -/
def Value.text : Value → Except Fault String
  | .string (some s) => .ok s
  | v => .error v.fault

/-- One of some named values, by its name. -/
def named (values : List (String × α)) : Option String → Except Fault α
  | none => .error .malformed
  | some s =>
    match values.lookup s with
    | some a => .ok a
    | none => .error .mismatch

/-- A value that has to be null, and the last in its object. -/
def Value.lastNull : Value → List (Option String × Value) → Except Fault Unit
  | .null, [] => .ok ()
  | .null, _ :: _ => .error .malformed
  | v, _ => .error v.fault

/-- A value as one of some named values: its name, or an object of one field that has the name and
is null. -/
def Value.tag (values : List (String × α)) : Value → Except Fault α
  | .string name => named values name
  | .object ((name, v) :: fs) => do
    let a ← named values name
    v.lastNull fs
    return a
  | _ => .error .malformed

section Readers

variable {r : Reader α} {meaning : Value → Except Fault α} {ns : List Nat}

theorem Reader.Reads.map (h : r.Reads meaning) (f : α → β) :
    (r.map f).Reads fun v => (meaning v).map f := by
  intro v cs hv gap rest hg hstop
  change (r.run _).map _ = ((meaning v).map f).map _
  rw [h hv hg hstop]
  rcases meaning v <;> rfl

theorem dropGaps_value (hg : ∀ c ∈ gap, isGap c) (h : Writes (.value v) cs) (rest : List Char) :
    dropGaps (gap ++ (cs ++ rest)) = cs ++ rest := by
  obtain ⟨c, tail, rfl, hc, -⟩ := h.head
  exact dropGaps_gap hg hc _

/-- Only a string starts with a quote, and only an object with its bracket. -/
theorem Writes.head_ne (h : Writes (.value v) cs) : ∃ c tail, cs = c :: tail ∧
    ((∀ s, v ≠ .string s) → c ≠ '"') ∧ ((∀ fs, v ≠ .object fs) → c ≠ '\x7b') := by
  cases h with
  | number hn =>
    obtain ⟨c, tail, rfl, hc⟩ := hn.head
    exact ⟨c, tail, rfl, fun _ => ne_of_isDigit hc (by decide),
      fun _ => ne_of_isDigit hc (by decide)⟩
  | string => exact ⟨_, _, rfl, fun h => (h _ rfl).elim, fun _ => by decide⟩
  | emptyObject | object => exact ⟨_, _, rfl, fun _ => by decide, fun h => (h _ rfl).elim⟩
  | _ => exact ⟨_, _, rfl, fun _ => by decide, fun _ => by decide⟩

theorem runText_body (hg : ∀ c ∈ gap, isGap c) (hb : Body ns cs) (rest : List Char) :
    runText (gap ++ '"' :: (cs ++ '"' :: rest)) =
      ((Value.string ((textOf ns).map String.ofList)).text).map (·, rest) := by
  have hread := literal_body hb rest
  unfold runText
  rw [dropGaps_gap hg rfl]
  simp only [if_true, hread]
  rcases textOf ns <;> rfl

theorem text_reads : text.Reads Value.text := by
  intro v cs hv gap rest hg hstop
  change runText _ = _
  by_cases hs : ∃ s, v = .string s
  · obtain ⟨s, rfl⟩ := hs
    cases hv with
    | string hb => simpa using runText_body hg hb rest
  · have hns : ∀ s, v ≠ .string s := fun s h => hs ⟨s, h⟩
    have hdrop := dropGaps_value hg hv rest
    have hwrong := wrongKind_written hv hstop
    obtain ⟨c, tail, rfl, hc, -⟩ := hv.head_ne
    have htext : v.text = .error v.fault := by
      unfold Value.text
      split
      · exact (hns _ rfl).elim
      · rfl
    unfold runText
    rw [hdrop, htext]
    simp only [List.cons_append] at hwrong ⊢
    rw [if_neg (hc hns), hwrong]
    rfl

/-- An object that is not empty has a first field, and its end or more fields behind that. -/
theorem Writes.uncons {fs : List (Option String × Value)} (h : Writes (.fields fs) cs) :
    ∃ name v fs' label gap cs₁ gap' after, fs = (name, v) :: fs' ∧ WritesName name label ∧
      (∀ c ∈ gap, isGap c) ∧ (∀ c ∈ gap', isGap c) ∧ Writes (.value v) cs₁ ∧
      cs = label ++ (gap ++ (cs₁ ++ (gap' ++ after))) ∧
      (fs' = [] ∧ after = ['\x7d'] ∨
        fs' ≠ [] ∧ ∃ cs₂, after = ',' :: cs₂ ∧ Writes (.fields fs') cs₂) := by
  cases h with
  | lastField hl hg hg' hv =>
    exact ⟨_, _, _, _, _, _, _, _, rfl, hl, hg, hg', hv, rfl, .inl ⟨rfl, rfl⟩⟩
  | field hl hg hg' hv hf =>
    refine ⟨_, _, _, _, _, _, _, _, rfl, hl, hg, hg', hv, rfl, .inr ⟨?_, _, rfl, hf⟩⟩
    rintro rfl
    cases hf

theorem passNull_null (hg : ∀ c ∈ gap, isGap c) (rest : List Char) :
    passNull (gap ++ 'n' :: 'u' :: 'l' :: 'l' :: rest) = .ok rest := by
  rw [passNull, dropGaps_gap hg rfl]
  exact passWord_append ['u', 'l', 'l'] rest

theorem passNull_other (hv : Writes (.value v) cs) (hnull : v ≠ .null) (hg : ∀ c ∈ gap, isGap c)
    (hstop : Stops rest) : passNull (gap ++ (cs ++ rest)) = .error v.fault := by
  have hn : ∃ c tail, cs = c :: tail ∧ c ≠ 'n' := by
    cases hv with
    | nullWord => exact (hnull rfl).elim
    | number hn =>
      obtain ⟨c, tail, rfl, hc⟩ := hn.head
      exact ⟨c, tail, rfl, ne_of_isDigit hc (by decide)⟩
    | _ => exact ⟨_, _, rfl, by decide⟩
  have hdrop := dropGaps_value hg hv rest
  have hwrong := wrongKind_written hv hstop
  obtain ⟨c, tail, rfl, hc⟩ := hn
  unfold passNull
  rw [hdrop]
  simp only [List.cons_append] at hwrong ⊢
  rw [if_neg hc, hwrong]

theorem runName_body (values : List (String × α)) (hg : ∀ c ∈ gap, isGap c) (hb : Body ns cs)
    (rest : List Char) : runName values (gap ++ '"' :: (cs ++ '"' :: rest)) =
      (named values ((textOf ns).map String.ofList)).map (·, rest) := by
  unfold runName
  rw [runText_body hg hb]
  rcases textOf ns with _ | s
  · rfl
  · simp only [Option.map_some, Value.text, named, Except.map]
    rcases values.lookup (String.ofList s) <;> rfl

theorem runKey_name {name : Option String} {label : List Char} (values : List (String × α))
    (hl : WritesName name label) (rest : List Char) : ∃ gap, (∀ c ∈ gap, isGap c) ∧
      runKey values (label ++ rest) = (named values name).map (·, gap ++ ':' :: rest) := by
  obtain ⟨gap, ns, cs, gap', hg, hg', hb, rfl, happend⟩ := hl.quoted_append
  have hname := runName_body values (show ∀ c ∈ [], isGap c by simp) hb (gap' ++ ':' :: rest)
  refine ⟨gap', hg', ?_⟩
  unfold runKey
  rw [happend, dropGaps_gap hg rfl, ← hname]
  rfl

theorem runKey_closed (values : List (String × α)) (hg : ∀ c ∈ gap, isGap c) (rest : List Char) :
    runKey values (gap ++ '\x7d' :: rest) = .error .malformed := by
  unfold runKey
  rw [dropGaps_gap hg rfl]
  rfl

theorem passTagEnd_written {fs : List (Option String × Value)} {gap₀ after : List Char}
    (hg₀ : ∀ c ∈ gap₀, isGap c) (hg : ∀ c ∈ gap, isGap c) (hg' : ∀ c ∈ gap', isGap c)
    (hv : Writes (.value v) cs) (hafter : fs = [] ∧ after = ['\x7d'] ∨
      fs ≠ [] ∧ ∃ cs', after = ',' :: cs' ∧ Writes (.fields fs) cs') (rest : List Char) :
    passTagEnd (gap₀ ++ ':' :: (gap ++ (cs ++ (gap' ++ (after ++ rest))))) =
      (v.lastNull fs).map fun _ => rest := by
  have hstop : Stops (gap' ++ (after ++ rest)) := by
    refine stops_append hg' ?_
    rcases hafter with ⟨-, rfl⟩ | ⟨-, cs', rfl, -⟩ <;> exact stops_cons (by simp)
  by_cases hnull : v = .null
  · subst hnull
    cases hv with
    | nullWord =>
      rcases hafter with ⟨rfl, rfl⟩ | ⟨hfs, cs', rfl, -⟩
      · have hclose : passClosing .object (gap' ++ '\x7d' :: rest) = .ok rest := by
          rw [passClosing, dropGaps_gap hg' rfl]
          rfl
        simp [passTagEnd, passColon_gap hg₀, passNull_null hg, hclose, bind, Except.bind,
          Value.lastNull, Except.map]
      · have hclose : passClosing .object (gap' ++ ',' :: (cs' ++ rest)) = .error .malformed := by
          rw [passClosing, dropGaps_gap hg' rfl]
          rfl
        obtain ⟨f, fs, rfl⟩ := List.exists_cons_of_ne_nil hfs
        simp [passTagEnd, passColon_gap hg₀, passNull_null hg, hclose, bind, Except.bind,
          Value.lastNull, Except.map]
  · have hlast : v.lastNull fs = .error v.fault := by
      unfold Value.lastNull
      split
      · exact (hnull rfl).elim
      · exact (hnull rfl).elim
      · rfl
    have hother := passNull_other hv hnull hg hstop
    simp only [passTagEnd, passColon_gap hg₀, hother, hlast, bind, Except.bind, Except.map]

theorem tag_reads (values : List (String × α)) : (tag values).Reads (Value.tag values) := by
  intro v cs hv gap rest hg hstop
  change runTag values _ = _
  by_cases hs : ∃ s, v = .string s
  · obtain ⟨s, rfl⟩ := hs
    cases hv with
    | string hb =>
      have hname := runName_body values (show ∀ c ∈ [], isGap c by simp) hb rest
      unfold runTag
      rw [List.cons_append, dropGaps_gap hg rfl, List.append_assoc]
      exact hname
  by_cases ho : ∃ fs, v = .object fs
  · obtain ⟨fs, rfl⟩ := ho
    cases hv with
    | emptyObject hg' =>
      unfold runTag
      rw [List.cons_append, dropGaps_gap hg rfl, List.append_assoc]
      simp [runKey_closed values hg', Value.tag, Except.map]
    | object hf =>
      obtain ⟨name, v, fs', label, gap₁, cs₁, gap₂, after, rfl, hl, hg₁, hg₂, hv, rfl, hafter⟩ :=
        hf.uncons
      obtain ⟨gap₀, hg₀, hkey⟩ := runKey_name values hl (gap₁ ++ (cs₁ ++ (gap₂ ++ (after ++ rest))))
      have hend := passTagEnd_written hg₀ hg₁ hg₂ hv hafter rest
      unfold runTag
      rw [List.cons_append, dropGaps_gap hg rfl]
      simp only [List.append_assoc, hkey, Value.tag, bind, Except.bind]
      rcases named values name with f | a
      · rfl
      · simp [Except.map, hend]
        rcases v.lastNull fs' <;> rfl
  · have hns : ∀ s, v ≠ .string s := fun s h => hs ⟨s, h⟩
    have hno : ∀ fs, v ≠ .object fs := fun fs h => ho ⟨fs, h⟩
    have hdrop := dropGaps_value hg hv rest
    obtain ⟨c, tail, rfl, hc, hc'⟩ := hv.head_ne
    have htag : v.tag values = .error .malformed := by
      unfold Value.tag
      split
      · exact (hns _ rfl).elim
      · exact (hno _ rfl).elim
      · rfl
    unfold runTag
    rw [hdrop, htag]
    simp only [List.cons_append]
    rw [if_neg (hc hns), if_neg (hc' hno)]
    rfl

end Readers

end AgentConsole.Json
