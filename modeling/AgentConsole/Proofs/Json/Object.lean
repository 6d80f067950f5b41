import AgentConsole.Proofs.Json.Meaning

/-!
# Reading objects

Reading an object comes down to its fields, whatever gaps there are (`Shape.readAll_object`): one
after the other, a field fills its slot or is passed over (`readField`), and the first that fails
says what is wrong with the object (`foldlM_eq_error_iff`). A slot ends up with what the one field
of its name says (`Gives`).
-/

namespace AgentConsole.Json

variable {σ α : Type} {slots : List (Slot σ)} {meaning : String → Value → Except Fault (σ → σ)}
variable {d : σ} {v : Value} {fs : List (Option String × Value)}
variable {cs gap gap' lead label rest : List Char}

/-- The values of the fields that have the name. -/
def valuesOf (fs : List (Option String × Value)) (name : String) : List Value :=
  fs.filterMap fun f => if f.1 = some name then some f.2 else none

/-- What a field makes of a draft. -/
def readField (slots : List (Slot σ)) (meaning : String → Value → Except Fault (σ → σ)) (d : σ) :
    Option String × Value → Except Fault σ
  | (none, _) => .error .malformed
  | (some name, v) =>
    match slots.find? (·.name = name) with
    | none => .ok d
    | some slot => if slot.isFilled d then .error .mismatch else (meaning name v).map (· d)

theorem valuesOf_cons (f : Option String × Value) (fs : List (Option String × Value))
    (name : String) : valuesOf (f :: fs) name =
      if f.1 = some name then f.2 :: valuesOf fs name else valuesOf fs name := by
  unfold valuesOf
  rw [List.filterMap_cons]
  split_ifs <;> rfl

section Fields

variable (hreads : ∀ slot ∈ slots, slot.fill.Reads (meaning slot.name))

include hreads

theorem runMember_written (d : σ) (name : String) (hg : ∀ c ∈ gap, isGap c)
    (hg' : ∀ c ∈ gap', isGap c) (hv : Writes (.value v) cs) (hstop : Stops rest) :
    runMember slots d name (gap ++ ':' :: (gap' ++ (cs ++ rest))) =
      (readField slots meaning d (some name, v)).map (·, rest) := by
  unfold runMember
  cases hfind : slots.find? (·.name = name) with
  | none =>
    have hpass := hv.passed [] gap' rest hg' hstop
    rw [passRest] at hpass
    simp only [readField, hfind, passColon_gap hg, hpass]
    rfl
  | some slot =>
    have hname : slot.name = name := by simpa using List.find?_some hfind
    have hread := hreads slot (List.mem_of_find?_eq_some hfind) hv hg' hstop
    rw [hname] at hread
    by_cases hfilled : slot.isFilled d
    · simp only [readField, hfind, hfilled, if_true]
      rfl
    · simp only [readField, hfind, hfilled, passColon_gap hg, hread]
      rcases meaning name v <;> rfl

/-- A field is read, and then the others. -/
theorem runMembers_field {first : Bool} {name : Option String} (d : σ)
    (hlead : Before first lead) (hl : WritesName name label) (hg : ∀ c ∈ gap, isGap c)
    (hv : Writes (.value v) cs) (hstop : Stops rest) :
    runMembers slots d first (lead ++ (label ++ (gap ++ (cs ++ rest)))) =
      (readField slots meaning d (name, v)).bind fun d' => runMembers slots d' false rest := by
  obtain ⟨gap₀, ns, body, gap₁, hg₀, hg₁, hb, rfl, happend⟩ := hl.quoted_append
  rw [happend, runMembers_name (onward_name hlead hg₀ _), literal_body hb]
  rcases textOf ns with _ | text
  · rfl
  · simp only [Except.bind, Option.map_some, runMember_written hreads d _ hg₁ hg hv hstop]
    rcases readField slots meaning d _ <;> rfl

/-- The fields of an object are read one after the other. -/
theorem runMembers_fields {first : Bool} (hf : Writes (.fields fs) cs) (d : σ)
    (hlead : Before first lead) (rest : List Char) :
    runMembers slots d first (lead ++ (cs ++ rest)) =
      (fs.foldlM (readField slots meaning) d).map (·, rest) := by
  induction fs generalizing d first lead cs with
  | nil => cases hf
  | cons f fs ih =>
    obtain ⟨name, v, fs, label, gap, cs₁, gap', after, hcons, hl, hg, hg', hv, rfl, hafter⟩ :=
      hf.uncons
    obtain ⟨rfl, rfl⟩ := List.cons.inj hcons
    simp only [List.append_assoc, List.foldlM_cons]
    rcases hafter with ⟨rfl, rfl⟩ | ⟨-, cs₂, rfl, hf₂⟩
    · have hstop : Stops (gap' ++ (['\x7d'] ++ rest)) := stops_append hg' (stops_cons (by simp))
      rw [runMembers_field hreads d hlead hl hg hv hstop]
      rcases readField slots meaning d (name, v) with f | d'
      · rfl
      · exact runMembers_done hg' slots d' false rest
    · have hstop : Stops (gap' ++ (',' :: cs₂ ++ rest)) := stops_append hg' (stops_cons (by simp))
      rw [runMembers_field hreads d hlead hl hg hv hstop]
      rcases readField slots meaning d (name, v) with f | d'
      · rfl
      · have hmore := ih hf₂ d' (.later hg')
        rwa [List.append_assoc, List.singleton_append] at hmore

/-- An object is read as its fields are, whatever gaps there are and wherever it ends. -/
theorem Shape.readAll_object {shape : Shape σ α} {s : String} (hslots : shape.slots = slots)
    (hobject : Writes (.value (.object fs)) cs) (hg : ∀ c ∈ gap, isGap c)
    (hg' : ∀ c ∈ gap', isGap c) (hs : s.toList = gap ++ (cs ++ gap')) :
    shape.reader.readAll s = (fs.foldlM (readField slots meaning) shape.blank).bind fun d =>
      (shape.finish d).elim (.error .mismatch) .ok := by
  subst hslots
  have hend : (dropGaps gap').isEmpty := by
    rw [← List.append_nil gap', dropGaps_append hg']
    rfl
  have hmembers : ∃ inner, cs = '\x7b' :: inner ∧ runMembers shape.slots shape.blank true
      (inner ++ gap') = (fs.foldlM (readField shape.slots meaning) shape.blank).map (·, gap') := by
    cases hobject with
    | emptyObject hgap =>
      refine ⟨_, rfl, ?_⟩
      rw [List.append_assoc]
      exact runMembers_done hgap shape.slots shape.blank true gap'
    | object hf => exact ⟨_, rfl, runMembers_fields hreads hf shape.blank .first gap'⟩
  obtain ⟨inner, rfl, hrun⟩ := hmembers
  have hshape : shape.reader.run s.toList =
      (fs.foldlM (readField shape.slots meaning) shape.blank).bind fun d =>
        (shape.finish d).elim (.error .mismatch) fun a => .ok (a, gap') := by
    change shape.run _ = _
    unfold Shape.run
    rw [hs, List.cons_append, dropGaps_gap hg rfl]
    simp only [if_true, hrun]
    rcases fs.foldlM (readField shape.slots meaning) shape.blank with f | d
    · rfl
    · simp only [Except.map, Except.bind]
      rcases shape.finish d <;> rfl
  rw [Reader.readAll, hshape]
  rcases fs.foldlM (readField shape.slots meaning) shape.blank with f | d
  · rfl
  · simp only [Except.bind]
    rcases shape.finish d with _ | a
    · rfl
    · simp [hend]

end Fields

/-- Steps that can fail do so where the first of them does. -/
theorem foldlM_eq_error_iff {β : Type} {step : σ → β → Except Fault σ} {bs : List β} {e : Fault} :
    bs.foldlM step d = .error e ↔ ∃ before b after d', bs = before ++ b :: after ∧
      before.foldlM step d = .ok d' ∧ step d' b = .error e := by
  constructor
  · intro h
    induction bs generalizing d with
    | nil => cases h
    | cons b bs ih =>
      rw [List.foldlM_cons] at h
      rcases hb : step d b with e' | d'
      · rw [hb] at h
        obtain rfl : e' = e := Except.error.inj h
        exact ⟨[], b, bs, d, rfl, rfl, hb⟩
      · rw [hb] at h
        obtain ⟨before, b', after, d'', rfl, hbefore, hb'⟩ := ih h
        refine ⟨b :: before, b', after, d'', rfl, ?_, hb'⟩
        rwa [List.foldlM_cons, hb]
  · rintro ⟨before, b, after, d', rfl, hbefore, hb⟩
    rw [List.foldlM_append, hbefore]
    change List.foldlM step d' (b :: after) = _
    rw [List.foldlM_cons, hb]
    rfl

/-- What a slot ends up with that held something or nothing: what it had if there are no values,
and else the meaning of the only one. -/
inductive Gives (meaning : Value → Except Fault α) : Option α → List Value → Option α → Prop
  | kept {held : Option α} : Gives meaning held [] held
  | filled {v : Value} {a : α} : meaning v = .ok a → Gives meaning none [v] (some a)

theorem gives_nil {meaning : Value → Except Fault α} {held held' : Option α} :
    Gives meaning held [] held' ↔ held = held' :=
  ⟨fun | .kept => rfl, fun h => h ▸ .kept⟩

theorem gives_cons {meaning : Value → Except Fault α} {held held' : Option α} {vs : List Value} :
    Gives meaning held (v :: vs) held' ↔
      held = none ∧ ∃ a, meaning v = .ok a ∧ Gives meaning (some a) vs held' := by
  constructor
  · rintro ⟨⟩
    exact ⟨rfl, _, ‹_›, .kept⟩
  · rintro ⟨rfl, a, ha, ⟨⟩⟩
    exact .filled ha

theorem gives_some {meaning : Value → Except Fault α} {vs : List Value} {a : α} :
    Gives meaning none vs (some a) ↔ ∃ v, vs = [v] ∧ meaning v = .ok a := by
  constructor
  · rintro ⟨⟩
    exact ⟨_, rfl, ‹_›⟩
  · rintro ⟨v, rfl, ha⟩
    exact .filled ha

/-- A slot stays empty if there is no value for it. -/
theorem Gives.eq_none_iff {meaning : Value → Except Fault α} {vs : List Value} {held : Option α}
    (h : Gives meaning none vs held) : held = none ↔ vs = [] := by
  cases h <;> simp

end AgentConsole.Json
