import AgentConsole.Json.Record
import AgentConsole.Json.Writer
import AgentConsole.Proofs.Json.Quoted

/-!
# Reading records back

A record that was written is read member by member. A member that has a slot has to be one the slot
can take (`Reader.Takes`); one that has none is passed over. `Fills` says what this makes of a
draft, and `readAll_pretty` that reading does just so, with every gap and comma in its place.
-/

namespace AgentConsole.Json

variable {σ α β : Type}

/-- Quoted and with gaps in front, the text is read as `a`. -/
def Reader.Takes (r : Reader α) (s : String) (a : α) : Prop :=
  ∀ gap rest : List Char, (∀ c ∈ gap, isGap c) →
    r.run (gap ++ ((quote s).toList ++ rest)) = .ok (a, rest)

theorem dropGaps_append {gap cs : List Char} (h : ∀ c ∈ gap, isGap c) :
    dropGaps (gap ++ cs) = dropGaps cs :=
  List.dropWhile_append_of_pos h

theorem dropGaps_cons {c : Char} {cs : List Char} (h : isGap c = false) :
    dropGaps (c :: cs) = c :: cs := by
  rw [dropGaps, List.dropWhile_cons, h]
  rfl

theorem dropGaps_gap {gap : List Char} {c : Char} (hg : ∀ c ∈ gap, isGap c)
    (hc : isGap c = false) (rest : List Char) : dropGaps (gap ++ c :: rest) = c :: rest := by
  rw [dropGaps_append hg, dropGaps_cons hc]

theorem quote_append (s : String) (rest : List Char) :
    (quote s).toList ++ rest = '"' :: (s.toList.flatMap escape ++ '"' :: rest) := by
  rw [toList_quote]
  simp

theorem dropGaps_quote {gap : List Char} (h : ∀ c ∈ gap, isGap c) (s : String) (rest : List Char) :
    dropGaps (gap ++ ((quote s).toList ++ rest)) =
      '"' :: (s.toList.flatMap escape ++ '"' :: rest) := by
  rw [quote_append, dropGaps_gap h rfl]

theorem runText_quote {gap : List Char} (h : ∀ c ∈ gap, isGap c) (s : String) (rest : List Char) :
    runText (gap ++ ((quote s).toList ++ rest)) = .ok (s, rest) := by
  unfold runText
  rw [dropGaps_quote h]
  exact literal_quoted s rest

theorem text_takes (s : String) : text.Takes s s :=
  fun _ rest h => runText_quote h s rest

theorem Reader.Takes.map {r : Reader α} {s : String} {a : α} (h : r.Takes s a) (f : α → β) :
    (r.map f).Takes s (f a) := by
  intro gap rest hg
  change (r.run _).map _ = _
  rw [h gap rest hg]
  rfl

theorem tag_takes {values : List (String × α)} {name : String} {a : α}
    (h : values.lookup name = some a) : (tag values).Takes name a := by
  intro gap rest hg
  have hn : runName values ((quote name).toList ++ rest) = .ok (a, rest) := by
    have ht := runText_quote (show ∀ c ∈ [], isGap c by simp) name rest
    unfold runName
    rw [List.nil_append] at ht
    simp only [ht, h]
  change runTag values _ = _
  unfold runTag
  rw [dropGaps_quote hg]
  simp only [if_true]
  rwa [quote_append] at hn

/-- What written members make of a draft. -/
inductive Fills (slots : List (Slot σ)) : σ → Members → σ → Prop
  | nil (d : σ) : Fills slots d [] d
  | known {d d' : σ} {f : σ → σ} {slot : Slot σ} {name s : String} {ms : Members}
      (hs : slots.find? (·.name = name) = some slot) (hf : slot.isFilled d = false)
      (ht : slot.fill.Takes s f) (h : Fills slots (f d) ms d') : Fills slots d ((name, s) :: ms) d'
  | unknown {d d' : σ} {name s : String} {ms : Members}
      (hs : slots.find? (·.name = name) = none) (h : Fills slots d ms d') :
    Fills slots d ((name, s) :: ms) d'

/-- A member, with a gap in front and one after its colon. -/
def member (gap gap' : List Char) (m : String × String) : List Char :=
  gap ++ ((quote m.1).toList ++ ':' :: (gap' ++ (quote m.2).toList))

theorem passColon_cons (cs : List Char) : passColon (':' :: cs) = .ok cs := by
  unfold passColon
  rw [dropGaps_cons rfl]
  rfl

theorem passValue_quote {gap : List Char} (h : ∀ c ∈ gap, isGap c) (s : String)
    (rest : List Char) : passValue [] (gap ++ ((quote s).toList ++ rest)) = .ok rest := by
  have hs : passScalar (dropGaps (gap ++ ((quote s).toList ++ rest))) = .ok rest := by
    rw [dropGaps_quote h]
    exact passLiteral_quoted s rest
  rw [passValue]
  split
  · rename_i hc
    rw [dropGaps_quote h] at hc
    cases hc
  · rename_i hc
    rw [dropGaps_quote h] at hc
    cases hc
    split
    · split
      · rename_i hs'
        rw [hs] at hs'
        cases hs'
      · rename_i hs'
        rw [hs] at hs'
        cases hs'
        rw [passRest]
    · rename_i hb
      cases hb

/-- A written member is read as the draft asks for. -/
theorem runMember_known {slots : List (Slot σ)} {slot : Slot σ} {d : σ} {f : σ → σ}
    {name s : String} (hs : slots.find? (·.name = name) = some slot)
    (hf : slot.isFilled d = false) (ht : slot.fill.Takes s f) {gap : List Char}
    (hg : ∀ c ∈ gap, isGap c) (rest : List Char) :
    runMember slots d name (':' :: (gap ++ ((quote s).toList ++ rest))) = .ok (f d, rest) := by
  unfold runMember
  rw [hs]
  simp only [hf, Bool.false_eq_true, if_false, passColon_cons, ht gap rest hg]
  rfl

theorem runMember_unknown {slots : List (Slot σ)} {name : String} (d : σ)
    (hs : slots.find? (·.name = name) = none) {gap : List Char} (hg : ∀ c ∈ gap, isGap c)
    (s : String) (rest : List Char) :
    runMember slots d name (':' :: (gap ++ ((quote s).toList ++ rest))) = .ok (d, rest) := by
  unfold runMember
  rw [hs]
  simp only [passColon_cons, passValue_quote hg]
  rfl

/-- What stands before a member: nothing before the first, and else a comma. -/
inductive Before : Bool → List Char → Prop
  | first : Before true []
  | later {gap : List Char} : (∀ c ∈ gap, isGap c) → Before false (gap ++ [','])

theorem onward_name {first : Bool} {lead gap : List Char} (hlead : Before first lead)
    (hg : ∀ c ∈ gap, isGap c) (rest : List Char) :
    onward first (lead ++ (gap ++ '"' :: rest)) = .ok (.name, rest) := by
  unfold onward
  cases hlead with
  | first =>
    rw [List.nil_append, dropGaps_gap hg rfl]
    rfl
  | later hlead =>
    rw [List.append_assoc, List.singleton_append, dropGaps_gap hlead rfl]
    simp [dropGaps_gap hg (show isGap '"' = false from rfl)]

/-- Where a name starts, it is read, then its value, and then the other members. -/
theorem runMembers_name {slots : List (Slot σ)} {d : σ} {first : Bool} {cs rest : List Char}
    (ho : onward first cs = .ok (.name, rest)) : runMembers slots d first cs =
      (literal rest).bind fun p => (runMember slots d p.1 p.2).bind fun q =>
        runMembers slots q.1 false q.2 := by
  rw [runMembers]
  split
  · simp_all
  · simp_all
  · rename_i rest' ho'
    obtain rfl : rest' = rest := by simpa [ho] using ho'.symm
    split
    · rename_i hl
      rw [hl]
      rfl
    · rename_i hl
      simp only [hl, Except.bind]
      split <;> simp_all

/-- One member of an object is read, and then the others. -/
theorem runMembers_step {slots : List (Slot σ)} {d d' : σ} {first : Bool} {name : String}
    {cs rest rest' rest'' : List Char} (ho : onward first cs = .ok (.name, rest))
    (hl : literal rest = .ok (name, rest')) (hm : runMember slots d name rest' = .ok (d', rest'')) :
    runMembers slots d first cs = runMembers slots d' false rest'' := by
  rw [runMembers_name ho, hl]
  simp only [Except.bind, hm]

section Object

variable {slots : List (Slot σ)} {d d' : σ} {m : String × String} {ms : Members}
variable {gap gap' final : List Char}

theorem onward_first (h : ∀ c ∈ gap, isGap c) (s : String) (rest : List Char) :
    onward true (gap ++ ((quote s).toList ++ rest)) =
      .ok (.name, s.toList.flatMap escape ++ '"' :: rest) := by
  rw [quote_append]
  exact onward_name .first h _

theorem onward_later (h : ∀ c ∈ gap, isGap c) (s : String) (rest : List Char) :
    onward false (',' :: (gap ++ ((quote s).toList ++ rest))) =
      .ok (.name, s.toList.flatMap escape ++ '"' :: rest) := by
  have hlead : Before false ([] ++ [',']) := .later (by simp)
  rw [quote_append]
  exact onward_name hlead h _

theorem runMembers_done (h : ∀ c ∈ final, isGap c) (slots : List (Slot σ)) (d : σ) (first : Bool)
    (rest : List Char) : runMembers slots d first (final ++ '\x7d' :: rest) = .ok (d, rest) := by
  have ho : onward first (final ++ '\x7d' :: rest) = .ok (.done, rest) := by
    unfold onward
    rw [dropGaps_append h, dropGaps_cons rfl]
    simp
  rw [runMembers]
  split <;> simp_all

/-- The members are read that follow on others. -/
theorem runMembers_later (h : Fills slots d ms d') (hg : ∀ c ∈ gap, isGap c)
    (hg' : ∀ c ∈ gap', isGap c) (hf : ∀ c ∈ final, isGap c) (rest : List Char) :
    runMembers slots d false (ms.flatMap (fun m => ',' :: member gap gap' m) ++
      (final ++ '\x7d' :: rest)) = .ok (d', rest) := by
  induction h with
  | nil => exact runMembers_done hf slots _ false rest
  | known hs hfree ht _ ih =>
    simp only [List.flatMap_cons, member, List.cons_append, List.append_assoc]
    rw [runMembers_step (onward_later hg _ _) (literal_quoted _ _)
      (runMember_known hs hfree ht hg' _)]
    exact ih
  | unknown hs _ ih =>
    simp only [List.flatMap_cons, member, List.cons_append, List.append_assoc]
    rw [runMembers_step (onward_later hg _ _) (literal_quoted _ _) (runMember_unknown _ hs hg' _ _)]
    exact ih

/-- The members of an object are read. -/
theorem runMembers_written (h : Fills slots d (m :: ms) d') (hg : ∀ c ∈ gap, isGap c)
    (hg' : ∀ c ∈ gap', isGap c) (hf : ∀ c ∈ final, isGap c) (rest : List Char) :
    runMembers slots d true (member gap gap' m ++ (ms.flatMap (fun m => ',' :: member gap gap' m) ++
      (final ++ '\x7d' :: rest))) = .ok (d', rest) := by
  cases h with
  | known hs hfree ht hrest =>
    simp only [member, List.cons_append, List.append_assoc]
    rw [runMembers_step (onward_first hg _ _) (literal_quoted _ _)
      (runMember_known hs hfree ht hg' _)]
    exact runMembers_later hrest hg hg' hf rest
  | unknown hs hrest =>
    simp only [member, List.cons_append, List.append_assoc]
    rw [runMembers_step (onward_first hg _ _) (literal_quoted _ _) (runMember_unknown _ hs hg' _ _)]
    exact runMembers_later hrest hg hg' hf rest

end Object

theorem intercalate_cons (sep x : List α) (xs : List (List α)) :
    sep.intercalate (x :: xs) = x ++ xs.flatMap (sep ++ ·) := by
  induction xs generalizing x with
  | nil => simp
  | cons y ys ih => simp [List.intercalate_cons_cons, ih]

/-- The characters of a record with its members on lines of their own. -/
theorem toList_pretty (m : String × String) (ms : Members) : (pretty (m :: ms)).toList =
    '\x7b' :: (member ['\n', ' ', ' '] [' '] m ++
      (ms.flatMap (fun m => ',' :: member ['\n', ' ', ' '] [' '] m) ++ ['\n', '\x7d'])) := by
  simp [pretty, writeMember, member, String.toList_intercalate, intercalate_cons, List.flatMap_map]

/-- The characters of a record on one line. -/
theorem toList_compact (m : String × String) (ms : Members) : (compact (m :: ms)).toList =
    '\x7b' :: (member [] [] m ++ (ms.flatMap (fun m => ',' :: member [] [] m) ++ ['\x7d'])) := by
  simp [compact, writeMember, member, String.toList_intercalate, intercalate_cons,
    List.flatMap_map]

/-- A quoted text that is a whole text is read as what the reader takes it for. -/
theorem Reader.Takes.readAll {r : Reader α} {s : String} {a : α} (h : r.Takes s a) :
    r.readAll (quote s) = .ok a := by
  have hrun := h [] [] (by simp)
  rw [List.nil_append, List.append_nil] at hrun
  unfold Reader.readAll
  rw [hrun]
  rfl

section Layout

variable {shape : Shape σ α} {d : σ} {a : α} {m : String × String} {ms : Members}
variable {gap gap' final : List Char}

/-- A written record is read as the draft it fills, whatever gaps there are. -/
theorem readAll_of_toList {s : String} (h : Fills shape.slots shape.blank (m :: ms) d)
    (hd : shape.finish d = some a) (hg : ∀ c ∈ gap, isGap c) (hg' : ∀ c ∈ gap', isGap c)
    (hf : ∀ c ∈ final, isGap c)
    (hs : s.toList = '\x7b' :: (member gap gap' m ++
      (ms.flatMap (fun m => ',' :: member gap gap' m) ++ (final ++ ['\x7d'])))) :
    shape.reader.readAll s = .ok a := by
  have hrun : shape.reader.run s.toList = .ok (a, []) := by
    have hm := runMembers_written h hg hg' hf []
    unfold Shape.reader Shape.run
    simp only
    rw [hs, dropGaps_cons rfl]
    simp only [if_true, hm, hd]
  unfold Reader.readAll
  rw [hrun]
  rfl

theorem readAll_pretty (h : Fills shape.slots shape.blank (m :: ms) d)
    (hd : shape.finish d = some a) : shape.reader.readAll (pretty (m :: ms)) = .ok a :=
  have hgap : ∀ c ∈ ['\n'], isGap c := by simp [isGap]
  readAll_of_toList h hd (by simp [isGap]) (by simp [isGap]) hgap (toList_pretty m ms)

theorem readAll_compact (h : Fills shape.slots shape.blank (m :: ms) d)
    (hd : shape.finish d = some a) : shape.reader.readAll (compact (m :: ms)) = .ok a :=
  have hgap : ∀ c ∈ [], isGap c := by simp
  readAll_of_toList h hd (by simp) (by simp) hgap (toList_compact m ms)

end Layout

section Texts

variable {name : String} {done ms : Members}

/-- A member for each name, kept in the order they stand in. -/
def textsShape (names : List String) : Shape Members Members where
  blank := []
  slots := names.map fun name =>
    ⟨name, fun ms => (ms.lookup name).isSome, text.map fun s ms => ms ++ [(name, s)]⟩
  finish := some

theorem find?_textsShape {names : List String} (h : name ∈ names) :
    (textsShape names).slots.find? (·.name = name) =
      some ⟨name, fun ms => (ms.lookup name).isSome, text.map fun s ms => ms ++ [(name, s)]⟩ := by
  induction names with
  | nil => cases h
  | cons name' names ih =>
    by_cases hn : name' = name
    · subst hn
      simp [textsShape]
    · have hmem : name ∈ names := (List.mem_cons.1 h).resolve_left fun he => hn he.symm
      have hrest := ih hmem
      unfold textsShape at hrest ⊢
      rw [List.map_cons, List.find?_cons_of_neg (by simpa using hn)]
      exact hrest

/-- Members of different names are read as they were written, after those read before. -/
theorem fills_textsShape {names : List String} (hsub : ms.map Prod.fst ⊆ names)
    (hnodup : ((done ++ ms).map Prod.fst).Nodup) :
    Fills (textsShape names).slots done ms (done ++ ms) := by
  induction ms generalizing done with
  | nil => simpa using Fills.nil done
  | cons m ms ih =>
    obtain ⟨name, s⟩ := m
    have hfree : done.lookup name = none := by
      rw [List.lookup_eq_none_iff]
      intro p hp
      have hd : p.1 ∈ done.map Prod.fst := List.mem_map_of_mem hp
      rw [List.map_append, List.nodup_append] at hnodup
      simpa using (hnodup.2.2 _ hd name List.mem_cons_self).symm
    refine .known (find?_textsShape (hsub List.mem_cons_self)) (by simp [hfree])
      ((text_takes s).map _) ?_
    have hnodup' : ((done ++ [(name, s)] ++ ms).map Prod.fst).Nodup := by simpa using hnodup
    have hrest := ih (fun _ h => hsub (List.mem_cons_of_mem _ h)) hnodup'
    simpa using hrest

/-- An object of texts says what was written, on lines of its own or on one. -/
theorem readAll_textsShape {m : String × String} (hnodup : ((m :: ms).map Prod.fst).Nodup) :
    (textsShape ((m :: ms).map Prod.fst)).reader.readAll (pretty (m :: ms)) = .ok (m :: ms) ∧
      (textsShape ((m :: ms).map Prod.fst)).reader.readAll (compact (m :: ms)) =
        .ok (m :: ms) := by
  have h : Fills (textsShape ((m :: ms).map Prod.fst)).slots [] (m :: ms) (m :: ms) :=
    fills_textsShape (List.Subset.refl _) hnodup
  exact ⟨readAll_pretty h rfl, readAll_compact h rfl⟩

end Texts

end AgentConsole.Json
