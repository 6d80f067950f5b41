import AgentConsole.Console.Arguments
import Mathlib.Data.List.Basic

/-!
# What is given before

Reading arguments looks at what was given so far for one thing only: an option that is given once
is not given again. So a reading goes through in the same way behind other options
(`readArguments_behind`, by `Behind.bind` from what each step does), unless one of these is given
once and is among what is read.
-/

namespace AgentConsole.Console

variable {g : Grammar} {before given given' : Given} {p : Parameter} {s s' : Progress}

/-- No parameter that is given once is in both. -/
def Apart (g : Grammar) (before given : Given) : Prop :=
  ∀ p ∈ g.options ++ g.positionals, ∀ kind, p.action = .single kind →
    before.any (·.1 == p.name) → ¬given.any (·.1 == p.name)

theorem Apart.of_prefix (h : Apart g before given') (hp : given <+: given') :
    Apart g before given := by
  intro p hmem kind haction hbefore hgiven
  rw [List.any_eq_true] at hgiven
  obtain ⟨e, he, hname⟩ := hgiven
  exact h p hmem kind haction hbefore (List.any_eq_true.2 ⟨e, hp.subset he, hname⟩)

namespace Progress

/-- The progress with something given before. -/
def behind (before : Given) (s : Progress) : Progress :=
  { s with given := before ++ s.given }

@[simp] theorem behind_trailing : (s.behind before).trailing = s.trailing := rfl

@[simp] theorem behind_awaiting : (s.behind before).awaiting = s.awaiting := rfl

@[simp] theorem behind_awaitsDashes : (s.behind before).awaitsDashes = s.awaitsDashes := rfl

@[simp] theorem behind_pending : (s.behind before).pending = s.pending := rfl

/-- What is pending is a parameter of the grammar. -/
def Within (g : Grammar) (s : Progress) : Prop :=
  ∀ q ∈ s.pending, q.1 ∈ g.options ++ g.positionals

end Progress

/-- Reading adds to what was given, and goes through in the same way if there was more before. -/
structure Behind (g : Grammar) (before : Given) (s s' : Progress)
    (read : Progress → Except UsageError Progress) : Prop where
  within : s'.Within g
  grows : s.given <+: s'.given
  again : Apart g before s'.given → read (s.behind before) = .ok (s'.behind before)

theorem Behind.bind {first second : Progress → Except UsageError Progress} {between : Progress}
    (h₁ : Behind g before s between first) (h₂ : Behind g before between s' second) :
    Behind g before s s' fun s => first s >>= second where
  within := h₂.within
  grows := h₁.grows.trans h₂.grows
  again := fun hapart => by
    rw [h₁.again (hapart.of_prefix h₂.grows)]
    exact h₂.again hapart

theorem Behind.congr {read other : Progress → Except UsageError Progress}
    (h : Behind g before s s' read) (heq : other (s.behind before) = read (s.behind before)) :
    Behind g before s s' other :=
  ⟨h.within, h.grows, fun hapart => heq.trans (h.again hapart)⟩

/-- A binding that comes to something comes through both of its parts. -/
theorem bind_eq_ok {α β ε : Type} {x : Except ε α} {f : α → Except ε β} {b : β}
    (h : x >>= f = .ok b) : ∃ a, x = .ok a ∧ f a = .ok b := by
  rcases x with e | a
  · cases h
  · exact ⟨a, rfl, h⟩

section Steps

variable (before)

theorem store_behind (hp : p ∈ g.options ++ g.positionals) {values : List String}
    (h : store given p values = .ok given') :
    given <+: given' ∧
      (Apart g before given' → store (before ++ given) p values = .ok (before ++ given')) := by
  unfold store at h ⊢
  rcases ha : p.action with _ | kind | kind | _ | _ <;> simp only [ha] at h ⊢
  · obtain rfl := Except.ok.inj h
    exact ⟨List.prefix_append _ _, fun _ => by simp [pure, Except.pure]⟩
  · split_ifs at h with hvalues hgiven
    obtain ⟨_, hcheck, h⟩ := bind_eq_ok h
    obtain rfl := Except.ok.inj h
    refine ⟨List.prefix_append _ _, fun hapart => ?_⟩
    have hbefore : before.any (·.1 == p.name) = false := by
      by_contra hbefore
      refine hapart p hp kind ha (by simpa using hbefore) ?_
      rcases values with _ | ⟨v, values⟩
      · simp at hvalues
      · simp
    rw [if_neg hvalues, List.any_append, hbefore, Bool.false_or, if_neg hgiven, hcheck]
    simp [bind, Except.bind, pure, Except.pure]
  · split_ifs at h with hvalues
    obtain ⟨_, hcheck, h⟩ := bind_eq_ok h
    obtain rfl := Except.ok.inj h
    refine ⟨List.prefix_append _ _, fun _ => ?_⟩
    rw [if_neg hvalues, hcheck]
    simp [bind, Except.bind, pure, Except.pure]
  · cases h
  · cases h

theorem resolve_behind (hw : s.Within g) (h : s.resolve = .ok s') :
    Behind g before s s' Progress.resolve := by
  unfold Progress.resolve at h
  rcases hp : s.pending with _ | ⟨p, values⟩ <;> simp only [hp] at h
  · obtain rfl := Except.ok.inj h
    refine ⟨hw, List.prefix_rfl, fun _ => ?_⟩
    simp [Progress.resolve, Progress.behind, hp, pure, Except.pure]
  · obtain ⟨given', hstore, h⟩ := bind_eq_ok h
    obtain rfl := Except.ok.inj h
    obtain ⟨hgrows, hagain⟩ := store_behind before (hw ⟨p, values⟩ hp) hstore
    refine ⟨by simp [Progress.Within], hgrows, fun hapart => ?_⟩
    simp [Progress.resolve, Progress.behind, hp, hagain hapart, bind, Except.bind, pure,
      Except.pure]

theorem stored_behind (hp : p ∈ g.options) (hw : s.Within g) {values : List String}
    (h : (store s.given p values >>= fun given => pure { s with given, awaiting := false }) =
      .ok s') :
    Behind g before s s' fun s =>
      store s.given p values >>= fun given => pure { s with given, awaiting := false } := by
  obtain ⟨given', hstore, h⟩ := bind_eq_ok h
  obtain rfl := Except.ok.inj h
  obtain ⟨hgrows, hagain⟩ := store_behind before (List.mem_append_left _ hp) hstore
  exact ⟨hw, hgrows, fun hapart => by
    simp [Progress.behind, hagain hapart, bind, Except.bind, pure, Except.pure]⟩

theorem option_behind {attached : Option String} (hp : p ∈ g.options) (hw : s.Within g)
    (h : s.option p attached = .ok s') :
    Behind g before s s' fun s => s.option p attached := by
  obtain ⟨between, hresolve, h⟩ := bind_eq_ok h
  have hb := resolve_behind before hw hresolve
  refine hb.bind ?_
  split_ifs at h with htakes
  · simp only [htakes, if_true]
    rcases attached with _ | value
    · obtain rfl := Except.ok.inj h
      exact ⟨by rintro q ⟨⟩; exact List.mem_append_left _ hp, List.prefix_rfl, fun _ => rfl⟩
    · exact stored_behind before hp hb.within h
  · simp only [htakes]
    rcases attached with _ | value
    · exact stored_behind before hp hb.within h
    · cases h

theorem longOption_behind {cs : List Char} (hw : s.Within g) (h : longOption g s cs = .ok s') :
    Behind g before s s' fun s => longOption g s cs := by
  unfold longOption at h ⊢
  dsimp only at h ⊢
  split at h
  · cases h
  · rename_i p hp
    split_ifs at h with hattached
    simp only [hattached]
    exact option_behind before (List.mem_of_find?_eq_some hp) hw h

theorem shortOptions_behind {cs : List Char} (hw : s.Within g) (h : shortOptions g s cs = .ok s') :
    Behind g before s s' fun s => shortOptions g s cs := by
  induction cs generalizing s with
  | nil =>
    obtain rfl := Except.ok.inj h
    exact ⟨hw, List.prefix_rfl, fun _ => rfl⟩
  | cons c cs ih =>
    rcases hp : g.options.find? (·.letter == some c) with _ | p
    · simp [shortOptions, hp] at h
    · have hmem := List.mem_of_find?_eq_some hp
      by_cases htakes : p.action.takesValue
      · obtain ⟨attached, heq⟩ :
            ∃ attached, ∀ s, shortOptions g s (c :: cs) = s.option p attached := by
          simp only [shortOptions, hp, htakes, if_true]
          rcases cs with _ | ⟨d, cs⟩
          · exact ⟨none, fun _ => rfl⟩
          · by_cases hd : d = '='
            · exact ⟨some (String.ofList cs), fun _ => by simp [hd]⟩
            · exact ⟨some (String.ofList (d :: cs)), fun _ => by simp [hd]⟩
        rw [heq] at h
        exact (option_behind before hmem hw h).congr (heq _)
      · have heq : ∀ s, shortOptions g s (c :: cs) =
            s.option p none >>= fun s => shortOptions g s cs := by
          intro s
          simp only [shortOptions, hp, htakes]
          rcases s.option p none <;> rfl
        rw [heq] at h
        obtain ⟨between, hoption, h⟩ := bind_eq_ok h
        have hb := option_behind before hmem hw hoption
        exact (hb.bind (ih hb.within h)).congr (heq _)

theorem collected_behind {values : List String} {position : Progress → Nat}
    (hposition : ∀ s, position (s.behind before) = position s) (hp : p ∈ g.positionals)
    (hw : s.Within g)
    (h : (s.resolve >>= fun s =>
      pure { s with pending := some (p, values), position := position s }) = .ok s') :
    Behind g before s s' fun s => s.resolve >>= fun s =>
      pure { s with pending := some (p, values), position := position s } := by
  obtain ⟨between, hresolve, h⟩ := bind_eq_ok h
  refine (resolve_behind before hw hresolve).bind ?_
  obtain rfl := Except.ok.inj h
  refine ⟨?_, List.prefix_rfl, fun _ => ?_⟩
  · rintro _ ⟨⟩
    exact List.mem_append_right _ hp
  · rw [hposition]
    rfl

theorem positional_single {arg : String} (hp : g.positionals[s.position]? = some p)
    (ha : ∀ kind, p.action ≠ .every kind) : s.positional g arg =
      s.resolve >>= fun s₁ =>
        pure { s₁ with pending := some (p, [arg]), position := s.position + 1 } := by
  unfold Progress.positional
  rcases ht : p.action with _ | kind | kind | _ | _
  case every => exact (ha kind ht).elim
  all_goals simp only [hp, ht]

theorem positional_every {arg : String} {kind : ValueKind}
    (hp : g.positionals[s.position]? = some p) (ha : p.action = .every kind) :
    s.positional g arg =
      if s.pending.any (·.1 = p) then
        pure { s with pending := s.pending.map fun q => (q.1, q.2 ++ [arg]) }
      else s.resolve >>= fun s₁ => pure { s₁ with pending := some (p, [arg]) } := by
  unfold Progress.positional
  rw [hp]
  rcases hq : s.pending with _ | ⟨q, values⟩
  · simp [ha, Progress.resolve, hq]
  · by_cases hqp : q = p <;> simp [ha, hqp]

theorem positional_behind {arg : String} (hw : s.Within g) (h : s.positional g arg = .ok s') :
    Behind g before s s' fun s => s.positional g arg := by
  rcases hp : g.positionals[s.position]? with _ | p
  · simp [Progress.positional, hp] at h
  have hmem := List.mem_of_getElem? hp
  have hp' : g.positionals[(s.behind before).position]? = some p := hp
  by_cases ha : ∃ kind, p.action = .every kind
  · obtain ⟨kind, ha⟩ := ha
    rw [positional_every hp ha] at h
    split_ifs at h with hq
    · obtain rfl := Except.ok.inj h
      refine ⟨?_, List.prefix_rfl, fun _ => ?_⟩
      · intro r hr
        obtain ⟨q, hpending, rfl⟩ := Option.map_eq_some_iff.1 hr
        exact hw q hpending
      · rw [positional_every hp' ha, Progress.behind_pending, if_pos hq]
        rfl
    · refine (collected_behind before (fun _ => rfl) hmem hw h).congr ?_
      rw [positional_every hp' ha, Progress.behind_pending, if_neg hq]
  · rw [positional_single hp fun kind h => ha ⟨kind, h⟩] at h
    refine (collected_behind before (fun _ => rfl) hmem hw h).congr ?_
    rw [positional_single hp' fun kind h => ha ⟨kind, h⟩]
    rfl

theorem value_behind (hw : s.Within g) (value : String) :
    Behind g before s (s.value value) fun s => .ok (s.value value) where
  within := by
    intro q hq
    obtain ⟨q, hpending, rfl⟩ := Option.map_eq_some_iff.1 hq
    exact hw q hpending
  grows := List.prefix_rfl
  again := fun _ => rfl

theorem readArgument_behind {arg : String} (hw : s.Within g) (h : readArgument g s arg = .ok s') :
    Behind g before s s' fun s => readArgument g s arg := by
  by_cases ht : s.trailing
  · simp only [readArgument, ht, if_true] at h
    exact (positional_behind before hw h).congr (by simp [readArgument, ht])
  by_cases ha : s.awaitsDashes
  · simp only [readArgument, ht, ha, if_true] at h
    obtain rfl := Except.ok.inj h
    exact (value_behind before hw arg).congr (by simp [readArgument, ht, ha])
  rw [readArgument, if_neg ht, if_neg ha] at h
  split at h
  · rename_i hdashes
    obtain rfl := Except.ok.inj h
    refine ⟨hw, List.prefix_rfl, fun _ => ?_⟩
    simp [readArgument, ht, ha, hdashes]
    rfl
  · rename_i cs hcs hlong
    exact (longOption_behind before hw h).congr (by simp [readArgument, ht, ha, hlong])
  · rename_i c cs hc hc' hshort
    exact (shortOptions_behind before hw h).congr (by simp [readArgument, ht, ha, hshort])
  · rename_i hother₁ hother₂ hother₃
    have hother : readArgument g (s.behind before) arg =
        if s.awaiting then .ok ((s.behind before).value arg)
        else (s.behind before).positional g arg := by
      rw [readArgument, Progress.behind_trailing, if_neg ht, Progress.behind_awaitsDashes,
        if_neg ha]
      split
      · exact (hother₁ ‹_›).elim
      · exact (hother₂ _ ‹_›).elim
      · exact (hother₃ _ _ ‹_›).elim
      · rfl
    split_ifs at h with haw
    · obtain rfl := Except.ok.inj h
      exact (value_behind before hw arg).congr (by rw [hother, if_pos haw])
    · exact (positional_behind before hw h).congr (by rw [hother, if_neg haw])

end Steps

section Runs

variable (before)

/-- Arguments that are read are read in the same way behind options that do not clash with them. -/
theorem readArguments_behind {args : List String} {subcommand : Option (String × List String)}
    (hw : s.Within g) (h : readArguments g s args = .ok (s', subcommand)) :
    s'.Within g ∧ s.given <+: s'.given ∧ (Apart g before s'.given →
      readArguments g (s.behind before) args = .ok (s'.behind before, subcommand)) := by
  induction args generalizing s with
  | nil =>
    obtain ⟨rfl, rfl⟩ := Prod.mk.inj (Except.ok.inj h)
    exact ⟨hw, List.prefix_rfl, fun _ => rfl⟩
  | cons arg args ih =>
    unfold readArguments at h ⊢
    simp only [Progress.behind_trailing, Progress.behind_awaiting]
    split_ifs at h with hsub
    · obtain ⟨rfl, rfl⟩ := Prod.mk.inj (Except.ok.inj h)
      exact ⟨hw, List.prefix_rfl, fun _ => if_pos hsub⟩
    · rcases hread : readArgument g s arg with e | between <;> simp only [hread] at h
      · cases h
      · have hb := readArgument_behind before hw hread
        obtain ⟨hw', hgrows, hagain⟩ := ih hb.within h
        refine ⟨hw', hb.grows.trans hgrows, fun hapart => ?_⟩
        simp only [if_neg hsub, hb.again (hapart.of_prefix hgrows)]
        exact hagain hapart

theorem finish_behind (hw : s.Within g) (h : s.finish g = .ok given) :
    s.given <+: given ∧
      (Apart g before given → (s.behind before).finish g = .ok (before ++ given)) := by
  obtain ⟨between, hresolve, h⟩ := bind_eq_ok h
  have hb := resolve_behind before hw hresolve
  split_ifs at h with hall
  obtain rfl := Except.ok.inj h
  refine ⟨hb.grows, fun hapart => ?_⟩
  rw [Progress.finish, hb.again hapart]
  have hall' : (g.positionals.all fun p => (between.behind before).given.any (·.1 == p.name)) := by
    rw [List.all_eq_true] at hall ⊢
    intro p hp
    simp [Progress.behind, hall p hp]
  simp only [bind, Except.bind, hall', if_true]
  rfl

/-- An option with its value behind an equals sign is read at once. -/
theorem readArgument_attached {name value : String} (hname : '=' ∉ name.toList)
    (hp : g.options.find? (·.name == name) = some p) (htakes : p.action.takesValue)
    (h : store [] p [value] = .ok given) :
    readArgument g .start ("--" ++ name ++ "=" ++ value) = .ok { Progress.start with given } := by
  have htake : (name.toList ++ '=' :: value.toList).takeWhile (· ≠ '=') = name.toList := by
    rw [List.takeWhile_append_of_pos fun c hc => by simpa using ne_of_mem_of_not_mem hc hname]
    simp
  have hdrop : (name.toList ++ '=' :: value.toList).dropWhile (· ≠ '=') = '=' :: value.toList := by
    rw [List.dropWhile_append_of_pos fun c hc => by simpa using ne_of_mem_of_not_mem hc hname]
    simp
  have hlist : ("--" ++ name ++ "=" ++ value).toList =
      '-' :: '-' :: (name.toList ++ '=' :: value.toList) := by simp
  have hlong : readArgument g .start ("--" ++ name ++ "=" ++ value) =
      longOption g .start (name.toList ++ '=' :: value.toList) := by
    obtain ⟨c, cs, hcs⟩ : ∃ c cs, name.toList ++ '=' :: value.toList = c :: cs := by
      rcases name.toList with _ | ⟨c, cs⟩ <;> simp
    rw [readArgument, hlist, hcs]
    rfl
  rw [hlong, longOption]
  simp only [htake, hdrop, String.ofList_toList, hp, htakes]
  simp [Progress.option, Progress.resolve, Progress.start, htakes, h, bind, Except.bind, pure,
    Except.pure]

end Runs

end AgentConsole.Console
