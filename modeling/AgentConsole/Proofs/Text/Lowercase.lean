import AgentConsole.Text.Lowercase
import AgentConsole.Text.Search
import Mathlib.Data.List.Infix

/-!
# Phrases in lower case

To look for a phrase of small ASCII letters in a text in lower case is to look for it in the text
itself up to the case of ASCII letters (`occursIn_lowercase_iff`), unless other characters can bring
letters of it about. Of those only two become ASCII in lower case (`ascii_of_mem_lowerChar`): one
becomes a `k`, and one becomes an `i` with a dot of its own behind it, so a phrase is safe that has
no `k` in it and no `i` at its end (`Plain`).
-/

namespace AgentConsole.Text

/-- The characters with ASCII capitals made small, and no other character changed. -/
def foldCase (cs : List Char) : List Char :=
  cs.map Char.toLower

/-- A part of the text is the phrase, up to the case of ASCII letters. -/
def HasPhrase (phrase text : String) : Prop :=
  ∃ part, part <:+: text.toList ∧ foldCase part = foldCase phrase.toList

theorem hasPhrase_iff {phrase text : String} :
    HasPhrase phrase text ↔ foldCase phrase.toList <:+: foldCase text.toList := by
  rw [HasPhrase, foldCase.eq_1 text.toList, List.infix_map_iff]
  exact exists_congr fun part => and_congr_right fun _ => eq_comm

instance (phrase text : String) : Decidable (HasPhrase phrase text) :=
  decidable_of_iff (occursIn (foldCase phrase.toList) (foldCase text.toList))
    (occursIn_iff.trans hasPhrase_iff.symm)

/-- What a phrase is made of: small ASCII characters that no other character becomes in lower case,
except with something behind it that is not ASCII. -/
structure Plain (phrase : List Char) : Prop where
  ascii : ∀ c ∈ phrase, c.toNat < 128
  small : ∀ c ∈ phrase, c.toLower = c
  no_kelvin : 'k' ∉ phrase
  no_last_dotted : phrase.getLast? ≠ some 'i'

/-- The dot that stays behind when a dotted capital becomes an `i`. -/
def dotAbove : Char := Char.ofNat 0x307

variable {c d : Char} {n k : Nat} {cs before rest phrase : List Char}

section Characters

/-- A character that is no ASCII capital is small already. -/
theorem toLower_eq_self (h : c.toNat < 65 ∨ 90 < c.toNat) : c.toLower = c := by
  have hc : ¬(c.val ≥ 'A'.val ∧ c.val ≤ 'Z'.val) := fun hle => by
    have ha : 65 ≤ c.toNat := UInt32.le_iff_toNat_le.1 hle.1
    have hz : c.toNat ≤ 90 := UInt32.le_iff_toNat_le.1 hle.2
    omega
  exact dif_neg hc

theorem toNat_ofNat (h : n < 0xD800 ∨ 0xDFFF < n ∧ n < 0x110000) : (Char.ofNat n).toNat = n := by
  have hv : n.isValidChar := h
  rw [Char.ofNat, dif_pos hv]
  rfl

/-- The runs of lower case mappings lead to code points above ASCII, but for the one that leads from
the sign of the unit kelvin to its letter. -/
theorem caseRuns_above : ∀ r ∈ caseRuns, (128 ≤ r.target ∧ r.target + (r.last - r.first) < 0xD800 ∨
    0xDFFF < r.target ∧ r.target + (r.last - r.first) < 0x110000) ∨
      r.first = 0x212A ∧ r.last = 0x212A ∧ r.target = 'k'.toNat := by
  decide +kernel

theorem lower?_eq_some {r : CaseRun} (h : r.lower? n = some k) :
    r.first ≤ n ∧ n ≤ r.last ∧ k = r.target + (n - r.first) := by
  unfold CaseRun.lower? at h
  split at h
  · rename_i hn
    simp only [Bool.and_eq_true, decide_eq_true_eq] at hn
    exact ⟨hn.1.1, hn.1.2, (Option.some.inj h).symm⟩
  · cases h

/-- In lower case a character that is not ASCII is one that is not ASCII either, apart from the
dotted capital and the sign of the unit kelvin. -/
theorem lowerChar_cases (h : 128 ≤ c.toNat) : (∃ d, lowerChar c = [d] ∧ 128 ≤ d.toNat) ∨
    c.toNat = 0x130 ∧ lowerChar c = ['i', dotAbove] ∨ c.toNat = 0x212A ∧ lowerChar c = ['k'] := by
  unfold lowerChar
  rw [if_neg (by omega)]
  split_ifs with hdot
  · exact .inr (.inl ⟨hdot, rfl⟩)
  · cases hf : caseRuns.findSome? (·.lower? c.toNat) with
    | none => exact .inl ⟨c, rfl, h⟩
    | some n =>
      obtain ⟨r, hr, hn⟩ := List.exists_of_findSome?_eq_some hf
      obtain ⟨hfirst, hlast, rfl⟩ := lower?_eq_some hn
      rcases caseRuns_above r hr with htarget | ⟨hkelvin, hkelvin', htarget⟩
      · refine .inl ⟨_, rfl, ?_⟩
        rw [toNat_ofNat (by omega)]
        omega
      · refine .inr (.inr ⟨by omega, ?_⟩)
        rw [htarget, hkelvin, show c.toNat - 0x212A = 0 by omega]
        rfl

theorem lowerChar_of_ascii (h : c.toNat < 128) : lowerChar c = [c.toLower] :=
  if_pos h

/-- What is ASCII when ASCII capitals are made small was ASCII before. -/
theorem ascii_of_foldCase (h : ∀ c ∈ foldCase cs, c.toNat < 128) : ∀ c ∈ cs, c.toNat < 128 := by
  intro c hc
  by_contra hge
  have hself : c.toLower = c := toLower_eq_self (.inr (by omega))
  exact hge (hself ▸ h c.toLower (List.mem_map_of_mem hc))

/-- Of ASCII characters only the capitals are other ones in lower case. -/
theorem lowerFrom_of_ascii (h : ∀ c ∈ cs, c.toNat < 128) (before : List Char) :
    lowerFrom before cs = foldCase cs := by
  induction cs generalizing before with
  | nil => rfl
  | cons c cs ih =>
    have hc := h c List.mem_cons_self
    have hsigma : c ≠ 'Σ' := by
      rintro rfl
      exact absurd hc (by decide)
    have hrest := ih (fun d hd => h d (List.mem_cons_of_mem c hd)) (c :: before)
    rw [lowerFrom, if_neg hsigma, lowerChar_of_ascii hc, hrest]
    rfl

/-- Only two characters that are not ASCII become ASCII in lower case. -/
theorem ascii_of_mem_lowerChar (h : 128 ≤ c.toNat) (hd : d ∈ lowerChar c) (hascii : d.toNat < 128) :
    c.toNat = 0x130 ∧ d = 'i' ∨ c.toNat = 0x212A ∧ d = 'k' := by
  rcases lowerChar_cases h with ⟨e, he, hlt⟩ | ⟨hc, hi⟩ | ⟨hc, hk⟩
  · rw [he, List.mem_singleton] at hd
    subst hd
    omega
  · rw [hi] at hd
    rcases List.mem_cons.1 hd with rfl | hd
    · exact .inl ⟨hc, rfl⟩
    · rw [List.mem_singleton.1 hd] at hascii
      exact absurd hascii (by decide)
  · rw [hk, List.mem_singleton] at hd
    exact .inr ⟨hc, hd⟩

end Characters

section Phrases

/-- What a character becomes in a text: small if it is ASCII, and else something that no plain
phrase can start with, or an `i` with the dot behind it. -/
theorem lowerFrom_cons (before : List Char) (c : Char) (rest : List Char) : ∃ lowered,
    lowerFrom before (c :: rest) = lowered ++ lowerFrom (c :: before) rest ∧
      (c.toNat < 128 ∧ lowered = [c.toLower] ∨
        128 ≤ c.toNat ∧
          ((∃ d, lowered = [d] ∧ (128 ≤ d.toNat ∨ d = 'k')) ∨ lowered = ['i', dotAbove])) := by
  refine ⟨_, rfl, ?_⟩
  by_cases hsigma : c = 'Σ'
  · have hc : 128 ≤ c.toNat := by rw [hsigma]; decide
    rw [if_pos hsigma]
    refine .inr ⟨hc, .inl ⟨_, rfl, .inl ?_⟩⟩
    split_ifs <;> decide
  · rw [if_neg hsigma]
    rcases Nat.lt_or_ge c.toNat 128 with hc | hc
    · exact .inl ⟨hc, lowerChar_of_ascii hc⟩
    · refine .inr ⟨hc, ?_⟩
      rcases lowerChar_cases hc with ⟨d, hd, hlt⟩ | ⟨-, hi⟩ | ⟨-, hk⟩
      · exact .inl ⟨d, hd, .inl hlt⟩
      · exact .inr hi
      · exact .inl ⟨'k', hk, .inr rfl⟩

theorem Plain.tail (h : Plain (c :: phrase)) : Plain phrase where
  ascii := fun d hd => h.ascii d (List.mem_cons_of_mem c hd)
  small := fun d hd => h.small d (List.mem_cons_of_mem c hd)
  no_kelvin := fun hk => h.no_kelvin (List.mem_cons_of_mem c hk)
  no_last_dotted := by
    cases phrase with
    | nil => simp
    | cons d phrase => simpa using h.no_last_dotted

theorem Plain.foldCase_eq (h : Plain phrase) : foldCase phrase = phrase :=
  (List.map_congr_left h.small).trans (List.map_id phrase)

/-- A plain phrase is in front of a text in lower case just when it is in front of the text. -/
theorem prefix_lowerFrom_iff (h : Plain phrase) :
    phrase <+: lowerFrom before cs ↔ phrase <+: foldCase cs := by
  induction cs generalizing phrase before with
  | nil => rfl
  | cons c cs ih =>
    cases phrase with
    | nil => simp
    | cons p phrase =>
      obtain ⟨lowered, hl, hcases⟩ := lowerFrom_cons before c cs
      have hp := h.ascii p List.mem_cons_self
      rw [hl, foldCase, List.map_cons, List.cons_prefix_cons]
      rcases hcases with ⟨-, rfl⟩ | ⟨hc, hforeign⟩
      · rw [List.singleton_append, List.cons_prefix_cons, ih h.tail]
        rfl
      · have hne : p ≠ c.toLower := by
          rw [toLower_eq_self (.inr (by omega))]
          rintro rfl
          omega
        refine iff_of_false ?_ fun hp => hne hp.1
        rcases hforeign with ⟨d, rfl, hd | rfl⟩ | rfl
        · rintro hpre
          obtain rfl := (List.cons_prefix_cons.1 hpre).1
          omega
        · exact fun hpre => h.no_kelvin ((List.cons_prefix_cons.1 hpre).1 ▸ List.mem_cons_self)
        · -- What follows the `i` in the phrase is ASCII, and what follows it in the text is not.
          intro hpre
          obtain ⟨rfl, hrest⟩ := List.cons_prefix_cons.1 hpre
          cases phrase with
          | nil => exact h.no_last_dotted rfl
          | cons q phrase =>
            have hq := h.tail.ascii q List.mem_cons_self
            rw [(List.cons_prefix_cons.1 hrest).1] at hq
            exact absurd hq (by decide)

/-- A plain phrase is in a text in lower case just when it is in the text up to ASCII case. -/
theorem infix_lowerFrom_iff (h : Plain phrase) (hne : phrase ≠ []) :
    phrase <:+: lowerFrom before cs ↔ phrase <:+: foldCase cs := by
  induction cs generalizing before with
  | nil => rfl
  | cons c cs ih =>
    have hpre : phrase <+: lowerFrom before (c :: cs) ↔ _ := prefix_lowerFrom_iff h
    have hfold : foldCase (c :: cs) = c.toLower :: foldCase cs := rfl
    obtain ⟨lowered, hl, hcases⟩ := lowerFrom_cons before c cs
    have hstep : phrase <:+: lowerFrom before (c :: cs) ↔
        phrase <+: lowerFrom before (c :: cs) ∨ phrase <:+: lowerFrom (c :: before) cs := by
      rw [hl]
      rcases hcases with ⟨-, rfl⟩ | ⟨-, ⟨d, rfl, -⟩ | rfl⟩
      · exact List.infix_cons_iff
      · exact List.infix_cons_iff
      · have hdot : ¬phrase <+: dotAbove :: lowerFrom (c :: before) cs := by
          obtain ⟨p, phrase, rfl⟩ := List.exists_cons_of_ne_nil hne
          intro hpre
          obtain ⟨rfl, -⟩ := List.cons_prefix_cons.1 hpre
          exact absurd (h.ascii _ List.mem_cons_self) (by decide)
        simp only [List.cons_append, List.nil_append]
        rw [List.infix_cons_iff, List.infix_cons_iff, or_iff_right hdot]
    rw [hstep, hpre, ih, hfold, ← List.infix_cons_iff]

end Phrases

/-- To look for a plain phrase in lower case is to look for it up to the case of ASCII letters. -/
theorem occursIn_lowercase_iff {phrase text : String} (h : Plain phrase.toList)
    (hne : phrase.toList ≠ []) :
    occursIn phrase.toList (lowercase text).toList ↔ HasPhrase phrase text := by
  rw [occursIn_iff, hasPhrase_iff, h.foldCase_eq, lowercase, String.toList_ofList,
    infix_lowerFrom_iff h hne]

/-- A phrase with a `k` in it is also found where the text has the sign of the unit kelvin. -/
example : occursIn "ok".toList (lowercase "O\u212A").toList ∧ ¬HasPhrase "ok" "O\u212A" := by
  decide +kernel

end AgentConsole.Text
