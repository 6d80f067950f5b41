import AgentConsole.Text.Utf8
import Mathlib.Tactic.IntervalCases

/-!
# Reading octets back

The octets of a character start with one that promises as many as there are, and the others keep
the promise (`next_encode`). So the octets of a text are read back as that text, by a reader that
refuses what is ill-formed (`decode?_encode`) and by one that replaces it (`decodeLossy_encode`).
-/

namespace AgentConsole.Text.Utf8

/-- What the leading octet of two promises. -/
theorem lead?_two {n : Nat} (h : 2 ≤ n) (hn : n < 32) :
    lead? (.ofNat (n + 192)) = some ⟨n, 0x80, 0xBF, 0⟩ := by
  interval_cases n <;> rfl

/-- What the leading octet of three promises: not too few of them, and no surrogates. -/
theorem lead?_three {n : Nat} (h : n < 16) : lead? (.ofNat (n + 224)) =
    some ⟨n, if n = 0 then 0xA0 else 0x80, if n = 13 then 0x9F else 0xBF, 1⟩ := by
  interval_cases n <;> rfl

/-- What the leading octet of four promises: not too few of them, and nothing above U+10FFFF. -/
theorem lead?_four {n : Nat} (h : n < 5) : lead? (.ofNat (n + 240)) =
    some ⟨n, if n = 0 then 0x90 else 0x80, if n = 4 then 0x8F else 0xBF, 2⟩ := by
  interval_cases n <;> rfl

theorem toNat_tail {k : Nat} (h : k < 64) : (UInt8.ofNat (k + 128)).toNat = k + 128 :=
  UInt8.toNat_ofNat_of_lt' (by rw [UInt8.size]; omega)

theorem continuation_tail (payload more : Nat) {k : Nat} (h : k < 64) (bs : List UInt8) :
    continuation payload (more + 1) (.ofNat (k + 128) :: bs) =
      continuation (payload * 64 + k) more bs := by
  have hk := toNat_tail h
  rw [continuation, if_pos, hk, Nat.add_sub_cancel]
  simp only [Bool.and_eq_true, decide_eq_true_eq, UInt8.le_iff_toNat_le, hk]
  change 128 ≤ k + 128 ∧ k + 128 ≤ 191
  omega

/-- A leading octet and the second one, which has to be in the bounds promised. -/
theorem next_lead {b : UInt8} {l : Lead} {k : Nat} (hb : ¬b < 0x80) (hl : lead? b = some l)
    (hk : k < 64) (hlow : l.low.toNat ≤ k + 128) (hhigh : k + 128 ≤ l.high.toNat)
    (bs : List UInt8) :
    next b (.ofNat (k + 128) :: bs) = continuation (l.payload * 64 + k) l.more bs := by
  have hn := toNat_tail hk
  unfold next
  simp only [if_neg hb, hl]
  rw [if_pos, hn, Nat.add_sub_cancel]
  simp only [Bool.and_eq_true, decide_eq_true_eq, UInt8.le_iff_toNat_le, hn]
  exact ⟨hlow, hhigh⟩

theorem not_ascii {n : Nat} (h : 128 ≤ n) (hn : n < 256) : ¬UInt8.ofNat n < 0x80 := by
  rw [UInt8.lt_iff_toNat_lt, UInt8.toNat_ofNat_of_lt' hn]
  exact Nat.not_lt.2 h

section Lengths

variable {v : Nat}

theorem next_one (h : v ≤ 127) (rest : List UInt8) :
    next (.ofNat v) rest = (some (Char.ofNat v), rest) := by
  have hn : (UInt8.ofNat v).toNat = v := UInt8.toNat_ofNat_of_lt' (by rw [UInt8.size]; omega)
  have hb : UInt8.ofNat v < 0x80 := by
    rw [UInt8.lt_iff_toNat_lt, hn]
    exact Nat.lt_succ_of_le h
  unfold next
  rw [if_pos hb, hn]

theorem next_two (h : 127 < v) (hv : v ≤ 2047) (rest : List UInt8) :
    next (.ofNat (v / 64 % 32 + 192)) (.ofNat (v % 64 + 128) :: rest) =
      (some (Char.ofNat v), rest) := by
  have hlead : v / 64 % 32 = v / 64 := by omega
  have hsecond : v % 64 < 64 := Nat.mod_lt v (by decide)
  rw [hlead, next_lead (not_ascii (by omega) (by omega)) (lead?_two (by omega) (by omega)) hsecond
    (Nat.le_add_left _ _) (by change _ ≤ 191; omega), continuation, Nat.div_add_mod']

theorem next_three (h : 2047 < v) (hv : v ≤ 65535) (hs : v < 0xD800 ∨ 0xDFFF < v)
    (rest : List UInt8) :
    next (.ofNat (v / 4096 % 16 + 224))
      (.ofNat (v / 64 % 64 + 128) :: .ofNat (v % 64 + 128) :: rest) =
        (some (Char.ofNat v), rest) := by
  have hlead : v / 4096 % 16 = v / 4096 := by omega
  have hsecond : v / 64 % 64 < 64 := Nat.mod_lt _ (by decide)
  have hsum : (v / 4096 * 64 + v / 64 % 64) * 64 + v % 64 = v := by omega
  rw [hlead, next_lead (not_ascii (by omega) (by omega)) (lead?_three (by omega)) hsecond,
    continuation_tail _ _ (Nat.mod_lt _ (by decide)), continuation, hsum]
  · simp only [apply_ite UInt8.toNat, UInt8.reduceToNat]
    split_ifs <;> omega
  · simp only [apply_ite UInt8.toNat, UInt8.reduceToNat]
    split_ifs <;> omega

theorem next_four (h : 65535 < v) (hv : v < 0x110000) (rest : List UInt8) :
    next (.ofNat (v / 262144 % 8 + 240))
      (.ofNat (v / 4096 % 64 + 128) :: .ofNat (v / 64 % 64 + 128) :: .ofNat (v % 64 + 128) ::
        rest) = (some (Char.ofNat v), rest) := by
  have hlead : v / 262144 % 8 = v / 262144 := by omega
  have hsecond : v / 4096 % 64 < 64 := Nat.mod_lt _ (by decide)
  have hsum : ((v / 262144 * 64 + v / 4096 % 64) * 64 + v / 64 % 64) * 64 + v % 64 = v := by omega
  rw [hlead, next_lead (not_ascii (by omega) (by omega)) (lead?_four (by omega)) hsecond,
    continuation_tail _ _ (Nat.mod_lt _ (by decide)),
    continuation_tail _ _ (Nat.mod_lt _ (by decide)), continuation, hsum]
  · simp only [apply_ite UInt8.toNat, UInt8.reduceToNat]
    split_ifs <;> omega
  · simp only [apply_ite UInt8.toNat, UInt8.reduceToNat]
    split_ifs <;> omega

end Lengths

/-- The octets of a character are read as that character. -/
theorem next_encode (c : Char) (rest : List UInt8) :
    ∃ b bs, String.utf8EncodeChar c = b :: bs ∧ next b (bs ++ rest) = (some c, rest) := by
  have hvalid : c.val.toNat < 0xD800 ∨ 0xDFFF < c.val.toNat ∧ c.val.toNat < 0x110000 := c.valid
  have hc : Char.ofNat c.val.toNat = c := Char.ofNat_toNat c
  unfold String.utf8EncodeChar
  simp only
  split_ifs with h₁ h₂ h₃
  · exact ⟨_, _, rfl, (next_one h₁ rest).trans (by rw [hc])⟩
  · exact ⟨_, _, rfl, (next_two (by omega) h₂ rest).trans (by rw [hc])⟩
  · exact ⟨_, _, rfl, (next_three (by omega) h₃ (by omega) rest).trans (by rw [hc])⟩
  · exact ⟨_, _, rfl, (next_four (by omega) (by omega) rest).trans (by rw [hc])⟩

theorem unitsOnto_encode (cs : List Char) (done : List (Option Char)) :
    unitsOnto done (cs.flatMap String.utf8EncodeChar) = done.reverse ++ cs.map some := by
  induction cs generalizing done with
  | nil => simp [unitsOnto]
  | cons c cs ih =>
    obtain ⟨b, bs, he, hn⟩ := next_encode c (cs.flatMap String.utf8EncodeChar)
    rw [List.flatMap_cons, he, List.cons_append, unitsOnto, hn, ih]
    simp

theorem units_encode (s : String) : units (encode s) = s.toList.map some := by
  rw [units, encode, unitsOnto_encode, List.reverse_nil, List.nil_append]

/-- A text is read back from its octets. -/
theorem decode?_encode (s : String) : decode? (encode s) = some s := by
  have h : (s.toList.map some).mapM id = some s.toList := by
    have hp := List.mapM_pure (m := Option) (l := s.toList) (f := id)
    rw [List.mapM_map]
    rwa [List.map_id] at hp
  rw [decode?, units_encode, h, Option.map_some, String.ofList_toList]

/-- A text is read back from its octets, nothing being replaced. -/
theorem decodeLossy_encode (s : String) : decodeLossy (encode s) = s := by
  rw [decodeLossy, units_encode, List.map_map]
  simp [Function.comp_def]

end AgentConsole.Text.Utf8
