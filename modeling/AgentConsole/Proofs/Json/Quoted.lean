import AgentConsole.Json.Quoted
import Mathlib.Tactic.IntervalCases

/-!
# Reading quoted text back

A character is written between quotes as itself or as an escape that stands for it (`Written`).
Read one after the other, these give the text that was quoted (`literal_quoted`); and whoever only
looks for the closing quote finds it (`passLiteral_quoted`).
-/

namespace AgentConsole.Json

/-- These characters between quotes are read as the character. -/
inductive Written (c : Char) : List Char → Prop
  | plain (hq : c ≠ '"') (hb : c ≠ '\\') (hc : 32 ≤ c.toNat) : Written c [c]
  | escaped {cs : List Char} (hu : ∀ rest, unescape (cs ++ rest) = .ok (c, rest))
      (hp : ∀ rest, passEscape (cs ++ rest) = .ok rest) : Written c ('\\' :: cs)

/-- A backslash and a letter that stands for a character. -/
theorem written_short {c d : Char} (hd : d ≠ 'u') (h : shortEscape? d = some c) :
    Written c ['\\', d] := by
  refine .escaped (fun rest => ?_) fun rest => ?_
  · simp [unescape, hd, h]
  · simp [passEscape, hd, h]

theorem hexValue?_hexDigit {n : Nat} (h : n < 16) : hexValue? (hexDigit n) = some n := by
  interval_cases n <;> rfl

theorem hexUnit_control {n : Nat} (h : n < 32) (rest : List Char) :
    hexUnit ('0' :: '0' :: hexDigit (n / 16) :: hexDigit (n % 16) :: rest) = .ok (n, rest) := by
  have hzero : hexValue? '0' = some 0 := rfl
  have hhigh : hexValue? (hexDigit (n / 16)) = some (n / 16) := hexValue?_hexDigit (by omega)
  have hlow : hexValue? (hexDigit (n % 16)) = some (n % 16) := hexValue?_hexDigit (by omega)
  simp [hexUnit, hzero, hhigh, hlow]
  omega

/-- A control character written with its number. -/
theorem written_control {c : Char} (h : c.toNat < 32) :
    Written c ['\\', 'u', '0', '0', hexDigit (c.toNat / 16), hexDigit (c.toNat % 16)] := by
  have hc : Char.ofNat c.toNat = c := Char.ofNat_toNat c
  refine .escaped (fun rest => ?_) fun rest => ?_
  · have h₁ : ¬0xDC00 ≤ c.toNat := by omega
    have h₂ : ¬0xD800 ≤ c.toNat := by omega
    simp [unescape, unicodeEscape, hexUnit_control h, h₁, h₂]
  · simp [passEscape, hexUnit_control h, Except.map]

/-- What is written for a character is read as that character. -/
theorem written_escape (c : Char) : Written c (escape c) := by
  have hof {n : Nat} (h : c.toNat = n) : Char.ofNat n = c := h ▸ Char.ofNat_toNat c
  unfold escape
  split_ifs with hq hb hn hr ht h₈ h₁₂ hc
  · exact written_short (by decide) (by rw [hq]; rfl)
  · exact written_short (by decide) (by rw [hb]; rfl)
  · exact written_short (by decide) (by rw [hn]; rfl)
  · exact written_short (by decide) (by rw [hr]; rfl)
  · exact written_short (by decide) (by rw [ht]; rfl)
  · exact written_short (by decide) (by rw [← hof h₈]; rfl)
  · exact written_short (by decide) (by rw [← hof h₁₂]; rfl)
  · exact written_control hc
  · exact .plain hq hb (by omega)

theorem Written.literalOnto {c : Char} {cs : List Char} (h : Written c cs) (done rest : List Char) :
    literalOnto done (cs ++ rest) = Json.literalOnto (c :: done) rest := by
  cases h with
  | plain hq hb hc =>
    rw [List.singleton_append, Json.literalOnto, if_neg hq, if_neg hb, if_neg (by omega)]
  | @escaped cs hu =>
    rw [List.cons_append, Json.literalOnto, if_neg (by decide), if_pos rfl]
    split
    · rename_i h
      rw [hu] at h
      cases h
    · rename_i h
      rw [hu] at h
      cases h
      rfl

theorem Written.passLiteral {c : Char} {cs : List Char} (h : Written c cs) (rest : List Char) :
    passLiteral (cs ++ rest) = Json.passLiteral rest := by
  cases h with
  | plain hq hb hc =>
    rw [List.singleton_append, Json.passLiteral, if_neg hq, if_neg hb, if_neg (by omega)]
  | @escaped cs _ hp =>
    rw [List.cons_append, Json.passLiteral, if_neg (by decide), if_pos rfl]
    split
    · rename_i h
      rw [hp] at h
      cases h
    · rename_i h
      rw [hp] at h
      cases h
      rfl

theorem literalOnto_flatMap_escape (cs done rest : List Char) :
    literalOnto done (cs.flatMap escape ++ '"' :: rest) =
      .ok (String.ofList (done.reverse ++ cs), rest) := by
  induction cs generalizing done with
  | nil => simp [literalOnto]
  | cons c cs ih =>
    rw [List.flatMap_cons, List.append_assoc, (written_escape c).literalOnto, ih]
    simp

theorem toList_quote (s : String) : (quote s).toList = '"' :: (s.toList.flatMap escape ++ ['"']) :=
  String.toList_ofList

/-- A quoted text is read back. -/
theorem literal_quoted (s : String) (rest : List Char) :
    literal (s.toList.flatMap escape ++ '"' :: rest) = .ok (s, rest) := by
  rw [literal, literalOnto_flatMap_escape, List.reverse_nil, List.nil_append, String.ofList_toList]

/-- A quoted text is passed over. -/
theorem passLiteral_quoted (s : String) (rest : List Char) :
    passLiteral (s.toList.flatMap escape ++ '"' :: rest) = .ok rest := by
  induction s.toList with
  | nil => simp [passLiteral]
  | cons c cs ih => rw [List.flatMap_cons, List.append_assoc, (written_escape c).passLiteral, ih]

end AgentConsole.Json
