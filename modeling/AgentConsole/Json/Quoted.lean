import AgentConsole.Json.Reader

/-!
# Quoted text

How a text is written between quotes and read back. `quote` escapes the quote, the backslash and
the control characters below U+0020, and writes everything else as it is; `literal` also takes the
other escapes JSON knows, and pairs of surrogates. `passLiteral` finds the closing quote without
asking whether the escaped code points exist.
-/

namespace AgentConsole.Json

/-- The lower case hexadecimal digit of a number below sixteen. -/
def hexDigit (n : Nat) : Char :=
  Nat.digitChar n

/-- A character as it is written between quotes. -/
def escape (c : Char) : List Char :=
  if c = '"' then ['\\', '"']
  else if c = '\\' then ['\\', '\\']
  else if c = '\n' then ['\\', 'n']
  else if c = '\r' then ['\\', 'r']
  else if c = '\t' then ['\\', 't']
  else if c.toNat = 8 then ['\\', 'b']
  else if c.toNat = 12 then ['\\', 'f']
  else if c.toNat < 32 then
    ['\\', 'u', '0', '0', hexDigit (c.toNat / 16), hexDigit (c.toNat % 16)]
  else [c]

/-- The text between quotes. -/
def quote (s : String) : String :=
  String.ofList ('"' :: s.toList.flatMap escape ++ ['"'])

/-- The value of a hexadecimal digit of either case. -/
def hexValue? (c : Char) : Option Nat :=
  if c.isDigit then some (c.toNat - '0'.toNat)
  else if 'a' ≤ c ∧ c ≤ 'f' then some (c.toNat - 'a'.toNat + 10)
  else if 'A' ≤ c ∧ c ≤ 'F' then some (c.toNat - 'A'.toNat + 10)
  else none

/-- Four hexadecimal digits. Four octets have to be there, else the text ended too early. -/
def hexUnit (cs : List Char) : Except Fault (Nat × List Char) :=
  match (cs.take 4).mapM hexValue? with
  | some [a, b, c, d] => .ok (((a * 16 + b) * 16 + c) * 16 + d, cs.drop 4)
  | _ =>
    if (String.ofList (cs.take 4)).utf8ByteSize < 4 then .error .truncated else .error .malformed

theorem hexUnit_shorter {cs rest : List Char} {n : Nat} (h : hexUnit cs = .ok (n, rest)) :
    rest.length < cs.length := by
  unfold hexUnit at h
  split at h
  · next heq =>
    cases cs with
    | nil => simp at heq
    | cons x xs =>
      simp only [Except.ok.injEq, Prod.mk.injEq] at h
      rw [← h.2, List.length_drop, List.length_cons]
      omega
  · split at h <;> simp at h

/-- The escapes of one letter. -/
def shortEscape? (c : Char) : Option Char :=
  if c = '"' ∨ c = '\\' ∨ c = '/' then some c
  else if c = 'b' then some (Char.ofNat 8)
  else if c = 'f' then some (Char.ofNat 12)
  else if c = 'n' then some '\n'
  else if c = 'r' then some '\r'
  else if c = 't' then some '\t'
  else none

/-- The character of a leading surrogate and of the trailing one that has to follow. -/
def surrogatePair (high : Nat) : List Char → Except Fault (Char × List Char)
  | [] => .error .truncated
  | ['\\'] => .error .truncated
  | '\\' :: 'u' :: cs =>
    match hexUnit cs with
    | .error f => .error f
    | .ok (low, rest) =>
      if 0xDC00 ≤ low && low ≤ 0xDFFF then
        .ok (Char.ofNat ((high - 0xD800) * 0x400 + (low - 0xDC00) + 0x10000), rest)
      else .error .malformed
  | _ :: _ => .error .malformed

/-- The character of a `\u` escape, after its `u`. -/
def unicodeEscape (cs : List Char) : Except Fault (Char × List Char) :=
  match hexUnit cs with
  | .error f => .error f
  | .ok (n, rest) =>
    if 0xDC00 ≤ n && n ≤ 0xDFFF then .error .malformed
    else if 0xD800 ≤ n && n ≤ 0xDBFF then surrogatePair n rest
    else .ok (Char.ofNat n, rest)

/-- The character of an escape, after its backslash. -/
def unescape : List Char → Except Fault (Char × List Char)
  | [] => .error .truncated
  | c :: cs =>
    if c = 'u' then unicodeEscape cs
    else
      match shortEscape? c with
      | some d => .ok (d, cs)
      | none => .error .malformed

theorem surrogatePair_shorter {high : Nat} {cs rest : List Char} {c : Char}
    (h : surrogatePair high cs = .ok (c, rest)) : rest.length < cs.length := by
  unfold surrogatePair at h
  split at h
  · simp at h
  · simp at h
  · split at h
    · simp at h
    · next hu =>
      split at h
      · simp only [Except.ok.injEq, Prod.mk.injEq] at h
        have := hexUnit_shorter hu
        rw [← h.2]
        simp only [List.length_cons]
        omega
      · simp at h
  · simp at h

theorem unicodeEscape_shorter {cs rest : List Char} {c : Char}
    (h : unicodeEscape cs = .ok (c, rest)) : rest.length < cs.length := by
  unfold unicodeEscape at h
  split at h
  · simp at h
  · next hu =>
    have := hexUnit_shorter hu
    split at h
    · simp at h
    · split at h
      · have := surrogatePair_shorter h
        omega
      · simp only [Except.ok.injEq, Prod.mk.injEq] at h
        rw [← h.2]
        exact this

theorem unescape_shorter {cs rest : List Char} {c : Char} (h : unescape cs = .ok (c, rest)) :
    rest.length < cs.length := by
  unfold unescape at h
  split at h
  · simp at h
  · split at h
    · have := unicodeEscape_shorter h
      simp only [List.length_cons]
      omega
    · split at h
      · simp only [Except.ok.injEq, Prod.mk.injEq] at h
        rw [← h.2]
        simp
      · simp at h

/-- The text up to the closing quote, after what was read already (backwards). -/
def literalOnto (done : List Char) : List Char → Except Fault (String × List Char)
  | [] => .error .truncated
  | c :: cs =>
    if c = '"' then .ok (String.ofList done.reverse, cs)
    else if c = '\\' then
      match h : unescape cs with
      | .error f => .error f
      | .ok (d, rest) =>
        have := unescape_shorter h
        literalOnto (d :: done) rest
    else if c.toNat < 32 then .error .malformed
    else literalOnto (c :: done) cs
  termination_by cs => cs.length
  decreasing_by all_goals simp only [List.length_cons]; omega

/-- The text of a literal, after its opening quote. -/
def literal (cs : List Char) : Except Fault (String × List Char) :=
  literalOnto [] cs

theorem literalOnto_shorter {done cs rest : List Char} {s : String}
    (h : literalOnto done cs = .ok (s, rest)) : rest.length < cs.length := by
  fun_induction literalOnto done cs with
  | case1 => simp at h
  | case2 done cs =>
    simp only [Except.ok.injEq, Prod.mk.injEq] at h
    simp [← h.2]
  | case3 => simp at h
  | case4 done cs _ d rest' hu _ ih =>
    have := ih h
    simp only [List.length_cons]
    omega
  | case5 => simp at h
  | case6 done c cs _ _ _ ih =>
    have := ih h
    simp only [List.length_cons]
    omega

theorem literal_shorter {cs rest : List Char} {s : String} (h : literal cs = .ok (s, rest)) :
    rest.length < cs.length :=
  literalOnto_shorter h

/-- Passes over an escape, after its backslash; any four digits will do after `\u`. -/
def passEscape : List Char → Except Fault (List Char)
  | [] => .error .truncated
  | c :: cs =>
    if c = 'u' then (hexUnit cs).map Prod.snd
    else if (shortEscape? c).isSome then .ok cs
    else .error .malformed

theorem passEscape_shorter {cs rest : List Char} (h : passEscape cs = .ok rest) :
    rest.length < cs.length := by
  unfold passEscape at h
  split at h
  · simp at h
  · next c cs =>
    split at h
    · cases hu : hexUnit cs with
      | error f => simp [hu, Except.map] at h
      | ok p =>
        simp only [hu, Except.map, Except.ok.injEq] at h
        have : p.2.length < cs.length := hexUnit_shorter hu
        rw [← h, List.length_cons]
        omega
    · split at h
      · simp only [Except.ok.injEq] at h
        simp [← h]
      · simp at h

/-- Passes over a literal, after its opening quote. -/
def passLiteral : List Char → Except Fault (List Char)
  | [] => .error .truncated
  | c :: cs =>
    if c = '"' then .ok cs
    else if c = '\\' then
      match h : passEscape cs with
      | .error f => .error f
      | .ok rest =>
        have := passEscape_shorter h
        passLiteral rest
    else if c.toNat < 32 then .error .malformed
    else passLiteral cs
  termination_by cs => cs.length
  decreasing_by all_goals simp only [List.length_cons]; omega

theorem passLiteral_shorter {cs rest : List Char} (h : passLiteral cs = .ok rest) :
    rest.length < cs.length := by
  fun_induction passLiteral cs with
  | case1 => simp at h
  | case2 =>
    simp only [Except.ok.injEq] at h
    simp [← h]
  | case3 => simp at h
  | case4 cs _ rest' hu _ ih =>
    have := ih h
    simp only [List.length_cons]
    omega
  | case5 => simp at h
  | case6 c cs _ _ _ ih =>
    have := ih h
    simp only [List.length_cons]
    omega

end AgentConsole.Json
