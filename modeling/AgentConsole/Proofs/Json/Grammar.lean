import AgentConsole.Json.Unread
import AgentConsole.Proofs.Json.Quoted
import AgentConsole.Proofs.Text.Run

/-!
# The grammar of JSON

What a text is that is JSON (`Writes`): the words, numbers, strings, lists and objects, with gaps
between their parts. A string is written in code units (`Body`), and surrogates among them that do
not pair make it no text (`textOf`). What follows a value never goes on with it (`Stops`), so the
scalars are read to their end and no further (`number_written`, `literalOnto_body`).
-/

namespace AgentConsole.Json

open AgentConsole.Text

/-! ## Strings -/

/-- The code unit is the first half of a surrogate pair. -/
def isLeading (n : Nat) : Bool :=
  0xD800 ≤ n && n ≤ 0xDBFF

/-- The code unit is the second half of a surrogate pair. -/
def isTrailing (n : Nat) : Bool :=
  0xDC00 ≤ n && n ≤ 0xDFFF

/-- The text of some code units, if the surrogates among them pair. -/
def textOf : List Nat → Option (List Char)
  | [] => some []
  | n :: ns =>
    if isTrailing n then none
    else if isLeading n then
      match ns with
      | [] => none
      | m :: ms =>
        if isTrailing m then
          (textOf ms).map (Char.ofNat ((n - 0xD800) * 0x400 + (m - 0xDC00) + 0x10000) :: ·)
        else none
    else (textOf ns).map (Char.ofNat n :: ·)

/-- Four hexadecimal digits of a number. -/
inductive Hex : Nat → List Char → Prop
  | digits {a b c d : Char} {w x y z : Nat} : hexValue? a = some w → hexValue? b = some x →
      hexValue? c = some y → hexValue? d = some z →
      Hex (((w * 16 + x) * 16 + y) * 16 + z) [a, b, c, d]

/-- What stands between quotes for some code units. -/
inductive Body : List Nat → List Char → Prop
  | nil : Body [] []
  | plain {c : Char} {ns : List Nat} {cs : List Char} : c ≠ '"' → c ≠ '\\' → 32 ≤ c.toNat →
      Body ns cs → Body (c.toNat :: ns) (c :: cs)
  | short {c d : Char} {ns : List Nat} {cs : List Char} : shortEscape? d = some c →
      Body ns cs → Body (c.toNat :: ns) ('\\' :: d :: cs)
  | unit {n : Nat} {digits : List Char} {ns : List Nat} {cs : List Char} : Hex n digits →
      Body ns cs → Body (n :: ns) ('\\' :: 'u' :: (digits ++ cs))

section Strings

variable {n m : Nat} {ns : List Nat} {cs digits : List Char}

theorem Hex.hexUnit (h : Hex n digits) (rest : List Char) :
    hexUnit (digits ++ rest) = .ok (n, rest) := by
  rcases h with ⟨ha, hb, hc, hd⟩
  simp [Json.hexUnit, ha, hb, hc, hd]

theorem not_surrogate_toNat (c : Char) : ¬isTrailing c.toNat ∧ ¬isLeading c.toNat := by
  have hc := c.valid
  simp only [UInt32.isValidChar, Nat.isValidChar] at hc
  simp only [isTrailing, isLeading, Bool.and_eq_true, decide_eq_true_eq]
  change c.toNat < 0xd800 ∨ 0xdfff < c.toNat ∧ c.toNat < 0x110000 at hc
  omega

/-- A code unit is written as a character that is no surrogate, or by its number. -/
theorem Body.uncons (h : Body (n :: ns) cs) :
    (∃ c front back, n = c.toNat ∧ cs = front ++ back ∧ Written c front ∧ Body ns back) ∨
    ∃ digits back, Hex n digits ∧ cs = '\\' :: 'u' :: (digits ++ back) ∧ Body ns back := by
  cases h with
  | @plain c _ back hq hb hc h =>
    exact .inl ⟨c, [c], back, rfl, rfl, .plain hq hb hc, h⟩
  | @short c d _ back hd h =>
    have hu : d ≠ 'u' := by
      rintro rfl
      simp [shortEscape?] at hd
    exact .inl ⟨c, ['\\', d], back, rfl, rfl, written_short hu hd, h⟩
  | unit hx h => exact .inr ⟨_, _, hx, rfl, h⟩

theorem passEscape_unit (h : Hex n digits) (rest : List Char) :
    passEscape ('u' :: (digits ++ rest)) = .ok rest := by
  simp [passEscape, h.hexUnit, Except.map]

theorem unescape_unit (h : Hex n digits) (rest : List Char) :
    unescape ('u' :: (digits ++ rest)) =
      if isTrailing n then .error .malformed
      else if isLeading n then surrogatePair n rest
      else .ok (Char.ofNat n, rest) := by
  simp only [unescape, unicodeEscape, h.hexUnit, if_true]
  rfl

theorem written_unit (h : Hex n digits) (ht : ¬isTrailing n) (hl : ¬isLeading n) :
    Written (Char.ofNat n) ('\\' :: 'u' :: digits) :=
  .escaped (fun rest => by simp [unescape_unit h, ht, hl]) fun rest => passEscape_unit h rest

theorem surrogatePair_trailing (h : Hex m digits) (ht : isTrailing m) (rest : List Char) :
    surrogatePair n ('\\' :: 'u' :: (digits ++ rest)) =
      .ok (Char.ofNat ((n - 0xD800) * 0x400 + (m - 0xDC00) + 0x10000), rest) := by
  rw [isTrailing] at ht
  simp only [surrogatePair, h.hexUnit, ht, if_true]

theorem surrogatePair_lone (h : Body ns cs) (ht : ∀ m ∈ ns.head?, ¬isTrailing m)
    (rest : List Char) : surrogatePair n (cs ++ '"' :: rest) = .error .malformed := by
  cases h with
  | nil => rfl
  | @plain c _ _ _ hb =>
    rw [List.cons_append, surrogatePair]
    all_goals simp [hb]
  | @short c d ns back hd =>
    have hu : d ≠ 'u' := by
      rintro rfl
      simp [shortEscape?] at hd
    rw [List.cons_append, List.cons_append, surrogatePair]
    all_goals simp [hu]
  | @unit m digits ns back hx =>
    have hm : isTrailing m = false := by simpa using ht m rfl
    rw [isTrailing] at hm
    simp [surrogatePair, hx.hexUnit, hm]

theorem literalOnto_unescape {done rest : List Char} {c : Char} (h : unescape cs = .ok (c, rest)) :
    literalOnto done ('\\' :: cs) = literalOnto (c :: done) rest := by
  rw [literalOnto, if_neg (by decide), if_pos rfl]
  split <;> simp_all

theorem literalOnto_of_error {done : List Char} {f : Fault} (h : unescape cs = .error f) :
    literalOnto done ('\\' :: cs) = .error f := by
  rw [literalOnto, if_neg (by decide), if_pos rfl]
  split <;> simp_all

theorem passLiteral_unit (h : Hex n digits) (rest : List Char) :
    passLiteral ('\\' :: 'u' :: (digits ++ rest)) = passLiteral rest := by
  have hp := passEscape_unit h rest
  rw [passLiteral, if_neg (by decide), if_pos rfl]
  split <;> simp_all

theorem passLiteral_body (h : Body ns cs) (rest : List Char) :
    passLiteral (cs ++ '"' :: rest) = .ok rest := by
  induction ns generalizing cs with
  | nil =>
    cases h
    simp [passLiteral]
  | cons n ns ih =>
    rcases h.uncons with ⟨c, front, back, -, rfl, hw, hb⟩ | ⟨digits, back, hx, rfl, hb⟩
    · rw [List.append_assoc, hw.passLiteral, ih hb]
    · rw [List.cons_append, List.cons_append, List.append_assoc, passLiteral_unit hx, ih hb]

/-- A string is read as its text, and refused if it is none. -/
theorem literalOnto_body (h : Body ns cs) (done rest : List Char) :
    literalOnto done (cs ++ '"' :: rest) =
      match textOf ns with
      | some text => .ok (String.ofList (done.reverse ++ text), rest)
      | none => .error .malformed := by
  fun_induction textOf ns generalizing cs done with
  | case1 =>
    cases h
    simp [literalOnto]
  | case2 n ns ht =>
    rcases h.uncons with ⟨c, front, back, rfl, -⟩ | ⟨digits, back, hx, rfl, hb⟩
    · exact ((not_surrogate_toNat c).1 ht).elim
    · have hu : unescape ('u' :: (digits ++ (back ++ '"' :: rest))) = .error .malformed := by
        rw [unescape_unit hx, if_pos ht]
      simpa using literalOnto_of_error hu
  | case3 n ht hl =>
    rcases h.uncons with ⟨c, front, back, rfl, -⟩ | ⟨digits, back, hx, rfl, hb⟩
    · exact ((not_surrogate_toNat c).2 hl).elim
    · have hu : unescape ('u' :: (digits ++ (back ++ '"' :: rest))) = .error .malformed := by
        rw [unescape_unit hx, if_neg ht, if_pos hl, surrogatePair_lone hb (by simp)]
      simpa using literalOnto_of_error hu
  | case4 n ht hl m ms hm ih =>
    rcases h.uncons with ⟨c, front, back, rfl, -⟩ | ⟨digits, back, hx, rfl, hb⟩
    · exact ((not_surrogate_toNat c).2 hl).elim
    · rcases hb.uncons with ⟨c, front, back, rfl, -⟩ | ⟨digits', back, hx', rfl, hb'⟩
      · exact ((not_surrogate_toNat c).1 hm).elim
      · have hu := unescape_unit hx ('\\' :: 'u' :: (digits' ++ (back ++ '"' :: rest)))
        rw [if_neg ht, if_pos hl, surrogatePair_trailing hx' hm] at hu
        simp only [List.cons_append, List.append_assoc, literalOnto_unescape hu, ih hb']
        rcases textOf ms <;> simp
  | case5 n ht hl m ms hm =>
    rcases h.uncons with ⟨c, front, back, rfl, -⟩ | ⟨digits, back, hx, rfl, hb⟩
    · exact ((not_surrogate_toNat c).2 hl).elim
    · have hu : unescape ('u' :: (digits ++ (back ++ '"' :: rest))) = .error .malformed := by
        rw [unescape_unit hx, if_neg ht, if_pos hl, surrogatePair_lone hb (by simpa using hm)]
      simpa using literalOnto_of_error hu
  | case6 n ns ht hl ih =>
    obtain ⟨front, back, rfl, hw, hb⟩ : ∃ front back, cs = front ++ back ∧
        Written (Char.ofNat n) front ∧ Body ns back := by
      rcases h.uncons with ⟨c, front, back, rfl, rfl, hw, hb⟩ | ⟨digits, back, hx, rfl, hb⟩
      · exact ⟨front, back, rfl, by rwa [Char.ofNat_toNat], hb⟩
      · exact ⟨_, back, rfl, written_unit hx ht hl, hb⟩
    rw [List.append_assoc, hw.literalOnto, ih hb]
    rcases textOf ns <;> simp

theorem hex_control (h : n < 32) :
    Hex n ['0', '0', hexDigit (n / 16), hexDigit (n % 16)] := by
  have hzero : hexValue? '0' = some 0 := rfl
  have hhigh : hexValue? (hexDigit (n / 16)) = some (n / 16) := hexValue?_hexDigit (by omega)
  have hlow : hexValue? (hexDigit (n % 16)) = some (n % 16) := hexValue?_hexDigit (by omega)
  have hdigits := Hex.digits hzero hzero hhigh hlow
  have hn : ((0 * 16 + 0) * 16 + n / 16) * 16 + n % 16 = n := by omega
  rwa [hn] at hdigits

/-- What is written for a character is one code unit more. -/
theorem Body.escape (c : Char) (h : Body ns cs) : Body (c.toNat :: ns) (escape c ++ cs) := by
  have hof {n : Nat} (h : c.toNat = n) : Char.ofNat n = c := h ▸ Char.ofNat_toNat c
  unfold Json.escape
  split_ifs with hq hb hn hr ht h₈ h₁₂ hc
  · exact .short (by rw [hq]; rfl) h
  · exact .short (by rw [hb]; rfl) h
  · exact .short (by rw [hn]; rfl) h
  · exact .short (by rw [hr]; rfl) h
  · exact .short (by rw [ht]; rfl) h
  · exact .short (by rw [← hof h₈]; rfl) h
  · exact .short (by rw [← hof h₁₂]; rfl) h
  · exact .unit (hex_control hc) h
  · exact .plain hq hb (by omega) h

theorem body_escaped (cs : List Char) : Body (cs.map Char.toNat) (cs.flatMap Json.escape) := by
  induction cs with
  | nil => exact .nil
  | cons c cs ih => exact ih.escape c

theorem textOf_toNat (cs : List Char) : textOf (cs.map Char.toNat) = some cs := by
  induction cs with
  | nil => rfl
  | cons c cs ih =>
    obtain ⟨ht, hl⟩ := not_surrogate_toNat c
    rw [List.map_cons, textOf.eq_def]
    simp [ht, hl, ih, Char.ofNat_toNat]

end Strings

/-! ## Numbers -/

/-- What follows a value: a gap, a comma, a closing bracket or nothing. -/
def Stops (rest : List Char) : Prop :=
  ∀ c ∈ rest.head?, isGap c ∨ c = ',' ∨ c = ']' ∨ c = '\x7d'

/-- One digit or more. -/
def Digits (ds : List Char) : Prop :=
  ds ≠ [] ∧ ∀ d ∈ ds, d.isDigit

/-- The whole part of a number. -/
inductive Whole : List Char → Prop
  | zero : Whole ['0']
  | digits {c : Char} {ds : List Char} : c.isDigit → c ≠ '0' → (∀ d ∈ ds, d.isDigit) →
      Whole (c :: ds)

/-- The digits behind a point, if there is one. -/
inductive Fraction : List Char → List Char → Prop
  | none : Fraction [] []
  | digits {ds : List Char} : Digits ds → Fraction ds ('.' :: ds)

/-- The exponent, if there is one. -/
inductive Exponent : Int → List Char → Prop
  | none : Exponent 0 []
  | unsigned {e : Char} {ds : List Char} : e = 'e' ∨ e = 'E' → Digits ds →
      Exponent (digitsValue ds) (e :: ds)
  | plus {e : Char} {ds : List Char} : e = 'e' ∨ e = 'E' → Digits ds →
      Exponent (digitsValue ds) (e :: '+' :: ds)
  | minus {e : Char} {ds : List Char} : e = 'e' ∨ e = 'E' → Digits ds →
      Exponent (-digitsValue ds) (e :: '-' :: ds)

/-- A number, without its sign. -/
inductive WritesNumber : Number → List Char → Prop
  | parts {whole digits fraction exponent : List Char} {e : Int} : Whole whole →
      Fraction digits fraction → Exponent e exponent →
      WritesNumber (.ofDigits whole digits e) (whole ++ (fraction ++ exponent))

section Numbers

variable {ds whole digits fraction exponent cs rest : List Char} {e : Int} {n : Number}

theorem Stops.head (h : Stops rest) :
    ∀ c ∈ rest.head?, ¬c.isDigit ∧ c ≠ '.' ∧ c ≠ 'e' ∧ c ≠ 'E' := by
  intro c hc
  rcases h c hc with hg | rfl | rfl | rfl
  · simp only [isGap, Bool.or_eq_true, decide_eq_true_eq] at hg
    rcases hg with ((rfl | rfl) | rfl) | rfl <;> decide
  all_goals decide

theorem Exponent.head (h : Exponent e exponent) (hstop : Stops rest) :
    ∀ c ∈ (exponent ++ rest).head?, ¬c.isDigit ∧ c ≠ '.' := by
  intro c hc
  cases h with
  | none => exact ⟨(hstop.head c hc).1, (hstop.head c hc).2.1⟩
  | unsigned he | plus he | minus he =>
    obtain rfl := Option.some.inj hc
    rcases he with rfl | rfl <;> decide

theorem Fraction.head (h : Fraction digits fraction) (hstop : ∀ c ∈ cs.head?, ¬c.isDigit) :
    ∀ c ∈ (fraction ++ cs).head?, ¬c.isDigit := by
  intro c hc
  cases h with
  | none => exact hstop c hc
  | digits =>
    obtain rfl := Option.some.inj hc
    decide

theorem someDigits_append (hd : Digits ds) (hstop : ∀ c ∈ cs.head?, ¬c.isDigit) :
    someDigits (ds ++ cs) = .ok (ds, cs) := by
  obtain ⟨htake, hdrop⟩ := takeWhile_append_stop hd.2 hstop
  rw [someDigits, htake, hdrop, if_neg (by simpa using hd.1)]

theorem wholePart_append (h : Whole whole) (hstop : ∀ c ∈ cs.head?, ¬c.isDigit) :
    wholePart (whole ++ cs) = .ok (whole, cs) := by
  cases h with
  | zero =>
    have htake : cs.takeWhile Char.isDigit = [] := by
      rcases cs with _ | ⟨c, cs⟩
      · rfl
      · simpa using hstop c rfl
    rw [List.singleton_append, wholePart, htake]
    rfl
  | digits hc hzero hds =>
    obtain ⟨htake, hdrop⟩ := takeWhile_append_stop hds hstop
    simp [wholePart, hc, hzero, htake, hdrop]

theorem fractionPart_append (h : Fraction digits fraction)
    (hstop : ∀ c ∈ cs.head?, ¬c.isDigit ∧ c ≠ '.') :
    fractionPart (fraction ++ cs) = .ok (digits, cs) := by
  cases h with
  | none =>
    rcases cs with _ | ⟨c, cs⟩
    · rfl
    · have hc := (hstop c rfl).2
      rw [List.nil_append, fractionPart]
      rintro cs' ⟨⟩
      exact hc rfl
  | digits hd => exact someDigits_append hd fun c hc => (hstop c hc).1

theorem exponentPart_append (h : Exponent e exponent) (hstop : Stops rest) :
    exponentPart (exponent ++ rest) = .ok (e, rest) := by
  have hnodigit : ∀ c ∈ rest.head?, ¬c.isDigit := fun c hc => (hstop.head c hc).1
  cases h with
  | none =>
    rcases rest with _ | ⟨c, rest⟩
    · rfl
    · obtain ⟨-, -, he, hE⟩ := hstop.head c rfl
      simp [exponentPart, he, hE]
  | @unsigned e ds he hd =>
    have hsome := someDigits_append hd hnodigit
    rcases ds with _ | ⟨d, ds⟩
    · exact (hd.1 rfl).elim
    · have hdigit : d.isDigit := hd.2 d List.mem_cons_self
      have hminus : d ≠ '-' := by
        rintro rfl
        cases hdigit
      have hplus : d ≠ '+' := by
        rintro rfl
        cases hdigit
      rw [List.cons_append] at hsome
      simp [exponentPart, he, hminus, hplus, hsome, Except.map]
  | plus he hd => simp [exponentPart, he, someDigits_append hd hnodigit, Except.map]
  | minus he hd => simp [exponentPart, he, someDigits_append hd hnodigit, Except.map]

/-- A number is read to its end. -/
theorem number_written (h : WritesNumber n cs) (hstop : Stops rest) :
    number (cs ++ rest) = .ok (n, rest) := by
  obtain ⟨hw, hf, he⟩ := h
  have hhead := he.head hstop
  have hwhole := wholePart_append hw (hf.head fun c hc => (hhead c hc).1)
  simp only [number, List.append_assoc, hwhole, fractionPart_append hf hhead,
    exponentPart_append he hstop, bind, Except.bind]
  rfl

/-- A number starts with a digit. -/
theorem WritesNumber.head (h : WritesNumber n cs) : ∃ c tail, cs = c :: tail ∧ c.isDigit := by
  obtain ⟨hw, -, -⟩ := h
  cases hw with
  | zero => exact ⟨'0', _, rfl, rfl⟩
  | digits hc => exact ⟨_, _, rfl, hc⟩

end Numbers

/-! ## Values -/

/-- A value. A number goes without its sign, and a string is no text if a surrogate in it is
alone. -/
inductive Value where
  | null
  | boolean (b : Bool)
  | number (n : Number)
  | string (text : Option String)
  | list (items : List Value)
  | object (fields : List (Option String × Value))

/-- What can be written: a value, or what comes in a bracket up to its end. -/
inductive Phrase where
  | value (v : Value)
  | items (vs : List Value)
  | fields (fs : List (Option String × Value))

/-- A name and the colon behind it. -/
inductive WritesName : Option String → List Char → Prop
  | quoted {gap gap' cs : List Char} {ns : List Nat} : (∀ c ∈ gap, isGap c) →
      (∀ c ∈ gap', isGap c) → Body ns cs →
      WritesName ((textOf ns).map String.ofList) (gap ++ '"' :: (cs ++ '"' :: (gap' ++ [':'])))

/-- A text that is JSON, or part of one. -/
inductive Writes : Phrase → List Char → Prop
  | nullWord : Writes (.value .null) ['n', 'u', 'l', 'l']
  | trueWord : Writes (.value (.boolean true)) ['t', 'r', 'u', 'e']
  | falseWord : Writes (.value (.boolean false)) ['f', 'a', 'l', 's', 'e']
  | number {n : Number} {cs : List Char} : WritesNumber n cs → Writes (.value (.number n)) cs
  | negative {n : Number} {cs : List Char} : WritesNumber n cs →
      Writes (.value (.number n)) ('-' :: cs)
  | string {ns : List Nat} {cs : List Char} : Body ns cs →
      Writes (.value (.string ((textOf ns).map String.ofList))) ('"' :: (cs ++ ['"']))
  | emptyList {gap : List Char} : (∀ c ∈ gap, isGap c) →
      Writes (.value (.list [])) ('[' :: (gap ++ [']']))
  | list {vs : List Value} {cs : List Char} : Writes (.items vs) cs →
      Writes (.value (.list vs)) ('[' :: cs)
  | emptyObject {gap : List Char} : (∀ c ∈ gap, isGap c) →
      Writes (.value (.object [])) ('\x7b' :: (gap ++ ['\x7d']))
  | object {fs : List (Option String × Value)} {cs : List Char} : Writes (.fields fs) cs →
      Writes (.value (.object fs)) ('\x7b' :: cs)
  | lastItem {v : Value} {gap cs gap' : List Char} : (∀ c ∈ gap, isGap c) →
      (∀ c ∈ gap', isGap c) → Writes (.value v) cs →
      Writes (.items [v]) (gap ++ (cs ++ (gap' ++ [']'])))
  | item {v : Value} {vs : List Value} {gap cs gap' cs' : List Char} : (∀ c ∈ gap, isGap c) →
      (∀ c ∈ gap', isGap c) → Writes (.value v) cs → Writes (.items vs) cs' →
      Writes (.items (v :: vs)) (gap ++ (cs ++ (gap' ++ ',' :: cs')))
  | lastField {name : Option String} {v : Value} {label gap cs gap' : List Char} :
      WritesName name label → (∀ c ∈ gap, isGap c) → (∀ c ∈ gap', isGap c) →
      Writes (.value v) cs →
      Writes (.fields [(name, v)]) (label ++ (gap ++ (cs ++ (gap' ++ ['\x7d']))))
  | field {name : Option String} {v : Value} {fs : List (Option String × Value)}
      {label gap cs gap' cs' : List Char} : WritesName name label → (∀ c ∈ gap, isGap c) →
      (∀ c ∈ gap', isGap c) → Writes (.value v) cs → Writes (.fields fs) cs' →
      Writes (.fields ((name, v) :: fs)) (label ++ (gap ++ (cs ++ (gap' ++ ',' :: cs'))))

/-- A text, quoted, is a string. -/
theorem writes_quote (s : String) : Writes (.value (.string (some s))) (quote s).toList := by
  have hstring := Writes.string (body_escaped s.toList)
  rw [textOf_toNat, Option.map_some, String.ofList_toList] at hstring
  rwa [toList_quote]

/-- A text, quoted, is a name. -/
theorem writesName_quote (s : String) : WritesName (some s) ((quote s).toList ++ [':']) := by
  have hgap : ∀ c ∈ [], isGap c := by simp
  have hname := WritesName.quoted hgap hgap (body_escaped s.toList)
  rw [textOf_toNat, Option.map_some, String.ofList_toList] at hname
  simpa [toList_quote] using hname

section Values

variable {v : Value} {name : Option String} {gap cs label rest : List Char}

theorem ne_of_isDigit {c d : Char} (hc : c.isDigit) (hd : ¬d.isDigit) : c ≠ d := by
  rintro rfl
  exact hd hc

theorem not_isGap_of_isDigit {c : Char} (hc : c.isDigit) : isGap c = false := by
  simp only [isGap, Bool.or_eq_false_iff, decide_eq_false_iff_not]
  exact ⟨⟨⟨ne_of_isDigit hc (by decide), ne_of_isDigit hc (by decide)⟩,
    ne_of_isDigit hc (by decide)⟩, ne_of_isDigit hc (by decide)⟩

/-- A value starts with none of the characters that go between values. -/
theorem Writes.head (h : Writes (.value v) cs) : ∃ c tail, cs = c :: tail ∧
    isGap c = false ∧ c ≠ ']' ∧ c ≠ '\x7d' := by
  cases h with
  | number hn =>
    obtain ⟨c, tail, rfl, hc⟩ := hn.head
    exact ⟨c, tail, rfl, not_isGap_of_isDigit hc, ne_of_isDigit hc (by decide),
      ne_of_isDigit hc (by decide)⟩
  | _ => exact ⟨_, _, rfl, by decide, by decide, by decide⟩

theorem stops_append (hg : ∀ c ∈ gap, isGap c) (hstop : Stops rest) : Stops (gap ++ rest) := by
  rcases gap with _ | ⟨c, gap⟩
  · exact hstop
  · rintro _ ⟨⟩
    exact .inl (hg c List.mem_cons_self)

theorem stops_cons {c : Char} (hc : c = ',' ∨ c = ']' ∨ c = '\x7d') : Stops (c :: rest) := by
  rintro _ ⟨⟩
  exact .inr hc

end Values

end AgentConsole.Json
