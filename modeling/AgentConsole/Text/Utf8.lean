/-!
# UTF-8

`units` cuts octets into characters and ill-formed stretches, where a stretch is as long as it
could still have been the start of a character. `decode?` asks for characters only, `decodeLossy`
puts U+FFFD for each stretch.
-/

namespace AgentConsole.Text.Utf8

/-- The octets of a text. -/
def encode (s : String) : List UInt8 :=
  s.toList.flatMap String.utf8EncodeChar

/-- What a leading octet promises: its payload, the least and greatest octet that may come second,
and how many more continuation octets follow that one. -/
structure Lead where
  payload : Nat
  low : UInt8
  high : UInt8
  more : Nat

/-- The promise of a leading octet above ASCII; none for an octet that leads nothing. -/
def lead? (b : UInt8) : Option Lead :=
  if b < 0xC2 then none
  else if b < 0xE0 then some ⟨b.toNat - 0xC0, 0x80, 0xBF, 0⟩
  else if b = 0xE0 then some ⟨0, 0xA0, 0xBF, 1⟩
  else if b = 0xED then some ⟨0xD, 0x80, 0x9F, 1⟩
  else if b < 0xF0 then some ⟨b.toNat - 0xE0, 0x80, 0xBF, 1⟩
  else if b = 0xF0 then some ⟨0, 0x90, 0xBF, 2⟩
  else if b < 0xF4 then some ⟨b.toNat - 0xF0, 0x80, 0xBF, 2⟩
  else if b = 0xF4 then some ⟨4, 0x80, 0x8F, 2⟩
  else none

/-- Takes `more` continuation octets onto the payload. -/
def continuation (payload : Nat) : Nat → List UInt8 → Option Char × List UInt8
  | 0, bs => (some (Char.ofNat payload), bs)
  | _ + 1, [] => (none, [])
  | more + 1, b :: bs =>
    if 0x80 ≤ b && b ≤ 0xBF then continuation (payload * 64 + (b.toNat - 0x80)) more bs
    else (none, b :: bs)

/-- The character that starts with `b`, or none for an ill-formed stretch, and what is left. -/
def next (b : UInt8) (bs : List UInt8) : Option Char × List UInt8 :=
  if b < 0x80 then (some (Char.ofNat b.toNat), bs)
  else
    match lead? b, bs with
    | none, _ => (none, bs)
    | some _, [] => (none, [])
    | some l, b' :: bs' =>
      if l.low ≤ b' && b' ≤ l.high then
        continuation (l.payload * 64 + (b'.toNat - 0x80)) l.more bs'
      else (none, bs)

theorem continuation_length (payload more : Nat) (bs : List UInt8) :
    (continuation payload more bs).2.length ≤ bs.length := by
  induction bs generalizing payload more with
  | nil => cases more <;> simp [continuation]
  | cons b bs ih =>
    cases more with
    | zero => simp [continuation]
    | succ more =>
      simp only [continuation]
      split
      · exact Nat.le_succ_of_le (ih _ _)
      · simp

theorem next_length (b : UInt8) (bs : List UInt8) : (next b bs).2.length ≤ bs.length := by
  unfold next
  split
  · simp
  · split
    · simp
    · simp
    · split
      · exact Nat.le_succ_of_le (continuation_length _ _ _)
      · simp

/-- The characters and ill-formed stretches of the octets, in order, onto `done` backwards. -/
def unitsOnto (done : List (Option Char)) : List UInt8 → List (Option Char)
  | [] => done.reverse
  | b :: bs =>
    have := next_length b bs
    unitsOnto ((next b bs).1 :: done) (next b bs).2
  termination_by bs => bs.length
  decreasing_by simp only [List.length_cons]; omega

/-- The characters of the octets, `none` for each ill-formed stretch. -/
def units (bs : List UInt8) : List (Option Char) :=
  unitsOnto [] bs

/-- The text of well-formed octets. -/
def decode? (bs : List UInt8) : Option String :=
  ((units bs).mapM id).map String.ofList

/-- The text of any octets, U+FFFD for each ill-formed stretch. -/
def decodeLossy (bs : List UInt8) : String :=
  String.ofList ((units bs).map (·.getD (Char.ofNat 0xFFFD)))

end AgentConsole.Text.Utf8
