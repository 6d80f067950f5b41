import AgentConsole.Proofs.Text.Numeral
import AgentConsole.Time.Reading
import Mathlib.Data.List.TakeWhile

/-!
# Reading written instants

Each part of a written instant is read off the front of the text again, up to the mark behind it,
and with universal time at its end the instant is the one that was written (`Instant.read?_write`).
-/

namespace AgentConsole.Time

open AgentConsole.Text

theorem readNumber?_padded {width n : Nat} (hw : 0 < width) (h : n < Nat.pow 10 width)
    (rest : List Char) : readNumber? width ((padded width n).toList ++ rest) = some (n, rest) := by
  have hlen := length_padded hw h
  have htake : ((padded width n).toList ++ rest).take width = (padded width n).toList := by
    rw [List.take_append_of_le_length (by omega), List.take_of_length_le (by omega)]
  have hdigits : (padded width n).toList.takeWhile Char.isDigit = (padded width n).toList :=
    List.takeWhile_eq_self_iff.2 fun c hc => isDigit_of_mem_padded hc
  unfold readNumber?
  rw [trimStart_padded]
  simp only [htake, hdigits, List.isEmpty_eq_false_iff.2 (padded_ne_nil width n),
    Bool.false_eq_true, if_false, digitsValue_padded, List.drop_left]

theorem readSigned?_padded (width n : Nat) {rest : List Char}
    (hr : rest.head?.all fun c => !c.isDigit) :
    readSigned? ((padded width n).toList ++ rest) = some (n, rest) := by
  obtain ⟨htake, hdrop⟩ := takeWhile_padded width n hr
  unfold readSigned?
  simp only [htake, hdrop, List.isEmpty_eq_false_iff.2 (padded_ne_nil width n),
    Bool.false_eq_true, if_false, digitsValue_padded]

/-- A year is read as far as the hyphen behind it. -/
theorem readYear?_write (year : Int) (rest : List Char) :
    readYear? ((Date.writeYear year).toList ++ '-' :: rest) = some (year, '-' :: rest) := by
  have hmark : ('-' :: rest).head?.all fun c => !c.isDigit := rfl
  have hsigned := readSigned?_padded 4 year.natAbs hmark
  unfold Date.writeYear
  split
  · rename_i h
    simp only [Bool.and_eq_true, decide_eq_true_eq] at h
    have hlt : year.natAbs < 10000 := by omega
    have hn := readNumber?_padded (by decide : 0 < 4) hlt ('-' :: rest)
    have habs : (year.natAbs : Int) = year := by omega
    -- The text starts with a digit, so it has no sign.
    unfold readYear?
    rw [trimStart_padded]
    cases hp : (padded 4 year.natAbs).toList with
    | nil => exact absurd hp (padded_ne_nil _ _)
    | cons c cs =>
      have hc : c.isDigit := isDigit_of_mem_padded (hp ▸ List.mem_cons_self)
      rw [hp, List.cons_append] at hn
      rw [List.cons_append]
      split
      · rename_i heq
        cases heq
        cases hc
      · rename_i heq
        cases heq
        cases hc
      · rw [hn, Option.map_some, habs]
  · rename_i h
    simp only [Bool.and_eq_true, decide_eq_true_eq] at h
    split
    · have habs : -(year.natAbs : Int) = year := by omega
      have ht : trimStart ('-' :: ((padded 4 year.natAbs).toList ++ '-' :: rest)) = _ :=
        trimStart_of_not_isBlank rfl
      simp only [String.toList_append, String.reduceToList, List.cons_append, List.nil_append,
        readYear?, ht, hsigned, Option.map_some, habs]
    · have habs : (year.natAbs : Int) = year := by omega
      have ht : trimStart ('+' :: ((padded 4 year.natAbs).toList ++ '-' :: rest)) = _ :=
        trimStart_of_not_isBlank rfl
      simp only [String.toList_append, String.reduceToList, List.cons_append, List.nil_append,
        readYear?, ht, hsigned, Option.map_some, habs]

theorem readMark?_cons {c : Char} (h : isBlank c = false) (cs : List Char) :
    readMark? c (c :: cs) = some cs := by
  unfold readMark?
  rw [trimStart_of_not_isBlank h]
  simp

theorem daysIn_le (year : Int) (month : Nat) : daysIn year month ≤ 31 := by
  unfold daysIn
  split <;> try split
  all_goals omega

theorem month_lt (d : Date) : d.month < 100 := by
  obtain ⟨-, -, hlo, hhi⟩ := d.valid
  unfold daysIn at hhi
  split at hhi <;> omega

theorem day_lt (d : Date) : d.day < 100 := by
  obtain ⟨-, -, -, hhi⟩ := d.valid
  have := daysIn_le d.year d.month
  omega

theorem Date.of?_self (d : Date) : Date.of? d.year d.month d.day = some d :=
  dif_pos d.valid

theorem readDate?_write (d : Date) (rest : List Char) :
    readDate? (d.write.toList ++ rest) = some (d, rest) := by
  have htext : d.write.toList ++ rest = (Date.writeYear d.year).toList ++
      '-' :: ((padded 2 d.month).toList ++ '-' :: ((padded 2 d.day).toList ++ rest)) := by
    simp [Date.write]
  have hmonth := month_lt d
  have hday := day_lt d
  have hblank : isBlank '-' = false := by decide
  unfold readDate?
  rw [htext, readYear?_write]
  simp only [bind, Option.bind, readMark?_cons hblank,
    readNumber?_padded (by decide : 0 < 2) hmonth, readNumber?_padded (by decide : 0 < 2) hday,
    Date.of?_self]
  rfl

theorem readFraction?_padded {width n : Nat} (hw : 0 < width) (hle : width ≤ 9)
    (h : n < Nat.pow 10 width) {rest : List Char} (hr : rest.head?.all fun c => !c.isDigit) :
    readFraction? ('.' :: ((padded width n).toList ++ rest)) =
      some (n * Nat.pow 10 (9 - width), rest) := by
  obtain ⟨htake, hdrop⟩ := takeWhile_padded width n hr
  have hlen := length_padded hw h
  have hcounted : (padded width n).toList.take 9 = (padded width n).toList :=
    List.take_of_length_le (by omega)
  unfold readFraction?
  simp only [htake, hdrop, hcounted, hlen, List.isEmpty_eq_false_iff.2 (padded_ne_nil width n),
    Bool.false_eq_true, if_false, digitsValue_padded]

/-- A fraction is read as far as the `Z` behind it, whatever it was shortened to. -/
theorem readFraction?_write {nano : Nat} (h : nano < 1000000000) (rest : List Char) :
    readFraction? ((Clock.writeFraction nano).toList ++ 'Z' :: rest) =
      some (nano, 'Z' :: rest) := by
  unfold Clock.writeFraction
  split
  · subst nano
    rfl
  have hnum (width n : Nat) (hw : 0 < width) (hle : width ≤ 9) (hn : n < Nat.pow 10 width) :
      readFraction? (("." ++ padded width n).toList ++ 'Z' :: rest) =
        some (n * Nat.pow 10 (9 - width), 'Z' :: rest) := by
    simp only [String.toList_append, String.reduceToList, List.cons_append, List.nil_append]
    exact readFraction?_padded hw hle hn rfl
  split
  · have hlt : nano / 1000000 < 1000 := by omega
    have hback : nano / 1000000 * 1000000 = nano := by omega
    rw [hnum 3 _ (by decide) (by decide) hlt]
    exact congrArg (fun n => some (n, 'Z' :: rest)) hback
  split
  · have hlt : nano / 1000 < 1000000 := by omega
    have hback : nano / 1000 * 1000 = nano := by omega
    rw [hnum 6 _ (by decide) (by decide) hlt]
    exact congrArg (fun n => some (n, 'Z' :: rest)) hback
  · rw [hnum 9 _ (by decide) (by decide) h]
    exact congrArg (fun n => some (n, 'Z' :: rest)) (Nat.mul_one nano)

theorem Clock.of?_self (c : Clock) : Clock.of? c.hour c.minute c.second c.nano = some c :=
  dif_pos ⟨c.hour_lt, c.minute_lt, c.second_le, c.nano_lt⟩

theorem readClock?_write (c : Clock) (rest : List Char) :
    readClock? (c.write.toList ++ 'Z' :: rest) = some (c, 'Z' :: rest) := by
  have htext : c.write.toList ++ 'Z' :: rest = (padded 2 c.hour).toList ++
      ':' :: ((padded 2 c.minute).toList ++ ':' :: ((padded 2 c.second).toList ++
        ((Clock.writeFraction c.nano).toList ++ 'Z' :: rest))) := by
    simp [Clock.write, Clock.writeSeconds]
  have hhour : c.hour < 100 := Nat.lt_trans c.hour_lt (by decide)
  have hminute : c.minute < 100 := Nat.lt_trans c.minute_lt (by decide)
  have hsecond : c.second < 100 := Nat.lt_of_le_of_lt c.second_le (by decide)
  have hblank : isBlank ':' = false := by decide
  unfold readClock?
  rw [htext]
  simp only [bind, Option.bind, readMark?_cons hblank,
    readNumber?_padded (by decide : 0 < 2) hhour, readNumber?_padded (by decide : 0 < 2) hminute,
    readNumber?_padded (by decide : 0 < 2) hsecond,
    readFraction?_write c.nano_lt, Clock.of?_self]
  rfl

theorem Instant.ofLocal?_zero (date : Date) (clock : Clock) :
    Instant.ofLocal? date clock 0 = some ⟨date, clock⟩ := by
  have hhour := clock.hour_lt
  have hminute := clock.minute_lt
  have hlo : ¬(clock.hour * 60 + clock.minute - 0 : Int) < 0 := by omega
  have hhi : (clock.hour * 60 + clock.minute - 0 : Int) < 1440 := by omega
  have hh : (clock.hour * 60 + clock.minute - 0 : Int).toNat / 60 = clock.hour := by omega
  have hm : (clock.hour * 60 + clock.minute - 0 : Int).toNat % 60 = clock.minute := by omega
  unfold Instant.ofLocal? Instant.atMinute?
  simp only [if_neg hlo, if_pos hhi, dif_pos (show _ ∧ _ from ⟨Int.not_lt.1 hlo, hhi⟩),
    Option.map_some, hh, hm]

/-- A written instant is read back. -/
theorem Instant.read?_write (t : Instant) : Instant.read? t.write = some t := by
  have htext : t.write.toList = t.date.write.toList ++ 'T' :: (t.clock.write.toList ++ ['Z']) := by
    simp [Instant.write]
  unfold Instant.read?
  rw [htext, readDate?_write]
  simp only [bind, Option.bind, decide_true, Bool.true_or, if_true, readClock?_write]
  have hz : readOffset? (trimStart ['Z']) = some (0, []) := by decide
  simp only [hz, List.all_nil, if_true, Instant.ofLocal?_zero]

end AgentConsole.Time
