import RemoteFleet.Proofs.Text.Digits
import RemoteFleet.Proofs.Text.Reading
import RemoteFleet.Time.Timestamp

/-!
# Points in time, written and read back

The reader is lenient and takes as many digits as it may.  What keeps it in step with the writer is
that every number is written with all the digits that the reader takes, or ends at a mark
(`readNumber?_padded`); so there is one lemma for each part of the text, and `read?_write` puts them
together.  It holds of every timestamp: the years beyond four digits have a sign, and the leap
second and the digits of a fraction come back as they are.
-/

namespace RemoteFleet.Timestamp

/-! ## Numbers of a fixed width -/

theorem isDigit_of_mem_padded {width n : Nat} {c : Char} (h : c ∈ padded width n) :
    c.isDigit = true := by
  rcases List.mem_append.1 h with h | h
  · rw [List.eq_of_mem_replicate h]
    rfl
  · exact Text.isDigit_of_mem_decimal h

theorem digitsValue_padded (width n : Nat) : Text.digitsValue (padded width n) = n := by
  rw [padded, Text.digitsValue_zeros_append, Text.digitsValue_decimal]

theorem padded_ne_nil (width n : Nat) : padded width n ≠ [] :=
  List.append_ne_nil_of_right_ne_nil _ (Text.decimal_ne_nil n)

theorem length_padded {width n : Nat} (hwidth : 0 < width) (h : n < 10 ^ width) :
    (padded width n).length = width := by
  have hle := (Text.length_decimal_le_iff hwidth).2 h
  rw [padded, List.length_append, List.length_replicate]
  omega

/-- A number comes back if it has all the digits that are taken, or ends before them. -/
theorem readNumber?_padded {width n limit : Nat} {rest : List Char}
    (h : (padded width n).length = limit ∨
      (padded width n).length ≤ limit ∧ Text.EndsDigits rest) :
    readNumber? limit (padded width n ++ rest) = some (n, rest) := by
  have hstop : Text.EndsDigits (rest.take (limit - (padded width n).length)) := by
    rcases h with h | ⟨_, h⟩
    · rw [h, Nat.sub_self, List.take_zero]
      exact Text.endsDigits_nil
    · exact h.take _
  have hcut : ((padded width n ++ rest).take limit).takeWhile Char.isDigit = padded width n := by
    rw [List.take_append, List.take_of_length_le (by omega)]
    exact Text.takeWhile_isDigit_append (fun _ => isDigit_of_mem_padded) hstop
  simp only [readNumber?, hcut, padded_ne_nil, if_false, digitsValue_padded]
  rw [List.drop_left]

/-! ## Parts of a timestamp -/

/-- A number does not begin with a blank, nor with a sign. -/
theorem exists_padded_cons (width n : Nat) :
    ∃ c s, padded width n = c :: s ∧ c.isDigit = true := by
  obtain ⟨c, s, hs⟩ := List.exists_cons_of_ne_nil (padded_ne_nil width n)
  exact ⟨c, s, hs, isDigit_of_mem_padded (hs ▸ List.mem_cons_self)⟩

theorem trimStart_cons {c : Char} (h : Text.isBlank c = false) (s : List Char) :
    Text.trimStart (c :: s) = c :: s := by
  simp [Text.trimStart, h]

theorem trimStart_padded (width n : Nat) (rest : List Char) :
    Text.trimStart (padded width n ++ rest) = padded width n ++ rest := by
  obtain ⟨c, s, hs, hdigit⟩ := exists_padded_cons width n
  rw [hs, List.cons_append, trimStart_cons (Text.isBlank_of_isNumeral (.inr hdigit))]

theorem readTwo?_padded {n : Nat} (h : n < 100) (rest : List Char) :
    readTwo? (padded 2 n ++ rest) = some (n, rest) := by
  rw [readTwo?, trimStart_padded]
  exact readNumber?_padded (.inl (length_padded (by decide) h))

theorem readMark?_cons {mark : Char} (h : Text.isBlank mark = false) (rest : List Char) :
    readMark? mark (mark :: rest) = some rest := by
  rw [readMark?, trimStart_cons h]
  simp [Text.cutPrefix?]

/-- A year comes back before a hyphen, whatever its sign. -/
theorem readYear?_writeYear (year : Int) (rest : List Char) :
    readYear? (writeYear year ++ '-' :: rest) = some (year, '-' :: rest) := by
  have hends : Text.EndsDigits ('-' :: rest) := Text.endsDigits_cons rfl rest
  by_cases hfour : 0 ≤ year ∧ year ≤ 9999
  · have hread : readNumber? 4 (padded 4 year.toNat ++ '-' :: rest)
        = some (year.toNat, '-' :: rest) :=
      readNumber?_padded (.inl (length_padded (by decide) (by omega)))
    have hvalue : (year.toNat : Int) = year := by omega
    have hsign (mark : Char) (s : List Char)
        (heq : padded 4 year.toNat ++ '-' :: rest = mark :: s) : mark.isDigit = true := by
      obtain ⟨c, s', hs', hdigit⟩ := exists_padded_cons 4 year.toNat
      rw [hs', List.cons_append] at heq
      exact (List.cons.inj heq).1 ▸ hdigit
    rw [writeYear, if_pos hfour, readYear?, trimStart_padded]
    split
    · next s heq => exact absurd (hsign '-' s heq) (by decide)
    · next s heq => exact absurd (hsign '+' s heq) (by decide)
    · simp only [hread, Option.map_some, hvalue]
  · have hread : readNumber? (padded 4 year.natAbs ++ '-' :: rest).length
        (padded 4 year.natAbs ++ '-' :: rest) = some (year.natAbs, '-' :: rest) :=
      readNumber?_padded (.inr ⟨by rw [List.length_append]; omega, hends⟩)
    rw [writeYear, if_neg hfour, readYear?]
    by_cases hsign : year < 0
    · have hvalue : -(year.natAbs : Int) = year := by omega
      rw [if_pos hsign, List.cons_append, trimStart_cons rfl]
      simp only [hread, Option.map_some, hvalue]
    · have hvalue : (year.natAbs : Int) = year := by omega
      rw [if_neg hsign, List.cons_append, trimStart_cons rfl]
      simp only [hread, Option.map_some, hvalue]

/-- Digits of a fraction count for what their places are worth. -/
theorem readFraction?_padded {width n : Nat} (hwidth : 0 < width) (hn : n < 10 ^ width)
    (hnine : width ≤ 9) :
    readFraction? ('.' :: padded width n ++ ['Z']) = some (n * Nat.pow 10 (9 - width), ['Z']) := by
  have hlength := length_padded hwidth hn
  have hcut : ((padded width n ++ ['Z']).take 9).takeWhile Char.isDigit = padded width n := by
    rw [List.take_append, List.take_of_length_le (by omega)]
    exact Text.takeWhile_isDigit_append (fun _ => isDigit_of_mem_padded)
      ((Text.endsDigits_cons rfl []).take _)
  simp only [List.cons_append, readFraction?, hcut, padded_ne_nil, if_false, digitsValue_padded,
    hlength, List.drop_left' hlength]
  rfl

theorem readFraction?_writeFraction {nanosecond : Nat} (h : nanosecond < 1000000000) :
    readFraction? (writeFraction nanosecond ++ ['Z']) = some (nanosecond, ['Z']) := by
  rw [writeFraction]
  by_cases hzero : nanosecond = 0
  · rw [if_pos hzero, hzero]
    rfl
  by_cases hmilli : nanosecond % 1000000 = 0
  · rw [if_neg hzero, if_pos hmilli, readFraction?_padded (by decide) (by omega) (by decide)]
    exact congrArg (fun n => some (n, ['Z'])) (Nat.div_mul_cancel (Nat.dvd_of_mod_eq_zero hmilli))
  by_cases hmicro : nanosecond % 1000 = 0
  · rw [if_neg hzero, if_neg hmilli, if_pos hmicro,
      readFraction?_padded (by decide) (by omega) (by decide)]
    exact congrArg (fun n => some (n, ['Z'])) (Nat.div_mul_cancel (Nat.dvd_of_mod_eq_zero hmicro))
  · rw [if_neg hzero, if_neg hmilli, if_neg hmicro,
      readFraction?_padded (by decide) (by omega) (by decide)]
    exact congrArg (fun n => some (n, ['Z'])) (Nat.mul_one nanosecond)

theorem readDate?_append (d : Date) (rest : List Char) :
    readDate? (writeYear d.year ++ '-' :: (padded 2 d.month ++ '-' :: (padded 2 d.day ++ rest)))
      = some (d, rest) := by
  have hdays : daysInMonth d.year d.month ≤ 31 := by
    unfold daysInMonth
    split <;> (try split) <;> omega
  have hmonth := d.month_mem
  have hday := d.day_mem
  refine Option.bind_eq_some_iff.2 ⟨_, readYear?_writeYear d.year _, ?_⟩
  refine Option.bind_eq_some_iff.2 ⟨_, readMark?_cons (by decide) _, ?_⟩
  refine Option.bind_eq_some_iff.2 ⟨_, readTwo?_padded (by omega) _, ?_⟩
  refine Option.bind_eq_some_iff.2 ⟨_, readMark?_cons (by decide) _, ?_⟩
  refine Option.bind_eq_some_iff.2 ⟨_, readTwo?_padded (by omega) _, ?_⟩
  exact Option.bind_eq_some_iff.2 ⟨_, d.ofCivil?_self, rfl⟩

theorem moveWest?_zero (d : Date) {minute : Nat} (h : minute < 1440) :
    moveWest? d minute 0 = some (d, minute) := by
  have hlow : ¬(minute : Int) - 0 < 0 := by omega
  have hhigh : ¬1440 ≤ (minute : Int) - 0 := by omega
  simp only [moveWest?, if_neg hlow, if_neg hhigh]
  simp

/-! ## Whole timestamps -/

/-- Every timestamp comes back. -/
theorem read?_write (t : Timestamp) : read? t.write = some t := by
  have hminute := t.minuteOfDay_lt
  have hsecond := t.second_le
  have htext : t.write = writeYear t.date.year ++ '-' :: (padded 2 t.date.month
      ++ '-' :: (padded 2 t.date.day ++ 'T' :: (padded 2 (t.minuteOfDay / 60)
        ++ ':' :: (padded 2 (t.minuteOfDay % 60)
          ++ ':' :: (padded 2 t.second ++ (writeFraction t.nanosecond ++ ['Z'])))))) := by
    simp only [write, List.append_assoc, List.cons_append]
  have hwhole : 60 * (t.minuteOfDay / 60) + t.minuteOfDay % 60 = t.minuteOfDay :=
    Nat.div_add_mod t.minuteOfDay 60
  have hmoved : moveWest? t.date (60 * (t.minuteOfDay / 60) + t.minuteOfDay % 60) 0
      = some (t.date, t.minuteOfDay) := by
    rw [hwhole]
    exact moveWest?_zero t.date hminute
  have hbounds : t.minuteOfDay < 1440 ∧ t.second ≤ 60 ∧ t.nanosecond < 1000000000 :=
    ⟨hminute, hsecond, t.nanosecond_lt⟩
  have hrest : t.minuteOfDay / 60 < 24 ∧ t.minuteOfDay % 60 < 60 ∧ Text.trimStart [] = [] :=
    ⟨by omega, by omega, rfl⟩
  rw [htext]
  refine Option.bind_eq_some_iff.2 ⟨_, readDate?_append t.date _, ?_⟩
  refine Option.bind_eq_some_iff.2 ⟨_, rfl, ?_⟩
  refine Option.bind_eq_some_iff.2 ⟨_, readTwo?_padded (by omega) _, ?_⟩
  refine Option.bind_eq_some_iff.2 ⟨_, readMark?_cons (by decide) _, ?_⟩
  refine Option.bind_eq_some_iff.2 ⟨_, readTwo?_padded (by omega) _, ?_⟩
  refine Option.bind_eq_some_iff.2 ⟨_, readMark?_cons (by decide) _, ?_⟩
  refine Option.bind_eq_some_iff.2 ⟨_, readTwo?_padded (by omega) _, ?_⟩
  refine Option.bind_eq_some_iff.2 ⟨_, readFraction?_writeFraction t.nanosecond_lt, ?_⟩
  refine Option.bind_eq_some_iff.2 ⟨(0, []), rfl, ?_⟩
  refine Option.bind_eq_some_iff.2 ⟨_, hmoved, ?_⟩
  exact (dif_pos hbounds).trans (if_pos hrest)

end RemoteFleet.Timestamp
