import RemoteFleet.Json.Printer
import RemoteFleet.Json.Reader
import RemoteFleet.Proofs.Text.Digits

/-!
# Strings and numbers of JSON, written and read back

A string ends with its quote, so whatever follows, the reader stops there.  A number has no end of
its own: what follows it must not go on with it (`EndsNumber`).

* `readString?_append`: every string comes back, whatever its characters.
* `readNumber?_integer`: every whole number within 64 bits comes back.
-/

namespace RemoteFleet.Json

/-! ## Strings -/

theorem hexPair_eq {n : Nat} (h : n < 0x20) :
    hexPair n = [Text.hexChar (Fin.ofNat 16 (n / 16)), Text.hexChar (Fin.ofNat 16 n)] := by
  have hall : ∀ k : Fin 0x20, hexPair k.val
      = [Text.hexChar (Fin.ofNat 16 (k.val / 16)), Text.hexChar (Fin.ofNat 16 k.val)] := by decide
  exact hall ⟨n, h⟩

/-- The four digits of a control character stand for it. -/
theorem readUnit?_hexPair {n : Nat} (h : n < 0x20) (rest : List Char) :
    readUnit? ('0' :: '0' :: (hexPair n ++ rest)) = some (n, rest) := by
  have hzero : Text.hexValue? '0' = some 0 := by decide
  have hnumber : Text.hexNumber [0, 0, Fin.ofNat 16 (n / 16), Fin.ofNat 16 n] = n := by
    simp only [Text.hexNumber, List.foldl_cons, List.foldl_nil, Fin.val_ofNat, Fin.val_zero]
    omega
  simp only [hexPair_eq h, List.cons_append, List.nil_append, readUnit?, List.mapM_cons,
    List.mapM_nil, hzero, Text.hexValue?_hexChar, Option.pure_def, Option.bind_eq_bind,
    Option.bind_some, hnumber]

theorem readCodePoint?_hexPair {c : Char} (h : c.toNat < 0x20) (rest : List Char) :
    readCodePoint? ('0' :: '0' :: (hexPair c.toNat ++ rest)) = some (c, rest) := by
  have hlow : ¬(0xD800 ≤ c.toNat ∧ c.toNat < 0xDC00) := by omega
  have hhigh : ¬(0xDC00 ≤ c.toNat ∧ c.toNat < 0xE000) := by omega
  simp [readCodePoint?, readUnit?_hexPair h, hlow, hhigh]

/-- A character is written behind a backslash, as a control character, or as it is. -/
theorem writeChar_cases (c : Char) :
    (∃ d, escape? d = some c ∧ writeChar c = ['\\', d]) ∨
    (c.toNat < 0x20 ∧ writeChar c = '\\' :: 'u' :: '0' :: '0' :: hexPair c.toNat) ∨
    (c ≠ '"' ∧ c ≠ '\\' ∧ ¬c.toNat < 0x20 ∧ writeChar c = [c]) := by
  unfold writeChar
  by_cases hquote : c = '"'
  · exact .inl ⟨'"', by rw [hquote]; rfl, if_pos hquote⟩
  by_cases hslash : c = '\\'
  · exact .inl ⟨'\\', by rw [hslash]; rfl, by rw [if_neg hquote, if_pos hslash]⟩
  rw [if_neg hquote, if_neg hslash]
  split
  · next h => exact .inl ⟨'n', by rw [h]; rfl, rfl⟩
  split
  · next h => exact .inl ⟨'r', by rw [h]; rfl, rfl⟩
  split
  · next h => exact .inl ⟨'t', by rw [h]; rfl, rfl⟩
  split
  · next h => exact .inl ⟨'b', by rw [h]; rfl, rfl⟩
  split
  · next h => exact .inl ⟨'f', by rw [h]; rfl, rfl⟩
  split
  · next h => exact .inr (.inl ⟨h, rfl⟩)
  · next h => exact .inr (.inr ⟨hquote, hslash, h, rfl⟩)

theorem length_writeChar_pos (c : Char) : 0 < (writeChar c).length := by
  rcases writeChar_cases c with ⟨d, _, h⟩ | ⟨_, h⟩ | ⟨_, _, _, h⟩ <;> simp [h]

/-- A character is put in front of the characters behind it. -/
def withChar (c : Char) (read : List Char × List Char) : List Char × List Char :=
  (c :: read.1, read.2)

theorem readChars?_escape {c d : Char} (h : escape? d = some c) (fuel : Nat) (rest : List Char) :
    readChars? (fuel + 1) ('\\' :: d :: rest) = (readChars? fuel rest).map (withChar c) := by
  have hletter : d ≠ 'u' := by
    rintro rfl
    cases h
  rw [readChars?, h]
  · cases readChars? fuel rest <;> rfl
  · exact hletter

theorem readChars?_plain {c : Char} (hquote : c ≠ '"') (hslash : c ≠ '\\')
    (hcontrol : ¬c.toNat < 0x20) (fuel : Nat) (rest : List Char) :
    readChars? (fuel + 1) (c :: rest) = (readChars? fuel rest).map (withChar c) := by
  rw [readChars?, if_neg (not_or.2 ⟨hcontrol, hslash⟩)]
  · cases readChars? fuel rest <;> rfl
  · exact hquote
  · exact fun _ heq _ => hslash heq
  · exact fun _ _ heq _ => hslash heq

/-- A character comes back in whichever of its forms it is written. -/
theorem readChars?_writeChar (c : Char) (fuel : Nat) (rest : List Char) :
    readChars? (fuel + 1) (writeChar c ++ rest) = (readChars? fuel rest).map (withChar c) := by
  rcases writeChar_cases c with ⟨d, hd, h⟩ | ⟨hcontrol, h⟩ | ⟨hquote, hslash, hcontrol, h⟩
  · rw [h]
    exact readChars?_escape hd fuel rest
  · rw [h, List.cons_append, List.cons_append, List.cons_append, List.cons_append, readChars?,
      readCodePoint?_hexPair hcontrol]
    simp only [Option.bind_eq_bind, Option.bind_some]
    cases readChars? fuel rest <;> rfl
  · rw [h]
    exact readChars?_plain hquote hslash hcontrol fuel rest

/-- Every string comes back. -/
theorem readChars?_append (chars rest : List Char) {fuel : Nat} (h : chars.length < fuel) :
    readChars? fuel (chars.flatMap writeChar ++ '"' :: rest) = some (chars, rest) := by
  induction chars generalizing fuel with
  | nil =>
    obtain ⟨fuel, rfl⟩ := Nat.exists_eq_succ_of_ne_zero (Nat.ne_of_gt h)
    rfl
  | cons c chars ih =>
    obtain ⟨fuel, rfl⟩ := Nat.exists_eq_succ_of_ne_zero (Nat.ne_of_gt (Nat.zero_lt_of_lt h))
    rw [List.flatMap_cons, List.append_assoc, readChars?_writeChar,
      ih (Nat.lt_of_succ_lt_succ h)]
    rfl

theorem length_le_flatMap_writeChar (chars : List Char) :
    chars.length ≤ (chars.flatMap writeChar).length := by
  induction chars with
  | nil => exact Nat.le_refl 0
  | cons c chars ih =>
    have hpos := length_writeChar_pos c
    rw [List.flatMap_cons, List.length_cons, List.length_append]
    omega

theorem readString?_append (s : String) (rest : List Char) :
    readString? (s.toList.flatMap writeChar ++ '"' :: rest) = some (s, rest) := by
  have hlength := length_le_flatMap_writeChar s.toList
  rw [readString?, readChars?_append _ _ (by rw [List.length_append]; omega)]
  simp

/-! ## Numbers -/

/-- Whether a text does not go on with a number that stands before it. -/
def EndsNumber (rest : List Char) : Prop :=
  ∀ c s, rest = c :: s → c.isDigit = false ∧ c ≠ '.' ∧ c ≠ 'e' ∧ c ≠ 'E'

theorem endsNumber_nil : EndsNumber [] := nofun

theorem endsNumber_cons {c : Char} (h : c.isDigit = false ∧ c ≠ '.' ∧ c ≠ 'e' ∧ c ≠ 'E')
    (s : List Char) : EndsNumber (c :: s) := by
  rintro _ _ ⟨⟩
  exact h

variable {rest : List Char}

theorem cutDigits_append {digits : List Char} (h : ∀ c ∈ digits, c.isDigit = true)
    (hrest : EndsNumber rest) : cutDigits (digits ++ rest) = (digits, rest) := by
  have hstop : Text.EndsDigits rest := fun c s heq => (hrest c s heq).1
  rw [cutDigits, Text.takeWhile_isDigit_append h hstop, Text.dropWhile_isDigit_append h hstop]

theorem readWhole?_decimal (n : Nat) (hrest : EndsNumber rest) :
    readWhole? (Text.decimal n ++ rest) = some (Text.decimal n, rest) := by
  rw [readWhole?, cutDigits_append (fun c => Text.isDigit_of_mem_decimal) hrest]
  split
  · next s heq => exact absurd (Prod.mk.inj heq).1 (Text.decimal_ne_nil n)
  · next c s s' heq =>
    have hnil := Text.decimal_eq_zero_cons (Prod.mk.inj heq).1
    cases hnil
  · next digits s _ _ heq =>
    cases heq
    rfl

theorem readFraction?_of_endsNumber (hrest : EndsNumber rest) :
    readFraction? rest = some ([], rest) := by
  unfold readFraction?
  split
  · next s => exact absurd rfl (hrest '.' s rfl).2.1
  · rfl

theorem readExponent?_of_endsNumber (hrest : EndsNumber rest) :
    readExponent? rest = some ([], rest) := by
  cases rest with
  | nil => rfl
  | cons c s =>
    obtain ⟨-, -, hlower, hupper⟩ := hrest c s rfl
    rw [readExponent?, if_neg (not_or.2 ⟨hlower, hupper⟩)]

/-- Behind its sign, a number is read by its parts. -/
theorem readNumber?_negative (n : Nat) (hrest : EndsNumber rest) :
    readNumber? ('-' :: (Text.decimal n ++ rest))
      = some (numberOf true (Text.decimal n) [] [], rest) := by
  simp [readNumber?, readWhole?_decimal n hrest, readFraction?_of_endsNumber hrest,
    readExponent?_of_endsNumber hrest]

theorem readNumber?_decimal (n : Nat) (hrest : EndsNumber rest) :
    readNumber? (Text.decimal n ++ rest)
      = some (numberOf false (Text.decimal n) [] [], rest) := by
  have hsign : ∀ s, Text.decimal n ++ rest ≠ '-' :: s := by
    intro s heq
    obtain ⟨c, digits, hdigits⟩ := List.exists_cons_of_ne_nil (Text.decimal_ne_nil n)
    rw [hdigits] at heq
    have hdigit := Text.isDigit_of_mem_decimal (hdigits ▸ List.mem_cons_self : c ∈ Text.decimal n)
    rw [(List.cons.inj heq).1] at hdigit
    cases hdigit
  rw [readNumber?.eq_def]
  split
  next negative s heq =>
  split at heq
  · next s' hcons => exact absurd hcons (hsign s')
  · cases heq
    simp [readWhole?_decimal n hrest, readFraction?_of_endsNumber hrest,
      readExponent?_of_endsNumber hrest]

/-- Whether a whole number is within 64 bits, signed or not. -/
def InRange (n : Int) : Prop := -0x8000000000000000 ≤ n ∧ n < 0x10000000000000000

theorem numberOf_natAbs {n : Int} (h : InRange n) :
    numberOf (n < 0) (Text.decimal n.natAbs) [] [] = .integer n := by
  obtain ⟨hlow, hhigh⟩ := h
  rw [numberOf, Text.digitsValue_decimal]
  by_cases hn : n < 0
  · have hvalue : -(n.natAbs : Int) = n := by omega
    have hrange : 0 < n.natAbs ∧ n.natAbs ≤ 0x8000000000000000 := by omega
    rw [decide_eq_true hn, if_neg (by simp), if_pos ⟨rfl, rfl, rfl, hrange⟩, hvalue]
  · have hvalue : (n.natAbs : Int) = n := by omega
    have hrange : n.natAbs < 0x10000000000000000 := by omega
    rw [decide_eq_false hn, if_pos ⟨rfl, rfl, rfl, hrange⟩, hvalue]

/-- Every whole number within 64 bits comes back. -/
theorem readNumber?_integer {n : Int} (h : InRange n) (hrest : EndsNumber rest) :
    readNumber? (Text.integer n ++ rest) = some (.integer n, rest) := by
  rw [← numberOf_natAbs h, Text.integer]
  by_cases hn : n < 0
  · rw [if_pos hn, List.cons_append, readNumber?_negative _ hrest, decide_eq_true hn]
  · rw [if_neg hn, readNumber?_decimal _ hrest, decide_eq_false hn]

end RemoteFleet.Json
