import Mathlib.Algebra.GroupWithZero.Nat
import RemoteFleet.Text.Numeral

/-!
# Digits that are written and read back

* `digitsValue_decimal`, `decimal_eq_zero_cons`: the digits of a number stand for it, and no zero
  stands in front of others.
* `takeWhile_isDigit_append`, `dropWhile_isDigit_append`: digits are cut off where they end.
* `hexValue?_hexChar`: a hexadecimal digit has the value that it was written for.
-/

namespace RemoteFleet.Text

/-! ## Decimal digits -/

theorem isDigit_of_mem_decimal {n : Nat} {c : Char} (h : c ∈ decimal n) : c.isDigit = true :=
  Nat.isDigit_of_mem_toDigits (by decide) (by decide) h

theorem decimal_ne_nil (n : Nat) : decimal n ≠ [] := Nat.toDigits_ne_nil

theorem length_decimal_le_iff {n k : Nat} (hk : 0 < k) : (decimal n).length ≤ k ↔ n < 10 ^ k :=
  Nat.length_toDigits_le_iff (by decide) hk

theorem digitsValue_decimal (n : Nat) : digitsValue (decimal n) = n := Nat.ofDigitChars_ten_toDigits

/-- Zeros in front do not count. -/
theorem digitsValue_zeros_append (k : Nat) (digits : List Char) :
    digitsValue (List.replicate k '0' ++ digits) = digitsValue digits := by
  have hzeros : (List.replicate k '0').foldl (fun n c => 10 * n + (c.toNat - '0'.toNat)) 0 = 0 :=
    Nat.ofDigitChars_replicate_zero
  rw [digitsValue, List.foldl_append, hzeros]
  rfl

/-- Only the number 0 begins with a zero. -/
theorem decimal_eq_zero_cons {n : Nat} {s : List Char} (h : decimal n = '0' :: s) : s = [] := by
  induction n using Nat.strongRecOn generalizing s with
  | ind n ih =>
    by_cases hn : n < 10
    · rw [decimal, Nat.toDigits_of_lt_base hn] at h
      exact (List.cons.inj h).2.symm
    · rw [decimal, Nat.toDigits_of_base_le (by decide) (Nat.le_of_not_lt hn)] at h
      cases hfront : decimal (n / 10) with
      | nil => exact absurd hfront (decimal_ne_nil _)
      | cons c front =>
        obtain ⟨rfl, -⟩ : c = '0' ∧ front ++ [(n % 10).digitChar] = s := by
          rw [decimal] at hfront
          rw [hfront] at h
          exact List.cons.inj h
        -- What leads is more than one digit, or it is the digit 0 of a number that is not 0.
        have hnil : front = [] := ih (n / 10) (by omega) hfront
        have hvalue := digitsValue_decimal (n / 10)
        rw [hfront, hnil] at hvalue
        have hzero : n / 10 = 0 := hvalue.symm
        omega

/-- Whether a text does not go on with digits. -/
def EndsDigits (rest : List Char) : Prop := ∀ c s, rest = c :: s → c.isDigit = false

theorem endsDigits_nil : EndsDigits [] := nofun

theorem endsDigits_cons {c : Char} (h : c.isDigit = false) (s : List Char) :
    EndsDigits (c :: s) := by
  rintro _ _ ⟨⟩
  exact h

theorem EndsDigits.take {rest : List Char} (h : EndsDigits rest) (n : Nat) :
    EndsDigits (rest.take n) := by
  intro c s hs
  refine h c (s ++ rest.drop n) ?_
  rw [← List.cons_append, ← hs, List.take_append_drop]

/-- Digits are cut off where they end. -/
theorem takeWhile_isDigit_append {digits rest : List Char} (h : ∀ c ∈ digits, c.isDigit = true)
    (hrest : EndsDigits rest) : (digits ++ rest).takeWhile Char.isDigit = digits := by
  rw [List.takeWhile_append_of_pos h]
  cases rest with
  | nil => simp
  | cons c s => simp [hrest c s rfl]

theorem dropWhile_isDigit_append {digits rest : List Char} (h : ∀ c ∈ digits, c.isDigit = true)
    (hrest : EndsDigits rest) : (digits ++ rest).dropWhile Char.isDigit = rest := by
  rw [List.dropWhile_append_of_pos h]
  cases rest with
  | nil => simp
  | cons c s => simp [hrest c s rfl]

/-! ## Hexadecimal digits -/

theorem hexValue?_hexChar (d : Fin 16) : hexValue? (hexChar d) = some d := by
  revert d
  decide

/-- Digits that are written are read back one by one. -/
theorem mapM_hexValue?_hexChar (digits : List (Fin 16)) :
    (digits.map hexChar).mapM hexValue? = some digits := by
  induction digits with
  | nil => rfl
  | cons d digits ih => simp [List.mapM_cons, hexValue?_hexChar, ih]

end RemoteFleet.Text
