import RemoteFleet.Text.Classes
import RemoteFleet.Text.Numeral
import RemoteFleet.Text.Split

/-!
# What readers of small texts accept

Each of the functions that cut and read texts, said from the side of the text.

* `trim_eq_iff`: trimming gives the text that stands between blanks.
* `pieces_append`, `cutOnce?_append`: a separator that does not occur before is where a text is cut.
* `cutOnce?_eq_some_iff`: what stands before the cut holds no separator, also not one that the
  separator itself would complete.
* `readUInt32_eq_ok_iff`: what is read as a number is a numeral of that number.
-/

namespace RemoteFleet.Text

/-! ## Readers after readers -/

variable {ε α β : Type}

theorem map_eq_ok_iff {e : Except ε α} {f : α → β} {b : β} :
    e.map f = .ok b ↔ ∃ a, e = .ok a ∧ b = f a := by
  cases e <;> simp [Except.map, eq_comm]

theorem mapError_eq_ok_iff {ε' : Type} {e : Except ε α} {f : ε → ε'} {a : α} :
    e.mapError f = .ok a ↔ e = .ok a := by
  cases e with
  | error e =>
    change Except.error (f e) = .ok a ↔ Except.error e = .ok a
    simp
  | ok b =>
    change Except.ok b = .ok a ↔ Except.ok b = .ok a
    simp

theorem bind_eq_ok_iff {e : Except ε α} {f : α → Except ε β} {b : β} :
    (e >>= f) = .ok b ↔ ∃ a, e = .ok a ∧ f a = .ok b := by
  cases e <;> simp [bind, Except.bind]

/-! ## Blanks -/

/-- A text that neither begins nor ends with a blank. -/
structure Trimmed (w : List Char) : Prop where
  head : ∀ c s, w = c :: s → isBlank c = false
  last : ∀ c s, w = s ++ [c] → isBlank c = false

theorem isAllBlank_iff {s : List Char} : isAllBlank s = true ↔ ∀ c ∈ s, isBlank c = true :=
  List.all_eq_true

theorem isAllBlank_append {a b : List Char} :
    isAllBlank (a ++ b) = true ↔ isAllBlank a = true ∧ isAllBlank b = true := by
  rw [isAllBlank, List.all_append, Bool.and_eq_true]
  rfl

/-- A character that is no blank does not stand among blanks. -/
theorem not_mem_of_isAllBlank {b : List Char} (hb : isAllBlank b = true) {c : Char}
    (hc : isBlank c = false) : c ∉ b := by
  intro hmem
  rw [isAllBlank_iff.1 hb c hmem] at hc
  cases hc

/-- Blanks are what is taken off the start. -/
theorem exists_blank_trimStart (s : List Char) :
    ∃ b, isAllBlank b = true ∧ s = b ++ trimStart s ∧
      ∀ c r, trimStart s = c :: r → isBlank c = false := by
  induction s with
  | nil => exact ⟨[], rfl, rfl, fun c r h => by cases h⟩
  | cons c s ih =>
    obtain ⟨b, hb, hs, hhead⟩ := ih
    cases hc : isBlank c with
    | true =>
      have hstart : trimStart (c :: s) = trimStart s := by simp [trimStart, hc]
      refine ⟨c :: b, ?_, ?_, hstart ▸ hhead⟩
      · exact isAllBlank_iff.2 (List.forall_mem_cons.2 ⟨hc, isAllBlank_iff.1 hb⟩)
      · rw [hstart, List.cons_append, ← hs]
    | false =>
      have hstart : trimStart (c :: s) = c :: s := by simp [trimStart, hc]
      refine ⟨[], rfl, by rw [hstart, List.nil_append], ?_⟩
      intro c' r h
      rw [hstart] at h
      cases h
      exact hc

theorem trimStart_append {b : List Char} (hb : isAllBlank b = true) (s : List Char) :
    trimStart (b ++ s) = trimStart s :=
  List.dropWhile_append_of_pos (isAllBlank_iff.1 hb)

/-- A text that does not begin with a blank stays as it is. -/
theorem trimStart_eq_self {s : List Char} (h : ∀ c r, s = c :: r → isBlank c = false) :
    trimStart s = s := by
  cases s with
  | nil => rfl
  | cons c s => simp [trimStart, h c s rfl]

theorem trimEnd_eq (s : List Char) : trimEnd s = (trimStart s.reverse).reverse := rfl

theorem trimEnd_append {b : List Char} (hb : isAllBlank b = true) (s : List Char) :
    trimEnd (s ++ b) = trimEnd s := by
  have hreverse : isAllBlank b.reverse = true := by
    rw [isAllBlank, List.all_reverse]
    exact hb
  rw [trimEnd_eq, List.reverse_append, trimStart_append hreverse]
  rfl

/-- A text that does not end with a blank stays as it is. -/
theorem trimEnd_eq_self {s : List Char} (h : ∀ c r, s = r ++ [c] → isBlank c = false) :
    trimEnd s = s := by
  have hreverse : trimStart s.reverse = s.reverse := by
    refine trimStart_eq_self ?_
    intro c r hs
    refine h c r.reverse ?_
    rw [← List.reverse_reverse s, hs, List.reverse_cons]
  rw [trimEnd_eq, hreverse, List.reverse_reverse]

/-- What stands between blanks is what is left of the text. -/
theorem trim_append {b b' w : List Char} (hw : Trimmed w) (hb : isAllBlank b = true)
    (hb' : isAllBlank b' = true) : trim (b ++ w ++ b') = w := by
  cases w with
  | nil =>
    have hnothing : trimStart (b ++ [] ++ b') = [] := by
      rw [List.append_nil, trimStart_append hb]
      have hall := trimStart_append hb' []
      rw [List.append_nil] at hall
      exact hall
    rw [trim, hnothing]
    rfl
  | cons c w =>
    have hstart : trimStart (b ++ (c :: w) ++ b') = c :: w ++ b' := by
      rw [List.append_assoc, trimStart_append hb]
      exact trimStart_eq_self fun c' r h => hw.head c' w (by cases h; rfl)
    rw [trim, hstart, trimEnd_append hb', trimEnd_eq_self hw.last]

/-- Blanks are what is taken off the end. -/
theorem exists_blank_trimEnd (s : List Char) :
    ∃ b, isAllBlank b = true ∧ s = trimEnd s ++ b ∧
      ∀ c r, trimEnd s = r ++ [c] → isBlank c = false := by
  obtain ⟨b, hb, hs, hlast⟩ := exists_blank_trimStart s.reverse
  refine ⟨b.reverse, ?_, ?_, ?_⟩
  · rw [isAllBlank, List.all_reverse]
    exact hb
  · rw [trimEnd_eq, ← List.reverse_append, ← hs, List.reverse_reverse]
  · intro c r h
    refine hlast c r.reverse ?_
    rw [trimEnd_eq, List.reverse_eq_iff, List.reverse_append] at h
    exact h

/-- What a text ends with, it ends with behind any other text. -/
theorem last_of_append {t : List Char} (hne : t ≠ [])
    (ht : ∀ c r, t = r ++ [c] → isBlank c = false) (a : List Char) :
    ∀ c r, a ++ t = r ++ [c] → isBlank c = false := by
  intro c r h
  rcases List.eq_nil_or_concat t with rfl | ⟨t', x, hx⟩
  · exact absurd rfl hne
  · rw [List.concat_eq_append] at hx
    rw [hx, ← List.append_assoc] at h
    obtain ⟨_, hc⟩ := List.append_inj' h rfl
    cases hc
    exact ht c t' hx

/-- Nothing is taken from before the last character that is no blank. -/
theorem trimEnd_append_of_last {a : List Char} (ha : ∀ c r, a = r ++ [c] → isBlank c = false)
    (s : List Char) : trimEnd (a ++ s) = a ++ trimEnd s := by
  obtain ⟨b, hb, hs, hlast⟩ := exists_blank_trimEnd s
  have hend : ∀ c r, a ++ trimEnd s = r ++ [c] → isBlank c = false := by
    by_cases hnil : trimEnd s = []
    · rw [hnil, List.append_nil]
      exact ha
    · exact last_of_append hnil hlast a
  calc trimEnd (a ++ s) = trimEnd (a ++ trimEnd s ++ b) := by rw [List.append_assoc, ← hs]
    _ = trimEnd (a ++ trimEnd s) := trimEnd_append hb _
    _ = a ++ trimEnd s := trimEnd_eq_self hend

/-- Blanks are what is taken off the ends, and no blank is left there. -/
theorem exists_blank_trim (s : List Char) :
    ∃ b b', isAllBlank b = true ∧ isAllBlank b' = true ∧ s = b ++ trim s ++ b' ∧
      Trimmed (trim s) := by
  obtain ⟨b, hb, hs, hhead⟩ := exists_blank_trimStart s
  obtain ⟨b', hb', hs', hlast⟩ := exists_blank_trimEnd (trimStart s)
  refine ⟨b, b', hb, hb', ?_, ?_, hlast⟩
  · rw [List.append_assoc, trim, ← hs']
    exact hs
  · intro c t h
    refine hhead c (t ++ b') ?_
    rw [hs', ← trim, h, List.cons_append]

theorem trimmed_trim (s : List Char) : Trimmed (trim s) := by
  obtain ⟨_, _, _, _, _, htrimmed⟩ := exists_blank_trim s
  exact htrimmed

theorem Trimmed.trim_eq {w : List Char} (hw : Trimmed w) : trim w = w := by
  rw [trim, trimStart_eq_self hw.head, trimEnd_eq_self hw.last]

/-- A text is trimmed if it begins and ends with trimmed texts, whatever stands between them. -/
theorem Trimmed.append {w w' : List Char} (hw : Trimmed w) (hw' : Trimmed w') (hne : w ≠ [])
    (hne' : w' ≠ []) (s : List Char) : Trimmed (w ++ s ++ w') where
  head c t h := by
    obtain ⟨x, w, rfl⟩ := List.exists_cons_of_ne_nil hne
    rw [List.cons_append, List.cons_append] at h
    cases h
    exact hw.head c w rfl
  last := last_of_append hne' hw'.last (w ++ s)

theorem trim_eq_iff {s w : List Char} (hw : Trimmed w) :
    trim s = w ↔ ∃ b b', isAllBlank b = true ∧ isAllBlank b' = true ∧ s = b ++ w ++ b' := by
  constructor
  · rintro rfl
    obtain ⟨b, b', hb, hb', hs, _⟩ := exists_blank_trim s
    exact ⟨b, b', hb, hb', hs⟩
  · rintro ⟨b, b', hb, hb', rfl⟩
    exact trim_append hw hb hb'

/-- Nothing is left of blanks, and of nothing else. -/
theorem trim_eq_nil_iff {s : List Char} : trim s = [] ↔ isAllBlank s = true := by
  have hempty : Trimmed [] := ⟨by simp, by simp⟩
  rw [trim_eq_iff hempty]
  constructor
  · rintro ⟨b, b', hb, hb', rfl⟩
    rw [List.append_nil]
    exact isAllBlank_append.2 ⟨hb, hb'⟩
  · intro h
    exact ⟨[], s, rfl, h, rfl⟩

/-! ## Separators -/

theorem pieces_of_not_mem {c : Char} {s : List Char} (h : c ∉ s) : pieces c s = [s] := by
  induction s with
  | nil => rfl
  | cons x s ih =>
    rw [List.mem_cons, not_or] at h
    rw [pieces, if_neg (Ne.symm h.1), ih h.2]

/-- The first piece ends where the separator first occurs. -/
theorem pieces_append {c : Char} {a : List Char} (h : c ∉ a) (s : List Char) :
    pieces c (a ++ c :: s) = a :: pieces c s := by
  induction a with
  | nil => rw [List.nil_append, pieces, if_pos rfl]
  | cons x a ih =>
    rw [List.mem_cons, not_or] at h
    rw [List.cons_append, pieces, if_neg (Ne.symm h.1), ih h.2]

/-- Pieces with separators between them are found again. -/
theorem pieces_intercalate {c : Char} {ps : List (List Char)} (hne : ps ≠ [])
    (h : ∀ p ∈ ps, c ∉ p) : pieces c ([c].intercalate ps) = ps := by
  induction ps with
  | nil => exact absurd rfl hne
  | cons p ps ih =>
    rw [List.forall_mem_cons] at h
    cases ps with
    | nil =>
      rw [List.intercalate_singleton]
      exact pieces_of_not_mem h.1
    | cons q ps =>
      rw [List.intercalate_cons_cons, List.append_assoc, List.singleton_append,
        pieces_append h.1, ih (List.cons_ne_nil q ps) h.2]

/-- A text without a character, or what stands before and behind its first occurrence. -/
theorem not_mem_or_exists_append (c : Char) (s : List Char) :
    c ∉ s ∨ ∃ a r, c ∉ a ∧ s = a ++ c :: r := by
  by_cases h : c ∈ s
  · obtain ⟨a, r, hs, hnot⟩ := List.eq_append_cons_of_mem h
    exact .inr ⟨a, r, hnot, hs⟩
  · exact .inl h

/-- A text is cut at a separator whose first character does not occur before it. -/
theorem cutOnce?_append {c : Char} {before : List Char} (h : c ∉ before) (sep after : List Char) :
    cutOnce? (c :: sep) (before ++ (c :: sep) ++ after) = some (before, after) := by
  induction before with
  | nil =>
    rw [List.nil_append, List.cons_append, cutOnce?,
      cutPrefix?_eq_some_iff.2 (List.cons_append ..).symm]
  | cons x before ih =>
    rw [List.mem_cons, not_or] at h
    have hnone : cutPrefix? (c :: sep) (x :: (before ++ (c :: sep) ++ after)) = none := by
      rw [cutPrefix?, if_neg h.1]
    rw [List.cons_append, List.cons_append, cutOnce?, hnone]
    simp only [ih h.2, Option.map_some]

/-- A separator whose first character does not occur does not occur. -/
theorem cutOnce?_eq_none {c : Char} {s : List Char} (h : c ∉ s) (sep : List Char) :
    cutOnce? (c :: sep) s = none := by
  cases hcut : cutOnce? (c :: sep) s with
  | none => rfl
  | some cut =>
    refine absurd ?_ h
    rw [eq_of_cutOnce? hcut]
    simp

theorem cutPrefix?_eq_none_iff {p s : List Char} : cutPrefix? p s = none ↔ ¬p <+: s := by
  rw [Option.eq_none_iff_forall_ne_some]
  constructor
  · rintro h ⟨rest, rfl⟩
    exact h rest (cutPrefix?_eq_some_iff.2 rfl)
  · rintro h rest hrest
    exact h ⟨rest, (cutPrefix?_eq_some_iff.1 hrest).symm⟩

/-- A text that is not cut is one in which the separator does not occur. -/
theorem cutOnce?_eq_none_iff {sep s : List Char} : cutOnce? sep s = none ↔ ¬sep <:+: s := by
  induction s with
  | nil => simp [cutOnce?]
  | cons c s ih =>
    rw [List.infix_cons_iff, not_or, ← ih, ← cutPrefix?_eq_none_iff, cutOnce?]
    cases cutPrefix? sep (c :: s) <;> simp

/-- Whether a text begins with a separator is known before the first separator in it is over. -/
theorem isPrefix_first_iff {sep : List Char} (hsep : sep ≠ []) (c : Char)
    (before after : List Char) :
    sep <+: c :: (before ++ sep.dropLast) ↔ sep <+: c :: (before ++ sep ++ after) := by
  have hshort : sep.dropLast <+: sep := List.dropLast_prefix sep
  have hbegin : c :: (before ++ sep.dropLast) <+: c :: (before ++ sep ++ after) := by
    rw [List.cons_prefix_cons, List.append_assoc, List.prefix_append_right_inj]
    exact ⟨rfl, hshort.trans (List.prefix_append sep after)⟩
  have hpos := List.length_pos_iff.2 hsep
  refine ⟨fun h => h.trans hbegin, fun h => List.prefix_of_prefix_length_le h hbegin ?_⟩
  simp only [List.length_cons, List.length_append, List.length_dropLast]
  omega

/-- A text is cut at the first place where the separator is complete. -/
theorem cutOnce?_eq_some_iff {sep s before after : List Char} (hsep : sep ≠ []) :
    cutOnce? sep s = some (before, after) ↔
      s = before ++ sep ++ after ∧ ¬sep <:+: before ++ sep.dropLast := by
  constructor
  · intro h
    refine ⟨eq_of_cutOnce? h, ?_⟩
    induction s generalizing before with
    | nil =>
      rw [cutOnce?, if_neg hsep] at h
      cases h
    | cons c s ih =>
      rw [cutOnce?] at h
      cases hcut : cutPrefix? sep (c :: s) with
      | some rest =>
        rw [hcut] at h
        cases h
        intro hinfix
        have hle := hinfix.length_le
        have hpos := List.length_pos_iff.2 hsep
        simp only [List.nil_append, List.length_dropLast] at hle
        omega
      | none =>
        rw [hcut] at h
        obtain ⟨⟨b, a⟩, hb, he⟩ := Option.map_eq_some_iff.1 h
        cases he
        rw [List.cons_append, List.infix_cons_iff, not_or, isPrefix_first_iff hsep c b after,
          ← eq_of_cutOnce? hb, ← cutPrefix?_eq_none_iff]
        exact ⟨hcut, ih hb⟩
  · rintro ⟨rfl, hfirst⟩
    induction before with
    | nil =>
      cases sep with
      | nil => exact absurd rfl hsep
      | cons c sep => exact cutOnce?_append List.not_mem_nil sep after
    | cons c before ih =>
      rw [List.cons_append, List.infix_cons_iff, not_or, isPrefix_first_iff hsep c before after,
        ← cutPrefix?_eq_none_iff] at hfirst
      rw [List.cons_append, List.cons_append, cutOnce?, hfirst.1]
      simp only [ih hfirst.2, Option.map_some]

/-! ## Numerals -/

/-- Digits that stand for a number. -/
def IsDecimal (digits : List Char) (n : Nat) : Prop :=
  (∀ c ∈ digits, c.isDigit = true) ∧ digitsValue digits = n

/-- A numeral of a number: digits, with or without a sign `+` in front. -/
def IsNumeral (s : List Char) (n : Nat) : Prop :=
  ∃ digits, digits ≠ [] ∧ IsDecimal digits n ∧ (s = digits ∨ s = '+' :: digits)

/-- The value of digits that are read onto a number. -/
def valueOnto (acc : Nat) (digits : List Char) : Nat :=
  digits.foldl (fun n c => 10 * n + (c.toNat - '0'.toNat)) acc

/-- More digits do not make a number smaller. -/
theorem le_valueOnto (acc : Nat) (digits : List Char) : acc ≤ valueOnto acc digits := by
  induction digits generalizing acc with
  | nil => exact Nat.le_refl acc
  | cons c digits ih =>
    have hstep : acc ≤ 10 * acc + (c.toNat - '0'.toNat) := by omega
    exact Nat.le_trans hstep (ih _)

theorem readDigits_eq_ok_iff {limit acc n : Nat} {s : List Char} (hacc : acc ≤ limit) :
    readDigits limit acc s = .ok n ↔
      (∀ c ∈ s, c.isDigit = true) ∧ valueOnto acc s = n ∧ n ≤ limit := by
  induction s generalizing acc with
  | nil =>
    constructor
    · intro h
      cases h
      exact ⟨by simp, rfl, hacc⟩
    · rintro ⟨_, rfl, _⟩
      rfl
  | cons c s ih =>
    rw [readDigits, digit?]
    cases hdigit : c.isDigit with
    | false => simp [hdigit]
    | true =>
      simp only [if_true]
      by_cases hlarge : limit < 10 * acc + (c.toNat - '0'.toNat)
      · have hover : limit < valueOnto acc (c :: s) :=
          Nat.lt_of_lt_of_le hlarge (le_valueOnto _ s)
        rw [if_pos hlarge]
        constructor
        · intro h
          cases h
        · rintro ⟨_, rfl, hle⟩
          omega
      · rw [if_neg hlarge, ih (Nat.le_of_not_lt hlarge)]
        simp [hdigit, valueOnto]

theorem readDigits_zero {limit n : Nat} {s : List Char} :
    readDigits limit 0 s = .ok n ↔ IsDecimal s n ∧ n ≤ limit := by
  rw [readDigits_eq_ok_iff (Nat.zero_le limit), IsDecimal, and_assoc]
  rfl

/-- A sign is no digit, so what follows it is the numeral without it. -/
theorem isNumeral_sign {s : List Char} {n : Nat} :
    IsNumeral ('+' :: s) n ↔ s ≠ [] ∧ IsDecimal s n := by
  constructor
  · rintro ⟨digits, hne, hdecimal, rfl | heq⟩
    · cases hdecimal.1 '+' List.mem_cons_self
    · cases heq
      exact ⟨hne, hdecimal⟩
  · rintro ⟨hne, hdecimal⟩
    exact ⟨s, hne, hdecimal, .inr rfl⟩

theorem isNumeral_digits {c : Char} {s : List Char} {n : Nat} (hc : c ≠ '+') :
    IsNumeral (c :: s) n ↔ IsDecimal (c :: s) n := by
  constructor
  · rintro ⟨digits, _, hdecimal, rfl | heq⟩
    · exact hdecimal
    · cases heq
      exact absurd rfl hc
  · intro hdecimal
    exact ⟨c :: s, List.cons_ne_nil c s, hdecimal, .inl rfl⟩

theorem readNumeral_eq_ok_iff {limit n : Nat} {s : List Char} :
    readNumeral limit s = .ok n ↔ IsNumeral s n ∧ n ≤ limit := by
  cases s with
  | nil =>
    constructor
    · intro h
      cases h
    · rintro ⟨⟨digits, hne, _, rfl | heq⟩, _⟩
      · exact absurd rfl hne
      · cases heq
  | cons c s =>
    by_cases hc : c = '+'
    · subst hc
      rw [isNumeral_sign]
      cases s with
      | nil => simp [readNumeral]
      | cons d s =>
        have hread : readNumeral limit ('+' :: d :: s) = readDigits limit 0 (d :: s) := rfl
        rw [hread, readDigits_zero]
        simp
    · have hread : readNumeral limit (c :: s) = readDigits limit 0 (c :: s) := by
        simp [readNumeral, hc]
      rw [hread, readDigits_zero, isNumeral_digits hc]

/-- What is read as a number is a numeral of it. -/
theorem readUInt32_eq_ok_iff {s : List Char} {k : UInt32} :
    readUInt32 s = .ok k ↔ IsNumeral s k.toNat := by
  rw [readUInt32]
  constructor
  · intro h
    cases hread : readNumeral 0xFFFFFFFF s with
    | error e =>
      rw [hread] at h
      cases h
    | ok n =>
      obtain ⟨hnumeral, hle⟩ := readNumeral_eq_ok_iff.1 hread
      rw [hread] at h
      cases h
      have hvalue : n.toUInt32.toNat = n := Nat.mod_eq_of_lt (Nat.lt_succ_of_le hle)
      rw [hvalue]
      exact hnumeral
  · intro h
    have hle : k.toNat ≤ 0xFFFFFFFF := Nat.le_of_lt_succ k.toNat_lt
    rw [readNumeral_eq_ok_iff.2 ⟨h, hle⟩]
    simp [Except.map]

/-- The characters of a numeral. -/
theorem IsNumeral.mem {s : List Char} {n : Nat} (h : IsNumeral s n) :
    ∀ c ∈ s, c = '+' ∨ c.isDigit = true := by
  obtain ⟨digits, _, hdecimal, rfl | rfl⟩ := h
  · exact fun c hc => .inr (hdecimal.1 c hc)
  · exact List.forall_mem_cons.2 ⟨.inl rfl, fun c hc => .inr (hdecimal.1 c hc)⟩

/-- Only a sign and digits stand in a numeral. -/
theorem IsNumeral.not_mem {s : List Char} {n : Nat} (h : IsNumeral s n) {c : Char}
    (hplus : c ≠ '+') (hdigit : c.isDigit = false) : c ∉ s := by
  intro hc
  rcases h.mem c hc with heq | htrue
  · exact hplus heq
  · rw [hdigit] at htrue
    cases htrue

/-- The digits of a number are a numeral of it. -/
theorem isNumeral_decimal (n : Nat) : IsNumeral (decimal n) n := by
  have hdigits : ∀ c ∈ decimal n, c.isDigit = true :=
    fun c hc => Nat.isDigit_of_mem_toDigits (by decide) (by decide) hc
  have hvalue : digitsValue (decimal n) = n := Nat.ofDigitChars_ten_toDigits
  exact ⟨decimal n, Nat.toDigits_ne_nil, ⟨hdigits, hvalue⟩, .inl rfl⟩

theorem IsNumeral.ne_nil {s : List Char} {n : Nat} (h : IsNumeral s n) : s ≠ [] := by
  obtain ⟨digits, hne, _, rfl | rfl⟩ := h
  · exact hne
  · exact List.cons_ne_nil _ _

/-- No character of a numeral is a blank. -/
theorem isBlank_of_isNumeral {c : Char} (h : c = '+' ∨ c.isDigit = true) : isBlank c = false := by
  rcases h with rfl | hdigit
  · rfl
  · simp only [Char.isDigit, Bool.and_eq_true, decide_eq_true_eq] at hdigit
    have hbounds : 48 ≤ c.toNat ∧ c.toNat ≤ 57 := hdigit
    refine Bool.eq_false_iff.2 fun hblank => ?_
    obtain ⟨range, hmem, hrange⟩ := inRanges_iff.1 hblank
    simp only [blankRanges, List.mem_cons, List.not_mem_nil, or_false] at hmem
    rcases hmem with rfl | rfl | rfl | rfl | rfl | rfl | rfl | rfl | rfl | rfl <;> omega

theorem IsNumeral.trimmed {s : List Char} {n : Nat} (h : IsNumeral s n) : Trimmed s where
  head c _ hs := isBlank_of_isNumeral (h.mem c (hs ▸ List.mem_cons_self))
  last c r hs := isBlank_of_isNumeral (h.mem c (hs ▸ List.mem_append_right r List.mem_cons_self))

end RemoteFleet.Text
