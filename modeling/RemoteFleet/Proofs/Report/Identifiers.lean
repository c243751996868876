import RemoteFleet.Report.Uuid
import RemoteFleet.Proofs.Text.Digits

/-!
# Run identifiers, written and read back

An identifier is written in groups, and of the forms that are read only the grouped one fits: the
text has a hyphen, so it is no plain one, and it begins with a digit, so nothing stands around it.

* `joinGroups?_writeGroups`: groups that are cut are joined again, whatever their lengths.
* `read?_write`: every identifier comes back.
-/

namespace RemoteFleet.Uuid

theorem joinGroups?_writeGroups {lengths : List Nat} (hne : lengths ≠ []) {s : List Char}
    (h : s.length = lengths.sum) : joinGroups? lengths (writeGroups lengths s) = some s := by
  induction lengths generalizing s with
  | nil => exact absurd rfl hne
  | cons n lengths ih =>
    rw [List.sum_cons] at h
    cases lengths with
    | nil =>
      rw [List.sum_nil, Nat.add_zero] at h
      rw [writeGroups, joinGroups?, List.take_of_length_le (Nat.le_of_eq h), if_pos h]
    | cons n' lengths =>
      have hlength : (s.take n).length = n := by
        rw [List.length_take]
        omega
      have hrest : joinGroups? (n' :: lengths) (writeGroups (n' :: lengths) (s.drop n))
          = some (s.drop n) := by
        refine ih (List.cons_ne_nil _ _) ?_
        rw [List.length_drop]
        omega
      rw [writeGroups, joinGroups?, List.drop_left' hlength, List.take_left' hlength]
      · simp [hrest]
      · nofun
      · nofun

/-- A hyphen is no digit. -/
theorem readPlain?_of_hyphen {before after : List Char} :
    readPlain? (before ++ '-' :: after) = none := by
  have hhyphen : (before ++ '-' :: after).mapM Text.hexValue? = none := by
    induction before with
    | nil => rfl
    | cons c before ih =>
      rw [List.cons_append, List.mapM_cons, ih]
      cases Text.hexValue? c <;> rfl
  rw [readPlain?, hhyphen]
  rfl

theorem readPlain?_hexChar (u : Uuid) : readPlain? (u.digits.map Text.hexChar) = some u := by
  rw [readPlain?, Text.mapM_hexValue?_hexChar]
  exact dif_pos u.length_eq

theorem readGrouped?_write (u : Uuid) : readGrouped? u.write = some u := by
  have hlength : (u.digits.map Text.hexChar).length = groups.sum := by
    rw [List.length_map, u.length_eq]
    rfl
  have hjoin := joinGroups?_writeGroups (by decide : groups ≠ []) hlength
  rw [readGrouped?, write, hjoin]
  exact readPlain?_hexChar u

/-- No digit begins a brace or the name of the scheme. -/
theorem hexChar_plain (d : Fin 16) :
    Text.hexChar d ≠ '\x7b' ∧ (Text.hexChar d).toLower ≠ 'u' := by
  revert d
  decide

/-- Every identifier comes back. -/
theorem read?_write (u : Uuid) : read? u.write = some u := by
  obtain ⟨d, digits, hdigits⟩ : ∃ d digits, u.digits = d :: digits := by
    refine List.exists_cons_of_ne_nil fun hnil => ?_
    have hlength := u.length_eq
    rw [hnil] at hlength
    cases hlength
  obtain ⟨s, hs⟩ : ∃ s, u.write = Text.hexChar d :: s := by
    rw [write, hdigits]
    exact ⟨_, rfl⟩
  have hplain : readPlain? u.write = none := by
    rw [write]
    exact readPlain?_of_hyphen
  have hdigit := hexChar_plain d
  have hbraces : cutBraces? u.write = none := by
    rw [hs, cutBraces?]
    exact fun rest heq _ => hdigit.1 (List.cons.inj heq).1
  have hscheme : cutScheme? u.write = none := by
    rw [hs, cutScheme?]
    refine if_neg fun heq => ?_
    exact hdigit.2 (List.cons.inj heq).1
  rw [read?, hplain, hbraces, hscheme]
  exact readGrouped?_write u

end RemoteFleet.Uuid
