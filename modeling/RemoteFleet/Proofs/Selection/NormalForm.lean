import RemoteFleet.Proofs.Selection.Display

/-!
# Selections that come back as they were

`parse_display` says what the text of a selection is read as, if there is a phrase for the
selection.  Here it is said of every selection.

* `not_hasPhrase_iff`: three selections have no phrase.  They are the list and the left out list
  without members, and the range that is open at both ends.  Their texts are refused.
* `readBack_eq_self_iff`: of the others, those come back as they were that do not exclude their
  lower end.  An excluded end comes back as the included end after it (`readBack_above`).
* `write_readBack`: what comes back is written as before.

So a text that was written once stays the same when it is read and written again.
-/

namespace RemoteFleet

theorem IndexSet.eq_empty_iff {s : IndexSet} : s = .empty ↔ s.toList = [] := by
  obtain ⟨l, hl⟩ := s
  show IndexSet.mk l hl = .mk [] .nil ↔ l = []
  rw [IndexSet.mk.injEq]

theorem Bound.inclusive_eq_self_iff {b : Bound} : b.inclusive = b ↔ ∀ k, b ≠ .excluded k := by
  cases b <;> simp [Bound.inclusive]

namespace Selection

variable {s s' : Selection}

/-! ## Selections without a phrase -/

theorem not_hasPhrase_iff :
    ¬s.HasPhrase ↔ s = .only .empty ∨ s = .except .empty ∨ s = .range .unbounded .unbounded := by
  cases s <;> simp [HasPhrase, IndexSet.eq_empty_iff]

/-- Without a phrase, nothing is written, or a sign with nothing behind it, or dots alone. -/
theorem parse_display_of_not_hasPhrase (h : ¬s.HasPhrase) :
    ∃ fault, parse s.display = .error fault := by
  rcases not_hasPhrase_iff.1 h with rfl | rfl | rfl
  · exact ⟨.emptyPredicate, rfl⟩
  · exact ⟨.notAnIndex "", rfl⟩
  · exact ⟨.openRange, rfl⟩

theorem parse_display_eq_ok_iff :
    parse s.display = .ok s' ↔ s.HasPhrase ∧ s.readBack = s' := by
  by_cases h : s.HasPhrase
  · rw [parse_display h]
    simp [h]
  · obtain ⟨fault, hfault⟩ := parse_display_of_not_hasPhrase h
    rw [hfault]
    simp [h]

theorem exists_parse_display_error_iff :
    (∃ fault, parse s.display = .error fault) ↔ ¬s.HasPhrase := by
  constructor
  · rintro ⟨fault, hfault⟩ h
    rw [parse_display h] at hfault
    cases hfault
  · exact parse_display_of_not_hasPhrase

/-! ## What comes back -/

theorem readBack_eq_self_iff : s.readBack = s ↔ ∀ k upper, s ≠ .range (.excluded k) upper := by
  cases s with
  | range lower upper =>
    have hlower : (Selection.range lower upper).readBack = .range lower upper ↔
        lower.inclusive = lower := by
      simp [readBack]
    rw [hlower, Bound.inclusive_eq_self_iff]
    simp
  | _ => simp [readBack]

/-- Below the greatest index there is a next one. -/
theorem nextIndex_of_lt {k : UInt32} (h : k < 0xFFFFFFFF) : nextIndex k = k + 1 := by
  unfold nextIndex
  apply if_neg
  rintro rfl
  exact absurd h (by decide)

theorem readBack_above {k : UInt32} (h : k < 0xFFFFFFFF) (upper : Bound) :
    (Selection.range (.excluded k) upper).readBack = .range (.included (k + 1)) upper := by
  show Selection.range (.included (nextIndex k)) upper = _
  rw [nextIndex_of_lt h]

theorem writeLower_inclusive (b : Bound) : writeLower b.inclusive = writeLower b := by
  cases b <;> rfl

/-- What comes back is written as before. -/
theorem write_readBack (s : Selection) : s.readBack.write = s.write := by
  cases s with
  | range lower upper =>
    show writeLower lower.inclusive ++ ['.', '.'] ++ writeUpper upper = _
    rw [writeLower_inclusive]
    rfl
  | _ => rfl

/-- The text of a selection is refused if the selection has no phrase.  Otherwise the selection
comes back, with its lower end included, and it has the same text again. -/
theorem display_normalizes (s : Selection) :
    ((∃ fault, parse s.display = .error fault) ↔
      s = .only .empty ∨ s = .except .empty ∨ s = .range .unbounded .unbounded) ∧
    (parse s.display = .ok s ↔
      ¬(s = .only .empty ∨ s = .except .empty ∨ s = .range .unbounded .unbounded) ∧
        ∀ k upper, s ≠ .range (.excluded k) upper) ∧
    (∀ k upper, s = .range (.excluded k) upper → k < 0xFFFFFFFF →
      parse s.display = .ok (.range (.included (k + 1)) upper)) ∧
    ∀ s', parse s.display = .ok s' → s'.display = s.display := by
  refine ⟨?_, ?_, ?_, ?_⟩
  · rw [exists_parse_display_error_iff, not_hasPhrase_iff]
  · rw [parse_display_eq_ok_iff, readBack_eq_self_iff, ← not_hasPhrase_iff, Classical.not_not]
  · rintro k upper rfl hk
    have hphrase : (Selection.range (.excluded k) upper).HasPhrase := by
      simp [HasPhrase]
    exact parse_display_eq_ok_iff.2 ⟨hphrase, readBack_above hk upper⟩
  · intro s' hs'
    obtain ⟨_, rfl⟩ := parse_display_eq_ok_iff.1 hs'
    show String.ofList s.readBack.write = String.ofList s.write
    rw [write_readBack]

/-- A range above an index, a list, and an empty list. -/
theorem display_normalizes_samples :
    parse (Selection.range (.excluded 3) (.included 7)).display
        = .ok (.range (.included 4) (.included 7)) ∧
      (Selection.range (.included 4) (.included 7)).display
        = (Selection.range (.excluded 3) (.included 7)).display ∧
      parse (Selection.except (.ofList [5, 2])).display = .ok (.except (.ofList [2, 5])) ∧
      ∃ fault, parse (Selection.only .empty).display = .error fault := by
  obtain ⟨_, _, habove, hagain⟩ := display_normalizes (.range (.excluded 3) (.included 7))
  have hrange := habove 3 (.included 7) rfl (by decide)
  obtain ⟨_, hexcept, _, _⟩ := display_normalizes (.except (.ofList [5, 2]))
  obtain ⟨hempty, _, _, _⟩ := display_normalizes (.only .empty)
  refine ⟨hrange, hagain _ hrange, ?_, hempty.2 (.inl rfl)⟩
  show _ = Except.ok (Selection.except (.ofList [5, 2]))
  apply hexcept.2
  exact ⟨by decide, by simp⟩

end Selection

end RemoteFleet
