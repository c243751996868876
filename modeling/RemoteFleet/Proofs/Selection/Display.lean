import RemoteFleet.Proofs.Selection.Grammar

/-!
# Reading back what is written

A selection is written as a phrase, unless it is an empty list or a range that is open at both ends.
`parse_display` says what is read back then: the same selection, but an excluded lower end has
become the included end after it (`Bound.inclusive`).

There is no index after the greatest one.  So the lower end of `> 4294967295` is written as if it
were included, and a text that means no index comes back as one that means the greatest.  No other
text that is read comes back with another meaning (`display_reads_back`).
-/

namespace RemoteFleet

namespace IndexSet

theorem insertInto_of_lt {i : UInt32} {s : List UInt32} (h : ∀ j ∈ s, i < j) :
    insertInto i s = i :: s := by
  cases s with
  | nil => rfl
  | cons j s => rw [insertInto, if_pos (h j List.mem_cons_self)]

theorem toList_ofList {l : List UInt32} (h : l.Pairwise (· < ·)) : (ofList l).toList = l := by
  induction l with
  | nil => rfl
  | cons i l ih =>
    obtain ⟨hi, hl⟩ := List.pairwise_cons.1 h
    show insertInto i (ofList l).toList = i :: l
    rw [ih hl, insertInto_of_lt hi]

/-- A set is the set of its members. -/
theorem ofList_toList (s : IndexSet) : ofList s.toList = s := by
  obtain ⟨l, hl⟩ := s
  rw [IndexSet.mk.injEq]
  exact toList_ofList hl

theorem ofList_ne_nil {l : List UInt32} (h : l ≠ []) : (ofList l).toList ≠ [] := by
  obtain ⟨i, l, rfl⟩ := List.exists_cons_of_ne_nil h
  have hmem : i ∈ ofList (i :: l) := mem_ofList.2 List.mem_cons_self
  exact List.ne_nil_of_mem hmem

end IndexSet

/-- A lower end as it is written, as the first index that it lets through. -/
def Bound.inclusive : Bound → Bound
  | .excluded k => .included (nextIndex k)
  | b => b

theorem Bound.inclusive_eq_unbounded_iff {b : Bound} :
    b.inclusive = .unbounded ↔ b = .unbounded := by
  cases b <;> simp [Bound.inclusive]

namespace Selection

variable {s : Selection}

/-- Whether there is a phrase for the selection. -/
def HasPhrase : Selection → Prop
  | .all => True
  | .nothing => True
  | .range lower upper => ¬(lower = .unbounded ∧ upper = .unbounded)
  | .only s => s.toList ≠ []
  | .except s => s.toList ≠ []

/-- The selection that the text of a selection stands for. -/
def readBack : Selection → Selection
  | .range lower upper => .range lower.inclusive upper
  | s => s

/-! ## What is written is a phrase -/

theorem layout_decimal (k : UInt32) : Layout [.numeral k] (Text.decimal k.toNat) := by
  have h : Layout [.numeral k] ([] ++ Text.decimal k.toNat ++ []) :=
    .cons (.numeral k) [] [] _ [] rfl (Text.isNumeral_decimal k.toNat) (.nil [] rfl)
  rw [List.append_nil] at h
  exact h

theorem layout_intercalate (ks : List UInt32) :
    Layout (listTokens ks) ([','].intercalate (ks.map fun k => Text.decimal k.toNat)) := by
  fun_induction listTokens ks with
  | case1 => exact .nil [] rfl
  | case2 k =>
    rw [List.map_singleton, List.intercalate_singleton]
    exact layout_decimal k
  | case3 k ks hks ih =>
    obtain ⟨j, ks, rfl⟩ := List.exists_cons_of_ne_nil hks
    rw [List.map_cons] at ih
    rw [List.map_cons, List.map_cons, List.intercalate_cons_cons, List.append_assoc]
    exact (layout_decimal k).append (layout_word_append .comma ih)

theorem layout_writeLower (b : Bound) :
    ∃ lower, Layout (lowerTokens lower) (writeLower b) ∧ lowerBound lower = b.inclusive := by
  cases b with
  | unbounded => exact ⟨none, .nil [] rfl, rfl⟩
  | included k => exact ⟨some k, layout_decimal k, rfl⟩
  | excluded k => exact ⟨some (nextIndex k), layout_decimal (nextIndex k), rfl⟩

theorem layout_writeUpper (b : Bound) :
    ∃ upper, Layout (upperTokens upper) (writeUpper b) ∧ upperBound upper = b := by
  cases b with
  | unbounded => exact ⟨none, .nil [] rfl, rfl⟩
  | included k =>
    exact ⟨some (true, k), layout_word_append .closed (layout_decimal k), rfl⟩
  | excluded k => exact ⟨some (false, k), layout_decimal k, rfl⟩

theorem exists_phrase_write (h : s.HasPhrase) :
    ∃ p : Phrase, Layout p.tokens s.write ∧ p.selection = s.readBack := by
  cases s with
  | all => exact ⟨.all, layout_word .all, rfl⟩
  | nothing => exact ⟨.none, layout_word .none, rfl⟩
  | range b b' =>
    obtain ⟨lower, hlower, hlow⟩ := layout_writeLower b
    obtain ⟨upper, hupper, hhigh⟩ := layout_writeUpper b'
    have hends : lower ≠ none ∨ upper ≠ none := by
      rw [ends_iff, hlow, hhigh, Bound.inclusive_eq_unbounded_iff]
      exact h
    have hlayout := hlower.append (layout_word_append .dots hupper)
    rw [← List.append_assoc] at hlayout
    refine ⟨.range lower upper hends, hlayout, ?_⟩
    show Selection.range (lowerBound lower) (upperBound upper) = .range b.inclusive b'
    rw [hlow, hhigh]
  | only s =>
    refine ⟨.list s.toList h, layout_intercalate s.toList, ?_⟩
    show Selection.only (IndexSet.ofList s.toList) = .only s
    rw [IndexSet.ofList_toList]
  | except s =>
    have hblank : Text.isAllBlank [' '] = true := rfl
    have hlayout := (layout_intercalate s.toList).blanks_append hblank
    refine ⟨.unequal s.toList h, layout_word_append .unequal hlayout, ?_⟩
    show Selection.except (IndexSet.ofList s.toList) = .except s
    rw [IndexSet.ofList_toList]

/-- The text of a selection is read, if the selection has a phrase. -/
theorem parse_display (h : s.HasPhrase) : parse s.display = .ok s.readBack := by
  obtain ⟨p, hlayout, hp⟩ := exists_phrase_write h
  refine parse_eq_ok_iff.2 ⟨p, .inl ?_, hp⟩
  rw [display, String.toList_ofList]
  exact hlayout

theorem Phrase.hasPhrase (p : Phrase) : p.selection.HasPhrase := by
  cases p with
  | all => trivial
  | star => trivial
  | none => trivial
  | comparison c k =>
    cases c with
    | equal => exact IndexSet.ofList_ne_nil (List.cons_ne_nil k [])
    | _ => simp [Phrase.selection, Comparison.selection, HasPhrase]
  | range lower upper hends => exact ends_iff.1 hends
  | list members hmembers => exact IndexSet.ofList_ne_nil hmembers
  | unequal others hothers => exact IndexSet.ofList_ne_nil hothers

theorem hasPhrase_of_parse {text : String} (h : parse text = .ok s) : s.HasPhrase := by
  obtain ⟨p, _, rfl⟩ := parse_eq_ok_iff.1 h
  exact p.hasPhrase

/-! ## What is read back means the same -/

theorem le_greatest (i : UInt32) : i ≤ 0xFFFFFFFF := by
  have hsize := i.toNat_lt
  rw [UInt32.le_iff_toNat_le]
  show i.toNat ≤ 4294967295
  omega

theorem nextIndex_le_iff {k : UInt32} (hk : k ≠ 0xFFFFFFFF) (i : UInt32) :
    nextIndex k ≤ i ↔ k < i := by
  have hlt : k < 0xFFFFFFFF := UInt32.lt_of_le_of_ne (le_greatest k) hk
  have hnat : k.toNat < 4294967295 := UInt32.lt_iff_toNat_lt.1 hlt
  have hnext : (k + 1).toNat = k.toNat + 1 := by
    rw [UInt32.toNat_add]
    show (k.toNat + 1) % 4294967296 = k.toNat + 1
    omega
  rw [nextIndex, if_neg hk, UInt32.le_iff_toNat_le, UInt32.lt_iff_toNat_lt, hnext]
  omega

theorem allowsFrom_inclusive {b : Bound} (hb : b ≠ .excluded 0xFFFFFFFF) (i : UInt32) :
    b.inclusive.allowsFrom i = b.allowsFrom i := by
  cases b with
  | unbounded => rfl
  | included k => rfl
  | excluded k =>
    have hk : k ≠ 0xFFFFFFFF := fun h => hb (h ▸ rfl)
    simp only [Bound.inclusive, Bound.allowsFrom, nextIndex_le_iff hk]

/-- What is read back means the same, unless the greatest index has been excluded from below. -/
theorem holds_readBack (h : ∀ upper, s ≠ .range (.excluded 0xFFFFFFFF) upper) (i : UInt32) :
    s.readBack.holds i = s.holds i := by
  cases s with
  | range lower upper =>
    have hlower : lower ≠ .excluded 0xFFFFFFFF := fun heq => h upper (heq ▸ rfl)
    simp only [readBack, holds, allowsFrom_inclusive hlower]
  | _ => rfl

/-- A lower end is excluded by a comparison only. -/
theorem Phrase.eq_above {p : Phrase} {k : UInt32} {upper : Bound}
    (h : p.selection = .range (.excluded k) upper) : p = .comparison .above k := by
  cases p with
  | comparison c j =>
    cases c <;> cases h
    rfl
  | range lower upper hends => rcases lower with _ | j <;> cases h
  | _ => cases h

theorem holds_above_greatest (i : UInt32) :
    (Selection.range (.excluded 0xFFFFFFFF) .unbounded).holds i = false := by
  have hbelow : ¬0xFFFFFFFF < i := UInt32.not_lt.2 (le_greatest i)
  simp [holds, Bound.allowsFrom, hbelow]

theorem holds_from_greatest (i : UInt32) :
    (Selection.range (.included 0xFFFFFFFF) .unbounded).holds i = true ↔ i = 0xFFFFFFFF := by
  have hle := le_greatest i
  simp only [holds, Bound.allowsFrom, Bound.allowsUpTo, Bool.and_true, decide_eq_true_eq]
  constructor
  · exact fun h => UInt32.le_antisymm hle h
  · rintro rfl
    exact hle

/-- The text of a selection that has been read is read again, alone and as JSON.  It means the same
indices, unless the selection was everything above the greatest index: that means no index, and what
is read back means the greatest. -/
theorem display_reads_back {text : String} (h : parse text = .ok s) :
    ∃ s', parse s.display = .ok s' ∧ Selection.ofJson? s.toJson = some s' ∧
      ((∀ i, s'.holds i = s.holds i) ↔ ¬(Phrase.comparison .above 0xFFFFFFFF).WrittenAs text) ∧
      ((Phrase.comparison .above 0xFFFFFFFF).WrittenAs text →
        ∀ i, s.holds i = false ∧ (s'.holds i = true ↔ i = 0xFFFFFFFF)) := by
  have hread := parse_display (hasPhrase_of_parse h)
  have hjson : Selection.ofJson? s.toJson = some s.readBack := by
    rw [Selection.toJson, Selection.ofJson?, hread]
    rfl
  have hgreatest : (Phrase.comparison .above 0xFFFFFFFF).WrittenAs text →
      ∀ i, s.holds i = false ∧ (s.readBack.holds i = true ↔ i = 0xFFFFFFFF) := by
    intro hwritten i
    have habove := parse_eq_ok_iff.2 ⟨_, hwritten, rfl⟩
    rw [h] at habove
    cases habove
    exact ⟨holds_above_greatest i, holds_from_greatest i⟩
  refine ⟨s.readBack, hread, hjson, ⟨?_, ?_⟩, hgreatest⟩
  · intro hsame hwritten
    obtain ⟨hnone, hsome⟩ := hgreatest hwritten 0xFFFFFFFF
    rw [hsame, hnone] at hsome
    exact absurd (hsome.2 rfl) Bool.false_ne_true
  · intro hwritten i
    refine holds_readBack (fun upper heq => hwritten ?_) i
    obtain ⟨p, hp, hsel⟩ := parse_eq_ok_iff.1 h
    rw [Phrase.eq_above (hsel.trans heq)] at hp
    exact hp

/-- An excluded lower end comes back as the included one after it. -/
theorem display_reads_back_above :
    parse " index > 3" = .ok (.range (.excluded 3) .unbounded) ∧
      ∃ s', parse "4.." = .ok s' ∧
        ∀ i, s'.holds i = (Selection.range (.excluded 3) .unbounded).holds i := by
  have hparse : parse " index > 3" = .ok (.range (.excluded 3) .unbounded) := rfl
  have hdisplay : (Selection.range (.excluded 3) .unbounded).display = "4.." := rfl
  obtain ⟨s', hs', _, hsame, _⟩ := display_reads_back hparse
  rw [hdisplay] at hs'
  refine ⟨hparse, s', hs', hsame.2 fun hwritten => ?_⟩
  have habove := parse_eq_ok_iff.2 ⟨_, hwritten, rfl⟩
  rw [hparse] at habove
  cases habove

/-- The text of everything above the greatest index is `4294967295..`, so not every selection that
has been read comes back with its meaning. -/
theorem display_changes_meaning :
    ¬∀ (text : String) (s : Selection), parse text = .ok s →
      ∃ s', parse s.display = .ok s' ∧ ∀ i, s'.holds i = s.holds i := by
  intro h
  obtain ⟨s', hs', hsame⟩ := h ">4294967295" (.range (.excluded 0xFFFFFFFF) .unbounded) rfl
  have hread : parse "4294967295.." = .ok (.range (.included 0xFFFFFFFF) .unbounded) := rfl
  have hdisplay : (Selection.range (.excluded 0xFFFFFFFF) .unbounded).display
      = "4294967295.." := rfl
  rw [hdisplay, hread] at hs'
  obtain rfl := Except.ok.inj hs'
  have hgreatest := hsame 0xFFFFFFFF
  rw [holds_above_greatest, (holds_from_greatest 0xFFFFFFFF).2 rfl] at hgreatest
  cases hgreatest

end Selection

end RemoteFleet
