import RemoteFleet.Config.Invocation
import RemoteFleet.Encoding.Roster
import RemoteFleet.Proofs.Selection.Layout
import RemoteFleet.Toml.Decode

/-!
# The grammar of selections

A `Phrase` is what a selection can say.  It has tokens, with which it is written, and a reading,
which says of each index whether it is meant.

`parse_accepts_grammar` is the main theorem: a text that is a phrase is read as the phrase says, and
every other text is refused.  It comes from two directions: what `readPhrase` reads is a phrase
(`exists_phrase_of_readPhrase`, one phrase for each way to read), and a phrase is read
(`Layout.readPhrase`, by cases on the phrase).
-/

namespace RemoteFleet.Selection

/-- How an index stands to another one. -/
def Comparison.Relates : Comparison → UInt32 → UInt32 → Prop
  | .atMost, i, k => i ≤ k
  | .atLeast, i, k => k ≤ i
  | .equal, i, k => i = k
  | .below, i, k => i < k
  | .above, i, k => k < i

/-- What a selection can say.  A range has an end, and a list has a member. -/
inductive Phrase where
  | all
  | star
  | none
  | comparison (c : Comparison) (k : UInt32)
  | range (lower : Option UInt32) (upper : Option (Bool × UInt32))
      (hends : lower ≠ Option.none ∨ upper ≠ Option.none)
  | list (members : List UInt32) (hmembers : members ≠ [])
  | unequal (others : List UInt32) (hothers : others ≠ [])

namespace Phrase

/-- How a phrase is written. -/
def tokens : Phrase → List Token
  | all => [.word .all]
  | star => [.word .star]
  | none => [.word .none]
  | comparison c k => [.word (.comparison c), .numeral k]
  | range lower upper _ => lowerTokens lower ++ .word .dots :: upperTokens upper
  | list members _ => listTokens members
  | unequal others _ => .word .unequal :: listTokens others

/-- Whether a text is the phrase, with or without the keyword in front. -/
def WrittenAs (p : Phrase) (text : String) : Prop :=
  Layout p.tokens text.toList ∨ Layout (.word .index :: p.tokens) text.toList

/-- Whether an index is meant. -/
def Reads : Phrase → UInt32 → Prop
  | all, _ => True
  | star, _ => True
  | none, _ => False
  | comparison c k, i => c.Relates i k
  | range lower upper _, i =>
    (∀ k, lower = some k → k ≤ i) ∧ (∀ k, upper = some (false, k) → i < k) ∧
      ∀ k, upper = some (true, k) → i ≤ k
  | list members _, i => i ∈ members
  | unequal others _, i => i ∉ others

/-- The selection that a phrase stands for. -/
def selection : Phrase → Selection
  | all => .all
  | star => .all
  | none => .nothing
  | comparison c k => c.selection k
  | range lower upper _ => .range (lowerBound lower) (upperBound upper)
  | list members _ => .only (IndexSet.ofList members)
  | unequal others _ => .except (IndexSet.ofList others)

end Phrase

variable {s r : List Char} {sel : Selection}

/-! ## Readings -/

theorem contains_ofList_iff {i : UInt32} {l : List UInt32} :
    (IndexSet.ofList l).contains i = true ↔ i ∈ l := by
  rw [IndexSet.contains_iff, IndexSet.mem_ofList]

theorem allowsFrom_lowerBound_iff {lower : Option UInt32} {i : UInt32} :
    (lowerBound lower).allowsFrom i = true ↔ ∀ k, lower = some k → k ≤ i := by
  cases lower <;> simp [lowerBound, Bound.allowsFrom]

theorem allowsUpTo_upperBound_iff {upper : Option (Bool × UInt32)} {i : UInt32} :
    (upperBound upper).allowsUpTo i = true ↔
      (∀ k, upper = some (false, k) → i < k) ∧ ∀ k, upper = some (true, k) → i ≤ k := by
  rcases upper with _ | ⟨_ | _, k⟩ <;> simp [upperBound, Bound.allowsUpTo]

theorem holds_comparison_iff (c : Comparison) (k i : UInt32) :
    (c.selection k).holds i = true ↔ c.Relates i k := by
  cases c with
  | equal =>
    have h := contains_ofList_iff (i := i) (l := [k])
    rw [List.mem_singleton] at h
    exact h
  | _ => simp [Comparison.selection, Comparison.Relates, holds, Bound.allowsFrom, Bound.allowsUpTo]

/-- A selection holds of the indices that its phrase means. -/
theorem holds_iff_reads (p : Phrase) (i : UInt32) : p.selection.holds i = true ↔ p.Reads i := by
  cases p with
  | all => simp [Phrase.selection, Phrase.Reads, holds]
  | star => simp [Phrase.selection, Phrase.Reads, holds]
  | none => simp [Phrase.selection, Phrase.Reads, holds]
  | comparison c k => exact holds_comparison_iff c k i
  | range lower upper hends =>
    simp only [Phrase.selection, Phrase.Reads, holds, Bool.and_eq_true, allowsFrom_lowerBound_iff,
      allowsUpTo_upperBound_iff]
  | list members hmembers => exact contains_ofList_iff
  | unequal others hothers =>
    simp only [Phrase.selection, Phrase.Reads, holds, Bool.not_eq_true', Bool.eq_false_iff, ne_eq,
      contains_ofList_iff]

/-! ## What is read is a phrase -/

theorem text_comparison (c : Comparison) : (Word.comparison c).text = c.sign := by
  cases c <;> rfl

theorem eq_of_cutComparison? {c : Comparison} (h : cutComparison? s = some (c, r)) :
    s = c.sign ++ r := by
  obtain ⟨c', _, hc⟩ := List.exists_of_findSome?_eq_some h
  obtain ⟨r', hcut, heq⟩ := Option.map_eq_some_iff.1 hc
  cases heq
  exact Text.cutPrefix?_eq_some_iff.1 hcut

theorem layout_word_append (sign : Word) {tokens : List Token} (h : Layout tokens r) :
    Layout (.word sign :: tokens) (sign.text ++ r) :=
  .cons (.word sign) tokens [] sign.text r rfl rfl h

theorem layout_word (sign : Word) : Layout [.word sign] sign.text := by
  have h : Layout [.word sign] (sign.text ++ []) := layout_word_append sign (.nil [] rfl)
  rw [List.append_nil] at h
  exact h

/-- A range with an end is not open at both ends. -/
theorem ends_iff {lower : Option UInt32} {upper : Option (Bool × UInt32)} :
    (lower ≠ none ∨ upper ≠ none) ↔
      ¬(lowerBound lower = .unbounded ∧ upperBound upper = .unbounded) := by
  rcases lower with _ | k <;> rcases upper with _ | ⟨_ | _, j⟩ <;> simp [lowerBound, upperBound]

theorem readRange_eq_ok_iff {before after : List Char} :
    readRange before after = .ok sel ↔
      ∃ lower upper, Layout (lowerTokens lower) before ∧ Layout (upperTokens upper) after ∧
        (lower ≠ none ∨ upper ≠ none) ∧ sel = .range (lowerBound lower) (upperBound upper) := by
  simp only [readRange, Text.bind_eq_ok_iff]
  constructor
  · rintro ⟨low, hlow, high, hhigh, h⟩
    obtain ⟨lower, hlower, rfl⟩ := readLower_eq_ok_iff.1 hlow
    obtain ⟨upper, hupper, rfl⟩ := readUpper_eq_ok_iff.1 hhigh
    split at h
    · cases h
    · next hbounded =>
      cases h
      exact ⟨lower, upper, hlower, hupper, ends_iff.2 hbounded, rfl⟩
  · rintro ⟨lower, upper, hlower, hupper, hends, rfl⟩
    refine ⟨_, readLower_eq_ok_iff.2 ⟨lower, hlower, rfl⟩, _,
      readUpper_eq_ok_iff.2 ⟨upper, hupper, rfl⟩, ?_⟩
    rw [if_neg (ends_iff.1 hends)]

theorem exists_phrase_of_readPhrase (h : readPhrase s = .ok sel) :
    ∃ p : Phrase, Layout p.tokens s ∧ p.selection = sel := by
  rw [readPhrase] at h
  split at h
  · cases h
  split at h
  · next hall =>
    cases h
    rcases hall with rfl | rfl
    · exact ⟨.all, layout_word .all, rfl⟩
    · exact ⟨.star, layout_word .star, rfl⟩
  split at h
  · next hnone =>
    cases h
    subst hnone
    exact ⟨.none, layout_word .none, rfl⟩
  split at h
  · next rest hcut =>
    rw [Text.map_eq_ok_iff] at h
    obtain ⟨members, hread, rfl⟩ := h
    obtain ⟨others, hothers, hlayout, rfl⟩ := readSet_eq_ok_iff.1 hread
    rw [Text.cutPrefix?_eq_some_iff.1 hcut]
    exact ⟨.unequal others hothers, layout_word_append .unequal hlayout, rfl⟩
  split at h
  · next c rest hcut =>
    rw [Text.map_eq_ok_iff] at h
    obtain ⟨k, hread, rfl⟩ := h
    rw [eq_of_cutComparison? hcut, ← text_comparison]
    exact ⟨.comparison c k, layout_word_append _ (readIndex_eq_ok_iff.1 hread), rfl⟩
  split at h
  · next before after hcut =>
    obtain ⟨lower, upper, hlower, hupper, hends, rfl⟩ := readRange_eq_ok_iff.1 h
    rw [Text.eq_of_cutOnce? hcut, List.append_assoc]
    exact ⟨.range lower upper hends, hlower.append (layout_word_append .dots hupper), rfl⟩
  · rw [Text.map_eq_ok_iff] at h
    obtain ⟨members, hread, rfl⟩ := h
    obtain ⟨ks, hks, hlayout, rfl⟩ := readSet_eq_ok_iff.1 hread
    exact ⟨.list ks hks, hlayout, rfl⟩

/-! ## Phrases are read -/

/-- What begins neither with a word nor with a sign is a range if it has dots, and else a list. -/
theorem readPhrase_of_head {c : Char} (hc : c = '.' ∨ c = '+' ∨ c.isDigit = true) :
    (∀ before after, Text.cutOnce? ['.', '.'] (c :: r) = some (before, after) →
      readPhrase (c :: r) = readRange before after) ∧
    (Text.cutOnce? ['.', '.'] (c :: r) = none →
      readPhrase (c :: r) = (readSet (c :: r)).map .only) := by
  have hother : ∀ x ∈ ['a', '*', 'n', '!', '<', '>', '='], x ≠ c := by
    rintro x hx rfl
    revert hc
    simp only [List.mem_cons, List.not_mem_nil, or_false] at hx
    rcases hx with rfl | rfl | rfl | rfl | rfl | rfl | rfl <;> decide
  simp only [List.forall_mem_cons, List.not_mem_nil, false_imp_iff, implies_true, and_true]
    at hother
  obtain ⟨ha, hstar, hn, hbang, hbelow, habove, hequal⟩ := hother
  have hcut : cutComparison? (c :: r) = none := by
    simp [cutComparison?, Comparison.inOrder, Comparison.sign, Text.cutPrefix?, hbelow, habove,
      hequal]
  have hunequal : Text.cutPrefix? ['!', '='] (c :: r) = none := by
    rw [Text.cutPrefix?, if_neg hbang]
  have hwide : ¬(c :: r = ['a', 'l', 'l'] ∨ c :: r = ['*']) := by
    rintro (h | h)
    · exact ha (List.head_eq_of_cons_eq h).symm
    · exact hstar (List.head_eq_of_cons_eq h).symm
  have hnone : c :: r ≠ ['n', 'o', 'n', 'e'] := fun h => hn (List.head_eq_of_cons_eq h).symm
  rw [readPhrase, if_neg (List.cons_ne_nil c r), if_neg hwide, if_neg hnone]
  constructor
  · intro before after hdots
    simp only [hunequal, hcut, hdots]
  · intro hdots
    simp only [hunequal, hcut, hdots]

/-- The signs are told apart, `<` from `<=` by what does not follow it. -/
theorem cutComparison?_append (c : Comparison) (hsign : '=' ∉ r) :
    cutComparison? (c.sign ++ r) = some (c, r) := by
  have hclosed : Text.cutPrefix? ['='] r = none := by
    cases r with
    | nil => rfl
    | cons x r => rw [Text.cutPrefix?, if_neg (List.ne_of_not_mem_cons hsign)]
  cases c <;>
    simp [cutComparison?, Comparison.inOrder, Comparison.sign, Text.cutPrefix?, hclosed]

theorem readPhrase_unequal (r : List Char) :
    readPhrase (['!', '='] ++ r) = (readSet r).map .except := by
  simp [readPhrase, Text.cutPrefix?]

theorem readPhrase_comparison (c : Comparison) (hsign : '=' ∉ r) :
    readPhrase (c.sign ++ r) = (readIndex r).map c.selection := by
  have hcut := cutComparison?_append c hsign
  cases c <;> simp only [Comparison.sign, List.cons_append, List.nil_append] at hcut ⊢ <;>
    simp [readPhrase, Text.cutPrefix?, hcut]

theorem readPhrase_of_tokens {token : Token} {tokens : List Token}
    (h : Layout (token :: tokens) s) (hs : Text.Trimmed s)
    (htoken : token = .word .dots ∨ ∃ k, token = .numeral k) :
    (∀ before after, Text.cutOnce? ['.', '.'] s = some (before, after) →
      readPhrase s = readRange before after) ∧
    (Text.cutOnce? ['.', '.'] s = none → readPhrase s = (readSet s).map .only) := by
  obtain ⟨w, r, hw, _, rfl⟩ := h.exists_of_trimmed hs
  obtain ⟨c, w, rfl⟩ := List.exists_cons_of_ne_nil hw.solid.1
  refine readPhrase_of_head ?_
  rcases htoken with rfl | ⟨k, rfl⟩
  · cases hw
    exact .inl rfl
  · exact .inr (Text.IsNumeral.mem hw c List.mem_cons_self)

/-- A range is cut at its dots. -/
theorem readPhrase_range {lower : Option UInt32} {upper : Option (Bool × UInt32)}
    (h : Layout (lowerTokens lower ++ .word .dots :: upperTokens upper) s)
    (hs : Text.Trimmed s) : ∃ before after, Layout (lowerTokens lower) before ∧
      Layout (upperTokens upper) after ∧ readPhrase s = readRange before after := by
  have hread : ∀ before after, Text.cutOnce? ['.', '.'] s = some (before, after) →
      readPhrase s = readRange before after := by
    cases lower with
    | none => exact (readPhrase_of_tokens h hs (.inl rfl)).1
    | some k => exact (readPhrase_of_tokens h hs (.inr ⟨k, rfl⟩)).1
  obtain ⟨before, rest, rfl, hlower, hrest⟩ := h.exists_append
  obtain ⟨b, w, after, hb, rfl, hupper, rfl⟩ := layout_cons_iff.1 hrest
  have hlower := hlower.append_blanks hb
  have hdot : '.' ∉ before ++ b := by
    cases lower with
    | none => exact hlower.not_mem rfl (by simp [lowerTokens])
    | some k => exact Layout.not_mem_numeral hlower rfl (by decide) rfl
  refine ⟨before ++ b, after, hlower, hupper, ?_⟩
  have htext : before ++ (b ++ Word.dots.text ++ after) = before ++ b ++ ['.', '.'] ++ after := by
    simp only [Word.text, List.append_assoc]
  refine hread _ after ?_
  rw [htext]
  exact Text.cutOnce?_append hdot ['.'] after

theorem readPhrase_list {ks : List UInt32} (h : Layout (listTokens ks) s) (hks : ks ≠ [])
    (hs : Text.Trimmed s) : readPhrase s = (readSet s).map .only := by
  have hdot : '.' ∉ s := by
    refine h.not_mem rfl fun token htoken w hw => ?_
    rcases mem_listTokens htoken with rfl | ⟨k, rfl⟩
    · cases hw
      decide
    · exact hw.not_mem (by decide) rfl
  have hcut : Text.cutOnce? ['.', '.'] s = none := Text.cutOnce?_eq_none hdot ['.']
  obtain ⟨k, tokens, htokens⟩ := exists_listTokens hks
  rw [htokens] at h
  exact (readPhrase_of_tokens h hs (.inr ⟨k, rfl⟩)).2 hcut

theorem Layout.readPhrase {p : Phrase} (h : Layout p.tokens s) (hs : Text.Trimmed s) :
    readPhrase s = .ok p.selection := by
  have hword {sign : Word} (hsign : Layout [.word sign] s) : s = sign.text := by
    have hwrites := layout_singleton_iff.1 hsign
    rw [hs.trim_eq] at hwrites
    exact hwrites
  cases p with
  | all =>
    rw [hword h]
    rfl
  | star =>
    rw [hword h]
    rfl
  | none =>
    rw [hword h]
    rfl
  | comparison c k =>
    obtain ⟨r, hr, rfl⟩ := (layout_word_iff_of_trimmed hs).1 h
    have hsign : '=' ∉ r := hr.not_mem_numeral rfl (by decide) rfl
    rw [text_comparison, readPhrase_comparison c hsign, Text.map_eq_ok_iff]
    exact ⟨k, readIndex_eq_ok_iff.2 hr, rfl⟩
  | range lower upper hends =>
    obtain ⟨before, after, hlower, hupper, hread⟩ := readPhrase_range h hs
    rw [hread, readRange_eq_ok_iff]
    exact ⟨lower, upper, hlower, hupper, hends, rfl⟩
  | list members hmembers =>
    rw [readPhrase_list h hmembers hs, Text.map_eq_ok_iff]
    exact ⟨_, readSet_eq_ok_iff.2 ⟨members, hmembers, h, rfl⟩, rfl⟩
  | unequal others hothers =>
    obtain ⟨r, hr, rfl⟩ := (layout_word_iff_of_trimmed hs).1 h
    rw [Word.text, readPhrase_unequal, Text.map_eq_ok_iff]
    exact ⟨_, readSet_eq_ok_iff.2 ⟨others, hothers, hr, rfl⟩, rfl⟩

theorem readPhrase_eq_ok_iff (hs : Text.Trimmed s) :
    readPhrase s = .ok sel ↔ ∃ p : Phrase, Layout p.tokens s ∧ p.selection = sel := by
  constructor
  · exact exists_phrase_of_readPhrase
  · rintro ⟨p, hp, rfl⟩
    exact hp.readPhrase hs

/-! ## The keyword -/

theorem trimmed_cutKeyword (s : List Char) : Text.Trimmed (cutKeyword s) := by
  have htrimmed := Text.trimmed_trim s
  rw [cutKeyword]
  split
  · next rest hcut =>
    obtain ⟨b, _, hrest, hhead⟩ := Text.exists_blank_trimStart rest
    refine ⟨hhead, fun c r hlast => htrimmed.last c (Word.index.text ++ b ++ r) ?_⟩
    rw [List.append_assoc _ r, ← hlast, List.append_assoc, ← hrest]
    exact Text.cutPrefix?_eq_some_iff.1 hcut
  · exact htrimmed

/-- No token but the keyword begins as it does. -/
theorem Token.Writes.eq_index {token : Token} {w : List Char} (h : token.Writes ('i' :: w)) :
    token = .word .index := by
  cases token with
  | word sign =>
    cases sign with
    | index => rfl
    | comparison c => cases c <;> cases h
    | _ => cases h
  | numeral k =>
    rcases h.mem 'i' List.mem_cons_self with hplus | hdigit
    · cases hplus
    · cases hdigit

/-- A phrase begins with a token, and not with the keyword. -/
theorem Phrase.exists_tokens (p : Phrase) :
    ∃ token tokens, p.tokens = token :: tokens ∧ token ≠ .word .index := by
  cases p with
  | range lower upper hends =>
    cases lower with
    | none => exact ⟨.word .dots, upperTokens upper, rfl, by simp⟩
    | some k => exact ⟨.numeral k, .word .dots :: upperTokens upper, rfl, by simp⟩
  | list members hmembers =>
    obtain ⟨k, tokens, htokens⟩ := exists_listTokens hmembers
    exact ⟨.numeral k, tokens, htokens, by simp⟩
  | _ => exact ⟨_, _, rfl, by simp⟩

theorem Phrase.not_layout_index (p : Phrase) (hs : Text.Trimmed (Word.index.text ++ r)) :
    ¬Layout p.tokens (Word.index.text ++ r) := by
  obtain ⟨token, tokens, htokens, hne⟩ := p.exists_tokens
  rw [htokens]
  intro h
  obtain ⟨w, r', hw, _, heq⟩ := h.exists_of_trimmed hs
  obtain ⟨c, w, rfl⟩ := List.exists_cons_of_ne_nil hw.solid.1
  obtain rfl : 'i' = c := List.head_eq_of_cons_eq heq
  exact hne hw.eq_index

/-- The keyword is taken off, and nothing else but blanks. -/
theorem layout_cutKeyword_iff (p : Phrase) (text : String) :
    Layout p.tokens (cutKeyword text.toList) ↔ p.WrittenAs text := by
  have htrimmed := Text.trimmed_trim text.toList
  have hwritten : p.WrittenAs text ↔ Layout p.tokens (Text.trim text.toList) ∨
      Layout (.word .index :: p.tokens) (Text.trim text.toList) := by
    rw [layout_trim, layout_trim, Phrase.WrittenAs]
  rw [hwritten, cutKeyword]
  split
  · next rest hcut =>
    have htext : Text.trim text.toList = Word.index.text ++ rest :=
      Text.cutPrefix?_eq_some_iff.1 hcut
    rw [htext] at htrimmed ⊢
    rw [layout_trimStart, layout_word_iff_of_trimmed htrimmed]
    constructor
    · exact fun h => .inr ⟨rest, h, rfl⟩
    · rintro (h | ⟨r, hr, heq⟩)
      · exact absurd h (p.not_layout_index htrimmed)
      · rw [List.append_cancel_left heq]
        exact hr
  · next hcut =>
    constructor
    · exact .inl
    · rintro (h | h)
      · exact h
      · obtain ⟨r, _, heq⟩ := (layout_word_iff_of_trimmed htrimmed).1 h
        have hsome := Text.cutPrefix?_eq_some_iff.2 heq
        rw [Word.text, hcut] at hsome
        cases hsome

theorem parse_eq_ok_iff {text : String} :
    parse text = .ok sel ↔ ∃ p : Phrase, p.WrittenAs text ∧ p.selection = sel := by
  rw [parse, readPhrase_eq_ok_iff (trimmed_cutKeyword text.toList)]
  simp only [layout_cutKeyword_iff]

/-! ## Where selections are read -/

theorem selection_of_parse_error {o : RunOptions} {text : String} {fault : Fault} (f : RosterFile)
    (hselect : o.select = some text) (h : parse text = .error fault) :
    o.selection f = .error (.selection text fault) := by
  have hread : o.selection f = (parse text).mapError (.selection text) := by
    rw [RunOptions.selection, hselect]
  rw [hread, h]
  rfl

theorem decode_of_parse_error {text : String} {fault : Fault} (h : parse text = .error fault) :
    Toml.Decoder.selection (.string text) = .error (.selection text fault) := by
  have hstring : Toml.Decoder.string (.string text) = .ok text := rfl
  simp [Toml.Decoder.selection, hstring, h, bind, Except.bind, throw, throwThe,
    MonadExceptOf.throw]

/-- A text that is a phrase is read, and the selection holds of the indices that the phrase means.
Any other text is refused, and among the flags and in a roster file the refusal has the text as it
was given. -/
theorem parse_accepts_grammar (text : String) :
    (∀ p : Phrase, p.WrittenAs text →
      ∃ s, parse text = .ok s ∧ ∀ i, s.holds i = true ↔ p.Reads i) ∧
    ((∀ p : Phrase, ¬p.WrittenAs text) → ∃ fault, parse text = .error fault ∧
      (∀ (o : RunOptions) (f : RosterFile), o.select = some text →
        o.selection f = .error (.selection text fault)) ∧
      Toml.Decoder.selection (.string text) = .error (.selection text fault) ∧
      Selection.ofJson? (.string text) = none) := by
  constructor
  · intro p hp
    exact ⟨p.selection, parse_eq_ok_iff.2 ⟨p, hp, rfl⟩, holds_iff_reads p⟩
  · intro hnone
    cases hparse : parse text with
    | ok s =>
      obtain ⟨p, hp, _⟩ := parse_eq_ok_iff.1 hparse
      exact absurd hp (hnone p)
    | error fault =>
      refine ⟨fault, rfl, fun o f hselect => selection_of_parse_error f hselect hparse,
        decode_of_parse_error hparse, ?_⟩
      rw [Selection.ofJson?, hparse]
      rfl

/-- A range with blanks everywhere, and a list that lacks a member. -/
theorem parse_accepts_grammar_range :
    (∃ s, parse " index 2 .. = +4" = .ok s ∧ ∀ i, s.holds i = true ↔ 2 ≤ i ∧ i ≤ 4) ∧
      ∃ fault, parse "1,,2" = .error fault ∧
        Toml.Decoder.selection (.string "1,,2") = .error (.selection "1,,2" fault) := by
  constructor
  · have htwo : (Token.numeral 2).Writes ['2'] :=
      ⟨['2'], List.cons_ne_nil _ _, ⟨List.forall_mem_singleton.2 rfl, rfl⟩, .inl rfl⟩
    have hfour : (Token.numeral 4).Writes ['+', '4'] :=
      ⟨['4'], List.cons_ne_nil _ _, ⟨List.forall_mem_singleton.2 rfl, rfl⟩, .inr rfl⟩
    have hend : Layout [.word .closed, .numeral 4] [' ', '=', ' ', '+', '4'] :=
      .cons (.word .closed) _ [' '] ['='] _ rfl rfl <|
        .cons (.numeral 4) _ [' '] ['+', '4'] [] rfl hfour (.nil [] rfl)
    have hrange : Layout [.numeral 2, .word .dots, .word .closed, .numeral 4]
        [' ', '2', ' ', '.', '.', ' ', '=', ' ', '+', '4'] :=
      .cons (.numeral 2) _ [' '] ['2'] _ rfl htwo <|
        .cons (.word .dots) _ [' '] ['.', '.'] _ rfl rfl hend
    have hphrase : (Phrase.range (some 2) (some (true, 4)) (by simp)).WrittenAs
        " index 2 .. = +4" :=
      .inr (.cons (.word .index) _ [' '] Word.index.text _ rfl rfl hrange)
    obtain ⟨s, hparse, hreads⟩ := (parse_accepts_grammar _).1 _ hphrase
    exact ⟨s, hparse, fun i => by simpa [Phrase.Reads] using hreads i⟩
  · have hnone (p : Phrase) : ¬p.WrittenAs "1,,2" := by
      intro hp
      have hparse := parse_eq_ok_iff.2 ⟨p, hp, rfl⟩
      cases hparse
    obtain ⟨fault, hparse, _, hdecode, _⟩ := (parse_accepts_grammar "1,,2").2 hnone
    exact ⟨fault, hparse, hdecode⟩

end RemoteFleet.Selection
