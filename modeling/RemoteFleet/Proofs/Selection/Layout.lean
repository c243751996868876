import RemoteFleet.Proofs.Text.Reading
import RemoteFleet.Selection.Parser

/-!
# How selections are laid out

A selection is written with keywords, signs and numerals, and with blanks around them.  `Layout`
says when a text is made of given tokens in their order.

The readers of indices, of lists and of the ends of ranges accept what is laid out so and nothing
else: `readIndex_eq_ok_iff`, `readSet_eq_ok_iff`, `readLower_eq_ok_iff`, `readUpper_eq_ok_iff`.
-/

namespace RemoteFleet.Selection

/-- Keywords and signs. -/
inductive Word where
  | index
  | all
  | star
  | none
  | comparison (c : Comparison)
  | unequal
  | dots
  | closed
  | comma

/-- How a keyword or sign is written. -/
def Word.text : Word → List Char
  | .index => ['i', 'n', 'd', 'e', 'x']
  | .all => ['a', 'l', 'l']
  | .star => ['*']
  | .none => ['n', 'o', 'n', 'e']
  | .comparison .below => ['<']
  | .comparison .atMost => ['<', '=']
  | .comparison .above => ['>']
  | .comparison .atLeast => ['>', '=']
  | .comparison .equal => ['=', '=']
  | .unequal => ['!', '=']
  | .dots => ['.', '.']
  | .closed => ['=']
  | .comma => [',']

/-- What a selection is written with. -/
inductive Token where
  | word (word : Word)
  | numeral (k : UInt32)

/-- Whether a token can be written so. -/
def Token.Writes : Token → List Char → Prop
  | .word sign, w => w = sign.text
  | .numeral k, w => Text.IsNumeral w k.toNat

/-- A text that is made of tokens, with blanks around each. -/
inductive Layout : List Token → List Char → Prop
  | nil (blanks : List Char) (hblanks : Text.isAllBlank blanks = true) : Layout [] blanks
  | cons (token : Token) (tokens : List Token) (blanks w s : List Char)
      (hblanks : Text.isAllBlank blanks = true) (hw : token.Writes w) (hs : Layout tokens s) :
      Layout (token :: tokens) (blanks ++ w ++ s)

/-- Numerals with commas between them. -/
def listTokens : List UInt32 → List Token
  | [] => []
  | [k] => [.numeral k]
  | k :: ks => .numeral k :: .word .comma :: listTokens ks

/-- The lower end of a range, if there is one. -/
def lowerTokens : Option UInt32 → List Token
  | none => []
  | some k => [.numeral k]

/-- The upper end of a range, if there is one, and whether it belongs to the range. -/
def upperTokens : Option (Bool × UInt32) → List Token
  | none => []
  | some (false, k) => [.numeral k]
  | some (true, k) => [.word .closed, .numeral k]

/-- The lower end as a bound. -/
def lowerBound : Option UInt32 → Bound
  | none => .unbounded
  | some k => .included k

/-- The upper end as a bound. -/
def upperBound : Option (Bool × UInt32) → Bound
  | none => .unbounded
  | some (false, k) => .excluded k
  | some (true, k) => .included k

/-! ## Tokens and blanks -/

variable {token : Token} {tokens tokens' : List Token} {w s s' b : List Char} {k : UInt32}

/-- Keywords and signs hold no blanks. -/
theorem Word.solid (sign : Word) :
    sign.text ≠ [] ∧ ∀ c ∈ sign.text, Text.isBlank c = false := by
  have hall : sign.text.all (fun c => !Text.isBlank c) = true := by
    cases sign with
    | comparison c => cases c <;> rfl
    | _ => rfl
  refine ⟨?_, fun c hc => by simpa using List.all_eq_true.1 hall c hc⟩
  cases sign with
  | comparison c => cases c <;> exact List.cons_ne_nil _ _
  | _ => exact List.cons_ne_nil _ _

/-- Tokens hold no blanks. -/
theorem Token.Writes.solid (h : token.Writes w) :
    w ≠ [] ∧ ∀ c ∈ w, Text.isBlank c = false := by
  cases token with
  | word sign =>
    obtain rfl : w = sign.text := h
    exact sign.solid
  | numeral k => exact ⟨h.ne_nil, fun c hc => Text.isBlank_of_isNumeral (h.mem c hc)⟩

theorem Token.Writes.trimmed (h : token.Writes w) : Text.Trimmed w where
  head c _ hw := h.solid.2 c (hw ▸ List.mem_cons_self)
  last c r hw := h.solid.2 c (hw ▸ List.mem_append_right r List.mem_cons_self)

theorem layout_nil_iff : Layout [] s ↔ Text.isAllBlank s = true := by
  constructor
  · rintro ⟨_, h⟩
    exact h
  · exact .nil s

theorem layout_cons_iff : Layout (token :: tokens) s ↔ ∃ b w r, Text.isAllBlank b = true ∧
    token.Writes w ∧ Layout tokens r ∧ s = b ++ w ++ r := by
  constructor
  · rintro (_ | ⟨_, _, b, w, r, hb, hw, hr⟩)
    exact ⟨b, w, r, hb, hw, hr, rfl⟩
  · rintro ⟨b, w, r, hb, hw, hr, rfl⟩
    exact .cons token tokens b w r hb hw hr

theorem Layout.blanks_append (hb : Text.isAllBlank b = true) (h : Layout tokens s) :
    Layout tokens (b ++ s) := by
  cases h with
  | nil blanks hblanks => exact .nil _ (Text.isAllBlank_append.2 ⟨hb, hblanks⟩)
  | cons token tokens blanks w s hblanks hw hs =>
    rw [← List.append_assoc, ← List.append_assoc]
    exact .cons token tokens _ w s (Text.isAllBlank_append.2 ⟨hb, hblanks⟩) hw hs

/-- What is laid out behind something else is laid out behind it. -/
theorem Layout.append (h : Layout tokens s) (h' : Layout tokens' s') :
    Layout (tokens ++ tokens') (s ++ s') := by
  induction h with
  | nil blanks hblanks => exact h'.blanks_append hblanks
  | cons token tokens blanks w s hblanks hw hs ih =>
    rw [List.cons_append, List.append_assoc]
    exact .cons token _ blanks w _ hblanks hw ih

theorem Layout.append_blanks (h : Layout tokens s) (hb : Text.isAllBlank b = true) :
    Layout tokens (s ++ b) := by
  have hboth := h.append (.nil b hb)
  rw [List.append_nil] at hboth
  exact hboth

/-- A text can be cut between any two tokens. -/
theorem Layout.exists_append (h : Layout (tokens ++ tokens') s) :
    ∃ a r, s = a ++ r ∧ Layout tokens a ∧ Layout tokens' r := by
  induction tokens generalizing s with
  | nil => exact ⟨[], s, rfl, .nil [] rfl, h⟩
  | cons token tokens ih =>
    obtain ⟨b, w, r, hb, hw, hr, rfl⟩ := layout_cons_iff.1 h
    obtain ⟨a, r, rfl, ha, hr'⟩ := ih hr
    exact ⟨b ++ w ++ a, r, (List.append_assoc _ _ _).symm, .cons token tokens b w a hb hw ha, hr'⟩

theorem Layout.trimStart (h : Layout tokens s) : Layout tokens (Text.trimStart s) := by
  cases h with
  | nil blanks hblanks =>
    have hnothing := Text.trimStart_append hblanks []
    rw [List.append_nil] at hnothing
    rw [hnothing]
    exact .nil [] rfl
  | cons token tokens blanks w s hblanks hw hs =>
    have hsolid : Text.trimStart (w ++ s) = w ++ s := by
      refine Text.trimStart_eq_self fun c r heq => ?_
      obtain ⟨hne, hall⟩ := hw.solid
      obtain ⟨c', w', rfl⟩ := List.exists_cons_of_ne_nil hne
      cases heq
      exact hall c List.mem_cons_self
    rw [List.append_assoc, Text.trimStart_append hblanks, hsolid]
    exact .cons token tokens [] w s rfl hw hs

/-- Blanks behind the last token may go. -/
theorem Layout.trimEnd (h : Layout tokens s) : Layout tokens (Text.trimEnd s) := by
  induction h with
  | nil blanks hblanks =>
    have hnothing := Text.trimEnd_append hblanks []
    rw [List.nil_append] at hnothing
    rw [hnothing]
    exact .nil [] rfl
  | cons token tokens blanks w s hblanks hw hs ih =>
    rw [Text.trimEnd_append_of_last (Text.last_of_append hw.solid.1 hw.trimmed.last blanks)]
    exact .cons token tokens blanks w _ hblanks hw ih

theorem layout_trim : Layout tokens (Text.trim s) ↔ Layout tokens s := by
  constructor
  · intro h
    obtain ⟨b, b', hb, hb', hs, _⟩ := Text.exists_blank_trim s
    rw [hs]
    exact (h.blanks_append hb).append_blanks hb'
  · exact fun h => h.trimStart.trimEnd

theorem layout_trimStart : Layout tokens (Text.trimStart s) ↔ Layout tokens s := by
  constructor
  · intro h
    obtain ⟨b, hb, hs, _⟩ := Text.exists_blank_trimStart s
    rw [hs]
    exact h.blanks_append hb
  · exact Layout.trimStart

/-- A text that begins with no blank begins with its first token. -/
theorem Layout.exists_of_trimmed (h : Layout (token :: tokens) s) (hs : Text.Trimmed s) :
    ∃ w r, token.Writes w ∧ Layout tokens r ∧ s = w ++ r := by
  obtain ⟨b, w, r, hb, hw, hr, rfl⟩ := layout_cons_iff.1 h
  cases b with
  | nil => exact ⟨w, r, hw, hr, rfl⟩
  | cons c b =>
    have hblank := Text.isAllBlank_iff.1 hb c List.mem_cons_self
    rw [hs.head c (b ++ w ++ r) rfl] at hblank
    cases hblank

theorem layout_word_iff_of_trimmed {sign : Word} (hs : Text.Trimmed s) :
    Layout (.word sign :: tokens) s ↔ ∃ r, Layout tokens r ∧ s = sign.text ++ r := by
  constructor
  · intro h
    obtain ⟨w, r, rfl, hr, heq⟩ := h.exists_of_trimmed hs
    exact ⟨r, hr, heq⟩
  · rintro ⟨r, hr, rfl⟩
    exact .cons (.word sign) tokens [] sign.text r rfl rfl hr

/-- A token alone is what is left when the blanks are taken off. -/
theorem layout_singleton_iff : Layout [token] s ↔ token.Writes (Text.trim s) := by
  constructor
  · intro h
    obtain ⟨b, w, r, hb, hw, hr, rfl⟩ := layout_cons_iff.1 h
    rw [Text.trim_append hw.trimmed hb (layout_nil_iff.1 hr)]
    exact hw
  · intro h
    obtain ⟨b, b', hb, hb', hs, _⟩ := Text.exists_blank_trim s
    rw [hs]
    exact .cons token [] b (Text.trim s) b' hb h (.nil b' hb')

/-- A character that no token is written with does not occur, unless it is a blank. -/
theorem Layout.not_mem {c : Char} (h : Layout tokens s) (hblank : Text.isBlank c = false)
    (htokens : ∀ token ∈ tokens, ∀ w, token.Writes w → c ∉ w) : c ∉ s := by
  induction h with
  | nil blanks hblanks => exact Text.not_mem_of_isAllBlank hblanks hblank
  | cons token tokens blanks w s hblanks hw hs ih =>
    obtain ⟨htoken, htokens⟩ := List.forall_mem_cons.1 htokens
    rw [List.append_assoc, List.mem_append, List.mem_append, not_or, not_or]
    exact ⟨Text.not_mem_of_isAllBlank hblanks hblank, htoken w hw, ih htokens⟩

/-- A numeral is laid out without signs. -/
theorem Layout.not_mem_numeral {c : Char} (h : Layout [.numeral k] s)
    (hblank : Text.isBlank c = false) (hplus : c ≠ '+') (hdigit : c.isDigit = false) : c ∉ s := by
  refine h.not_mem hblank ?_
  rw [List.forall_mem_singleton]
  exact fun w hw => hw.not_mem hplus hdigit

/-! ## Indices and lists -/

theorem readIndex_eq_ok_iff : readIndex s = .ok k ↔ Layout [.numeral k] s := by
  have hwrites : (Token.numeral k).Writes (Text.trim s) ↔
      Text.readUInt32 (Text.trim s) = .ok k := Text.readUInt32_eq_ok_iff.symm
  rw [layout_singleton_iff, hwrites, readIndex]
  cases Text.readUInt32 (Text.trim s) <;> simp

/-- In a list, the first numeral stands before the first comma. -/
theorem layout_list_cons_iff {ks : List UInt32} (hks : ks ≠ []) :
    Layout (listTokens (k :: ks)) s ↔
      ∃ a r, Layout [.numeral k] a ∧ Layout (listTokens ks) r ∧ s = a ++ ',' :: r := by
  have htokens : listTokens (k :: ks) = [.numeral k] ++ .word .comma :: listTokens ks := by
    cases ks with
    | nil => exact absurd rfl hks
    | cons j ks => rfl
  rw [htokens]
  constructor
  · intro h
    obtain ⟨a, rest, rfl, ha, hrest⟩ := h.exists_append
    obtain ⟨b, w, r, hb, rfl, hr, rfl⟩ := layout_cons_iff.1 hrest
    refine ⟨a ++ b, r, ha.append_blanks hb, hr, ?_⟩
    simp [Word.text]
  · rintro ⟨a, r, ha, hr, rfl⟩
    exact ha.append (.cons (.word .comma) _ [] [','] r rfl rfl hr)

theorem exists_listTokens {ks : List UInt32} (hks : ks ≠ []) :
    ∃ k tokens, listTokens ks = .numeral k :: tokens := by
  match ks with
  | [] => exact absurd rfl hks
  | [k] => exact ⟨k, [], rfl⟩
  | k :: j :: ks => exact ⟨k, .word .comma :: listTokens (j :: ks), rfl⟩

theorem mem_listTokens {ks : List UInt32} (h : token ∈ listTokens ks) :
    token = .word .comma ∨ ∃ k, token = .numeral k := by
  fun_induction listTokens ks with
  | case1 => cases h
  | case2 k => exact .inr ⟨k, List.mem_singleton.1 h⟩
  | case3 k ks _ ih =>
    rw [List.mem_cons, List.mem_cons] at h
    rcases h with rfl | rfl | h
    · exact .inr ⟨k, rfl⟩
    · exact .inl rfl
    · exact ih h

/-- Texts are read as indices one after the other. -/
theorem mapM_readIndex_cons_iff {a : List Char} {pieces : List (List Char)} {ks : List UInt32} :
    (a :: pieces).mapM readIndex = .ok ks ↔
      ∃ k js, readIndex a = .ok k ∧ pieces.mapM readIndex = .ok js ∧ ks = k :: js := by
  rw [List.mapM_cons]
  simp only [Text.bind_eq_ok_iff, pure, Except.pure, Except.ok.injEq, exists_and_left]
  simp only [eq_comm]

theorem layout_of_mapM_readIndex {ks : List UInt32}
    (h : (Text.pieces ',' s).mapM readIndex = .ok ks) : ks ≠ [] ∧ Layout (listTokens ks) s := by
  induction ks generalizing s with
  | nil =>
    obtain ⟨a, pieces, hpieces⟩ := List.exists_cons_of_ne_nil (Text.pieces_ne_nil ',' s)
    rw [hpieces, mapM_readIndex_cons_iff] at h
    obtain ⟨k, js, _, _, heq⟩ := h
    cases heq
  | cons k ks ih =>
    refine ⟨List.cons_ne_nil k ks, ?_⟩
    rcases Text.not_mem_or_exists_append ',' s with hcomma | ⟨a, r, hcomma, rfl⟩
    · rw [Text.pieces_of_not_mem hcomma, mapM_readIndex_cons_iff] at h
      obtain ⟨k', js, hk, hjs, heq⟩ := h
      cases hjs
      cases heq
      exact readIndex_eq_ok_iff.1 hk
    · rw [Text.pieces_append hcomma, mapM_readIndex_cons_iff] at h
      obtain ⟨k', js, hk, hjs, heq⟩ := h
      cases heq
      obtain ⟨hne, hr⟩ := ih hjs
      exact (layout_list_cons_iff hne).2 ⟨a, r, readIndex_eq_ok_iff.1 hk, hr, rfl⟩

theorem Layout.mapM_readIndex {ks : List UInt32} (h : Layout (listTokens ks) s) (hks : ks ≠ []) :
    (Text.pieces ',' s).mapM readIndex = .ok ks := by
  induction ks generalizing s with
  | nil => exact absurd rfl hks
  | cons k ks ih =>
    by_cases hnil : ks = []
    · subst hnil
      have hcomma : ',' ∉ s := Layout.not_mem_numeral h rfl (by decide) rfl
      rw [Text.pieces_of_not_mem hcomma, mapM_readIndex_cons_iff]
      exact ⟨k, [], readIndex_eq_ok_iff.2 h, rfl, rfl⟩
    · obtain ⟨a, r, ha, hr, rfl⟩ := (layout_list_cons_iff hnil).1 h
      have hcomma : ',' ∉ a := ha.not_mem_numeral rfl (by decide) rfl
      rw [Text.pieces_append hcomma, mapM_readIndex_cons_iff]
      exact ⟨k, ks, readIndex_eq_ok_iff.2 ha, ih hr hnil, rfl⟩

theorem readSet_eq_ok_iff {members : IndexSet} :
    readSet s = .ok members ↔
      ∃ ks, ks ≠ [] ∧ Layout (listTokens ks) s ∧ members = IndexSet.ofList ks := by
  rw [readSet, Text.map_eq_ok_iff]
  constructor
  · rintro ⟨ks, hread, rfl⟩
    obtain ⟨hks, hlayout⟩ := layout_of_mapM_readIndex hread
    exact ⟨ks, hks, hlayout, rfl⟩
  · rintro ⟨ks, hks, hlayout, rfl⟩
    exact ⟨ks, hlayout.mapM_readIndex hks, rfl⟩

/-! ## The ends of ranges -/

theorem trim_eq_nil_iff : Text.trim s = [] ↔ Layout [] s := by
  rw [Text.trim_eq_nil_iff, layout_nil_iff]

/-- A layout with a token is not blank. -/
theorem trim_ne_nil (h : Layout (token :: tokens) s) : Text.trim s ≠ [] := by
  intro hnil
  have hlayout := layout_trim.2 h
  rw [hnil] at hlayout
  obtain ⟨b, w, r, _, hw, _, heq⟩ := layout_cons_iff.1 hlayout
  have hbw := (List.append_eq_nil_iff.1 heq.symm).1
  exact hw.solid.1 (List.append_eq_nil_iff.1 hbw).2

theorem readLower_of_ne_nil (h : Text.trim s ≠ []) :
    readLower s = (readIndex (Text.trim s)).map .included := by
  rw [readLower]
  split
  · next hnil => exact absurd hnil h
  · rfl

theorem readLower_eq_ok_iff {bound : Bound} :
    readLower s = .ok bound ↔
      ∃ lower, Layout (lowerTokens lower) s ∧ bound = lowerBound lower := by
  by_cases hnil : Text.trim s = []
  · have hread : readLower s = .ok .unbounded := by rw [readLower, hnil]
    rw [hread]
    constructor
    · intro h
      cases h
      exact ⟨none, trim_eq_nil_iff.1 hnil, rfl⟩
    · rintro ⟨_ | k, hlayout, rfl⟩
      · rfl
      · exact absurd hnil (trim_ne_nil hlayout)
  · rw [readLower_of_ne_nil hnil, Text.map_eq_ok_iff]
    constructor
    · rintro ⟨k, hread, rfl⟩
      exact ⟨some k, layout_trim.1 (readIndex_eq_ok_iff.1 hread), rfl⟩
    · rintro ⟨_ | k, hlayout, rfl⟩
      · exact absurd (trim_eq_nil_iff.2 hlayout) hnil
      · exact ⟨k, readIndex_eq_ok_iff.2 (layout_trim.2 hlayout), rfl⟩

theorem readUpper_closed {r : List Char} (h : Text.trim s = '=' :: r) :
    readUpper s = (readIndex r).map .included := by
  rw [readUpper, h]
  rfl

theorem readUpper_open (hnil : Text.trim s ≠ []) (h : ∀ r, Text.trim s ≠ '=' :: r) :
    readUpper s = (readIndex (Text.trim s)).map .excluded := by
  rw [readUpper]
  split
  · next heq => exact absurd heq hnil
  · next r heq => exact absurd heq (h r)
  · rfl

theorem readUpper_eq_ok_iff {bound : Bound} :
    readUpper s = .ok bound ↔
      ∃ upper, Layout (upperTokens upper) s ∧ bound = upperBound upper := by
  constructor
  · intro h
    by_cases hnil : Text.trim s = []
    · rw [readUpper, hnil] at h
      cases h
      exact ⟨none, trim_eq_nil_iff.1 hnil, rfl⟩
    · by_cases hclosed : ∃ r, Text.trim s = '=' :: r
      · obtain ⟨r, hr⟩ := hclosed
        rw [readUpper_closed hr, Text.map_eq_ok_iff] at h
        obtain ⟨k, hread, rfl⟩ := h
        refine ⟨some (true, k), layout_trim.1 ?_, rfl⟩
        rw [hr]
        exact .cons (.word .closed) _ [] ['='] r rfl rfl (readIndex_eq_ok_iff.1 hread)
      · rw [readUpper_open hnil (not_exists.1 hclosed), Text.map_eq_ok_iff] at h
        obtain ⟨k, hread, rfl⟩ := h
        exact ⟨some (false, k), layout_trim.1 (readIndex_eq_ok_iff.1 hread), rfl⟩
  · rintro ⟨_ | ⟨_ | _, k⟩, hlayout, rfl⟩
    · rw [readUpper, trim_eq_nil_iff.2 hlayout]
      rfl
    · have hnumeral : Layout [.numeral k] (Text.trim s) := layout_trim.2 hlayout
      have hsign : '=' ∉ Text.trim s := hnumeral.not_mem_numeral rfl (by decide) rfl
      have hopen : ∀ r, Text.trim s ≠ '=' :: r := by
        intro r heq
        rw [heq] at hsign
        exact hsign List.mem_cons_self
      rw [readUpper_open (trim_ne_nil hlayout) hopen, readIndex_eq_ok_iff.2 hnumeral]
      rfl
    · obtain ⟨r, hr, heq⟩ :=
        (layout_word_iff_of_trimmed (Text.trimmed_trim s)).1 (layout_trim.2 hlayout)
      have hclosed : Text.trim s = '=' :: r := heq
      rw [readUpper_closed hclosed, readIndex_eq_ok_iff.2 hr]
      rfl

end RemoteFleet.Selection
