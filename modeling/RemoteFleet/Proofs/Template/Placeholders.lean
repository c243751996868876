import RemoteFleet.Proofs.Text.Reading
import RemoteFleet.Template.Basic

/-!
# The texts that the check of a template accepts

An accepted text is `l₀ {{w₁}} l₁ … {{wₙ}} lₙ`: literal pieces with known placeholders between them,
where opening braces stand in no piece and come about nowhere else.  `Segments` is such a text taken
apart.

* `ofText_text`: the text is cut exactly where its segments meet.
* `text_injective`: a text can be taken apart in one way only.
* `checkText_eq_ok_iff`, `substitute_text`: what the check returns, and what is put into the holes.
* `check_ends`, `fill_ends`: the check and the filling as loops, one round for each placeholder.
-/

namespace RemoteFleet

namespace Placeholder

theorem ofName?_eq_some_iff {name : List Char} {p : Placeholder} :
    ofName? name = some p ↔ name = p.name := by
  constructor
  · intro h
    have hname := List.find?_some h
    exact (of_decide_eq_true hname).symm
  · rintro rfl
    cases p <;> rfl

theorem name_injective : Function.Injective name := by
  intro p q h
  have hp : ofName? p.name = some p := ofName?_eq_some_iff.2 rfl
  have hq : ofName? p.name = some q := ofName?_eq_some_iff.2 h
  exact Option.some.inj (hp.symm.trans hq)

/-- A name with blanks around it holds no brace. -/
theorem not_mem_of_trim {inside : List Char} {p : Placeholder} (h : Text.trim inside = p.name) :
    '\x7d' ∉ inside := by
  obtain ⟨b, b', hb, hb', hs, _⟩ := Text.exists_blank_trim inside
  have hbrace : Text.isBlank '\x7d' = false := by decide
  have hname : '\x7d' ∉ p.name := by cases p <;> decide
  have hbefore := Text.not_mem_of_isAllBlank hb hbrace
  have hbehind := Text.not_mem_of_isAllBlank hb' hbrace
  rw [hs, h]
  simp [hbefore, hbehind, hname]

end Placeholder

namespace Pattern

/-! ## Texts taken apart -/

/-- A placeholder of a text, with the literal piece before it. -/
@[ext]
structure Hole where
  before : List Char
  inside : List Char
  stands : Placeholder
  before_plain : ¬openBraces <:+: before
  /-- A brace here would be the first of the two that open. -/
  before_last : before.getLast? ≠ some '\x7b'
  named : Text.trim inside = stands.name

/-- A text taken apart: its placeholders with the pieces before them, and the last piece. -/
@[ext]
structure Segments where
  holes : List Hole
  last : List Char
  last_plain : ¬openBraces <:+: last

def Hole.text (h : Hole) : List Char := h.before ++ openBraces ++ h.inside ++ closeBraces

namespace Segments

def text (s : Segments) : List Char := s.holes.flatMap Hole.text ++ s.last

def placeholders (s : Segments) : List Placeholder := s.holes.map (·.stands)

/-- The pieces with a target's values between them. -/
def filled (s : Segments) (target : RemoteTarget) : List Char :=
  s.holes.flatMap (fun h => h.before ++ h.stands.value target) ++ s.last

/-- The segments as they are cut, from the left. -/
def pattern (s : Segments) : Pattern :=
  s.holes.foldr (fun h rest => .hole h.before h.inside rest) (.plain s.last)

end Segments

/-! ## Where a text is cut -/

/-- Opening braces are the first ones if there are none before them, nor one beside them. -/
theorem openBraces_first_iff {before : List Char} :
    ¬openBraces <:+: before ++ openBraces.dropLast ↔
      ¬openBraces <:+: before ∧ before.getLast? ≠ some '\x7b' := by
  have hone : openBraces.dropLast = ['\x7b'] := rfl
  have hend : openBraces <:+ before ++ ['\x7b'] ↔ before.getLast? = some '\x7b' := by
    rw [List.suffix_concat_iff, List.getLast?_eq_some_iff]
    constructor
    · rintro (h | ⟨t, ht, hsuffix⟩)
      · cases h
      · obtain rfl : t = ['\x7b'] := by simpa [openBraces] using (congrArg List.dropLast ht).symm
        obtain ⟨s, rfl⟩ := hsuffix
        exact ⟨s, rfl⟩
    · rintro ⟨s, rfl⟩
      exact .inr ⟨['\x7b'], rfl, s, rfl⟩
  rw [hone, List.infix_concat_iff, not_or, hend, and_comm]

theorem cutOnce?_openBraces {s before after : List Char} :
    Text.cutOnce? openBraces s = some (before, after) ↔
      s = before ++ openBraces ++ after ∧
        ¬openBraces <:+: before ∧ before.getLast? ≠ some '\x7b' := by
  rw [Text.cutOnce?_eq_some_iff (by simp [openBraces]), openBraces_first_iff]

theorem Hole.cutOnce?_openBraces (h : Hole) (rest : List Char) :
    Text.cutOnce? openBraces (h.text ++ rest) = some (h.before, h.inside ++ closeBraces ++ rest) :=
  Pattern.cutOnce?_openBraces.2 ⟨by simp [Hole.text], h.before_plain, h.before_last⟩

theorem Hole.cutOnce?_closeBraces (h : Hole) (rest : List Char) :
    Text.cutOnce? closeBraces (h.inside ++ closeBraces ++ rest) = some (h.inside, rest) :=
  Text.cutOnce?_append (Placeholder.not_mem_of_trim h.named) ['\x7d'] rest

theorem ofText_plain {s : List Char} (h : Text.cutOnce? openBraces s = none) :
    ofText s = .plain s := by
  rw [ofText, h]

theorem ofText_unclosed {s before after : List Char}
    (hopen : Text.cutOnce? openBraces s = some (before, after))
    (hclose : Text.cutOnce? closeBraces after = none) : ofText s = .unclosed s := by
  rw [ofText]
  split
  · next hcut => cases hopen.symm.trans hcut
  · next hcut =>
    cases hopen.symm.trans hcut
    rw [hclose]

theorem ofText_hole {s before after inside rest : List Char}
    (hopen : Text.cutOnce? openBraces s = some (before, after))
    (hclose : Text.cutOnce? closeBraces after = some (inside, rest)) :
    ofText s = .hole before inside (ofText rest) := by
  rw [ofText]
  split
  · next hcut => cases hopen.symm.trans hcut
  · next hcut =>
    cases hopen.symm.trans hcut
    rw [hclose]

/-- A text is cut where its segments meet. -/
theorem ofText_text (s : Segments) : ofText s.text = s.pattern := by
  obtain ⟨holes, last, hlast⟩ := s
  induction holes with
  | nil => exact ofText_plain (Text.cutOnce?_eq_none_iff.2 hlast)
  | cons h holes ih =>
    have htext : Segments.text ⟨h :: holes, last, hlast⟩
        = h.text ++ Segments.text ⟨holes, last, hlast⟩ := by
      simp [Segments.text]
    rw [htext, ofText_hole (h.cutOnce?_openBraces _) (h.cutOnce?_closeBraces _), ih]
    rfl

/-! ## One way to take a text apart -/

theorem pattern_injective : Function.Injective Segments.pattern := by
  rintro ⟨holes, last, hlast⟩ ⟨holes', last', hlast'⟩ h
  induction holes generalizing holes' with
  | nil =>
    cases holes' with
    | nil =>
      cases h
      rfl
    | cons h' holes' => cases h
  | cons hole holes ih =>
    cases holes' with
    | nil => cases h
    | cons hole' holes' =>
      obtain ⟨hbefore, hinside, hrest⟩ := Pattern.hole.inj h
      have hstands : hole.stands = hole'.stands := by
        refine Placeholder.name_injective ?_
        rw [← hole.named, ← hole'.named, hinside]
      obtain rfl : hole = hole' := Hole.ext hbefore hinside hstands
      obtain ⟨rfl, rfl⟩ := Segments.mk.inj (ih holes' hrest)
      rfl

/-- A text can be taken apart in one way only. -/
theorem text_injective : Function.Injective Segments.text := by
  intro s s' h
  refine pattern_injective ?_
  rw [← ofText_text, ← ofText_text, h]

/-! ## What the check returns -/

theorem check_pattern (s : Segments) : s.pattern.check = .ok s.placeholders := by
  obtain ⟨holes, last, hlast⟩ := s
  induction holes with
  | nil => rfl
  | cons h holes ih =>
    have hname := Placeholder.ofName?_eq_some_iff.2 h.named
    change (Pattern.hole h.before h.inside (Segments.pattern ⟨holes, last, hlast⟩)).check = _
    rw [check, hname]
    simp only [ih]
    rfl

/-- What is accepted can be taken apart. -/
theorem exists_segments {s : List Char} {names : List Placeholder}
    (h : (ofText s).check = .ok names) :
    ∃ segments : Segments, segments.text = s ∧ segments.placeholders = names := by
  induction s using ofText.induct generalizing names with
  | case1 s hopen =>
    rw [ofText_plain hopen] at h
    cases h
    exact ⟨⟨[], s, Text.cutOnce?_eq_none_iff.1 hopen⟩, rfl, rfl⟩
  | case2 s before after hopen hclose =>
    rw [ofText_unclosed hopen hclose] at h
    cases h
  | case3 s before after hopen inside rest hclose ih =>
    rw [ofText_hole hopen hclose, check] at h
    cases hname : Placeholder.ofName? (Text.trim inside) with
    | none =>
      rw [hname] at h
      cases h
    | some p =>
      rw [hname] at h
      obtain ⟨names, hrest, rfl⟩ := Text.map_eq_ok_iff.1 h
      obtain ⟨⟨holes, last, hlast⟩, htext, hplaceholders⟩ := ih hrest
      obtain ⟨hs, hbefore, hend⟩ := cutOnce?_openBraces.1 hopen
      refine ⟨⟨⟨before, inside, p, hbefore, hend, Placeholder.ofName?_eq_some_iff.1 hname⟩ :: holes,
        last, hlast⟩, ?_, ?_⟩
      · rw [hs, Text.eq_of_cutOnce? hclose, ← htext]
        simp [Segments.text, Hole.text]
      · rw [← hplaceholders]
        rfl

theorem check_eq_ok_iff {s : List Char} {names : List Placeholder} :
    (ofText s).check = .ok names ↔
      ∃ segments : Segments, segments.text = s ∧ segments.placeholders = names := by
  refine ⟨exists_segments, ?_⟩
  rintro ⟨segments, rfl, rfl⟩
  rw [ofText_text, check_pattern]

/-! ## What is put into the holes -/

theorem fill_pattern (s : Segments) (target : RemoteTarget) :
    s.pattern.fill target = s.filled target := by
  obtain ⟨holes, last, hlast⟩ := s
  induction holes with
  | nil => rfl
  | cons h holes ih =>
    have hfill : fillHole target h.inside = h.stands.value target := by
      rw [fillHole, Placeholder.ofName?_eq_some_iff.2 h.named]
    change (Pattern.hole h.before h.inside (Segments.pattern ⟨holes, last, hlast⟩)).fill target = _
    rw [fill, hfill, ih]
    simp [Segments.filled]

/-- Each placeholder gives way to its value, and nothing else changes. -/
theorem substitute_text (s : Segments) (target : RemoteTarget) :
    substitute s.text target = s.filled target := by
  rw [substitute, ofText_text, fill_pattern]

/-! ## The two loops -/

/-- A loop that is over after some rounds, with its result. -/
inductive Ends {σ α : Type} (round : σ → α ⊕ σ) : σ → Nat → α → Prop where
  | over {s : σ} {result : α} (h : round s = .inl result) : Ends round s 0 result
  | again {s s' : σ} {n : Nat} {result : α} (h : round s = .inr s')
      (hrest : Ends round s' n result) : Ends round s (n + 1) result

/-- One round of the check: the names that are found, and the text that is left to look at. -/
def checkRound : List Placeholder × List Char →
    Except Fault (List Placeholder) ⊕ (List Placeholder × List Char)
  | (names, rest) =>
    match Text.cutOnce? openBraces rest with
    | none => .inl (.ok names)
    | some (_, after) =>
      match Text.cutOnce? closeBraces after with
      | none => .inl (.error .unclosedPlaceholder)
      | some (inside, rest) =>
        match Placeholder.ofName? (Text.trim inside) with
        | none => .inl (.error (.unknownPlaceholder (Text.trim inside)))
        | some p => .inr (names ++ [p], rest)

/-- One round of the filling: the text that is ready, and the text that is left. -/
def fillRound (target : RemoteTarget) : List Char × List Char →
    List Char ⊕ (List Char × List Char)
  | (out, rest) =>
    match Text.cutOnce? openBraces rest with
    | none => .inl (out ++ rest)
    | some (before, after) =>
      match Text.cutOnce? closeBraces after with
      | none => .inl (out ++ rest)
      | some (inside, rest) => .inr (out ++ before ++ fillHole target inside, rest)

/-- A round that goes on leaves four braces behind. -/
theorem length_of_cut {s before after inside rest : List Char}
    (hopen : Text.cutOnce? openBraces s = some (before, after))
    (hclose : Text.cutOnce? closeBraces after = some (inside, rest)) :
    rest.length + 4 ≤ s.length := by
  rw [Text.eq_of_cutOnce? hopen, Text.eq_of_cutOnce? hclose]
  simp only [List.length_append, openBraces, closeBraces, List.length_cons, List.length_nil]
  omega

theorem check_ends (names : List Placeholder) (s : List Char) :
    ∃ n, 4 * n ≤ s.length ∧
      Ends checkRound (names, s) n ((ofText s).check.map (names ++ ·)) := by
  induction s using ofText.induct generalizing names with
  | case1 s hopen =>
    refine ⟨0, Nat.zero_le _, .over ?_⟩
    rw [ofText_plain hopen]
    simp [checkRound, hopen, check, Except.map]
  | case2 s before after hopen hclose =>
    refine ⟨0, Nat.zero_le _, .over ?_⟩
    rw [ofText_unclosed hopen hclose]
    simp [checkRound, hopen, hclose, check, Except.map]
  | case3 s before after hopen inside rest hclose ih =>
    rw [ofText_hole hopen hclose, check]
    cases hname : Placeholder.ofName? (Text.trim inside) with
    | none =>
      refine ⟨0, Nat.zero_le _, .over ?_⟩
      simp [checkRound, hopen, hclose, hname, Except.map]
    | some p =>
      obtain ⟨n, hn, hends⟩ := ih (names ++ [p])
      have hlen := length_of_cut hopen hclose
      have hround : checkRound (names, s) = .inr (names ++ [p], rest) := by
        simp [checkRound, hopen, hclose, hname]
      have hmap : ((ofText rest).check.map (p :: ·)).map (names ++ ·)
          = (ofText rest).check.map (names ++ [p] ++ ·) := by
        cases (ofText rest).check <;> simp [Except.map]
      refine ⟨n + 1, by omega, .again hround ?_⟩
      rw [hmap]
      exact hends

theorem fill_ends (target : RemoteTarget) (out s : List Char) :
    ∃ n, 4 * n ≤ s.length ∧
      Ends (fillRound target) (out, s) n (out ++ substitute s target) := by
  induction s using ofText.induct generalizing out with
  | case1 s hopen =>
    refine ⟨0, Nat.zero_le _, .over ?_⟩
    rw [substitute, ofText_plain hopen]
    simp [fillRound, hopen, fill]
  | case2 s before after hopen hclose =>
    refine ⟨0, Nat.zero_le _, .over ?_⟩
    rw [substitute, ofText_unclosed hopen hclose]
    simp [fillRound, hopen, hclose, fill]
  | case3 s before after hopen inside rest hclose ih =>
    obtain ⟨n, hn, hends⟩ := ih (out ++ before ++ fillHole target inside)
    have hlen := length_of_cut hopen hclose
    have hround : fillRound target (out, s)
        = .inr (out ++ before ++ fillHole target inside, rest) := by
      simp [fillRound, hopen, hclose]
    have hfill : out ++ substitute s target
        = out ++ before ++ fillHole target inside ++ substitute rest target := by
      rw [substitute, ofText_hole hopen hclose, fill]
      simp [substitute]
    refine ⟨n + 1, by omega, .again hround ?_⟩
    rw [hfill]
    exact hends

end Pattern

/-! ## Texts of a template -/

namespace CommandTemplate

open Pattern

variable {text : String} {names : List Placeholder}

theorem checkText_eq_ok_iff_check :
    checkText text = .ok names ↔ (ofText text.toList).check = .ok names := by
  rw [checkText]
  split
  · next hcheck => rw [hcheck]; simp
  · next hcheck => rw [hcheck]; simp
  · next hcheck => rw [hcheck]; simp

theorem checkText_eq_ok_iff :
    checkText text = .ok names ↔
      ∃ s : Segments, s.text = text.toList ∧ s.placeholders = names := by
  rw [checkText_eq_ok_iff_check, check_eq_ok_iff]

/-- A template can be used if it has a command and every one of its texts can be taken apart. -/
theorem validate_eq_ok_iff {t : CommandTemplate} :
    t.validate = .ok () ↔ Text.isAllBlank t.command.toList = false ∧
      ∀ text ∈ t.texts, ∃ s : Segments, s.text = text.toList := by
  have hone (text : String) : (checkText text).map (fun _ => ()) = .ok () ↔
      ∃ s : Segments, s.text = text.toList := by
    rw [Text.map_eq_ok_iff]
    constructor
    · rintro ⟨names, hnames, _⟩
      obtain ⟨s, hs, _⟩ := checkText_eq_ok_iff.1 hnames
      exact ⟨s, hs⟩
    · rintro ⟨s, hs⟩
      exact ⟨s.placeholders, checkText_eq_ok_iff.2 ⟨s, hs, rfl⟩, rfl⟩
  have hall (texts : List String) :
      (texts.forM fun text => (checkText text).map fun _ => ()) = .ok () ↔
        ∀ text ∈ texts, ∃ s : Segments, s.text = text.toList := by
    induction texts with
    | nil => simp [pure, Except.pure]
    | cons text texts ih =>
      rw [List.forM, Text.bind_eq_ok_iff, List.forall_mem_cons, ← ih, ← hone text]
      exact ⟨fun ⟨_, hfirst, hrest⟩ => ⟨hfirst, hrest⟩, fun ⟨hfirst, hrest⟩ => ⟨(), hfirst, hrest⟩⟩
  rw [validate]
  cases Text.isAllBlank t.command.toList with
  | true => simp
  | false => simpa using hall t.texts

/-- The check accepts what can be taken apart, which is possible in one way, and returns the names
in it.  The filling cuts at the same places: it puts each value in once, looks at none of them, and
leaves the rest as it is.  Both come to an end on every text. -/
theorem checkText_iff_segments (text : String) :
    (∀ names, checkText text = .ok names ↔
      ∃ s : Segments, s.text = text.toList ∧ s.placeholders = names ∧
        names.map (·.name) = s.holes.map fun h => Text.trim h.inside) ∧
    (∀ s s' : Segments, s.text = text.toList → s'.text = text.toList → s = s') ∧
    (∀ s : Segments, s.text = text.toList → ∀ target,
      substitute text.toList target = s.filled target) ∧
    (∃ n, 4 * n ≤ text.toList.length ∧
      Ends checkRound ([], text.toList) n (ofText text.toList).check) ∧
    ∀ target, ∃ n, 4 * n ≤ text.toList.length ∧
      Ends (fillRound target) ([], text.toList) n (substitute text.toList target) := by
  refine ⟨fun names => ?_, fun s s' hs hs' => text_injective (hs.trans hs'.symm), ?_, ?_, ?_⟩
  · rw [checkText_eq_ok_iff]
    refine exists_congr fun s => and_congr_right fun _ => ?_
    refine ⟨fun hnames => ⟨hnames, ?_⟩, fun ⟨hnames, _⟩ => hnames⟩
    rw [← hnames, Segments.placeholders, List.map_map]
    exact List.map_congr_left fun h _ => h.named.symm
  · intro s hs target
    rw [← hs, substitute_text]
  · obtain ⟨n, hn, hends⟩ := check_ends [] text.toList
    have hmap : (ofText text.toList).check.map ([] ++ ·) = (ofText text.toList).check := by
      cases (ofText text.toList).check <;> rfl
    exact ⟨n, hn, hmap ▸ hends⟩
  · exact fun target => fill_ends target [] text.toList

/-- Braces beside placeholders, and a value that looks like one. -/
def bracedSegments : Segments where
  holes := [⟨['{', 'a'], [' ', 'i', 'n', 'd', 'e', 'x', ' '], .index,
      by decide, by decide, by decide⟩,
    ⟨['}'], ['u', 's', 'e', 'r'], .user, by decide, by decide, by decide⟩]
  last := ['{']
  last_plain := by decide

def bracedTarget : RemoteTarget := ⟨3, "10.0.0.3", "{{index}}", none, 22⟩

theorem checkText_iff_segments_braced :
    bracedSegments.text = "{a{{ index }}}{{user}}\x7b".toList ∧
      checkText "{a{{ index }}}{{user}}\x7b" = .ok [.index, .user] ∧
      String.ofList (substitute "{a{{ index }}}{{user}}\x7b".toList
        bracedTarget) = "{a3}{{index}}\x7b" := by
  have htext : bracedSegments.text
      = "{a{{ index }}}{{user}}\x7b".toList := by decide +kernel
  obtain ⟨hcheck, _, hfill, _⟩ :=
    checkText_iff_segments "{a{{ index }}}{{user}}\x7b"
  refine ⟨htext, (hcheck _).2 ⟨bracedSegments, htext, rfl, rfl⟩, ?_⟩
  rw [hfill bracedSegments htext bracedTarget]
  decide +kernel

end CommandTemplate

end RemoteFleet
