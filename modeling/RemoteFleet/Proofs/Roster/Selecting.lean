import RemoteFleet.Proofs.Roster.Acceptance
import RemoteFleet.Proofs.Selection.Display

/-!
# The targets that a selection picks

A selection picks the targets of the indices that it means, in roster order (`map_some_select`).

Two selections complement each other if each index is meant by exactly one of them.  Their targets
together are the whole fleet (`perm_select_append`), and no host is picked by both
(`index_ne_of_complements`).  The order is kept as well if one of the two means the lower indices
(`select_append_select`): in an ascending roster these are a beginning.

Texts come in through `pick`, which picks by what a text is read as.  It is the same for every way
to write a phrase (`pick_of_writtenAs`).
-/

namespace RemoteFleet

namespace Selection

/-- Whether each index is meant by exactly one of two selections. -/
def Complements (s s' : Selection) : Prop := ∀ i, s'.holds i = !s.holds i

/-- Whether no index is left out below one that is meant. -/
def IsInitial (s : Selection) : Prop := ∀ i j, i < j → s.holds j = true → s.holds i = true

theorem complements_below (k : UInt32) :
    Complements (Comparison.below.selection k) (Comparison.atLeast.selection k) := by
  intro i
  show (decide (k ≤ i) && true) = !(true && decide (i < k))
  rw [Bool.and_true, Bool.true_and, ← decide_not, decide_eq_decide]
  exact UInt32.not_lt.symm

theorem complements_atMost (k : UInt32) :
    Complements (Comparison.atMost.selection k) (Comparison.above.selection k) := by
  intro i
  show (decide (k < i) && true) = !(true && decide (i ≤ k))
  rw [Bool.and_true, Bool.true_and, ← decide_not, decide_eq_decide]
  exact UInt32.not_le.symm

theorem complements_only {members others : List UInt32} (h : ∀ i, i ∈ members ↔ i ∈ others) :
    Complements (.only (.ofList members)) (.except (.ofList others)) := by
  intro i
  show (!(IndexSet.ofList others).contains i) = !(IndexSet.ofList members).contains i
  rw [Bool.not_inj_iff, Bool.eq_iff_iff, contains_ofList_iff, contains_ofList_iff]
  exact (h i).symm

theorem isInitial_below (k : UInt32) : (Comparison.below.selection k).IsInitial := by
  intro i j hij hj
  rw [holds_comparison_iff] at hj ⊢
  exact UInt32.lt_trans hij hj

theorem isInitial_atMost (k : UInt32) : (Comparison.atMost.selection k).IsInitial := by
  intro i j hij hj
  rw [holds_comparison_iff] at hj ⊢
  exact UInt32.le_of_lt (UInt32.lt_of_lt_of_le hij hj)

end Selection

open Selection (Complements IsInitial Phrase)

/-- What is true of a beginning only can be taken out of a list and put in front again. -/
theorem filter_append_filter_not {α : Type} {p : α → Bool} {l : List α}
    (h : l.Pairwise fun a b => p b = true → p a = true) :
    l.filter p ++ l.filter (fun a => !p a) = l := by
  induction l with
  | nil => rfl
  | cons a l ih =>
    obtain ⟨ha, hl⟩ := List.pairwise_cons.1 h
    cases hp : p a with
    | true => simp [hp, ih hl]
    | false =>
      -- Nothing behind `a` is in the beginning, since `a` is not.
      have hnone : ∀ b ∈ l, p b = false := by
        intro b hb
        apply Bool.eq_false_iff.2
        intro hpb
        rw [ha b hb hpb] at hp
        cases hp
      have hrest : l.filter p = [] := by
        simpa using hnone
      rw [hrest, List.nil_append] at ih
      simp [hp, hrest, ih hl]

namespace HostRoster

variable {r : HostRoster} {s s' : Selection} {credentials : Credentials} {text : String}

theorem mem_select {t : RemoteTarget} : t ∈ r.select s credentials ↔
    ∃ e ∈ r.entries, s.holds e.index = true ∧ RemoteTarget.resolve e credentials = t := by
  simp [select, and_assoc]

/-- The targets are those of the indices that are meant, in roster order. -/
theorem map_some_select (r : HostRoster) (s : Selection) (credentials : Credentials) :
    (r.select s credentials).map some
      = (r.indices.filter s.holds).map (r.target? credentials) := by
  unfold select indices
  rw [List.filter_map, List.map_map, List.map_map]
  apply List.map_congr_left
  intro e he
  exact (target?_of_mem (List.mem_of_mem_filter he) credentials).symm

theorem select_all (r : HostRoster) (credentials : Credentials) :
    r.select .all credentials = r.entries.map (RemoteTarget.resolve · credentials) := by
  simp [select, Selection.holds]

theorem select_of_complements (h : Complements s s') (credentials : Credentials) :
    r.select s' credentials
      = (r.entries.filter fun e => !s.holds e.index).map (RemoteTarget.resolve · credentials) := by
  unfold select
  simp only [h _]

/-- Lower indices and the others are the whole fleet in its order. -/
theorem select_append_select (h : Complements s s') (hinitial : s.IsInitial)
    (credentials : Credentials) :
    r.select s credentials ++ r.select s' credentials = r.select .all credentials := by
  have hascending := List.pairwise_map.1 r.ascending
  have hbeginning : r.entries.Pairwise
      fun e f => s.holds f.index = true → s.holds e.index = true :=
    hascending.imp fun hlt => hinitial _ _ hlt
  rw [select_of_complements h, select_all, select, ← List.map_append]
  rw [filter_append_filter_not hbeginning]

/-- Complementary selections pick the whole fleet between them. -/
theorem perm_select_append (h : Complements s s') (credentials : Credentials) :
    (r.select s credentials ++ r.select s' credentials).Perm (r.select .all credentials) := by
  rw [select_of_complements h, select_all, select, ← List.map_append]
  exact (List.filter_append_perm (fun e => s.holds e.index) r.entries).map _

/-- Complementary selections pick no host twice. -/
theorem index_ne_of_complements (h : Complements s s') {t t' : RemoteTarget}
    (ht : t ∈ r.select s credentials) (ht' : t' ∈ r.select s' credentials) :
    t.index ≠ t'.index := by
  obtain ⟨e, _, he, rfl⟩ := mem_select.1 ht
  obtain ⟨e', _, he', rfl⟩ := mem_select.1 ht'
  show e.index ≠ e'.index
  intro heq
  rw [h, ← heq, he] at he'
  cases he'

/-! ## Texts that pick -/

/-- The targets of the selection that a text is read as. -/
def pick (r : HostRoster) (credentials : Credentials) (text : String) :
    Except Selection.Fault (List RemoteTarget) :=
  (Selection.parse text).map fun s => r.select s credentials

theorem pick_of_writtenAs {p : Phrase} (h : p.WrittenAs text) (r : HostRoster)
    (credentials : Credentials) :
    r.pick credentials text = .ok (r.select p.selection credentials) := by
  unfold pick
  rw [Selection.parse_eq_ok_iff.2 ⟨p, h, rfl⟩]
  rfl

/-- Of two phrases that complement each other, the one that means the lower indices picks the first
targets of the fleet and the other one the rest. -/
theorem exists_pick_append {p p' : Phrase} {low high : String} (hlow : p.WrittenAs low)
    (hhigh : p'.WrittenAs high) (h : Complements p.selection p'.selection)
    (hinitial : IsInitial p.selection) (r : HostRoster) (credentials : Credentials) :
    ∃ l l', r.pick credentials low = .ok l ∧ r.pick credentials high = .ok l' ∧
      l ++ l' = r.select .all credentials := by
  refine ⟨_, _, pick_of_writtenAs hlow r credentials, pick_of_writtenAs hhigh r credentials, ?_⟩
  exact select_append_select h hinitial credentials

/-! ## Phrases as they are mostly written -/

theorem writtenAs_comparison (c : Selection.Comparison) (k : UInt32) :
    (Phrase.comparison c k).WrittenAs
      (String.ofList (c.sign ++ ([' '] ++ Text.decimal k.toNat))) := by
  have hk := (Selection.layout_decimal k).blanks_append (b := [' ']) rfl
  apply Or.inl
  rw [String.toList_ofList, ← Selection.text_comparison]
  exact Selection.layout_word_append (.comparison c) hk

theorem writtenAs_list {members : List UInt32} (h : members ≠ []) :
    (Phrase.list members h).WrittenAs
      (String.ofList ([','].intercalate (members.map fun k => Text.decimal k.toNat))) := by
  apply Or.inl
  rw [String.toList_ofList]
  exact Selection.layout_intercalate members

theorem writtenAs_unequal {others : List UInt32} (h : others ≠ []) :
    (Phrase.unequal others h).WrittenAs (String.ofList (['!', '='] ++
      ([' '] ++ [','].intercalate (others.map fun k => Text.decimal k.toNat)))) := by
  have hothers := (Selection.layout_intercalate others).blanks_append (b := [' ']) rfl
  apply Or.inl
  rw [String.toList_ofList]
  exact Selection.layout_word_append .unequal hothers

/-! ## Splitting the fleet -/

/-- Three hosts without a login of their own. -/
def three : HostRoster where
  entries := [{ index := 1, address := "east" }, { index := 2, address := "middle" },
    { index := 3, address := "west" }]
  ascending := by decide
  sound := by decide
  ne_nil := by decide

/-- A selection picks the targets of the indices that it means, in ascending order.  What is below
an index and what is not, and what is up to an index and what is above it, are the fleet in its
order.  A list and what is left when the list is left out have no host in common and are the fleet
in some order. -/
theorem complementary_phrases_split (r : HostRoster) (credentials : Credentials) :
    (∀ s, (r.select s credentials).map some
        = (r.indices.filter s.holds).map (r.target? credentials) ∧
      ((r.select s credentials).map (·.index)).Pairwise (· < ·)) ∧
    ∃ everyone, (∀ text, Phrase.all.WrittenAs text → r.pick credentials text = .ok everyone) ∧
      (∀ k low high, (Phrase.comparison .below k).WrittenAs low →
        (Phrase.comparison .atLeast k).WrittenAs high →
        ∃ l l', r.pick credentials low = .ok l ∧ r.pick credentials high = .ok l' ∧
          l ++ l' = everyone) ∧
      (∀ k low high, (Phrase.comparison .atMost k).WrittenAs low →
        (Phrase.comparison .above k).WrittenAs high →
        ∃ l l', r.pick credentials low = .ok l ∧ r.pick credentials high = .ok l' ∧
          l ++ l' = everyone) ∧
      ∀ members others hmembers hothers these rest, (∀ i, i ∈ members ↔ i ∈ others) →
        (Phrase.list members hmembers).WrittenAs these →
        (Phrase.unequal others hothers).WrittenAs rest →
        ∃ l l', r.pick credentials these = .ok l ∧ r.pick credentials rest = .ok l' ∧
          (∀ t ∈ l, ∀ t' ∈ l', t.index ≠ t'.index) ∧ (l ++ l').Perm everyone := by
  refine ⟨fun s => ⟨r.map_some_select s credentials, r.select_ascending s credentials⟩,
    r.select .all credentials, fun text htext => pick_of_writtenAs htext r credentials,
    ?_, ?_, ?_⟩
  · intro k low high hlow hhigh
    exact exists_pick_append hlow hhigh (Selection.complements_below k)
      (Selection.isInitial_below k) r credentials
  · intro k low high hlow hhigh
    exact exists_pick_append hlow hhigh (Selection.complements_atMost k)
      (Selection.isInitial_atMost k) r credentials
  · intro members others hmembers hothers these rest hsame hthese hrest
    have hcomplements := Selection.complements_only hsame
    refine ⟨_, _, pick_of_writtenAs hthese r credentials, pick_of_writtenAs hrest r credentials,
      ?_, perm_select_append hcomplements credentials⟩
    exact fun t ht t' ht' => index_ne_of_complements hcomplements ht ht'

/-- The first of three hosts and the other two, all three and those above the greatest index, and
the hosts at the ends and the one between. -/
theorem complementary_phrases_split_three :
    (∃ l l', three.pick {} "< 2" = .ok l ∧ three.pick {} ">= 2" = .ok l' ∧
      l.map (·.index) = [1] ∧ three.pick {} "all" = .ok (l ++ l')) ∧
    (∃ l l', three.pick {} "<= 4294967295" = .ok l ∧ three.pick {} "> 4294967295" = .ok l' ∧
      l' = [] ∧ three.pick {} "all" = .ok (l ++ l')) ∧
    ∃ l l', three.pick {} "1,3" = .ok l ∧ three.pick {} "!= 3,1" = .ok l' ∧
      l'.map (·.index) = [2] ∧ ∃ everyone, three.pick {} "all" = .ok everyone ∧
        (l ++ l').Perm everyone := by
  obtain ⟨_, everyone, hall, hbelow, hupTo, hlists⟩ := complementary_phrases_split three {}
  have hwhole : three.pick {} "all" = .ok everyone := hall "all" (.inl (Selection.layout_word .all))
  refine ⟨?_, ?_, ?_⟩
  · obtain ⟨l, l', hl, hl', happend⟩ := hbelow 2 "< 2" ">= 2"
      (writtenAs_comparison .below 2) (writtenAs_comparison .atLeast 2)
    refine ⟨l, l', hl, hl', ?_, happend ▸ hwhole⟩
    have hfirst : three.pick {} "< 2" = .ok [⟨1, "east", "ec2-user", none, 22⟩] := rfl
    rw [hfirst] at hl
    cases hl
    rfl
  · obtain ⟨l, l', hl, hl', happend⟩ := hupTo 0xFFFFFFFF "<= 4294967295" "> 4294967295"
      (writtenAs_comparison .atMost 0xFFFFFFFF) (writtenAs_comparison .above 0xFFFFFFFF)
    refine ⟨l, l', hl, hl', ?_, happend ▸ hwhole⟩
    have hnobody : three.pick {} "> 4294967295" = .ok [] := rfl
    rw [hnobody] at hl'
    cases hl'
    rfl
  · have hsame : ∀ i : UInt32, i ∈ [1, 3] ↔ i ∈ [3, 1] := by
      intro i
      simp [or_comm]
    obtain ⟨l, l', hl, hl', _, hperm⟩ := hlists [1, 3] [3, 1] (by simp) (by simp) "1,3" "!= 3,1"
      hsame (writtenAs_list (by simp)) (writtenAs_unequal (by simp))
    refine ⟨l, l', hl, hl', ?_, everyone, hwhole, hperm⟩
    have hsecond : three.pick {} "!= 3,1" = .ok [⟨2, "middle", "ec2-user", none, 22⟩] := rfl
    rw [hsecond] at hl'
    cases hl'
    rfl

end HostRoster

end RemoteFleet
