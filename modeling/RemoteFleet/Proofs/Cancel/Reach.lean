import Mathlib.Logic.Relation
import RemoteFleet.Cancel.Token

/-!
# Which tokens a cancel reaches

A `CancelHistory` says how each token was made and on which tokens cancel was called, and nothing of
flags.  `Follows` is read off it: a token follows itself, its clones and what it is a clone of, the
token that it is a child of, and whatever these follow.

* `Describes.step`: what a history says of the tokens and the flags stays true.
* `Describes.follows_iff`: a token follows another one if the flag of the other one is its own or
  one above it.
* `Describes.cancelled_iff`: so a token is cancelled if cancel was called on one that it follows.
* `Describes.not_follows_of_child`, `Describes.not_follows_of_siblings`: a token is above its
  children and beside its siblings.

A token carries the flags above it.  `walk` goes from flag to flag by the links between them, as
long as there is fuel.  The links lead to older flags, so the walk ends (`Describes.walk_eq`).
-/

namespace RemoteFleet

open Relation (ReflTransGen)

/-! ## Lists that grow -/

theorem getElem?_of_isPrefix {α : Type} {l l' : List α} {i : Nat} {a : α} (hgrows : l <+: l')
    (ha : l[i]? = some a) : l'[i]? = some a := by
  obtain ⟨hi, rfl⟩ := List.getElem?_eq_some_iff.1 ha
  exact List.prefix_iff_getElem?.1 hgrows i hi

theorem getElem?_concat_eq_some {α : Type} {l : List α} {i : Nat} {a b : α} :
    (l ++ [a])[i]? = some b ↔ l[i]? = some b ∨ i = l.length ∧ a = b := by
  rcases Nat.lt_trichotomy i l.length with hlt | rfl | hgt
  · simp [List.getElem?_append_left hlt, Nat.ne_of_lt hlt]
  · simp
  · have hnone : (l ++ [a])[i]? = none := by
      rw [List.getElem?_eq_none_iff, List.length_append]
      exact hgt
    simp [hnone, List.getElem?_eq_none_iff.2 (Nat.le_of_lt hgt), Nat.ne_of_gt hgt]

/-! ## Histories -/

/-- How a token was made. -/
inductive TokenOrigin where
  | new
  | child (token : Nat)
  | clone (token : Nat)
  deriving DecidableEq

/-- How the tokens were made, and on which of them cancel was called. -/
structure CancelHistory where
  origins : List TokenOrigin
  cancels : List Nat
  deriving DecidableEq

namespace CancelHistory

/-- One token was made. -/
def initial : CancelHistory := ⟨[.new], []⟩

/-- The history with a token more. -/
def made (h : CancelHistory) (origin : TokenOrigin) : CancelHistory :=
  ⟨h.origins ++ [origin], h.cancels⟩

/-- The history with a step more.  There is no step on a token that does not exist. -/
def note (h : CancelHistory) : CancelStep → CancelHistory
  | .new => h.made .new
  | .child i => if i < h.origins.length then h.made (.child i) else h
  | .clone i => if i < h.origins.length then h.made (.clone i) else h
  | .cancel i => if i < h.origins.length then ⟨h.origins, h.cancels ++ [i]⟩ else h

/-- The history of some steps. -/
def ofSteps (steps : List CancelStep) : CancelHistory := steps.foldl note initial

/-- Whether a token is a child of another one, or one of the two is a clone of the other. -/
inductive Heeds (origins : List TokenOrigin) : Nat → Nat → Prop where
  | parent {i j : Nat} (horigin : origins[i]? = some (.child j)) : Heeds origins i j
  | original {i j : Nat} (horigin : origins[i]? = some (.clone j)) : Heeds origins i j
  | copy {i j : Nat} (horigin : origins[j]? = some (.clone i)) : Heeds origins i j

/-- Whether a token is another one or a clone of it, or descends from one of these. -/
def Follows (h : CancelHistory) : Nat → Nat → Prop := ReflTransGen (Heeds h.origins)

/-- Whether one history is the beginning of another. -/
structure Precedes (h h' : CancelHistory) : Prop where
  origins : h.origins <+: h'.origins
  cancels : h.cancels <+: h'.cancels

variable {h h' : CancelHistory} {i j : Nat}

theorem Precedes.refl (h : CancelHistory) : Precedes h h :=
  ⟨List.prefix_refl _, List.prefix_refl _⟩

theorem precedes_made (h : CancelHistory) (origin : TokenOrigin) : Precedes h (h.made origin) :=
  ⟨List.prefix_append _ _, List.prefix_refl _⟩

theorem precedes_note (h : CancelHistory) (step : CancelStep) : Precedes h (h.note step) := by
  cases step with
  | new => exact precedes_made h .new
  | child i =>
    rw [note]
    split
    · exact precedes_made h (.child i)
    · exact .refl h
  | clone i =>
    rw [note]
    split
    · exact precedes_made h (.clone i)
    · exact .refl h
  | cancel i =>
    rw [note]
    split
    · exact ⟨List.prefix_refl _, List.prefix_append _ _⟩
    · exact .refl h

theorem precedes_foldl (h : CancelHistory) (steps : List CancelStep) :
    Precedes h (steps.foldl note h) := by
  induction steps generalizing h with
  | nil => exact .refl h
  | cons step steps ih =>
    have hfirst := precedes_note h step
    have hrest := ih (h.note step)
    exact ⟨hfirst.origins.trans hrest.origins, hfirst.cancels.trans hrest.cancels⟩

/-- What was followed is followed from then on. -/
theorem Follows.mono (hfollows : h.Follows i j) (hprecedes : Precedes h h') : h'.Follows i j := by
  refine ReflTransGen.mono (fun a b hheeds => ?_) i j hfollows
  cases hheeds with
  | parent horigin => exact .parent (getElem?_of_isPrefix hprecedes.origins horigin)
  | original horigin => exact .original (getElem?_of_isPrefix hprecedes.origins horigin)
  | copy horigin => exact .copy (getElem?_of_isPrefix hprecedes.origins horigin)

end CancelHistory

/-! ## What a history says of the tokens -/

/-- The flags that are asked for a token: its own, and those above it. -/
def CancelToken.chain (t : CancelToken) : List Nat := t.flag :: t.ancestors

/-- Whether the flag of a token is newer than those of the tokens before it. -/
def IsNewest (tokens : List CancelToken) (i : Nat) (t : CancelToken) : Prop :=
  ∀ j u, j < i → tokens[j]? = some u → u.flag < t.flag

/-- What an origin says of its token, which stands behind those that it was made from. -/
def TokenOrigin.Explains (tokens : List CancelToken) (i : Nat) (t : CancelToken) :
    TokenOrigin → Prop
  | .new => IsNewest tokens i t ∧ t.ancestors = []
  | .child j => IsNewest tokens i t ∧ ∃ u, j < i ∧ tokens[j]? = some u ∧ t.ancestors = u.chain
  | .clone j => j < i ∧ tokens[j]? = some t

/-- Whether the tokens and their flags are what a history makes of them. -/
structure CancelHistory.Describes (h : CancelHistory) (s : CancelState) : Prop where
  length : s.tokens.length = h.origins.length
  explains : ∀ i t (origin : TokenOrigin), s.tokens[i]? = some t → h.origins[i]? = some origin →
    origin.Explains s.tokens i t
  flag_lt : ∀ t ∈ s.tokens, t.flag < s.flags.count
  cancels_lt : ∀ j ∈ h.cancels, j < s.tokens.length
  raised : ∀ flag, flag ∈ s.flags.raised ↔
    ∃ j ∈ h.cancels, ∃ t, s.tokens[j]? = some t ∧ t.flag = flag

variable {s : CancelState} {h : CancelHistory} {i j : Nat} {t u : CancelToken}

theorem IsNewest.append {tokens : List CancelToken} (hnewest : IsNewest tokens i t)
    (hi : i ≤ tokens.length) (more : List CancelToken) : IsNewest (tokens ++ more) i t := by
  intro j u hj hu
  rw [List.getElem?_append_left (Nat.lt_of_lt_of_le hj hi)] at hu
  exact hnewest j u hj hu

/-- Tokens that come later change nothing. -/
theorem TokenOrigin.Explains.append {tokens : List CancelToken} {origin : TokenOrigin}
    (hexplains : origin.Explains tokens i t) (hi : i ≤ tokens.length) (more : List CancelToken) :
    origin.Explains (tokens ++ more) i t := by
  have hgrows := List.prefix_append tokens more
  cases origin with
  | new => exact ⟨hexplains.1.append hi more, hexplains.2⟩
  | child j =>
    obtain ⟨hnewest, u, hj, hu, hancestors⟩ := hexplains
    exact ⟨hnewest.append hi more, u, hj, getElem?_of_isPrefix hgrows hu, hancestors⟩
  | clone j => exact ⟨hexplains.1, getElem?_of_isPrefix hgrows hexplains.2⟩

namespace CancelHistory.Describes

theorem initial : CancelHistory.initial.Describes .initial where
  length := rfl
  explains := by
    intro i t origin ht horigin
    cases i with
    | zero =>
      cases ht
      cases horigin
      exact ⟨fun j u hj _ => absurd hj (Nat.not_lt_zero j), rfl⟩
    | succ i => cases ht
  flag_lt := by
    intro t ht
    rw [List.mem_singleton.1 ht]
    exact Nat.zero_lt_one
  cancels_lt := nofun
  raised := by
    intro flag
    constructor
    · nofun
    · rintro ⟨j, hj, _⟩
      cases hj

/-! ### Steps -/

theorem isNewest_count (hd : h.Describes s) (ancestors : List Nat) :
    IsNewest s.tokens s.tokens.length ⟨s.flags.count, ancestors⟩ := fun _ u _ hu =>
  hd.flag_lt u (List.mem_of_getElem? hu)

/-- A token more. -/
theorem push (hd : h.Describes s) {origin : TokenOrigin} {count : Nat}
    (hcount : s.flags.count ≤ count) (ht : t.flag < count)
    (hexplains : origin.Explains s.tokens s.tokens.length t) :
    (h.made origin).Describes ⟨s.tokens ++ [t], count, s.flags.raised⟩ where
  length := by
    simp [CancelHistory.made, hd.length]
  explains := by
    intro i u origin' hu horigin
    rcases getElem?_concat_eq_some.1 hu with hold | ⟨rfl, rfl⟩
    · have hi : i < s.tokens.length := (List.getElem?_eq_some_iff.1 hold).1
      rcases getElem?_concat_eq_some.1 horigin with hsame | ⟨heq, _⟩
      · exact (hd.explains i u origin' hold hsame).append (Nat.le_of_lt hi) [t]
      · rw [heq, ← hd.length] at hi
        exact absurd hi (Nat.lt_irrefl _)
    · rcases getElem?_concat_eq_some.1 horigin with hsame | ⟨_, rfl⟩
      · have hi := (List.getElem?_eq_some_iff.1 hsame).1
        rw [← hd.length] at hi
        exact absurd hi (Nat.lt_irrefl _)
      · exact hexplains.append (Nat.le_refl _) [t]
  flag_lt := by
    intro u hu
    rcases List.mem_append.1 hu with hold | hnew
    · exact Nat.lt_of_lt_of_le (hd.flag_lt u hold) hcount
    · rw [List.mem_singleton.1 hnew]
      exact ht
  cancels_lt := by
    intro j hj
    rw [List.length_append]
    exact Nat.lt_add_right 1 (hd.cancels_lt j hj)
  raised := by
    intro flag
    have hsame : ∀ j ∈ h.cancels, (s.tokens ++ [t])[j]? = s.tokens[j]? := fun j hj =>
      List.getElem?_append_left (hd.cancels_lt j hj)
    rw [hd.raised]
    exact exists_congr fun j => and_congr_right fun hj => by rw [hsame j hj]

theorem step (hd : h.Describes s) (step : CancelStep) : (h.note step).Describes (s.step step) := by
  -- A token that exists in the one exists in the other.
  have hexists : ∀ {i u}, s.tokens[i]? = some u → i < h.origins.length := fun hu =>
    hd.length ▸ (List.getElem?_eq_some_iff.1 hu).1
  have hnone : ∀ {i}, s.tokens[i]? = none → ¬i < h.origins.length := fun hi => by
    rw [← hd.length]
    exact Nat.not_lt.2 (List.getElem?_eq_none_iff.1 hi)
  cases step with
  | new =>
    exact hd.push (Nat.le_succ _) (Nat.lt_succ_self _) ⟨hd.isNewest_count [], rfl⟩
  | child i =>
    cases hi : s.tokens[i]? with
    | none =>
      simp only [CancelState.step, CancelHistory.note, hi, if_neg (hnone hi)]
      exact hd
    | some u =>
      simp only [CancelState.step, CancelHistory.note, hi, if_pos (hexists hi)]
      exact hd.push (Nat.le_succ _) (Nat.lt_succ_self _)
        ⟨hd.isNewest_count u.chain, u, (List.getElem?_eq_some_iff.1 hi).1, hi, rfl⟩
  | clone i =>
    cases hi : s.tokens[i]? with
    | none =>
      simp only [CancelState.step, CancelHistory.note, hi, if_neg (hnone hi)]
      exact hd
    | some u =>
      simp only [CancelState.step, CancelHistory.note, hi, if_pos (hexists hi)]
      exact hd.push (Nat.le_refl _) (hd.flag_lt u (List.mem_of_getElem? hi))
        ⟨(List.getElem?_eq_some_iff.1 hi).1, hi⟩
  | cancel i =>
    cases hi : s.tokens[i]? with
    | none =>
      simp only [CancelState.step, CancelHistory.note, hi, if_neg (hnone hi)]
      exact hd
    | some u =>
      simp only [CancelState.step, CancelHistory.note, hi, if_pos (hexists hi)]
      refine { hd with cancels_lt := ?_, raised := ?_ }
      · intro j hj
        rcases List.mem_append.1 hj with hold | hnew
        · exact hd.cancels_lt j hold
        · rw [List.mem_singleton.1 hnew]
          exact (List.getElem?_eq_some_iff.1 hi).1
      · intro flag
        simp [CancelFlags.cancel, hd.raised flag, hi, or_and_right, exists_or, or_comm, eq_comm]

theorem foldl (hd : h.Describes s) (steps : List CancelStep) :
    (steps.foldl note h).Describes (steps.foldl CancelState.step s) := by
  induction steps generalizing s h with
  | nil => exact hd
  | cons step steps ih => exact ih (hd.step step)

/-! ### What is followed -/

theorem exists_token_iff (hd : h.Describes s) :
    (∃ t, s.tokens[i]? = some t) ↔ ∃ origin, h.origins[i]? = some origin := by
  rw [← Option.isSome_iff_exists, ← Option.isSome_iff_exists, isSome_getElem?, isSome_getElem?,
    hd.length]

/-- Whatever a token heeds is a token, and all that is asked for it is asked for the one as well. -/
theorem exists_of_heeds (hd : h.Describes s) (hheeds : Heeds h.origins i j) :
    ∃ t u, s.tokens[i]? = some t ∧ s.tokens[j]? = some u ∧ u.chain ⊆ t.chain := by
  cases hheeds with
  | parent horigin =>
    obtain ⟨t, ht⟩ := hd.exists_token_iff.2 ⟨_, horigin⟩
    obtain ⟨_, u, _, hu, hancestors⟩ := hd.explains i t _ ht horigin
    refine ⟨t, u, ht, hu, ?_⟩
    rw [← hancestors]
    exact List.subset_cons_self _ _
  | original horigin =>
    obtain ⟨t, ht⟩ := hd.exists_token_iff.2 ⟨_, horigin⟩
    exact ⟨t, t, ht, (hd.explains i t _ ht horigin).2, List.Subset.refl _⟩
  | copy horigin =>
    obtain ⟨u, hu⟩ := hd.exists_token_iff.2 ⟨_, horigin⟩
    exact ⟨u, u, (hd.explains j u _ hu horigin).2, hu, List.Subset.refl _⟩

theorem exists_of_follows (hd : h.Describes s) (hfollows : h.Follows i j)
    (ht : s.tokens[i]? = some t) : ∃ u, s.tokens[j]? = some u ∧ u.chain ⊆ t.chain := by
  induction hfollows with
  | refl => exact ⟨t, ht, List.Subset.refl _⟩
  | tail _ hheeds ih =>
    obtain ⟨u, hu, hchain⟩ := ih
    obtain ⟨u', v, hu', hv, hlast⟩ := hd.exists_of_heeds hheeds
    cases hu.symm.trans hu'
    exact ⟨v, hv, List.Subset.trans hlast hchain⟩

/-- A token that follows another one exists if that one does. -/
theorem exists_follower (hd : h.Describes s) (hfollows : h.Follows i j)
    (hu : s.tokens[j]? = some u) : ∃ t, s.tokens[i]? = some t := by
  rcases hfollows.cases_head with rfl | ⟨k, hheeds, _⟩
  · exact ⟨u, hu⟩
  · obtain ⟨t, _, ht, _⟩ := hd.exists_of_heeds hheeds
    exact ⟨t, ht⟩

/-- Every token is a clone, of a clone perhaps, of one that is none. -/
theorem exists_original (hd : h.Describes s) (ht : s.tokens[i]? = some t) :
    ∃ r, r ≤ i ∧ s.tokens[r]? = some t ∧ IsNewest s.tokens r t ∧ h.Follows i r ∧ h.Follows r i ∧
      (t.ancestors = [] ∨
        ∃ j u, j < r ∧ Heeds h.origins r j ∧ s.tokens[j]? = some u ∧ t.ancestors = u.chain) := by
  induction i using Nat.strongRecOn with
  | ind i ih =>
    obtain ⟨origin, horigin⟩ := hd.exists_token_iff.1 ⟨t, ht⟩
    have hexplains := hd.explains i t origin ht horigin
    cases origin with
    | new => exact ⟨i, Nat.le_refl i, ht, hexplains.1, .refl, .refl, .inl hexplains.2⟩
    | child j =>
      obtain ⟨hnewest, u, hj, hu, hancestors⟩ := hexplains
      exact ⟨i, Nat.le_refl i, ht, hnewest, .refl, .refl,
        .inr ⟨j, u, hj, .parent horigin, hu, hancestors⟩⟩
    | clone j =>
      obtain ⟨hj, hu⟩ := hexplains
      obtain ⟨r, hr, htoken, hnewest, hdown, hup, habove⟩ := ih j hj hu
      exact ⟨r, Nat.le_trans hr (Nat.le_of_lt hj), htoken, hnewest,
        .head (.original horigin) hdown, hup.tail (.copy horigin), habove⟩

/-- Tokens with one flag are clones of one token, or clones of its clones. -/
theorem follows_of_flag_eq (hd : h.Describes s) (ht : s.tokens[i]? = some t)
    (hu : s.tokens[j]? = some u) (hflag : u.flag = t.flag) : u = t ∧ h.Follows i j := by
  obtain ⟨r, _, htoken, hnewest, hdown, _, _⟩ := hd.exists_original ht
  obtain ⟨r', _, htoken', hnewest', _, hup', _⟩ := hd.exists_original hu
  -- Of two originals, the later one has the newer flag.
  have hr : r = r' := by
    rcases Nat.lt_trichotomy r r' with hlt | heq | hgt
    · exact absurd (hnewest' r t hlt htoken) (hflag ▸ Nat.lt_irrefl _)
    · exact heq
    · exact absurd (hnewest r' u hgt htoken') (hflag ▸ Nat.lt_irrefl _)
  rw [← hr] at htoken' hup'
  exact ⟨Option.some.inj (htoken'.symm.trans htoken), hdown.trans hup'⟩

theorem follows_of_flag_mem (hd : h.Describes s) (ht : s.tokens[i]? = some t)
    (hu : s.tokens[j]? = some u) (hmem : u.flag ∈ t.chain) : h.Follows i j := by
  induction i using Nat.strongRecOn generalizing t with
  | ind i ih =>
    rcases List.mem_cons.1 hmem with hflag | hancestor
    · exact (hd.follows_of_flag_eq ht hu hflag).2
    · obtain ⟨r, hr, _, _, hdown, _, hnil | ⟨k, v, hk, hheeds, hv, hancestors⟩⟩ :=
        hd.exists_original ht
      · rw [hnil] at hancestor
        cases hancestor
      · rw [hancestors] at hancestor
        exact hdown.trans (.head hheeds (ih k (Nat.lt_of_lt_of_le hk hr) hv hancestor))

/-- A token follows those whose flags are asked for it. -/
theorem follows_iff (hd : h.Describes s) (ht : s.tokens[i]? = some t)
    (hu : s.tokens[j]? = some u) : h.Follows i j ↔ u.flag ∈ t.chain := by
  constructor
  · intro hfollows
    obtain ⟨u', hu', hchain⟩ := hd.exists_of_follows hfollows ht
    cases hu.symm.trans hu'
    exact hchain List.mem_cons_self
  · exact hd.follows_of_flag_mem ht hu

/-- The flags above a token are older than its own. -/
theorem le_flag_of_mem_chain (hd : h.Describes s) (ht : s.tokens[i]? = some t) {flag : Nat}
    (hmem : flag ∈ t.chain) : flag ≤ t.flag := by
  induction i using Nat.strongRecOn generalizing t with
  | ind i ih =>
    rcases List.mem_cons.1 hmem with rfl | hancestor
    · exact Nat.le_refl _
    · obtain ⟨r, hr, _, hnewest, _, _, hnil | ⟨k, v, hk, _, hv, hancestors⟩⟩ :=
        hd.exists_original ht
      · rw [hnil] at hancestor
        cases hancestor
      · rw [hancestors] at hancestor
        have habove := ih k (Nat.lt_of_lt_of_le hk hr) hv hancestor
        exact Nat.le_trans habove (Nat.le_of_lt (hnewest k v hk hv))

/-! ### What is cancelled -/

theorem isCancelled_iff (hd : h.Describes s) (ht : s.tokens[i]? = some t) :
    s.flags.isCancelled t = true ↔ ∃ j ∈ h.cancels, h.Follows i j := by
  have hasked : s.flags.isCancelled t = true ↔ ∃ flag ∈ t.chain, flag ∈ s.flags.raised := by
    simp [CancelFlags.isCancelled, CancelToken.chain]
  rw [hasked]
  constructor
  · rintro ⟨flag, hmem, hraised⟩
    obtain ⟨j, hj, u, hu, rfl⟩ := (hd.raised flag).1 hraised
    exact ⟨j, hj, hd.follows_of_flag_mem ht hu hmem⟩
  · rintro ⟨j, hj, hfollows⟩
    obtain ⟨u, hu, _⟩ := hd.exists_of_follows hfollows ht
    exact ⟨u.flag, (hd.follows_iff ht hu).1 hfollows, (hd.raised u.flag).2 ⟨j, hj, u, hu, rfl⟩⟩

/-- A token is cancelled if cancel was called on one that it follows, and only then. -/
theorem cancelled_iff (hd : h.Describes s) :
    s.cancelled[i]? = some true ↔ ∃ j ∈ h.cancels, h.Follows i j := by
  rw [CancelState.cancelled, List.getElem?_map, Option.map_eq_some_iff]
  constructor
  · rintro ⟨t, ht, hcancelled⟩
    exact (hd.isCancelled_iff ht).1 hcancelled
  · rintro ⟨j, hj, hfollows⟩
    obtain ⟨t, ht⟩ := hd.exists_follower hfollows (List.getElem?_eq_getElem (hd.cancels_lt j hj))
    exact ⟨t, ht, (hd.isCancelled_iff ht).2 ⟨j, hj, hfollows⟩⟩

/-- A cancel reaches those who follow, and nobody else. -/
theorem cancelled_cancel_iff (hd : h.Describes s) (hi : i < s.tokens.length) :
    (s.step (.cancel j)).cancelled[i]? = some true ↔
      s.cancelled[i]? = some true ∨ h.Follows i j := by
  rw [(hd.step (.cancel j)).cancelled_iff, hd.cancelled_iff, note]
  split
  · simp only [List.mem_append, List.mem_singleton, or_and_right, exists_or, exists_eq_left]
    rfl
  · next hnone =>
    have hnot : ¬h.Follows i j := by
      intro hfollows
      obtain ⟨u, hu, _⟩ := hd.exists_of_follows hfollows (List.getElem?_eq_getElem hi)
      exact hnone (hd.length ▸ (List.getElem?_eq_some_iff.1 hu).1)
    rw [or_iff_left hnot]

/-- What is cancelled stays so. -/
theorem cancelled_foldl (hd : h.Describes s) (hcancelled : s.cancelled[i]? = some true)
    (steps : List CancelStep) : (steps.foldl CancelState.step s).cancelled[i]? = some true := by
  obtain ⟨j, hj, hfollows⟩ := hd.cancelled_iff.1 hcancelled
  have hprecedes := precedes_foldl h steps
  exact (hd.foldl steps).cancelled_iff.2
    ⟨j, hprecedes.cancels.subset hj, hfollows.mono hprecedes⟩

/-- A child of a token that is cancelled begins as cancelled. -/
theorem cancelled_child (hd : h.Describes s) (hcancelled : s.cancelled[i]? = some true) :
    (s.step (.child i)).cancelled[s.tokens.length]? = some true := by
  obtain ⟨j, hj, hfollows⟩ := hd.cancelled_iff.1 hcancelled
  obtain ⟨t, ht⟩ := hd.exists_follower hfollows (List.getElem?_eq_getElem (hd.cancels_lt j hj))
  have hi : i < h.origins.length := hd.length ▸ (List.getElem?_eq_some_iff.1 ht).1
  have hnote : h.note (.child i) = h.made (.child i) := if_pos hi
  have hchild := hd.step (.child i)
  rw [hnote] at hchild
  have hheeds : Heeds (h.made (.child i)).origins s.tokens.length i := by
    refine .parent ?_
    rw [hd.length]
    exact List.getElem?_concat_length
  exact hchild.cancelled_iff.2 ⟨j, hj, .head hheeds (hfollows.mono (precedes_made h _))⟩

/-! ### Above and beside -/

variable {p q k : Nat}

/-- A child is followed neither by its parent nor by what that follows. -/
theorem not_follows_of_child (hd : h.Describes s) (hchild : h.origins[j]? = some (.child p))
    (habove : h.Follows p i) : ¬h.Follows i j := by
  intro hfollows
  obtain ⟨t, ht⟩ := hd.exists_token_iff.2 ⟨_, hchild⟩
  obtain ⟨hnewest, u, hp, hu, _⟩ := hd.explains j t _ ht hchild
  have hmem := (hd.follows_iff hu ht).1 (habove.trans hfollows)
  exact absurd (hd.le_flag_of_mem_chain hu hmem) (Nat.not_le.2 (hnewest p u hp hu))

/-- Children of one token do not follow each other, nor does one follow a child of a token that is
above it. -/
theorem not_follows_of_siblings (hd : h.Describes s) (hj : h.origins[j]? = some (.child p))
    (hk : h.origins[k]? = some (.child q)) (habove : h.Follows p q) (hne : j ≠ k) :
    ¬h.Follows k j := by
  intro hfollows
  obtain ⟨t, ht⟩ := hd.exists_token_iff.2 ⟨_, hj⟩
  obtain ⟨v, hv⟩ := hd.exists_token_iff.2 ⟨_, hk⟩
  obtain ⟨hnewest, u, hp, hu, _⟩ := hd.explains j t _ ht hj
  obtain ⟨hnewest', w, hq, hw, hancestors⟩ := hd.explains k v _ hv hk
  rcases List.mem_cons.1 ((hd.follows_iff hv ht).1 hfollows) with hflag | hancestor
  · rcases Nat.lt_or_gt_of_ne hne with hlt | hgt
    · exact absurd (hnewest' j t hlt ht) (hflag ▸ Nat.lt_irrefl _)
    · exact absurd (hnewest k v hgt hv) (hflag ▸ Nat.lt_irrefl _)
  · rw [hancestors] at hancestor
    have hparents := hd.le_flag_of_mem_chain hu ((hd.follows_iff hu hw).1 habove)
    have hchild := hd.le_flag_of_mem_chain hw hancestor
    have hnew := hnewest p u hp hu
    omega

end CancelHistory.Describes

/-! ## From flag to flag -/

namespace CancelState

/-- The flag right above a flag, as the token says whose flag it is. -/
def above? (s : CancelState) (flag : Nat) : Option Nat :=
  (s.tokens.find? (·.flag = flag)).bind (·.ancestors.head?)

/-- Asks a flag, and then those above it one after another, until one is raised or none is left.
There is no answer if that takes more questions than the fuel allows. -/
def walk (s : CancelState) : (fuel : Nat) → (flag : Nat) → Option Bool
  | 0, _ => none
  | fuel + 1, flag =>
    if s.flags.raised.contains flag then some true
    else match s.above? flag with
      | none => some false
      | some next => s.walk fuel next

/-- The tokens and flags after some steps. -/
def after (steps : List CancelStep) : CancelState := steps.foldl step initial

end CancelState

theorem CancelFlags.isCancelled_eq (f : CancelFlags) (t : CancelToken) :
    f.isCancelled t = t.chain.any f.raised.contains :=
  rfl

theorem CancelHistory.Describes.above?_flag (hd : h.Describes s) (ht : s.tokens[i]? = some t) :
    s.above? t.flag = t.ancestors.head? := by
  have hfound : (s.tokens.find? (·.flag = t.flag)).isSome = true :=
    List.find?_isSome.2 ⟨t, List.mem_of_getElem? ht, by simp⟩
  obtain ⟨u, hu⟩ := Option.isSome_iff_exists.1 hfound
  obtain ⟨j, hj⟩ := List.getElem?_of_mem (List.mem_of_find?_eq_some hu)
  have hflag : u.flag = t.flag := by
    simpa using List.find?_some hu
  rw [CancelState.above?, hu, Option.bind_some, (hd.follows_of_flag_eq ht hj hflag).1]

/-- The walk is over after as many questions as there are tokens, and its answer is the one that
the flags give that the token carries. -/
theorem CancelHistory.Describes.walk_eq (hd : h.Describes s) (ht : s.tokens[i]? = some t)
    {fuel : Nat} (hfuel : i < fuel) : s.walk fuel t.flag = some (s.flags.isCancelled t) := by
  induction fuel generalizing i t with
  | zero => exact absurd hfuel (Nat.not_lt_zero i)
  | succ fuel ih =>
    rw [CancelState.walk, CancelFlags.isCancelled_eq, CancelToken.chain, List.any_cons,
      hd.above?_flag ht]
    cases hraised : s.flags.raised.contains t.flag with
    | true => rfl
    | false =>
      obtain ⟨r, hr, _, _, _, _, hnil | ⟨k, u, hk, _, hu, hancestors⟩⟩ := hd.exists_original ht
      · rw [hnil]
        rfl
      · rw [hancestors]
        exact ih hu (by omega)

theorem CancelHistory.describes_after (steps : List CancelStep) :
    (ofSteps steps).Describes (.after steps) :=
  Describes.initial.foldl steps

/-- A token is cancelled if cancel was called on it, on a clone of it, or on a token that one of
them descends from, and only then.  So a cancel reaches those who follow and nobody else: not a
parent nor what is above it, and not a sibling, be it a child of the parent, of a clone of it, or of
what is above it.  A child of a cancelled token begins as cancelled, and what is cancelled stays so.
Going from flag to flag gives the same answer, after as many questions at most as there are
tokens. -/
theorem CancelState.cancels_reach_followers (steps : List CancelStep) :
    let s := after steps
    let h := CancelHistory.ofSteps steps
    (∀ i, s.cancelled[i]? = some true ↔ ∃ j ∈ h.cancels, h.Follows i j) ∧
    (∀ i j, i < s.tokens.length →
      ((s.step (.cancel j)).cancelled[i]? = some true ↔
        s.cancelled[i]? = some true ∨ h.Follows i j)) ∧
    (∀ p j i, h.origins[j]? = some (.child p) → h.Follows p i → ¬h.Follows i j) ∧
    (∀ p q j k, h.origins[j]? = some (.child p) → h.origins[k]? = some (.child q) →
      h.Follows p q → j ≠ k → ¬h.Follows k j) ∧
    (∀ i, s.cancelled[i]? = some true →
      (s.step (.child i)).cancelled[s.tokens.length]? = some true) ∧
    (∀ (i : Nat) (more : List CancelStep), s.cancelled[i]? = some true →
      (after (steps ++ more)).cancelled[i]? = some true) ∧
    ∀ t ∈ s.tokens, ∀ fuel, s.tokens.length ≤ fuel →
      s.walk fuel t.flag = some (s.flags.isCancelled t) := by
  intro s h
  have hd : h.Describes s := CancelHistory.describes_after steps
  refine ⟨fun i => hd.cancelled_iff, fun i j => hd.cancelled_cancel_iff,
    fun p j i => hd.not_follows_of_child, fun p q j k => hd.not_follows_of_siblings,
    fun i => hd.cancelled_child, ?_, ?_⟩
  · intro i more hcancelled
    rw [after, List.foldl_append]
    exact hd.cancelled_foldl hcancelled more
  · intro t ht fuel hfuel
    obtain ⟨i, hi⟩ := List.getElem?_of_mem ht
    have hbound : i < s.tokens.length := (List.getElem?_eq_some_iff.1 hi).1
    exact hd.walk_eq hi (Nat.lt_of_lt_of_le hbound hfuel)

/-- A token with two children, of which the first has a clone and the clone a child. -/
def familySteps : List CancelStep := [.child 0, .clone 1, .child 2, .child 0]

/-- A cancel on the first child reaches its clone and the child of that, and not its sibling. -/
theorem CancelState.cancels_reach_followers_family :
    (after (familySteps ++ [.cancel 1])).cancelled[3]? = some true ∧
      (after (familySteps ++ [.cancel 1])).cancelled[4]? ≠ some true ∧
      (after (familySteps ++ [.cancel 1, .child 3])).cancelled[5]? = some true := by
  obtain ⟨_, hcancel, _, hsiblings, _⟩ := cancels_reach_followers familySteps
  obtain ⟨_, _, _, _, hchild, _⟩ := cancels_reach_followers (familySteps ++ [.cancel 1])
  have hgrandchild : (CancelHistory.ofSteps familySteps).Follows 3 1 :=
    .head (.parent (j := 2) rfl) (.single (.original rfl))
  have hreached : (after (familySteps ++ [.cancel 1])).cancelled[3]? = some true :=
    (hcancel 3 1 (by decide)).2 (.inr hgrandchild)
  refine ⟨hreached, ?_, hchild 3 hreached⟩
  intro hsibling
  rcases (hcancel 4 1 (by decide)).1 hsibling with hbefore | hfollows
  · exact absurd hbefore (by decide)
  · exact hsiblings 0 0 1 4 rfl rfl .refl (by decide) hfollows

end RemoteFleet
