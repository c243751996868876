import Mathlib.Data.List.Nodup
import RemoteFleet.Config.RosterFile
import RemoteFleet.Proofs.Roster.Building
import RemoteFleet.Proofs.Text.Reading

/-!
# Entries that are taken and entries that are refused

Which entries make a roster, which roster they make, and what is said of entries that make none.

* `exists_ofEntries_iff_fit`: entries make a roster if there is one and they are fit to stand
  together.
* `eq_of_perm`: a roster is known by its entries in any order, so `ofEntries_of_perm` and
  `ofEntries_entries` come without another look at how entries are placed.
* `get?_eq_some_iff`: what is found under an index is the one entry with that index.
* `collect_eq_error_iff`: the fault is the one of the first entry that does not fit behind the ones
  before it.  The induction is on the entries, and what was placed before them may be anything.
-/

namespace RemoteFleet.HostRoster

variable {e : HostEntry} {es es' before placed : List HostEntry} {r r' : HostRoster}
  {fault : Fault}

/-- Entries that can stand in one roster. -/
structure Fit (es : List HostEntry) : Prop where
  indices : ∀ e ∈ es, e.index ≠ 0
  addresses : ∀ e ∈ es, ∃ c ∈ e.address.toList, Text.isBlank c = false
  distinct : (es.map (·.index)).Nodup

/-- What is wrong with an entry that follows others.  Of several faults the first one here
counts. -/
inductive Offends (before : List HostEntry) (e : HostEntry) : Fault → Prop
  | zeroIndex (hindex : e.index = 0) : Offends before e (.zeroIndex e.address)
  | emptyAddress (hindex : e.index ≠ 0) (haddress : ∀ c ∈ e.address.toList, Text.isBlank c = true) :
      Offends before e (.emptyAddress e.index)
  | duplicateIndex (hindex : e.index ≠ 0)
      (haddress : ∃ c ∈ e.address.toList, Text.isBlank c = false)
      (htaken : ∃ f ∈ before, f.index = e.index) : Offends before e (.duplicateIndex e.index)

/-! ## Entries that are taken -/

theorem sound_iff :
    e.Sound ↔ e.index ≠ 0 ∧ ∃ c ∈ e.address.toList, Text.isBlank c = false := by
  unfold HostEntry.Sound
  rw [Text.isAllBlank, List.all_eq_false]
  simp only [Bool.not_eq_true]

theorem fit_iff : Fit es ↔ (∀ e ∈ es, e.Sound) ∧ (es.map (·.index)).Nodup := by
  simp only [sound_iff]
  constructor
  · intro h
    exact ⟨fun e he => ⟨h.indices e he, h.addresses e he⟩, h.distinct⟩
  · rintro ⟨hsound, hdistinct⟩
    exact ⟨fun e he => (hsound e he).1, fun e he => (hsound e he).2, hdistinct⟩

theorem exists_ofEntries_iff_fit : (∃ r, ofEntries es = .ok r) ↔ es ≠ [] ∧ Fit es := by
  rw [exists_ofEntries_iff, fit_iff]

theorem distinct_entries (r : HostRoster) : (r.entries.map (·.index)).Nodup := by
  apply r.ascending.imp
  intro i j hlt heq
  subst heq
  exact UInt32.lt_irrefl i hlt

theorem fit_entries (r : HostRoster) : Fit r.entries :=
  fit_iff.2 ⟨r.sound, r.distinct_entries⟩

/-- There is one ascending order, so a roster is known by its entries in any order. -/
theorem eq_of_perm (h : r.entries.Perm r'.entries) : r = r' := by
  have hr := List.pairwise_map.1 r.ascending
  have hr' := List.pairwise_map.1 r'.ascending
  have hentries : r.entries = r'.entries := by
    apply h.eq_of_pairwise _ hr hr'
    intro e f _ _ hef hfe
    exact absurd hfe (UInt32.lt_asymm hef)
  obtain ⟨entries, _, _, _⟩ := r
  obtain ⟨entries', _, _, _⟩ := r'
  cases hentries
  rfl

theorem ofEntries_of_perm (h : ofEntries es = .ok r) (hperm : es'.Perm es) :
    ofEntries es' = .ok r := by
  have hr := perm_of_ofEntries h
  obtain ⟨hne, hfit⟩ := exists_ofEntries_iff_fit.1 ⟨r, h⟩
  have hfit' : Fit es' := by
    rw [fit_iff] at hfit ⊢
    exact ⟨fun e he => hfit.1 e (hperm.mem_iff.1 he), (hperm.map _).nodup_iff.2 hfit.2⟩
  have hne' : es' ≠ [] := by
    rintro rfl
    exact hne hperm.symm.eq_nil
  obtain ⟨r', h'⟩ := exists_ofEntries_iff_fit.2 ⟨hne', hfit'⟩
  have hsame : r'.entries.Perm r.entries := ((perm_of_ofEntries h').trans hperm).trans hr.symm
  rw [h', eq_of_perm hsame]

/-- A roster is the roster of its entries. -/
theorem ofEntries_entries (r : HostRoster) : ofEntries r.entries = .ok r := by
  obtain ⟨r', h⟩ := exists_ofEntries_iff_fit.2 ⟨r.ne_nil, r.fit_entries⟩
  rw [h, eq_of_perm (perm_of_ofEntries h)]

/-- An index is found with the one entry that has it. -/
theorem get?_eq_some_iff {i : UInt32} : r.get? i = some e ↔ e ∈ r.entries ∧ e.index = i := by
  unfold get?
  constructor
  · intro h
    exact ⟨List.mem_of_find?_eq_some h, by simpa using List.find?_some h⟩
  · rintro ⟨he, rfl⟩
    cases hfind : r.entries.find? (·.index = e.index) with
    | none =>
      have hnone := List.find?_eq_none.1 hfind e he
      simp at hnone
    | some f =>
      have hindex : f.index = e.index := by
        simpa using List.find?_some hfind
      have hf := List.mem_of_find?_eq_some hfind
      rw [List.inj_on_of_nodup_map r.distinct_entries hf he hindex]

theorem target?_of_mem (he : e ∈ r.entries) (credentials : Credentials) :
    r.target? credentials e.index = some (RemoteTarget.resolve e credentials) := by
  unfold target?
  rw [get?_eq_some_iff.2 ⟨he, rfl⟩]
  rfl

/-- A host that is in the roster can be looked up under its index. -/
theorem exists_target_of_contains {i : UInt32} (h : r.contains i = true)
    (credentials : Credentials) :
    ∃ target, r.target? credentials i = some target ∧ target.index = i := by
  obtain ⟨e, he, rfl⟩ := contains_iff.1 h
  exact ⟨RemoteTarget.resolve e credentials, target?_of_mem he credentials, rfl⟩

/-! ## Entries that are refused -/

theorem Offends.mono (h : Offends before e fault) (hsub : before ⊆ placed) :
    Offends placed e fault := by
  cases h with
  | zeroIndex hindex => exact .zeroIndex hindex
  | emptyAddress hindex haddress => exact .emptyAddress hindex haddress
  | duplicateIndex hindex haddress htaken =>
    obtain ⟨f, hf, heq⟩ := htaken
    exact .duplicateIndex hindex haddress ⟨f, hsub hf, heq⟩

/-- An entry that offends is not placed, and neither is any entry behind it. -/
theorem collect_of_offends (h : Offends placed e fault) (es : List HostEntry) :
    collect (e :: es) placed = .error fault := by
  cases h with
  | zeroIndex hindex => rw [collect, if_pos hindex]
  | emptyAddress hindex haddress =>
    rw [collect, if_neg hindex, if_pos (Text.isAllBlank_iff.2 haddress)]
  | duplicateIndex hindex haddress htaken =>
    have hsound := sound_iff.2 ⟨hindex, haddress⟩
    have htaken : placed.any (·.index = e.index) = true := by
      simpa using htaken
    rw [collect, if_neg hindex, if_neg (ne_true_of_eq_false hsound.2), if_pos htaken]

theorem offends_or_free (e : HostEntry) (placed : List HostEntry) :
    (∃ fault, Offends placed e fault) ∨ e.Sound ∧ ∀ f ∈ placed, f.index ≠ e.index := by
  by_cases hindex : e.index = 0
  · exact .inl ⟨_, .zeroIndex hindex⟩
  by_cases haddress : ∃ c ∈ e.address.toList, Text.isBlank c = false
  · by_cases htaken : ∃ f ∈ placed, f.index = e.index
    · exact .inl ⟨_, .duplicateIndex hindex haddress htaken⟩
    · exact .inr ⟨sound_iff.2 ⟨hindex, haddress⟩, fun f hf heq => htaken ⟨f, hf, heq⟩⟩
  · have hblank : ∀ c ∈ e.address.toList, Text.isBlank c = true := by
      simpa using haddress
    exact .inl ⟨_, .emptyAddress hindex hblank⟩

theorem not_offends_of_free (hsound : e.Sound) (hfree : ∀ f ∈ placed, f.index ≠ e.index) :
    ¬Offends placed e fault := by
  intro h
  have herror := collect_of_offends h []
  rw [collect_cons hsound hfree] at herror
  cases herror

/-- What stops the collecting is the first entry that offends behind the ones before it. -/
theorem collect_eq_error_iff : collect es placed = .error fault ↔
    ∃ before e after, es = before ++ e :: after ∧ (∃ l, collect before placed = .ok l) ∧
      Offends (before ++ placed) e fault := by
  induction es generalizing placed with
  | nil => simp [collect]
  | cons e es ih =>
    rcases offends_or_free e placed with ⟨fault', hoffends⟩ | ⟨hsound, hfree⟩
    · constructor
      · intro h
        rw [collect_of_offends hoffends] at h
        cases h
        exact ⟨[], e, es, rfl, ⟨placed, rfl⟩, hoffends⟩
      · rintro ⟨_ | ⟨f, before⟩, e', after, heq, ⟨l, hl⟩, h⟩
        · cases heq
          exact collect_of_offends h es
        · cases heq
          rw [collect_of_offends hoffends] at hl
          cases hl
    · -- The entry is placed, so it stands among those before the one that is looked for.
      have hplaced (before : List HostEntry) :
          ∀ f, f ∈ before ++ place e placed ↔ f ∈ e :: before ++ placed := by
        intro f
        simp only [List.mem_append, List.mem_cons, mem_place]
        grind
      rw [collect_cons hsound hfree, ih]
      constructor
      · rintro ⟨before, e', after, rfl, hl, h⟩
        refine ⟨e :: before, e', after, rfl, ?_, h.mono fun f hf => (hplaced before f).1 hf⟩
        rw [collect_cons hsound hfree]
        exact hl
      · rintro ⟨_ | ⟨f, before⟩, e', after, heq, hl, h⟩
        · cases heq
          exact absurd h (not_offends_of_free hsound hfree)
        · cases heq
          rw [collect_cons hsound hfree] at hl
          exact ⟨before, e', after, rfl, hl, h.mono fun f hf => (hplaced before f).2 hf⟩

theorem exists_collect_iff_fit : (∃ l, collect es [] = .ok l) ↔ Fit es := by
  rw [exists_collect_iff, fit_iff]
  simp

theorem ofEntries_eq_error_iff_collect : ofEntries es = .error fault ↔
    collect es [] = .error fault ∨ es = [] ∧ fault = .noEntries := by
  unfold ofEntries
  split
  · next fault' hcollect =>
    have hne : es ≠ [] := by
      rintro rfl
      cases hcollect
    simp [hcollect, hne]
  · next l hcollect =>
    have hperm := perm_collect hcollect
    rw [List.append_nil] at hperm
    have hnil : l = [] ↔ es = [] := by
      rw [← List.perm_nil, hperm.congr_left, List.perm_nil]
    have hcollected : ¬collect es [] = .error fault := by
      simp [hcollect]
    rw [or_iff_right hcollected]
    split
    · next hl => simp [hnil.1 hl, eq_comm]
    · next hl =>
      have hne : es ≠ [] := fun h => hl (hnil.2 h)
      simp [hne]

theorem ofEntries_eq_error_iff : ofEntries es = .error fault ↔
    es = [] ∧ fault = .noEntries ∨
      ∃ before e after, es = before ++ e :: after ∧ Fit before ∧ Offends before e fault := by
  rw [ofEntries_eq_error_iff_collect, collect_eq_error_iff, or_comm]
  simp only [exists_collect_iff_fit, List.append_nil]

/-- A roster file with the hosts of the inline form has the roster of that form. -/
theorem roster_inline (hosts : String) :
    (RosterFile.inline hosts >>= RosterFile.roster) = (parseInline hosts).mapError .roster := by
  unfold RosterFile.inline
  cases parseInline hosts with
  | error fault => rfl
  | ok r =>
    show (ofEntries r.entries).mapError ConfigError.roster = .ok r
    rw [ofEntries_entries]
    rfl

/-- Entries make a roster if there is one and they are fit to stand together.  The roster has them
in ascending index, finds each under its index, and is the same in whatever order they come; also
its own entries make it again, as those of the inline form do.  Otherwise the fault is the one of
the first entry that offends behind the ones before it. -/
theorem builds_iff_fit (es : List HostEntry) :
    ((∃ r, ofEntries es = .ok r) ↔ es ≠ [] ∧ Fit es) ∧
    (∀ r, ofEntries es = .ok r →
      r.entries.Perm es ∧ (r.entries.map (·.index)).Pairwise (· < ·) ∧
        (∀ i e, r.get? i = some e ↔ e ∈ es ∧ e.index = i) ∧
        (∀ es', es'.Perm es → ofEntries es' = .ok r) ∧ ofEntries r.entries = .ok r) ∧
    (∀ hosts, (RosterFile.inline hosts >>= RosterFile.roster)
      = (parseInline hosts).mapError .roster) ∧
    ∀ fault, ofEntries es = .error fault ↔
      es = [] ∧ fault = .noEntries ∨
        ∃ before e after, es = before ++ e :: after ∧ Fit before ∧ Offends before e fault := by
  refine ⟨exists_ofEntries_iff_fit, fun r hr => ?_, roster_inline, fun fault => ?_⟩
  · have hperm := perm_of_ofEntries hr
    refine ⟨hperm, r.ascending, fun i e => ?_, fun es' hes' => ofEntries_of_perm hr hes',
      r.ofEntries_entries⟩
    rw [get?_eq_some_iff, hperm.mem_iff]
  · exact ofEntries_eq_error_iff

/-- Two hosts that come in descending index, and a third one with an index that is taken. -/
theorem builds_iff_fit_pair :
    (∃ r, ofEntries [⟨2, "b", none, none, none⟩, ⟨1, "a", none, none, none⟩] = .ok r ∧
      r.get? 2 = some ⟨2, "b", none, none, none⟩ ∧
      ofEntries [⟨1, "a", none, none, none⟩, ⟨2, "b", none, none, none⟩] = .ok r) ∧
    ofEntries [⟨2, "b", none, none, none⟩, ⟨1, "a", none, none, none⟩, ⟨2, "c", none, none, none⟩]
      = .error (.duplicateIndex 2) := by
  have hfit : Fit [⟨2, "b", none, none, none⟩, ⟨1, "a", none, none, none⟩] := by
    rw [fit_iff]
    decide
  constructor
  · obtain ⟨hexists, hroster, _, _⟩ :=
      builds_iff_fit [⟨2, "b", none, none, none⟩, ⟨1, "a", none, none, none⟩]
    obtain ⟨r, hr⟩ := hexists.2 ⟨by simp, hfit⟩
    obtain ⟨_, _, hget, hany, _⟩ := hroster r hr
    refine ⟨r, hr, (hget 2 _).2 ⟨by simp, rfl⟩, hany _ (.swap _ _ _)⟩
  · obtain ⟨_, _, _, hfault⟩ := builds_iff_fit
      [⟨2, "b", none, none, none⟩, ⟨1, "a", none, none, none⟩, ⟨2, "c", none, none, none⟩]
    refine (hfault _).2 (.inr ⟨_, ⟨2, "c", none, none, none⟩, [], rfl, hfit, ?_⟩)
    exact .duplicateIndex (by decide) ⟨'c', by simp, rfl⟩
      ⟨⟨2, "b", none, none, none⟩, by simp, rfl⟩

end RemoteFleet.HostRoster
