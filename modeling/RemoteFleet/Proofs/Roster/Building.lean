import RemoteFleet.Roster.Basic

/-!
# Building rosters

`exists_ofEntries_iff` says which entries make a roster, whatever their order: there is one, each is
sound, and no two have the same index.  The entries of a roster are those that it was built from
(`perm_of_ofEntries`).  They are in ascending index, and so are the targets that a selection picks
from them (`select_ascending`).
-/

namespace RemoteFleet.HostRoster

variable {e : HostEntry} {es placed l : List HostEntry} {r : HostRoster}

theorem perm_place (e : HostEntry) (l : List HostEntry) : (place e l).Perm (e :: l) := by
  induction l with
  | nil => exact .refl [e]
  | cons f l ih =>
    rw [place]
    split
    · exact .refl _
    · exact (ih.cons f).trans (.swap e f l)

/-- An entry is collected if it is sound and its index is still free. -/
theorem collect_cons (hsound : e.Sound) (hfree : ∀ f ∈ placed, f.index ≠ e.index) :
    collect (e :: es) placed = collect es (place e placed) := by
  obtain ⟨hindex, haddress⟩ := hsound
  have htaken : ¬placed.any (·.index = e.index) = true := by
    simpa using hfree
  rw [collect, if_neg hindex, if_neg (ne_true_of_eq_false haddress), if_neg htaken]

theorem of_collect_cons (h : collect (e :: es) placed = .ok l) :
    e.Sound ∧ (∀ f ∈ placed, f.index ≠ e.index) ∧ collect es (place e placed) = .ok l := by
  rw [collect] at h
  split at h
  · cases h
  · next hindex =>
    split at h
    · cases h
    · next haddress =>
      split at h
      · cases h
      · next htaken =>
        have hfree : ∀ f ∈ placed, f.index ≠ e.index := by
          simpa using htaken
        exact ⟨⟨hindex, Bool.eq_false_iff.2 haddress⟩, hfree, h⟩

theorem perm_collect (h : collect es placed = .ok l) : l.Perm (es ++ placed) := by
  induction es generalizing placed with
  | nil =>
    cases h
    exact .refl l
  | cons e es ih =>
    obtain ⟨_, _, hrest⟩ := of_collect_cons h
    have hplaced : (es ++ place e placed).Perm (es ++ e :: placed) :=
      (perm_place e placed).append_left es
    exact (ih hrest).trans (hplaced.trans List.perm_middle)

theorem exists_collect_iff :
    (∃ l, collect es placed = .ok l) ↔ (∀ e ∈ es, e.Sound) ∧ (es.map (·.index)).Nodup ∧
      ∀ e ∈ es, ∀ f ∈ placed, f.index ≠ e.index := by
  induction es generalizing placed with
  | nil => simp [collect]
  | cons e es ih =>
    simp only [List.forall_mem_cons, List.map_cons, List.nodup_cons]
    constructor
    · rintro ⟨l, hl⟩
      obtain ⟨hsound, hfree, hrest⟩ := of_collect_cons hl
      obtain ⟨hall, hnodup, hothers⟩ := ih.1 ⟨l, hrest⟩
      refine ⟨⟨hsound, hall⟩, ⟨?_, hnodup⟩, hfree, fun e' he' f hf => ?_⟩
      · intro hmem
        obtain ⟨e', he', hindex⟩ := List.mem_map.1 hmem
        exact hothers e' he' e (mem_place.2 (.inl rfl)) hindex.symm
      · exact hothers e' he' f (mem_place.2 (.inr hf))
    · rintro ⟨⟨hsound, hall⟩, ⟨hfirst, hnodup⟩, hfree, hothers⟩
      rw [collect_cons hsound hfree]
      refine ih.2 ⟨hall, hnodup, fun e' he' f hf heq => ?_⟩
      rcases mem_place.1 hf with rfl | hf
      · exact hfirst (List.mem_map.2 ⟨e', he', heq.symm⟩)
      · exact hothers e' he' f hf heq

/-- What has been collected is the roster, unless it is nothing. -/
theorem ofEntries_eq_ok_iff : ofEntries es = .ok r ↔ collect es [] = .ok r.entries := by
  rw [ofEntries]
  split
  · next fault hcollect => simp [hcollect]
  · next l hcollect =>
    have hentries : collect es [] = .ok r.entries ↔ l = r.entries := by
      simp [hcollect]
    rw [hentries]
    split
    · next hnil => simp [hnil, r.ne_nil.symm]
    · obtain ⟨entries, _, _, _⟩ := r
      simp

theorem perm_of_ofEntries (h : ofEntries es = .ok r) : r.entries.Perm es := by
  have hperm := perm_collect (ofEntries_eq_ok_iff.1 h)
  rw [List.append_nil] at hperm
  exact hperm

/-- Entries make a roster if there is one, each is sound, and no two have the same index. -/
theorem exists_ofEntries_iff : (∃ r, ofEntries es = .ok r) ↔
    es ≠ [] ∧ (∀ e ∈ es, e.Sound) ∧ (es.map (·.index)).Nodup := by
  have hcollect : (∃ l, collect es [] = .ok l)
      ↔ (∀ e ∈ es, e.Sound) ∧ (es.map (·.index)).Nodup := by
    rw [exists_collect_iff]
    simp
  rw [← hcollect]
  constructor
  · rintro ⟨r, hr⟩
    refine ⟨?_, r.entries, ofEntries_eq_ok_iff.1 hr⟩
    rintro rfl
    exact r.ne_nil (perm_of_ofEntries hr).eq_nil
  · rintro ⟨hne, l, hl⟩
    have hperm := perm_collect hl
    rw [List.append_nil] at hperm
    have hl' : l ≠ [] := fun hnil => hne (hnil ▸ hperm).symm.eq_nil
    obtain ⟨ascending, sound⟩ := collect_kept hl .nil (by simp)
    exact ⟨⟨l, ascending, sound, hl'⟩, ofEntries_eq_ok_iff.2 hl⟩

/-- The targets of a selection come in ascending index. -/
theorem select_ascending (r : HostRoster) (s : Selection) (credentials : Credentials) :
    ((r.select s credentials).map (·.index)).Pairwise (· < ·) := by
  have hfilter : (r.entries.filter fun e => s.holds e.index).Sublist r.entries :=
    List.filter_sublist
  have hindices := r.ascending.sublist (hfilter.map (·.index))
  rw [select, List.map_map]
  exact hindices

theorem contains_iff {i : UInt32} : r.contains i = true ↔ ∃ e ∈ r.entries, e.index = i := by
  simp [contains]

end RemoteFleet.HostRoster
