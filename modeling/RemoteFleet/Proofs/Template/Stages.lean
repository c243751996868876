import RemoteFleet.Proofs.Template.Placeholders
import RemoteFleet.Proofs.Text.Digits
import RemoteFleet.Roster.Basic

/-!
# Stages that say nothing

Blank setup steps are dropped and a blank command is refused, and both are judged before the
placeholders are filled in.  What a placeholder stands for is not blank if it is the index or the
address, since a roster has no blank address, but nobody looks at the user.

* `isAllBlank_filled_iff`: which texts are blank once they are filled in.
* `no_blank_stage_iff`: a template has a blank stage only for a user that is blank, and only where
  a setup step or the command holds nothing else.
* `blank_stage_nameless`: there are such users, and the line is rendered.
-/

namespace RemoteFleet

/-! ## What placeholders stand for -/

theorem Text.isAllBlank_decimal (n : Nat) : Text.isAllBlank (Text.decimal n) = false := by
  obtain ⟨c, s, hs⟩ := List.exists_cons_of_ne_nil (Text.decimal_ne_nil n)
  have hdigit : c.isDigit = true := Text.isDigit_of_mem_decimal (hs ▸ List.mem_cons_self)
  rw [hs, Text.isAllBlank, List.all_cons, Text.isBlank_of_isNumeral (.inr hdigit), Bool.false_and]

/-- Of the values of a target in a roster, only the user can be blank. -/
theorem HostRoster.isAllBlank_value_iff {roster : HostRoster} {e : HostEntry}
    (he : e ∈ roster.entries) (credentials : Credentials) (p : Placeholder) :
    Text.isAllBlank (p.value (.resolve e credentials)) = true ↔
      p = .user ∧ Text.isAllBlank (RemoteTarget.resolve e credentials).user.toList = true := by
  cases p with
  | index => simp [Placeholder.value, Text.isAllBlank_decimal]
  | address =>
    have haddress : Text.isAllBlank e.address.toList = false := (roster.sound e he).2
    simp [Placeholder.value, RemoteTarget.resolve, haddress]
  | user => simp [Placeholder.value]

/-! ## Texts that are blank once they are filled in -/

namespace Pattern.Segments

theorem isAllBlank_filled_iff {s : Segments} {target : RemoteTarget} :
    Text.isAllBlank (s.filled target) = true ↔
      (∀ h ∈ s.holes, Text.isAllBlank h.before = true ∧
        Text.isAllBlank (h.stands.value target) = true) ∧ Text.isAllBlank s.last = true := by
  simp only [filled, Text.isAllBlank, List.all_flatMap, List.all_append, List.all_eq_true,
    Bool.and_eq_true]

/-- Whether nothing is in it but blanks and placeholders for the user. -/
def OnlyUser (s : Segments) : Prop :=
  (∀ h ∈ s.holes, Text.isAllBlank h.before = true ∧ h.stands = .user) ∧
    Text.isAllBlank s.last = true

/-- A text that is not blank becomes so if its only placeholders are for the user, the user is
blank, and nothing else is there. -/
theorem isAllBlank_filled_resolve_iff {s : Segments} (hs : Text.isAllBlank s.text = false)
    {roster : HostRoster} {e : HostEntry} (he : e ∈ roster.entries) (credentials : Credentials) :
    Text.isAllBlank (s.filled (.resolve e credentials)) = true ↔
      Text.isAllBlank (RemoteTarget.resolve e credentials).user.toList = true ∧ s.OnlyUser := by
  simp only [isAllBlank_filled_iff, HostRoster.isAllBlank_value_iff he, OnlyUser]
  constructor
  · rintro ⟨hholes, hlast⟩
    refine ⟨?_, fun h hh => ⟨(hholes h hh).1, (hholes h hh).2.1⟩, hlast⟩
    cases hnil : s.holes with
    | nil =>
      -- Without a placeholder it is the last piece, and that was not blank.
      rw [text, hnil, List.flatMap_nil, List.nil_append, hlast] at hs
      cases hs
    | cons h holes => exact (hholes h (hnil ▸ List.mem_cons_self)).2.2
  · rintro ⟨huser, hholes, hlast⟩
    exact ⟨fun h hh => ⟨(hholes h hh).1, (hholes h hh).2, huser⟩, hlast⟩

end Pattern.Segments

/-! ## Stages -/

namespace CommandTemplate

/-- Whether a text holds nothing but blanks and placeholders for the user. -/
def OnlyUser (text : String) : Prop :=
  ∃ s : Pattern.Segments, s.text = text.toList ∧ s.OnlyUser

/-- The texts that become stages as they are, without the directory. -/
def bareTexts (t : CommandTemplate) : List String := t.keptSetup ++ [t.command]

theorem stages_eq (t : CommandTemplate) (target : RemoteTarget) :
    t.stages target
      = t.workdir.toList.map (fun dir =>
          ['c', 'd', ' '] ++ Shell.quoteWord (substitute dir.toList target))
        ++ t.bareTexts.map fun text => substitute text.toList target := by
  simp [stages, bareTexts]

/-- In a template that can be used, the bare texts can be taken apart and are not blank. -/
theorem exists_segments_of_mem_bareTexts {t : CommandTemplate} (ht : t.validate = .ok ())
    {text : String} (htext : text ∈ t.bareTexts) :
    ∃ s : Pattern.Segments, s.text = text.toList ∧ Text.isAllBlank s.text = false := by
  obtain ⟨hcommand, hall⟩ := validate_eq_ok_iff.1 ht
  obtain ⟨hmem, hblank⟩ : text ∈ t.texts ∧ Text.isAllBlank text.toList = false := by
    rcases List.mem_append.1 htext with hsetup | hlast
    · obtain ⟨hstep, hkept⟩ := List.mem_filter.1 hsetup
      exact ⟨by simp [texts, hstep], by simpa using hkept⟩
    · obtain rfl := List.mem_singleton.1 hlast
      exact ⟨by simp [texts], hcommand⟩
  obtain ⟨s, hs⟩ := hall text hmem
  exact ⟨s, hs, hs ▸ hblank⟩

/-- A bare text is blank for a host if the host's user is and the text holds nothing else. -/
theorem isAllBlank_substitute_iff {t : CommandTemplate} (ht : t.validate = .ok ())
    {roster : HostRoster} {e : HostEntry} (he : e ∈ roster.entries) (credentials : Credentials)
    {text : String} (htext : text ∈ t.bareTexts) :
    Text.isAllBlank (substitute text.toList (.resolve e credentials)) = true ↔
      Text.isAllBlank (RemoteTarget.resolve e credentials).user.toList = true ∧ OnlyUser text := by
  obtain ⟨s, hs, hblank⟩ := exists_segments_of_mem_bareTexts ht htext
  rw [← hs, Pattern.substitute_text, Pattern.Segments.isAllBlank_filled_resolve_iff hblank he]
  refine and_congr_right fun _ => ⟨fun honly => ⟨s, hs, honly⟩, ?_⟩
  rintro ⟨s', hs', honly⟩
  obtain rfl : s' = s := Pattern.text_injective (hs'.trans hs.symm)
  exact honly

/-- No stage of a template is blank for a host of a roster, unless the user for that host is blank
and a setup step or the command holds nothing but blanks and placeholders for the user.  The stage
that changes the directory never is. -/
theorem no_blank_stage_iff {t : CommandTemplate} (ht : t.validate = .ok ()) {roster : HostRoster}
    {e : HostEntry} (he : e ∈ roster.entries) (credentials : Credentials) :
    (∀ stage ∈ t.stages (.resolve e credentials), Text.isAllBlank stage = false) ↔
      Text.isAllBlank (RemoteTarget.resolve e credentials).user.toList = false ∨
        ∀ text ∈ t.keptSetup ++ [t.command], ¬OnlyUser text := by
  have hdirectory : ∀ stage ∈ t.workdir.toList.map (fun dir =>
      ['c', 'd', ' '] ++ Shell.quoteWord (substitute dir.toList (.resolve e credentials))),
      Text.isAllBlank stage = false := by
    rintro _ hstage
    obtain ⟨dir, _, rfl⟩ := List.mem_map.1 hstage
    rfl
  have hbare (text : String) (htext : text ∈ t.bareTexts) :
      Text.isAllBlank (substitute text.toList (.resolve e credentials)) = false ↔
        Text.isAllBlank (RemoteTarget.resolve e credentials).user.toList = false ∨
          ¬OnlyUser text := by
    rw [← Bool.not_eq_true, isAllBlank_substitute_iff ht he credentials htext, not_and_or,
      Bool.not_eq_true]
  rw [stages_eq, List.forall_mem_append, and_iff_right hdirectory, List.forall_mem_map,
    forall₂_congr hbare]
  simp only [forall_or_left, bareTexts]

/-- A setup step that names the user and nothing else. -/
def userTemplate : CommandTemplate where
  setup := ["\x7b\x7buser\x7d\x7d"]
  command := "uptime"

/-- A host with a user of its own, or with none. -/
def hostOf (user : Option String) : HostEntry := ⟨1, "10.0.0.1", user, none, none⟩

theorem validate_user : userTemplate.validate = .ok () := by
  refine validate_eq_ok_iff.2 ⟨by decide, List.forall_mem_cons.2 ⟨?_, List.forall_mem_cons.2
    ⟨?_, by simp⟩⟩⟩
  · exact ⟨⟨[⟨[], ['u', 's', 'e', 'r'], .user, by decide, by decide, by decide⟩], [], by decide⟩,
      rfl⟩
  · exact ⟨⟨[], ['u', 'p', 't', 'i', 'm', 'e'], by decide⟩, rfl⟩

theorem no_blank_stage_named :
    userTemplate.validate = .ok () ∧
      ∃ roster, HostRoster.ofEntries [hostOf none] = .ok roster ∧ hostOf none ∈ roster.entries ∧
        ∀ stage ∈ userTemplate.stages (.resolve (hostOf none) {}),
          Text.isAllBlank stage = false := by
  obtain ⟨roster, hroster, hmem⟩ : ∃ roster, HostRoster.ofEntries [hostOf none] = .ok roster ∧
      hostOf none ∈ roster.entries := ⟨_, rfl, List.mem_cons_self⟩
  refine ⟨validate_user, roster, hroster, hmem, ?_⟩
  exact (no_blank_stage_iff validate_user hmem {}).2 (.inl (by decide +kernel))

/-- The user of a host may be the empty name, and then the step is an empty stage. -/
theorem blank_stage_nameless :
    userTemplate.validate = .ok () ∧
      ∃ roster, HostRoster.ofEntries [hostOf (some "")] = .ok roster ∧
        roster.target? {} 1 = some (.resolve (hostOf (some "")) {}) ∧
        userTemplate.stages (.resolve (hostOf (some "")) {}) = [[], "uptime".toList] ∧
        userTemplate.render (.resolve (hostOf (some "")) {}) = " && uptime" ∧
        ¬∀ stage ∈ userTemplate.stages (.resolve (hostOf (some "")) {}),
          Text.isAllBlank stage = false := by
  have hstages : userTemplate.stages (.resolve (hostOf (some "")) {}) = [[], "uptime".toList] := by
    decide +kernel
  refine ⟨validate_user, _, rfl, rfl, hstages, by decide +kernel, fun hall => ?_⟩
  have hblank := hall [] (hstages ▸ List.mem_cons_self)
  cases hblank

end CommandTemplate

end RemoteFleet
