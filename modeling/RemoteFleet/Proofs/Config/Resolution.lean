import RemoteFleet.Config.Invocation
import RemoteFleet.Proofs.Fleet.Resolve
import RemoteFleet.Proofs.Roster.Building
import RemoteFleet.Proofs.Text.Reading

/-!
# Which flags and roster files make an invocation

A setting comes from the flags, from the roster file, or from neither.  `RunOptions.Resolvable` says
what the settings that count have to be, each in a condition of its own.

`resolves_iff` is the main theorem: these conditions are enough and none can be spared.  What comes
out has passed its check.  So it can be listed, run and streamed, and no configuration error comes
up once hosts are contacted.
-/

namespace RemoteFleet

/-- A job reference stands for a template under a name: for a job of the file if it is `@` and the
name, and else for itself. -/
inductive RosterFile.Means (f : RosterFile) (fallback : String) :
    String → String → CommandTemplate → Prop
  | named (name : String) (template : CommandTemplate)
      (hfound : f.jobs.lookup name = some template) :
      Means f fallback ("@" ++ name) name template
  | literal (command : String) (hplain : ∀ name, command ≠ "@" ++ name) :
      Means f fallback command fallback { command }

/-- What flags and a roster file need to make an invocation. -/
structure RunOptions.Resolvable (o : RunOptions) (f : RosterFile) : Prop where
  /-- The hosts are a roster. -/
  hosts : f.hosts ≠ [] ∧ (∀ e ∈ f.hosts, e.Sound) ∧ (f.hosts.map (·.index)).Nodup
  /-- A selection among the flags can be read. -/
  select : ∀ text, o.select = some text → ∃ s, Selection.parse text = .ok s
  /-- There is a worker job, and its template can be used. -/
  job : ∃ reference name template, o.job.or f.run.job = some reference ∧
    f.Means "job" reference name template ∧ (o.override template).validate = .ok ()
  /-- At least one worker may be in flight. -/
  concurrency : o.concurrency.or f.run.concurrency ≠ some 0
  /-- There are a leader and a job for it, or neither. -/
  paired : (o.leader.or f.run.leader).isSome = (o.leaderJob.or f.run.leaderJob).isSome
  /-- Only a leader's output can be captured. -/
  capture : (o.capture.or f.run.capture).isSome = true → (o.leader.or f.run.leader).isSome = true
  /-- The leader is one of the hosts. -/
  leader : ∀ index, o.leader.or f.run.leader = some index → ∃ e ∈ f.hosts, e.index = index
  /-- The template of the leader's job can be used. -/
  leaderJob : ∀ reference, o.leaderJob.or f.run.leaderJob = some reference →
    ∃ name template, f.Means "leader" reference name template ∧
      (o.override template).validate = .ok ()

/-! ## One setting after the other -/

section Settings

variable {o : RunOptions} {f : RosterFile}

theorem RosterFile.resolveJob_eq_ok_iff {reference fallback name : String}
    {template : CommandTemplate} :
    f.resolveJob reference fallback = .ok (name, template) ↔
      f.Means fallback reference name template := by
  rw [resolveJob]
  split
  · next rest hrest =>
    obtain rfl : reference = "@" ++ String.ofList rest := by
      rw [← String.toList_inj, String.toList_append, String.toList_ofList, String.toList_ofList,
        hrest]
      rfl
    constructor
    · intro h
      dsimp only at h
      split at h
      · next found hfound =>
        cases h
        exact .named _ _ hfound
      · cases h
    · intro h
      generalize hreference : "@" ++ String.ofList rest = reference at h
      cases h with
      | named name template hfound =>
        obtain rfl : String.ofList rest = name := (String.append_right_inj "@").1 hreference
        simp only [hfound]
      | literal command hplain => exact absurd hreference.symm (hplain (String.ofList rest))
  · next hplain =>
    constructor
    · intro h
      cases h
      refine .literal reference fun name hname => hplain name.toList ?_
      rw [hname, String.toList_append]
      rfl
    · intro h
      cases h with
      | named name template hfound =>
        refine absurd ?_ (hplain name.toList)
        rw [String.toList_append]
        rfl
      | literal command hplain => rfl

theorem RosterFile.roster_eq_ok_iff {roster : HostRoster} :
    f.roster = .ok roster ↔ HostRoster.ofEntries f.hosts = .ok roster :=
  Text.mapError_eq_ok_iff

namespace RunOptions

theorem exists_selection_iff : (∃ s, o.selection f = .ok s) ↔
    ∀ text, o.select = some text → ∃ s, Selection.parse text = .ok s := by
  rw [selection]
  split
  · next hnone => simp [hnone]
  · next text hsome => simp [hsome, Text.mapError_eq_ok_iff]

theorem workerJob_eq_ok_iff {job : CommandJob} :
    o.workerJob f = .ok job ↔ ∃ reference name template, o.job.or f.run.job = some reference ∧
      f.Means "job" reference name template ∧ job = ⟨name, o.override template, .off⟩ := by
  rw [workerJob]
  split
  · next hnone => simp [hnone]
  · next reference hsome =>
    simp only [hsome, Text.map_eq_ok_iff, Prod.exists, RosterFile.resolveJob_eq_ok_iff,
      Option.some.injEq, exists_and_left, exists_eq_left']

theorem leaderPhase_eq_ok_iff {leader : Option LeaderPhase} :
    o.leaderPhase f = .ok leader ↔
      (∃ index reference name template, o.leader.or f.run.leader = some index ∧
        o.leaderJob.or f.run.leaderJob = some reference ∧ f.Means "leader" reference name template ∧
        leader = some ⟨index, name, o.override template, .ofPath? (o.capture.or f.run.capture)⟩) ∨
      (o.leader.or f.run.leader = none ∧ o.leaderJob.or f.run.leaderJob = none ∧
        o.capture.or f.run.capture = none ∧ leader = none) := by
  rw [leaderPhase]
  split
  · next index reference hindex hreference =>
    simp only [hindex, hreference, Text.map_eq_ok_iff, Prod.exists, RosterFile.resolveJob_eq_ok_iff]
    simp
  · next index hindex hreference => simp [hindex, hreference]
  · next reference hindex hreference => simp [hindex, hreference]
  · next hindex hreference =>
    split
    · next path hcapture => simp [hcapture, hindex]
    · next hcapture => simp [hcapture, hindex, hreference, eq_comm]

theorem resolve_eq_ok_iff {inv : Invocation} : o.resolve f = .ok inv ↔
    ∃ roster, f.roster = .ok roster ∧ ∃ selection, o.selection f = .ok selection ∧
      ∃ job, o.workerJob f = .ok job ∧ ∃ leader, o.leaderPhase f = .ok leader ∧
        ∃ plan : FleetPlan, plan = ⟨selection, job, leader,
            (o.concurrency.or f.run.concurrency).getD 1, !o.noLeaderFatal, o.strictWorkers⟩ ∧
          plan.validate roster = .ok () ∧
          inv = ⟨roster, o.credentials f, o.sshOptions f, plan⟩ := by
  simp only [resolve, Text.bind_eq_ok_iff]
  constructor
  · rintro ⟨roster, hroster, selection, hselection, job, hjob, leader, hleader, _, hvalid, heq⟩
    cases heq
    exact ⟨roster, hroster, selection, hselection, job, hjob, leader, hleader, _, rfl, hvalid, rfl⟩
  · rintro ⟨roster, hroster, selection, hselection, job, hjob, leader, hleader, _, rfl, hvalid, rfl⟩
    exact ⟨roster, hroster, selection, hselection, job, hjob, leader, hleader, (), hvalid, rfl⟩

/-- One worker at a time is the default. -/
theorem getD_ne_zero_iff {n : Option Nat} : n.getD 1 ≠ 0 ↔ n ≠ some 0 := by
  cases n <;> simp

/-! ## All settings together -/

theorem Resolvable.exists_leaderPhase (h : o.Resolvable f) :
    ∃ leader, o.leaderPhase f = .ok leader ∧ ∀ l, leader = some l →
      (∃ e ∈ f.hosts, e.index = l.index) ∧ l.job.template.validate = .ok () := by
  have hpaired := h.paired
  cases hindex : o.leader.or f.run.leader with
  | none =>
    rw [hindex, eq_comm, Option.isSome_none, Option.isSome_eq_false_iff, Option.isNone_iff_eq_none]
      at hpaired
    have hcapture : o.capture.or f.run.capture = none := by
      cases hpath : o.capture.or f.run.capture with
      | none => rfl
      | some path =>
        have hleader := h.capture (hpath ▸ rfl)
        rw [hindex] at hleader
        cases hleader
    exact ⟨none, leaderPhase_eq_ok_iff.2 (.inr ⟨hindex, hpaired, hcapture, rfl⟩), nofun⟩
  | some index =>
    rw [hindex, eq_comm] at hpaired
    obtain ⟨reference, hreference⟩ := Option.isSome_iff_exists.1 hpaired
    obtain ⟨name, template, hmeans, htemplate⟩ := h.leaderJob reference hreference
    refine ⟨_, leaderPhase_eq_ok_iff.2
      (.inl ⟨index, reference, name, template, hindex, hreference, hmeans, rfl⟩), ?_⟩
    rintro l ⟨⟩
    exact ⟨h.leader index hindex, htemplate⟩

theorem Resolvable.exists_resolve (h : o.Resolvable f) : ∃ inv, o.resolve f = .ok inv := by
  obtain ⟨roster, hroster⟩ := HostRoster.exists_ofEntries_iff.2 h.hosts
  obtain ⟨selection, hselection⟩ := exists_selection_iff.2 h.select
  obtain ⟨reference, name, template, hreference, hmeans, htemplate⟩ := h.job
  obtain ⟨leader, hleader, hfits⟩ := h.exists_leaderPhase
  have hjob := workerJob_eq_ok_iff.2 ⟨reference, name, template, hreference, hmeans, rfl⟩
  refine ⟨_, resolve_eq_ok_iff.2 ⟨roster, RosterFile.roster_eq_ok_iff.2 hroster, selection,
    hselection, _, hjob, leader, hleader, _, rfl, ?_, rfl⟩⟩
  refine FleetPlan.validate_eq_ok_iff.2
    ⟨getD_ne_zero_iff.2 h.concurrency, htemplate, rfl, fun l hl => ?_⟩
  obtain ⟨⟨e, he, hindex⟩, hvalid⟩ := hfits l hl
  have hmem : e ∈ roster.entries := (HostRoster.perm_of_ofEntries hroster).mem_iff.2 he
  exact ⟨HostRoster.contains_iff.2 ⟨e, hmem, hindex⟩, hvalid⟩

theorem resolvable_of_resolve {inv : Invocation} (h : o.resolve f = .ok inv) : o.Resolvable f := by
  obtain ⟨roster, hroster, selection, hselection, job, hjob, leader, hleader, plan, rfl, hvalid,
    _⟩ := resolve_eq_ok_iff.1 h
  rw [RosterFile.roster_eq_ok_iff] at hroster
  obtain ⟨reference, name, template, hreference, hmeans, rfl⟩ := workerJob_eq_ok_iff.1 hjob
  obtain ⟨hconcurrency, htemplate, _, hfits⟩ := FleetPlan.validate_eq_ok_iff.1 hvalid
  have hhosts := HostRoster.exists_ofEntries_iff.1 ⟨roster, hroster⟩
  have hselect := exists_selection_iff.1 ⟨selection, hselection⟩
  have hworker : ∃ reference name template, o.job.or f.run.job = some reference ∧
      f.Means "job" reference name template ∧ (o.override template).validate = .ok () :=
    ⟨reference, name, template, hreference, hmeans, htemplate⟩
  rcases leaderPhase_eq_ok_iff.1 hleader with
    ⟨index, reference, name, template, hindex, hreference, hmeans, rfl⟩ |
    ⟨hindex, hreference, hcapture, rfl⟩
  · obtain ⟨hcontains, hleaderTemplate⟩ := hfits _ rfl
    obtain ⟨e, he, heq⟩ := HostRoster.contains_iff.1 hcontains
    have hmem : e ∈ f.hosts := (HostRoster.perm_of_ofEntries hroster).mem_iff.1 he
    exact {
      hosts := hhosts
      select := hselect
      job := hworker
      concurrency := getD_ne_zero_iff.1 hconcurrency
      paired := by rw [hindex, hreference, Option.isSome_some, Option.isSome_some]
      capture := fun _ => hindex ▸ rfl
      leader := fun i hi => ⟨e, hmem, heq.trans (Option.some.inj (hindex.symm.trans hi))⟩
      leaderJob := fun r hr => by
        cases hreference.symm.trans hr
        exact ⟨name, template, hmeans, hleaderTemplate⟩ }
  · exact {
      hosts := hhosts
      select := hselect
      job := hworker
      concurrency := getD_ne_zero_iff.1 hconcurrency
      paired := by rw [hindex, hreference]; rfl
      capture := fun h => by rw [hcapture] at h; cases h
      leader := fun i hi => by rw [hindex] at hi; cases hi
      leaderJob := fun r hr => by rw [hreference] at hr; cases hr }

theorem path?_ofPath? (path : Option String) : (CapturePolicy.ofPath? path).path? = path := by
  cases path <;> rfl

/-- What comes out has passed its check, and captures what the settings say. -/
theorem checked_of_resolve {inv : Invocation} (h : o.resolve f = .ok inv) :
    inv.plan.validate inv.roster = .ok () ∧
      inv.plan.leader.map (fun l => (l.index, l.job.capture.path?)) =
        (o.leader.or f.run.leader).map fun index => (index, o.capture.or f.run.capture) := by
  obtain ⟨roster, _, selection, _, job, _, leader, hleader, plan, rfl, hvalid, rfl⟩ :=
    resolve_eq_ok_iff.1 h
  refine ⟨hvalid, ?_⟩
  rcases leaderPhase_eq_ok_iff.1 hleader with
    ⟨index, reference, name, template, hindex, _, _, rfl⟩ | ⟨hindex, _, _, rfl⟩
  · rw [hindex, Option.map_some, Option.map_some, path?_ofPath?]
  · rw [hindex, Option.map_none, Option.map_none]

end RunOptions

end Settings

/-- Flags and a roster file make an invocation if every setting is as it has to be, and only then.
The invocation captures the output of its leader alone, where the settings say so.  Its commands can
be listed, and running or streaming it never ends with a configuration error, whatever the login,
the connector, and the state of the world. -/
theorem RunOptions.resolves_iff (o : RunOptions) (f : RosterFile) :
    ((∃ inv, o.resolve f = .ok inv) ↔ o.Resolvable f) ∧
    ∀ inv, o.resolve f = .ok inv →
      inv.plan.job.capture = .off ∧
      inv.plan.leader.map (fun l => (l.index, l.job.capture.path?)) =
        (o.leader.or f.run.leader).map (fun index => (index, o.capture.or f.run.capture)) ∧
      (∀ credentials, ∃ runs, inv.plan.preview inv.roster credentials = .ok runs) ∧
      ∀ (Net Session Desk File : Type) (d : Dispatcher Net Session Desk File) (env : Surroundings)
        (flags : CancelFlags) (world : World Net Desk),
        (∀ e, (d.run env inv.roster inv.plan flags world).1 ≠ .error (.config e)) ∧
        ∃ s, d.stream env inv.roster inv.plan flags world = .ok s := by
  refine ⟨⟨fun ⟨inv, hinv⟩ => resolvable_of_resolve hinv, Resolvable.exists_resolve⟩, ?_⟩
  intro inv hinv
  obtain ⟨hvalid, hleader⟩ := checked_of_resolve hinv
  obtain ⟨_, hcapture, _⟩ := FleetPlan.checked_of_validate hvalid
  refine ⟨hcapture, hleader, FleetPlan.exists_preview_of_validate hvalid, ?_⟩
  intro Net Session Desk File d env flags world
  exact ⟨d.run_ne_config hvalid env flags world, d.exists_stream_of_validate hvalid env flags world⟩

/-- Three hosts and a job. -/
def buildFile : RosterFile where
  hosts := [⟨2, "10.0.0.2", none, none, none⟩, ⟨1, "10.0.0.1", none, none, none⟩,
    ⟨3, "10.0.0.3", none, none, none⟩]
  jobs := [("build", { command := "make -j" })]
  run := { job := some "@build", capture := some "report.txt" }

/-- Flags that add a leader. -/
def buildOptions : RunOptions where
  select := some "> 1"
  workdir := some "/srv/app"
  leader := some 1
  leaderJob := some "./report"

theorem RunOptions.resolvable_build : buildOptions.Resolvable buildFile where
  hosts := by decide
  select := by
    rintro text ⟨⟩
    exact ⟨.range (.excluded 1) .unbounded, rfl⟩
  job := ⟨"@build", "build", { command := "make -j" }, rfl, .named "build" _ rfl,
    eq_ok_of_toOption (by decide +kernel)⟩
  concurrency := by decide
  paired := rfl
  capture := fun _ => rfl
  leader := by
    rintro index ⟨⟩
    exact ⟨⟨1, "10.0.0.1", none, none, none⟩, by decide, rfl⟩
  leaderJob := by
    rintro reference ⟨⟩
    refine ⟨"leader", { command := "./report" }, .literal "./report" fun name hname => ?_,
      eq_ok_of_toOption (by decide +kernel)⟩
    rw [← String.toList_inj, String.toList_append] at hname
    exact absurd (List.head_eq_of_cons_eq hname) (by decide)

/-- The file's capture path goes to the leader that the flags name. -/
theorem RunOptions.resolves_build : ∃ inv, buildOptions.resolve buildFile = .ok inv ∧
    inv.plan.job.capture = .off ∧
    inv.plan.leader.map (fun l => (l.index, l.job.capture.path?))
      = some (1, some "report.txt") := by
  obtain ⟨hiff, hall⟩ := buildOptions.resolves_iff buildFile
  obtain ⟨inv, hinv⟩ := hiff.2 resolvable_build
  obtain ⟨hcapture, hleader, _⟩ := hall inv hinv
  exact ⟨inv, hinv, hcapture, hleader⟩

end RemoteFleet
