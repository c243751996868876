import RemoteFleet.Fleet.Dispatch
import RemoteFleet.Proofs.Roster.Acceptance

/-!
# Plans that can be run

A plan that passes its check can be resolved: its leader, if there is one, is in the roster, and at
least one worker may be in flight.  So the commands of such a plan can be listed, and a run of it
does not end with a configuration error.
-/

namespace RemoteFleet

/-- What is left of an answer without its error is the answer. -/
theorem eq_ok_of_toOption {ε α : Type} {answer : Except ε α} {a : α}
    (h : answer.toOption = some a) : answer = .ok a := by
  cases answer with
  | error e => cases h
  | ok b =>
    cases h
    rfl

namespace FleetPlan

variable {plan : FleetPlan} {roster : HostRoster}

theorem checkTemplate_eq_ok_iff {job : CommandJob} :
    checkTemplate job = .ok () ↔ job.template.validate = .ok () :=
  Text.mapError_eq_ok_iff

theorem checkLeader_eq_ok_iff : plan.checkLeader roster = .ok () ↔
    ∀ leader, plan.leader = some leader →
      roster.contains leader.index = true ∧ leader.job.template.validate = .ok () := by
  rw [checkLeader]
  split
  · next hleader => simp [hleader]
  · next leader hleader =>
    simp only [hleader, Option.some.injEq, forall_eq', ← checkTemplate_eq_ok_iff]
    split
    · next hcontains => simp [hcontains]
    · next hcontains => simp [hcontains]

/-- The plans that pass the check. -/
theorem validate_eq_ok_iff : plan.validate roster = .ok () ↔
    plan.concurrency ≠ 0 ∧ plan.job.template.validate = .ok () ∧ plan.job.capture = .off ∧
      ∀ leader, plan.leader = some leader →
        roster.contains leader.index = true ∧ leader.job.template.validate = .ok () := by
  rw [← checkTemplate_eq_ok_iff, ← checkLeader_eq_ok_iff, validate]
  split
  · next hconcurrency => simp [hconcurrency]
  · next hconcurrency =>
    split
    · next e htemplate => simp [htemplate]
    · next htemplate =>
      split
      · next path hcapture => simp [hcapture]
      · next hcapture => simp [hconcurrency, htemplate, hcapture]

/-- What a plan that passes its check has to offer. -/
theorem checked_of_validate (h : plan.validate roster = .ok ()) :
    0 < plan.concurrency ∧ plan.job.capture = .off ∧
      ∀ leader, plan.leader = some leader → roster.contains leader.index = true := by
  obtain ⟨hconcurrency, _, hcapture, hleader⟩ := validate_eq_ok_iff.1 h
  exact ⟨Nat.pos_of_ne_zero hconcurrency, hcapture, fun leader hsome => (hleader leader hsome).1⟩

/-- A plan that passes its check can be resolved. -/
theorem exists_resolve_of_validate (h : plan.validate roster = .ok ()) (credentials : Credentials) :
    ∃ targets, plan.resolve roster credentials = .ok targets ∧
      targets.workers = roster.select plan.selection credentials ∧
      targets.leader.map (fun (target, job) => (target.index, job))
        = plan.leader.map fun leader => (leader.index, leader.job) := by
  cases hleader : plan.leader with
  | none =>
    refine ⟨⟨roster.select plan.selection credentials, none⟩, ?_, rfl, rfl⟩
    simp only [resolve, h, leaderTarget?, hleader]
    rfl
  | some leader =>
    obtain ⟨target, htarget, hindex⟩ := HostRoster.exists_target_of_contains
      ((checked_of_validate h).2.2 leader hleader) credentials
    refine ⟨⟨roster.select plan.selection credentials, some (target, leader.job)⟩, ?_, rfl, ?_⟩
    · simp only [resolve, h, leaderTarget?, hleader, htarget]
      rfl
    · simp only [Option.map_some, hindex]

/-- A plan that passes its check does so with any number of workers at once, and has the same
targets. -/
theorem resolve_of_concurrency (h : plan.validate roster = .ok ()) {n : Nat} (hn : 1 ≤ n)
    (credentials : Credentials) :
    { plan with concurrency := n }.validate roster = .ok () ∧
      { plan with concurrency := n }.resolve roster credentials
        = plan.resolve roster credentials := by
  have hchecked : { plan with concurrency := n }.validate roster = .ok () := by
    unfold validate at h ⊢
    split at h
    · cases h
    · rw [if_neg (Nat.ne_of_gt hn)]
      exact h
  refine ⟨hchecked, ?_⟩
  simp only [resolve, h, hchecked]
  rfl

/-- The runs of a plan on its targets. -/
def runs (plan : FleetPlan) (targets : ResolvedPlan) : List PlannedRun :=
  targets.workers.map plan.workerRun
    ++ targets.leader.toList.map fun (target, job) => leaderRun target job

theorem preview_of_resolve {credentials : Credentials} {targets : ResolvedPlan}
    (h : plan.resolve roster credentials = .ok targets) :
    plan.preview roster credentials = .ok (plan.runs targets) := by
  rw [preview, h]
  rfl

theorem exists_preview_of_validate (h : plan.validate roster = .ok ())
    (credentials : Credentials) : ∃ runs, plan.preview roster credentials = .ok runs := by
  obtain ⟨targets, htargets, _⟩ := exists_resolve_of_validate h credentials
  exact ⟨plan.runs targets, preview_of_resolve htargets⟩

end FleetPlan

/-- A run that has begun does not end with a configuration error. -/
theorem FleetRun.outcome_ne_config {Net Session Desk File : Type} (o : FleetOrders)
    (s : FleetRun Net Session Desk File) (e : ConfigError) : s.outcome o ≠ .error (.config e) := by
  rw [outcome]
  split
  · exact nofun
  · split <;> exact nofun

namespace Dispatcher

variable {Net Session Desk File : Type} {roster : HostRoster} {plan : FleetPlan}

theorem exists_orders_of_validate (d : Dispatcher Net Session Desk File)
    (h : plan.validate roster = .ok ()) (token : CancelToken) :
    ∃ o, d.orders roster plan token = .ok o := by
  obtain ⟨targets, htargets, _⟩ := FleetPlan.exists_resolve_of_validate h d.credentials
  refine ⟨⟨plan, targets, d.echo, token⟩, ?_⟩
  rw [orders, htargets]
  rfl

theorem run_ne_config (d : Dispatcher Net Session Desk File) (h : plan.validate roster = .ok ())
    (env : Surroundings) (flags : CancelFlags) (world : World Net Desk) (e : ConfigError) :
    (d.run env roster plan flags world).1 ≠ .error (.config e) := by
  obtain ⟨o, horders⟩ := d.exists_orders_of_validate h d.token
  simp only [run, horders]
  exact FleetRun.outcome_ne_config o _ e

theorem exists_stream_of_validate (d : Dispatcher Net Session Desk File)
    (h : plan.validate roster = .ok ()) (env : Surroundings) (flags : CancelFlags)
    (world : World Net Desk) : ∃ s, d.stream env roster plan flags world = .ok s := by
  obtain ⟨o, horders⟩ := d.exists_orders_of_validate h (flags.childOf d.token).1
  simp only [stream, horders]
  exact ⟨_, rfl⟩

end Dispatcher

end RemoteFleet
