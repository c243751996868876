import RemoteFleet.Proofs.Fleet.Commands

/-!
# Plans that are refused

A plan can be listed, run, or run with its results sent to a receiver.  All three begin with the
check of the plan and then look the leader up a second time.  The second look finds what the first
one found (`FleetPlan.exists_leaderTarget_of_validate`), so the check alone decides whether a plan
is refused and for what reason.

* `FleetPlan.resolve_eq_error_iff`, `preview_eq_error_iff`: before anything is begun, an error is
  that of the check.
* `Dispatcher.orders_eq_error_iff`: without orders there is no run, and so nobody is called and
  nothing is written.
-/

namespace RemoteFleet

namespace FleetPlan

variable {plan : FleetPlan} {roster : HostRoster}

/-- The leader of a plan that passes its check is found. -/
theorem exists_leaderTarget_of_validate (h : plan.validate roster = .ok ())
    (credentials : Credentials) :
    ∃ leader, plan.leaderTarget? roster credentials = .ok leader := by
  obtain ⟨_, _, hleader⟩ := checked_of_validate h
  rw [leaderTarget?]
  split
  · exact ⟨none, rfl⟩
  · next leader hsome =>
    have hcontains : roster.contains leader.index = true := hleader leader hsome
    obtain ⟨target, htarget, _⟩ :=
      HostRoster.exists_target_of_contains hcontains credentials
    exact ⟨some (target, leader.job), by rw [htarget]⟩

/-- A plan has no targets if and only if it fails its check, and then for the same reason. -/
theorem resolve_eq_error_iff {credentials : Credentials} {e : ConfigError} :
    plan.resolve roster credentials = .error e ↔ plan.validate roster = .error e := by
  cases hvalid : plan.validate roster with
  | error fault =>
    have hresolve : plan.resolve roster credentials = .error fault := by
      rw [resolve, hvalid]
      rfl
    simp only [hresolve, Except.error.injEq]
  | ok u =>
    obtain ⟨targets, htargets, _⟩ := exists_resolve_of_validate hvalid credentials
    simp only [htargets, reduceCtorEq]

theorem preview_eq_error_iff {credentials : Credentials} {e : ConfigError} :
    plan.preview roster credentials = .error e ↔ plan.validate roster = .error e := by
  refine Iff.trans ?_ (resolve_eq_error_iff : plan.resolve roster credentials = .error e ↔ _)
  cases hresolve : plan.resolve roster credentials with
  | error fault =>
    have hpreview : plan.preview roster credentials = .error fault := by
      rw [preview, hresolve]
      rfl
    simp only [hpreview, Except.error.injEq]
  | ok targets => simp only [preview_of_resolve hresolve, reduceCtorEq]

end FleetPlan

namespace Dispatcher

variable {Net Session Desk File : Type} {d : Dispatcher Net Session Desk File}
  {roster : HostRoster} {plan : FleetPlan} {e : ConfigError}

/-- The dispatcher with a record of the calls of its connector. -/
def recorded (d : Dispatcher Net Session Desk File) :
    Dispatcher (Net × List SessionCall) (RemoteTarget × Session) Desk File :=
  ⟨d.connector.recorded, d.workstation, d.credentials, d.token, d.echo⟩

theorem orders_eq_error_iff {token : CancelToken} :
    d.orders roster plan token = .error e ↔ plan.validate roster = .error e := by
  refine Iff.trans ?_
    (FleetPlan.resolve_eq_error_iff : plan.resolve roster d.credentials = .error e ↔ _)
  rw [orders]
  cases plan.resolve roster d.credentials <;> simp [Except.map]

/-- A plan that fails its check leaves everything as it was. -/
theorem run_of_refused (h : plan.validate roster = .error e)
    (d : Dispatcher Net Session Desk File) (env : Surroundings) (flags : CancelFlags)
    (world : World Net Desk) :
    d.run env roster plan flags world = (.error (.config e), flags, world) := by
  have horders : d.orders roster plan d.token = .error e := orders_eq_error_iff.2 h
  simp only [run, horders]

theorem run_eq_config_iff {env : Surroundings} {flags : CancelFlags} {world : World Net Desk} :
    (d.run env roster plan flags world).1 = .error (.config e) ↔
      plan.validate roster = .error e := by
  cases hvalid : plan.validate roster with
  | error fault => simp [run_of_refused hvalid]
  | ok u =>
    have hnever := d.run_ne_config hvalid env flags world e
    simp only [hnever, reduceCtorEq]

theorem stream_eq_error_iff {env : Surroundings} {flags : CancelFlags} {world : World Net Desk} :
    d.stream env roster plan flags world = .error e ↔ plan.validate roster = .error e := by
  refine Iff.trans ?_
    (orders_eq_error_iff : d.orders roster plan (flags.childOf d.token).1 = .error e ↔ _)
  simp only [stream]
  cases d.orders roster plan (flags.childOf d.token).1 <;> simp [Except.map]

end Dispatcher

/-- Listing a plan, running it and streaming it give the error of its check, and no other
configuration error.

A plan that is refused leaves the flags and the world as they were: there are no orders, so there
is no run to be followed, and over a connector that keeps a record the record stays empty.  A plan
that is not refused has its leader found and its commands listed, and no run of it ends with a
configuration error, whatever happens. -/
theorem Dispatcher.refuses_iff_invalid {Net Session Desk File : Type}
    (d : Dispatcher Net Session Desk File) (roster : HostRoster) (plan : FleetPlan) :
    (∀ e (env : Surroundings) (flags : CancelFlags) (world : World Net Desk),
      (plan.preview roster d.credentials = .error e ↔ plan.validate roster = .error e) ∧
      ((d.run env roster plan flags world).1 = .error (.config e) ↔
        plan.validate roster = .error e) ∧
      (d.stream env roster plan flags world = .error e ↔ plan.validate roster = .error e) ∧
      (plan.validate roster = .error e →
        d.run env roster plan flags world = (.error (.config e), flags, world) ∧
        d.recorded.run env roster plan flags ⟨(world.net, []), world.desk⟩ =
          (.error (.config e), flags, ⟨(world.net, []), world.desk⟩) ∧
        ∀ token o, d.orders roster plan token ≠ .ok o)) ∧
    (plan.validate roster = .ok () →
      (∃ leader, plan.leaderTarget? roster d.credentials = .ok leader) ∧
      (∃ planned, plan.preview roster d.credentials = .ok planned) ∧
      (∀ env flags world, ∃ s, d.stream env roster plan flags world = .ok s) ∧
      ∀ token, ∃ o, d.orders roster plan token = .ok o ∧ ∀ flags world stream events s,
        (FleetRun.initial o flags world stream).follow d.connector d.workstation o events
          = some s →
        ∀ e, s.outcome o ≠ .error (.config e)) := by
  refine ⟨?_, ?_⟩
  · intro e env flags world
    refine ⟨FleetPlan.preview_eq_error_iff, run_eq_config_iff, stream_eq_error_iff, ?_⟩
    intro hrefused
    refine ⟨run_of_refused hrefused d env flags world,
      run_of_refused hrefused d.recorded env flags _, ?_⟩
    intro token o
    have herror : d.orders roster plan token = .error e := orders_eq_error_iff.2 hrefused
    rw [herror]
    exact nofun
  · intro hvalid
    refine ⟨FleetPlan.exists_leaderTarget_of_validate hvalid d.credentials,
      FleetPlan.exists_preview_of_validate hvalid d.credentials,
      d.exists_stream_of_validate hvalid, ?_⟩
    intro token
    obtain ⟨o, horders⟩ := d.exists_orders_of_validate hvalid token
    exact ⟨o, horders, fun _ _ _ _ s _ e => s.outcome_ne_config o e⟩

/-- A plan for three hosts whose leader is a fourth one is refused, and nobody is called; with the
leader among the three it is not. -/
theorem Dispatcher.refuses_absent_leader :
    { trioPlan with leader := some ⟨4, trioBench⟩ }.validate trioRoster
        = .error (.leaderNotInRoster 4) ∧
      trioDispatcher.recorded.run {} trioRoster { trioPlan with leader := some ⟨4, trioBench⟩ }
          ⟨1, []⟩ ⟨({}, []), {}⟩
        = (.error (.config (.leaderNotInRoster 4)), ⟨1, []⟩, ⟨({}, []), {}⟩) ∧
      trioDispatcher.stream {} trioRoster { trioPlan with leader := some ⟨4, trioBench⟩ }
          ⟨1, []⟩ ⟨{}, {}⟩
        = .error (.leaderNotInRoster 4) ∧
      trioPlan.validate trioRoster = .ok () ∧
      ∃ planned, trioPlan.preview trioRoster {} = .ok planned := by
  have hrefused : { trioPlan with leader := some ⟨4, trioBench⟩ }.validate trioRoster
      = .error (.leaderNotInRoster 4) := by
    have htemplate : FleetPlan.checkTemplate trioPlan.job = .ok () :=
      FleetPlan.checkTemplate_eq_ok_iff.2 (FleetPlan.validate_eq_ok_iff.1 validate_trio).2.1
    simp only [FleetPlan.validate, htemplate]
    rfl
  obtain ⟨hrun, hrecorded, _⟩ := ((trioDispatcher.refuses_iff_invalid trioRoster
    { trioPlan with leader := some ⟨4, trioBench⟩ }).1 _ {} ⟨1, []⟩ ⟨{}, {}⟩).2.2.2 hrefused
  have hstream := ((trioDispatcher.refuses_iff_invalid trioRoster
    { trioPlan with leader := some ⟨4, trioBench⟩ }).1 _ {} ⟨1, []⟩ ⟨{}, {}⟩).2.2.1.2 hrefused
  have hpreview := ((trioDispatcher.refuses_iff_invalid trioRoster trioPlan).2 validate_trio).2.1
  exact ⟨hrefused, hrecorded, hstream, validate_trio, hpreview⟩

end RemoteFleet
