import RemoteFleet.Proofs.Fleet.Consistency
import RemoteFleet.Proofs.Fleet.Commands

/-!
# Whether the leader is executed

The workers' part of a run ends with one move of the coordinator, and that move decides about the
leader once and for all.  `PermitsLeader` is the condition in the state that it leads to, and
`decided_of_change` says that the move goes by it.

Nothing that happens later is asked again: a leader whose errand was begun stays with it
(`Standing.IsLed`), and one that was given a result keeps it.  Both are carried over every passage
of the leader, so a cancelling that comes too late changes neither.
-/

namespace RemoteFleet

/-- An errand was begun: it goes on, or it is over. -/
def Standing.IsLed {Session File : Type} (e : Errand) : Standing Session File → Prop
  | .working errand stage => errand = e ∧ stage.isOver = false
  | .known r => e.Gives r
  | .lost => True
  | _ => False

namespace FleetRun

variable {Net Session Desk File : Type}

/-- Whether the leader is to be executed when the workers are done: the run is not cancelled, and
their failures do not matter or there are none. -/
def PermitsLeader (o : FleetOrders) (s : FleetRun Net Session Desk File) : Prop :=
  s.isCancelled o = false ∧
    (o.plan.strictWorkers = false ∨ ∀ r ∈ s.workers, r.status = .succeeded)

variable {c : Connector Net Session} {ws : Workstation Desk File} {o : FleetOrders}
  {s t : FleetRun Net Session Desk File} {events : List FleetEvent}

/-! ## The decision -/

theorem permitsLeader_iff :
    s.PermitsLeader o ↔ s.isCancelled o = false ∧ s.skipsLeader o = false := by
  have hworkers : s.skipsLeader o = false ↔
      (o.plan.strictWorkers = false ∨ ∀ r ∈ s.workers, r.status = .succeeded) := by
    rw [skipsLeader, Bool.and_eq_false_iff]
    simp [RunResult.succeeded]
  rw [PermitsLeader, hworkers]

/-- The move with which the workers' part ends is the coordinator's, and it goes by the condition
for the leader. -/
theorem decided_of_change (hunled : Unled s) (hs : s.duty.inWorkerPhase = true)
    (ht : t.duty.inWorkerPhase = false) {m : FleetMove} (hc : Change c ws o s m t) :
    m = .coordinate ∧ ∀ target job, o.targets.leader = some (target, job) →
      (t.PermitsLeader o → ∀ x, t.Stands .leader x → x.IsLed (o.leaderErrand target job)) ∧
      (¬t.PermitsLeader o → ∃ now, ∀ x, t.Stands .leader x →
        x = .known (.cancelled .leader target job.name now)) := by
  have hlate : ∀ duty, s.duty = duty → duty.inWorkerPhase = true := fun _ hduty => hduty ▸ hs
  cases hc with
  | workersDone hduty hwaiting htasks hended hnone =>
    refine ⟨rfl, fun target job hleader => ?_⟩
    rw [hnone] at hleader
    cases hleader
  | leaderWithheld target' job' now desk hduty hwaiting htasks hended hsome hwhy hnotes =>
    refine ⟨rfl, fun target job hleader => ?_⟩
    rw [hsome] at hleader
    cases hleader
    refine ⟨fun hpermits => ?_, fun _ => ⟨now, fun x hx => ?_⟩⟩
    · obtain ⟨hlive, hskips⟩ := permitsLeader_iff.1 hpermits
      rcases hwhy with hcancelled | hskipped
      · exact absurd (hcancelled.symm.trans hlive) nofun
      · exact absurd ((Bool.and_eq_true_iff.2 hskipped).symm.trans hskips) nofun
    · cases hx with
      | leaderKnown result hresult =>
        cases hresult
        rfl
      | leaderWaiting hphase => cases hphase
      | leading errand stage hlead => cases hlead
      | leaderLost hcrashed => cases hcrashed
  | leaderStarted target' job' hduty hwaiting htasks hended hsome hlive hstrict =>
    refine ⟨rfl, fun target job hleader => ?_⟩
    rw [hsome] at hleader
    cases hleader
    refine ⟨fun _ x hx => ?_, fun hforbids => ?_⟩
    · cases hx with
      | leading errand stage hlead =>
        cases hlead
        exact ⟨rfl, rfl⟩
      | leaderKnown result hresult =>
        have hnone : s.leader = none := hunled (by rw [hduty]; rfl)
        exact absurd (hnone.symm.trans hresult) nofun
      | leaderWaiting hphase => cases hphase
      | leaderLost hcrashed => cases hcrashed
    · refine absurd ?_ hforbids
      exact permitsLeader_iff.2 ⟨hlive, hstrict⟩
  | announced now desk hduty => cases ht
  | joined slot result ended hduty hended => cases ht
  | withheld slot target waiting now hduty hwaiting hcancelled hroom => cases ht
  | sentWorker result desk flags stream hduty hsend => cases ht
  | sentLeader result desk flags stream hduty hsend => cases hlate _ hduty
  | led errand stage stage' world hduty hadvance hgoes => cases hlate _ hduty
  | leaderDone errand stage result world hduty hadvance => cases hlate _ hduty
  | leaderDied errand stage world hduty hadvance => cases hlate _ hduty
  | reported report desk hduty hworkers hleader hstart => cases hlate _ hduty
  | _ => exact absurd (hs.symm.trans ht) nofun

/-! ## The rest of the run -/

/-- Who leads goes on, or comes to an end. -/
theorem isLed_of_passes {e : Errand} {w : World Net Desk} {m : FleetMove}
    {x y : Standing Session File} (h : x.IsLed e) (hpasses : Passes c ws o w .leader m x y) :
    y.IsLed e := by
  cases hpasses with
  | stays hstep hdie => exact h
  | started _ errand herrand => cases h
  | withheld _ phase target job now => cases h
  | advanced _ _ errand stage stage' world hactor hadvance hgoes => exact ⟨h.1, hgoes⟩
  | leaderDone errand stage result world hadvance =>
    obtain ⟨rfl, hgoes⟩ := h
    exact Errand.gives_of_advance hgoes hadvance
  | leaderDied errand stage world hadvance => trivial

/-- A leader that has a result keeps it. -/
theorem eq_known_of_passes {r : RunResult} {w : World Net Desk} {m : FleetMove}
    {y : Standing Session File} (hpasses : Passes c ws o w .leader m (.known r) y) :
    y = .known r := by
  cases hpasses
  rfl

/-- The workers' part of a run ended with one of the moves so far, in a state that decides how the
leader stands. -/
structure Decided (c : Connector Net Session) (ws : Workstation Desk File) (o : FleetOrders)
    (first : FleetRun Net Session Desk File) (events : List FleetEvent)
    (s u t : FleetRun Net Session Desk File) : Prop where
  moment : ∃ before after, events = before ++ .move .coordinate :: after ∧
    first.follow c ws o before = some u
  step : u.step c ws o (.move .coordinate) = some t
  working : u.duty.inWorkerPhase = true
  done : t.duty.inWorkerPhase = false
  workers : s.workers = t.workers
  led : t.PermitsLeader o → ∀ target job, o.targets.leader = some (target, job) →
    ∀ x, s.Stands .leader x → x.IsLed (o.leaderErrand target job)
  held : ¬t.PermitsLeader o → ∀ target job, o.targets.leader = some (target, job) →
    ∃ now, ∀ x, s.Stands .leader x → x = .known (.cancelled .leader target job.name now)

theorem Decided.step_of_event {first u v t : FleetRun Net Session Desk File}
    (h : Decided c ws o first events s u v) (hphase : s.duty.inWorkerPhase = false)
    {event : FleetEvent} (hstep : s.step c ws o event = some t) :
    Decided c ws o first (events ++ [event]) t u v := by
  obtain ⟨before, after, rfl, hbefore⟩ := h.moment
  refine ⟨⟨before, after ++ [event], by simp, hbefore⟩, h.step, h.working, h.done,
    (workers_step hphase hstep).2.trans h.workers, ?_, ?_⟩
  · intro hpermits target job hleader y hy
    cases event with
    | cancel token =>
      cases hstep
      exact h.led hpermits target job hleader y hy.of_cancel
    | move m =>
      obtain ⟨x, hx, hpasses⟩ := exists_leader_passes (change_of_move hstep) hy
      exact isLed_of_passes (h.led hpermits target job hleader x hx) hpasses
  · intro hforbids target job hleader
    obtain ⟨now, hnow⟩ := h.held hforbids target job hleader
    refine ⟨now, fun y hy => ?_⟩
    cases event with
    | cancel token =>
      cases hstep
      exact hnow y hy.of_cancel
    | move m =>
      obtain ⟨x, hx, hpasses⟩ := exists_leader_passes (change_of_move hstep) hy
      rw [hnow x hx] at hpasses
      exact eq_known_of_passes hpasses

/-- A run in which the workers are done has decided about the leader. -/
theorem exists_decided_of_follow {flags : CancelFlags} {world : World Net Desk}
    {stream : Option ResultStream}
    (h : (initial o flags world stream).follow c ws o events = some s)
    (hphase : s.duty.inWorkerPhase = false) :
    ∃ u t, Decided c ws o (initial o flags world stream) events s u t := by
  refine follow_induction (P := fun events s => s.duty.inWorkerPhase = false →
    ∃ u t, Decided c ws o (initial o flags world stream) events s u t) h nofun ?_ hphase
  intro before s event t _ hfollow hstep hs ht
  cases hworking : s.duty.inWorkerPhase with
  | false =>
    obtain ⟨u, v, hdecided⟩ := hs hworking
    exact ⟨u, v, hdecided.step_of_event hworking hstep⟩
  | true =>
    cases event with
    | cancel token =>
      cases hstep
      exact absurd (hworking.symm.trans ht) nofun
    | move m =>
      obtain ⟨rfl, hleader⟩ := decided_of_change (unled_of_follow hfollow) hworking ht
        (change_of_move hstep)
      exact ⟨s, t, ⟨before, [], rfl, hfollow⟩, hstep, hworking, ht, rfl,
        fun hpermits target job hsome => (hleader target job hsome).1 hpermits,
        fun hforbids target job hsome => (hleader target job hsome).2 hforbids⟩

/-! ## The leader's call and its result -/

/-- The leader has called if the state says so, also in a run in which tasks die. -/
theorem leader_called_iff {flags : CancelFlags} {world : World Net Desk}
    {stream : Option ResultStream}
    (h : (initial o flags world stream).follow c ws o events = some s) :
    .leader ∈ (initial o flags world stream).calls c ws o events ↔ s.HasCalled .leader := by
  refine follow_induction (P := fun events s =>
    .leader ∈ (initial o flags world stream).calls c ws o events ↔ s.HasCalled .leader) h ?_ ?_
  · simp [calls, not_hasCalled_initial]
  · intro before u event v _ hfollow hstep hcalled
    rw [calls_append_singleton hfollow, List.mem_append, hcalled, Option.mem_toList]
    cases event with
    | cancel token =>
      cases hstep
      simp only [caller?, reduceCtorEq, or_false]
      rfl
    | move m =>
      exact (hasCalled_leader_change (placed_of_follow hfollow) (change_of_move hstep)).symm

/-- A leader does not call before the workers are all done. -/
theorem not_hasCalled_of_inWorkerPhase (h : s.duty.inWorkerPhase = true) :
    ¬s.HasCalled .leader := by
  intro hcalled
  simp only [HasCalled] at hcalled
  cases hduty : s.duty <;> simp_all [Duty.inWorkerPhase, LeaderHasCalled]

/-- A leader whose command is executed now has called. -/
theorem hasCalled_of_sends? (hplaced : Placed c o s) (hstaffed : Staffed o s) {event : FleetEvent}
    {r : PlannedRun} (h : s.sends? event = some r) (hphase : r.phase = .leader) :
    s.HasCalled .leader := by
  have hdone : s.duty.inWorkerPhase = false := by
    rw [phase_of_sends? hplaced hstaffed h] at hphase
    cases hworking : s.duty.inWorkerPhase with
    | false => rfl
    | true =>
      rw [hworking] at hphase
      cases hphase
  have htasks : s.tasks = [] := (hstaffed.allDone hdone).2.1
  obtain ⟨⟨errand, stage⟩, hstep, hsends⟩ := Option.bind_eq_some_iff.1 h
  cases event with
  | cancel token => cases hstep
  | move m =>
    cases m with
    | coordinate =>
      cases hduty : s.duty with
      | lead errand' stage' =>
        rw [stepping?_of_lead hduty] at hstep
        cases hstep
        cases stage with
        | ready start session capture => simp [HasCalled, LeaderHasCalled, hduty, Stage.callee?]
        | _ => cases hsends
      | _ =>
        rw [stepping?_of_coordinate (by simp [hduty])] at hstep
        cases hstep
    | advance slot => simp [stepping?, htasks, Task.cutAt?] at hstep
    | _ => cases hstep

/-- A leader whose command was executed has called. -/
theorem hasCalled_of_executed {flags : CancelFlags} {world : World Net Desk}
    {stream : Option ResultStream}
    (h : (initial o flags world stream).follow c ws o events = some s) {r : PlannedRun}
    (hmem : r ∈ (initial o flags world stream).executed c ws o events)
    (hphase : r.phase = .leader) : s.HasCalled .leader := by
  refine follow_induction (P := fun events s =>
    r ∈ (initial o flags world stream).executed c ws o events → s.HasCalled .leader) h nofun ?_ hmem
  intro before u event v _ hfollow hstep hbefore hmem
  have hplaced := placed_of_follow hfollow
  have hu : u.HasCalled .leader := by
    rw [executed, observe_append_singleton hfollow, ← executed] at hmem
    rcases List.mem_append.1 hmem with hold | hnew
    · exact hbefore hold
    · exact hasCalled_of_sends? hplaced (staffed_of_follow hfollow) (Option.mem_toList.1 hnew)
        hphase
  cases event with
  | cancel token =>
    cases hstep
    exact hu
  | move m => exact (hasCalled_leader_change hplaced (change_of_move hstep)).2 (.inl hu)

/-- A leader that was given the result of a cancelled run does not call. -/
theorem not_hasCalled_of_known {r : RunResult} (hphase : s.duty.inWorkerPhase = false)
    (hr : r.status = .cancelled) (h : ∀ x, s.Stands .leader x → x = .known r) :
    ¬s.HasCalled .leader := by
  have hnone : ¬∃ r', s.leader = some r' ∧ r'.status ≠ .cancelled := by
    rintro ⟨r', hleader, hstatus⟩
    cases h _ (.leaderKnown r' hleader)
    exact hstatus hr
  intro hcalled
  simp only [HasCalled] at hcalled
  cases hduty : s.duty with
  | lead errand stage => cases h _ (.leading errand stage hduty)
  | crashed => cases h _ (.leaderLost hduty)
  | sendLeader _ | report | finished _ =>
    rw [hduty] at hcalled
    exact hnone hcalled
  | _ =>
    rw [hduty] at hphase
    cases hphase

/-- A leader that leads has called by the end of the run. -/
theorem hasCalled_of_isLed {e : Errand} (hover : s.duty.isOver = true)
    (hsome : ∀ report, s.duty = .finished report → s.leader.isSome = true)
    (h : ∀ x, s.Stands .leader x → x.IsLed e) : s.HasCalled .leader := by
  simp only [HasCalled]
  cases hduty : s.duty with
  | finished report =>
    obtain ⟨r, hleader⟩ := Option.isSome_iff_exists.1 (hsome report hduty)
    have hgives : e.Gives r := h _ (.leaderKnown r hleader)
    exact ⟨r, hleader, hgives.status_ne_cancelled⟩
  | crashed => trivial
  | _ => simp [hduty, Duty.isOver] at hover

/-- A report has a result of the leader if there is a leader. -/
theorem exists_leader_of_report {flags : CancelFlags} {world : World Net Desk}
    {stream : Option ResultStream}
    (h : (initial o flags world stream).follow c ws o events = some s) {report : FleetReport}
    (hduty : s.duty = .finished report) {target : RemoteTarget} {job : CommandJob}
    (hleader : o.targets.leader = some (target, job)) :
    ∃ r, report.leader = some r ∧ s.leader = some r := by
  have hfits := (placed_of_follow h).duty
  rw [hduty] at hfits
  obtain ⟨_, hfits⟩ := hfits
  rw [FleetOrders.LeaderFits, hleader, Option.map_some] at hfits
  obtain ⟨r, hr, _⟩ := Option.map_eq_some_iff.1 hfits
  exact ⟨r, hr, ((collected_of_follow h).written report hduty).2 ▸ hr⟩

end FleetRun

end RemoteFleet
