import RemoteFleet.Proofs.Execution.Consistency
import RemoteFleet.Proofs.Fleet.Standing

/-!
# The results of a report are consistent

Whatever happens, the fields of every result in a report agree (`RunResult.Consistent`), a path is
that of the leader's capture file, and there is output where a command came back with some.

`endings` is what the commands of an actor came back with in the course of events, and
`Standing.Accords` says what that has to do with how far the actor has come; `accords_of_passes`
carries it over every passage.  A worker whose task was torn down has no output, whatever its
command came back with before: so `KeepsEnding` is part of what is said about output.
-/

namespace RemoteFleet

theorem RunResult.consistent_aborted (target : RemoteTarget) (job : String) (now : Timestamp) :
    (aborted target job now).Consistent where
  succeeded_iff_error := by simp [aborted]
  succeeded_iff_exitCode := by simp [aborted]
  succeeded_iff_processCode := by simp [aborted, processCode, RunError.exitCode]
  cancelled_iff := by simp [aborted]
  exitCode_iff code := by simp [aborted]
  address error address herror haddress := by
    cases herror
    cases haddress
    rfl
  captured path hpath := by cases hpath

variable {Net Session Desk File : Type}

/-! ## How far an actor has come, and what its command came back with -/

/-- A result that an actor can have when its command has ended as is listed. -/
structure FleetOrders.Yields (o : FleetOrders) (actor : Actor)
    (endings : List (Except SessionError CommandOutcome)) (r : RunResult) : Prop where
  consistent : r.Consistent
  capturePath : ∀ path, r.capturePath = some path →
    ∃ e, o.errand? actor = some e ∧ e.job.capture = .file path
  once : endings.length ≤ 1
  output : r.output = endings.head?.bind Errand.outputOf?

/-- How far an actor can have come when its command has ended as is listed, and that was kept or
not. -/
def Standing.Accords (o : FleetOrders) (actor : Actor) (kept : Prop)
    (endings : List (Except SessionError CommandOutcome)) : Standing Session File → Prop
  | .waiting => kept ∧ endings = []
  | .working errand stage => kept ∧ o.errand? actor = some errand ∧ stage.Accords errand endings
  | .ended (some r) | .known r => kept ∧ o.Yields actor endings r
  | .ended none | .lost => kept → endings = []

theorem Errand.Yields.of_errand {o : FleetOrders} {actor : Actor} {e : Errand}
    {endings : List (Except SessionError CommandOutcome)} {r : RunResult}
    (h : e.Yields endings r) (herrand : o.errand? actor = some e) : o.Yields actor endings r :=
  ⟨h.consistent, fun path hpath => ⟨e, herrand, h.capturePath path hpath⟩, h.once, h.output⟩

namespace FleetRun

/-- What the command of an actor comes back with by an event. -/
def ending? (actor : Actor) (s : FleetRun Net Session Desk File) (event : FleetEvent) :
    Option (Except SessionError CommandOutcome) :=
  match event with
  | .move m => if m.actor? = some actor then (s.stepping? event).bind (·.2.ending?) else none
  | .cancel _ => none

/-- What the command of an actor comes back with in the course of events. -/
def endings (actor : Actor) (c : Connector Net Session) (ws : Workstation Desk File)
    (o : FleetOrders) (s : FleetRun Net Session Desk File) (events : List FleetEvent) :
    List (Except SessionError CommandOutcome) :=
  s.observe (ending? actor) c ws o events

/-- What the command of an actor comes back with is kept: the task is not torn down after that. -/
def KeepsEnding (actor : Actor) (c : Connector Net Session) (ws : Workstation Desk File)
    (o : FleetOrders) (s : FleetRun Net Session Desk File) (events : List FleetEvent) : Prop :=
  ∀ slot before after, actor = .worker slot → events = before ++ .move (.die slot) :: after →
    s.endings actor c ws o before = []

variable {c : Connector Net Session} {ws : Workstation Desk File} {o : FleetOrders}
  {s t : FleetRun Net Session Desk File} {events : List FleetEvent}

theorem keepsEnding_append_iff {actor : Actor} {event : FleetEvent}
    (hevent : ∀ slot, actor = .worker slot → event ≠ .move (.die slot)) :
    s.KeepsEnding actor c ws o (events ++ [event]) ↔ s.KeepsEnding actor c ws o events := by
  constructor
  · intro h slot before after hslot heq
    exact h slot before (after ++ [event]) hslot (by simp [heq])
  · intro h slot before after hslot heq
    rcases List.eq_nil_or_concat after with rfl | ⟨after, last, rfl⟩
    · obtain ⟨_, hlast⟩ := List.append_inj' heq rfl
      exact absurd (List.singleton_inj.1 hlast) (hevent slot hslot)
    · rw [List.concat_eq_append, ← List.cons_append, ← List.append_assoc] at heq
      exact h slot before after hslot (List.append_inj' heq rfl).1

/-- What an actor comes back with is seen by the step that it takes. -/
theorem ending?_eq (actor : Actor) (s : FleetRun Net Session Desk File) (m : FleetMove) :
    s.ending? actor (.move m) = (s.stepOf? actor (.move m)).bind (·.2.ending?) := by
  rw [ending?, stepOf?]
  split <;> rfl

/-- An actor that does not work comes back with nothing. -/
theorem ending?_of_idle (haccounted : Accounted s) (hunled : Unled s) {actor : Actor}
    {x : Standing Session File} (h : s.Stands actor x) {m : FleetMove}
    (hidle : m.actor? = some actor → x.step? = none) : s.ending? actor (.move m) = none := by
  rw [ending?_eq, stepOf?_of_idle haccounted hunled h hidle]
  rfl

/-- An actor that takes a step comes back with what is seen by it. -/
theorem ending?_of_step (haccounted : Accounted s) (hunled : Unled s) {actor : Actor}
    {errand : Errand} {stage : Stage Session File} (h : s.Stands actor (.working errand stage))
    {m : FleetMove} (hactor : m.actor? = some actor) :
    s.ending? actor (.move m) = stage.ending? := by
  rw [ending?_eq, stepOf?_of_working haccounted hunled h hactor]
  rfl

/-- A passage goes on to where the actor can have come. -/
theorem accords_of_passes (haccounted : Accounted s) (hunled : Unled s) {actor : Actor}
    {x y : Standing Session File} {m : FleetMove} {kept kept' : Prop}
    {endings : List (Except SessionError CommandOutcome)} (hx : s.Stands actor x)
    (h : x.Accords o actor kept endings) (hpasses : Passes c ws o s.world actor m x y)
    (hsame : (∀ slot, actor = .worker slot → m ≠ .die slot) → (kept' ↔ kept))
    (hdied : ∀ slot, actor = .worker slot → m = .die slot → kept' → endings = []) :
    y.Accords o actor kept' (endings ++ (s.ending? actor (.move m)).toList) := by
  cases hpasses with
  | stays hstep hdie =>
    rw [ending?_of_idle haccounted hunled hx hstep, Option.toList_none, List.append_nil]
    rwa [propext (hsame hdie)]
  | started _ errand herrand =>
    obtain ⟨hkept, rfl⟩ := h
    rw [ending?_of_idle haccounted hunled hx fun _ => rfl]
    exact ⟨(hsame (by simp)).2 hkept, herrand, rfl⟩
  | withheld _ phase target job now =>
    obtain ⟨hkept, rfl⟩ := h
    rw [ending?_of_idle haccounted hunled hx fun _ => rfl]
    exact ⟨(hsame (by simp)).2 hkept, RunResult.consistent_cancelled phase target job now,
      nofun, Nat.zero_le 1, rfl⟩
  | advanced _ _ errand stage stage' world hactor hadvance hgoes =>
    obtain ⟨hkept, herrand, haccords⟩ := h
    rw [ending?_of_step haccounted hunled hx hactor]
    refine ⟨(hsame ?_).2 hkept, herrand, haccords.advance hadvance⟩
    rintro slot rfl rfl
    cases hactor
  | ended slot errand stage stage' world hadvance hover =>
    obtain ⟨hkept, herrand, haccords⟩ := h
    rw [ending?_of_step haccounted hunled hx rfl]
    have hend := haccords.advance hadvance
    have hkept' := (hsame (by simp)).2 hkept
    cases stage' with
    | done result => exact ⟨hkept', Errand.Yields.of_errand hend herrand⟩
    | dead => exact fun _ => hend
    | _ => cases hover
  | died slot errand stage =>
    have hidle : s.ending? (.worker slot) (.move (.die slot)) = none := rfl
    rw [hidle, Option.toList_none, List.append_nil]
    exact hdied slot rfl rfl
  | joined slot result =>
    rw [ending?_of_idle haccounted hunled hx fun _ => rfl, Option.toList_none, List.append_nil]
    exact ⟨(hsame (by simp)).2 h.1, h.2⟩
  | buried slot =>
    rw [ending?_of_idle haccounted hunled hx fun _ => rfl, Option.toList_none, List.append_nil]
    exact fun hkept => h ((hsame (by simp)).1 hkept)
  | leaderDone errand stage result world hadvance =>
    obtain ⟨hkept, herrand, haccords⟩ := h
    rw [ending?_of_step haccounted hunled hx rfl]
    exact ⟨(hsame (by simp)).2 hkept,
      Errand.Yields.of_errand (haccords.advance hadvance) herrand⟩
  | leaderDied errand stage world hadvance =>
    obtain ⟨hkept, herrand, haccords⟩ := h
    rw [ending?_of_step haccounted hunled hx rfl]
    exact fun _ => haccords.advance hadvance

/-! ## Along a run -/

/-- Along a run, every actor has come as far as what its command came back with allows. -/
theorem accords_of_follow {flags : CancelFlags} {world : World Net Desk}
    {stream : Option ResultStream}
    (h : (initial o flags world stream).follow c ws o events = some s) {actor : Actor}
    {x : Standing Session File} (hx : s.Stands actor x) :
    x.Accords o actor ((initial o flags world stream).KeepsEnding actor c ws o events)
      ((initial o flags world stream).endings actor c ws o events) := by
  refine stands_induction (P := fun events actor x => x.Accords o actor
    ((initial o flags world stream).KeepsEnding actor c ws o events)
    ((initial o flags world stream).endings actor c ws o events)) h ?_ ?_ ?_ actor x hx
  · intro actor
    refine ⟨fun slot before after _ heq => ?_, rfl⟩
    simp at heq
  · intro before u token actor x hfollow hbefore
    rw [endings, observe_append_singleton hfollow, propext (keepsEnding_append_iff (by simp))]
    simp only [ending?, Option.toList_none, List.append_nil]
    exact hbefore
  · intro before u m actor x y hfollow hx hpasses hbefore
    rw [endings, observe_append_singleton hfollow]
    refine accords_of_passes (accounted_of_follow hfollow) (unled_of_follow hfollow) hx hbefore
      hpasses (fun hm => ?_) ?_
    · exact keepsEnding_append_iff fun slot hslot heq => hm slot hslot (FleetEvent.move.inj heq)
    · rintro slot hslot rfl hkeeps
      exact hkeeps slot before [] hslot rfl

/-! ## The report -/

/-- When the workers are done, what is known of a worker is in its slot, or its task died; and the
report has what is known. -/
structure Collected (o : FleetOrders) (s : FleetRun Net Session Desk File) : Prop where
  workers : s.duty.inWorkerPhase = false → ∀ (slot : Nat) r, s.workers[slot]? = some r →
    s.slots[slot]? = some (some r) ∨ s.slots[slot]? = some none ∧
      ∃ target now, r = RunResult.aborted target o.plan.job.name now
  written : ∀ report, s.duty = .finished report →
    report.workers = s.workers ∧ report.leader = s.leader

theorem getElem?_collect {slot : Nat} {r : RunResult} (h : (s.collect ws o)[slot]? = some r) :
    s.slots[slot]? = some (some r) ∨ s.slots[slot]? = some none ∧
      ∃ target now, r = RunResult.aborted target o.plan.job.name now := by
  simp only [collect, List.getElem?_zipWith] at h
  cases htarget : o.targets.workers[slot]? with
  | none => simp [htarget] at h
  | some target =>
    rcases hslot : s.slots[slot]? with _ | _ | found
    · simp [htarget, hslot] at h
    · simp only [htarget, hslot, Option.getD_none, Option.some.injEq] at h
      exact .inr ⟨rfl, target, _, h.symm⟩
    · simp only [htarget, hslot, Option.getD_some, Option.some.injEq] at h
      exact .inl (by rw [h])

/-- Until the report is written, nothing has to be said of it. -/
theorem Collected.of_unwritten
    (hworkers : s.duty.inWorkerPhase = false → ∀ (slot : Nat) r, s.workers[slot]? = some r →
      s.slots[slot]? = some (some r) ∨ s.slots[slot]? = some none ∧
        ∃ target now, r = RunResult.aborted target o.plan.job.name now)
    (hnone : ∀ report, s.duty ≠ .finished report) : Collected o s :=
  ⟨hworkers, fun report hreport => absurd hreport (hnone report)⟩

theorem Collected.change (h : Collected o s) {m : FleetMove} (hc : Change c ws o s m t) :
    Collected o t := by
  cases hc with
  | announced now desk hduty => exact .of_unwritten nofun (by simp)
  | joined slot result ended hduty hended => exact .of_unwritten nofun (by simp)
  | withheld slot target waiting now hduty hwaiting hcancelled hroom =>
    exact .of_unwritten nofun (by simp)
  | sentWorker result desk flags stream hduty hsend => exact .of_unwritten nofun (by simp)
  | workersDone hduty hwaiting htasks hended hleader =>
    exact .of_unwritten (fun _ _ _ => getElem?_collect) (by simp)
  | leaderWithheld target job now desk hduty hwaiting htasks hended hleader hwhy =>
    exact .of_unwritten (fun _ _ _ => getElem?_collect) (by simp)
  | leaderStarted target job hduty hwaiting htasks hended hleader hlive hstrict =>
    exact .of_unwritten (fun _ _ _ => getElem?_collect) (by simp)
  | sentLeader result desk flags stream hduty hsend =>
    exact .of_unwritten (fun _ => h.workers (by rw [hduty]; rfl)) (by simp)
  | led errand stage stage' world hduty hadvance hgoes =>
    exact .of_unwritten (fun _ => h.workers (by rw [hduty]; rfl)) (by simp)
  | leaderDone errand stage result world hduty hadvance =>
    exact .of_unwritten (fun _ => h.workers (by rw [hduty]; rfl)) (by simp)
  | leaderDied errand stage world hduty hadvance =>
    exact .of_unwritten (fun _ => h.workers (by rw [hduty]; rfl)) (by simp)
  | reported report desk hduty hworkers hleader hstart =>
    refine ⟨fun _ => h.workers (by rw [hduty]; rfl), ?_⟩
    intro written hwritten
    cases hwritten
    exact ⟨hworkers, hleader⟩
  | _ => exact ⟨h.workers, h.written⟩

theorem collected_of_follow {flags : CancelFlags} {world : World Net Desk}
    {stream : Option ResultStream}
    (h : (initial o flags world stream).follow c ws o events = some s) : Collected o s :=
  follow_invariant (fun _ _ _ _ hchange hs => hs.change hchange)
    (fun _ _ hs => ⟨hs.workers, hs.written⟩) h (.of_unwritten nofun (by simp [initial]))

/-- A result in the report is known of its actor, or is that of a worker whose task died. -/
theorem Collected.stands_of_result (h : Collected o s) (hstaffed : Staffed o s)
    {report : FleetReport} (hduty : s.duty = .finished report) {actor : Actor} {r : RunResult}
    (hr : report.result? actor = some r) :
    s.Stands actor (.known r) ∨ s.Stands actor .lost ∧
      ∃ target now, r = RunResult.aborted target o.plan.job.name now := by
  obtain ⟨hworkers, hleader⟩ := h.written report hduty
  have hphase : s.duty.inWorkerPhase = false := by rw [hduty]; rfl
  cases actor with
  | leader => exact .inl (.leaderKnown r (hleader ▸ hr))
  | worker slot =>
    obtain ⟨hwaiting, htasks, hended⟩ := hstaffed.allDone hphase
    rcases h.workers hphase slot r (hworkers ▸ hr) with hslot | ⟨hslot, haborted⟩
    · exact .inl (.known slot r hslot)
    · refine .inr ⟨.lost slot ?_ hslot, haborted⟩
      simp [openPlaces, hwaiting, htasks, hended]

/-- The output of a result in the report is what the command of its actor came back with, unless the
task was torn down. -/
theorem output_of_report {flags : CancelFlags} {world : World Net Desk}
    {stream : Option ResultStream}
    (h : (initial o flags world stream).follow c ws o events = some s) {report : FleetReport}
    (hduty : s.duty = .finished report) {actor : Actor} {r : RunResult}
    (hr : report.result? actor = some r) :
    r.Consistent ∧
      (∀ path, r.capturePath = some path →
        ∃ e, o.errand? actor = some e ∧ e.job.capture = .file path) ∧
      ∀ output, r.output = some output ↔
        (initial o flags world stream).KeepsEnding actor c ws o events ∧
        ((∃ outcome, .ok outcome ∈ (initial o flags world stream).endings actor c ws o events ∧
            outcome.output = output) ∨
          ∃ address reason, .error (.transport address reason output)
            ∈ (initial o flags world stream).endings actor c ws o events) := by
  rcases (collected_of_follow h).stands_of_result (staffed_of_follow h) hduty hr with
    hknown | ⟨hlost, target, now, rfl⟩
  · obtain ⟨hkept, hyields⟩ := accords_of_follow h hknown
    refine ⟨hyields.consistent, hyields.capturePath, fun output => ?_⟩
    rw [hyields.output, Errand.outputOf?_head?_iff hyields.once]
    exact (and_iff_right hkept).symm
  · refine ⟨RunResult.consistent_aborted target _ now, nofun, fun output => ⟨nofun, ?_⟩⟩
    rintro ⟨hkept, hsome⟩
    have hnone : (initial o flags world stream).endings actor c ws o events = [] :=
      accords_of_follow h hlost hkept
    simp [hnone] at hsome

end FleetRun

/-- Everything in a report is somebody's result. -/
theorem FleetReport.exists_actor {report : FleetReport} {r : RunResult} (h : r ∈ report.results) :
    ∃ actor, report.result? actor = some r := by
  rcases List.mem_append.1 h with hworker | hleader
  · obtain ⟨slot, hslot⟩ := List.mem_iff_getElem?.1 hworker
    exact ⟨.worker slot, hslot⟩
  · exact ⟨.leader, Option.mem_toList.1 hleader⟩

/-- Whatever connectors, sessions, capture files and cancellings come to, every result in a report
is consistent: its status, its error, its code and the code for the process agree, and an error that
names an address names that of the result.  A path is that of the leader's capture file, and its
result is no failure to keep it.  There is output if and only if the command came back with an
outcome, or with a connection that was lost, and the task was not torn down after that. -/
theorem Dispatcher.report_consistent (d : Dispatcher Net Session Desk File) {roster : HostRoster}
    {plan : FleetPlan} (hplan : plan.validate roster = .ok ()) (token : CancelToken)
    (flags : CancelFlags) (world : World Net Desk) (stream : Option ResultStream) :
    ∃ o, d.orders roster plan token = .ok o ∧ ∀ events s,
      (FleetRun.initial o flags world stream).follow d.connector d.workstation o events = some s →
      ∀ report, s.outcome o = .ok report ∨ s.outcome o = .error (.leaderFailed report) →
        (∀ r ∈ report.results, ∃ actor, report.result? actor = some r) ∧
        ∀ actor r, report.result? actor = some r →
          r.Consistent ∧
          (∀ path, r.capturePath = some path → r.phase = .leader ∧
            ∃ leader, plan.leader = some leader ∧ leader.job.capture = .file path) ∧
          ∀ output, r.output = some output ↔
            (FleetRun.initial o flags world stream).KeepsEnding actor d.connector d.workstation o
              events ∧
            ((∃ outcome, .ok outcome ∈ (FleetRun.initial o flags world stream).endings actor
                d.connector d.workstation o events ∧ outcome.output = output) ∨
              ∃ address reason, .error (.transport address reason output) ∈
                (FleetRun.initial o flags world stream).endings actor d.connector d.workstation o
                  events) := by
  obtain ⟨targets, hresolve, _, hleader⟩ :=
    FleetPlan.exists_resolve_of_validate hplan d.credentials
  let o : FleetOrders := ⟨plan, targets, d.echo, token⟩
  refine ⟨o, by rw [orders, hresolve]; rfl, ?_⟩
  intro events s hfollow report houtcome
  have hduty := FleetRun.finished_of_outcome houtcome
  refine ⟨fun r => FleetReport.exists_actor, fun actor r hr => ?_⟩
  obtain ⟨hconsistent, hcapture, houtput⟩ := FleetRun.output_of_report hfollow hduty hr
  refine ⟨hconsistent, fun path hpath => ?_, houtput⟩
  obtain ⟨e, herrand, hfile⟩ := hcapture path hpath
  cases actor with
  | worker slot =>
    obtain ⟨target, _, rfl⟩ := Option.map_eq_some_iff.1 herrand
    have hoff : plan.job.capture = .off := (FleetPlan.checked_of_validate hplan).2.1
    rw [FleetOrders.workerErrand, hoff] at hfile
    cases hfile
  | leader =>
    obtain ⟨⟨target, job⟩, htarget, rfl⟩ := Option.map_eq_some_iff.1 herrand
    have hplaced := (FleetRun.placed_of_follow hfollow).duty
    rw [hduty] at hplaced
    obtain ⟨_, hfits⟩ := hplaced
    have hsubject : r.subject = (o.leaderErrand target job).subject := by
      rw [FleetOrders.LeaderFits, htarget, show report.leader = some r from hr] at hfits
      exact Option.some.inj hfits
    refine ⟨congrArg (·.1) hsubject, ?_⟩
    have htarget' : targets.leader = some (target, job) := htarget
    rw [htarget', Option.map_some] at hleader
    obtain ⟨leader, hsome, heq⟩ := Option.map_eq_some_iff.1 hleader.symm
    exact ⟨leader, hsome, (Prod.mk.inj heq).2 ▸ hfile⟩

/-- In a run over three hosts the first worker is torn down before it does anything.  All results
are consistent, and that worker has no output. -/
theorem Dispatcher.report_consistent_trio :
    trioPlan.validate trioRoster = .ok () ∧
    ∃ s report, (FleetRun.initial trioOrders ⟨1, []⟩ ⟨{}, {}⟩ none).follow trioDispatcher.connector
        trioDispatcher.workstation trioOrders (trioMoves.map .move) = some s ∧
      s.outcome trioOrders = .ok report ∧ report.results.length = 4 ∧
      (∀ r ∈ report.results, r.Consistent) ∧
      ∀ r, report.result? (.worker 0) = some r → r.output = none := by
  obtain ⟨o, horders, hall⟩ := trioDispatcher.report_consistent validate_trio ⟨0, []⟩ ⟨1, []⟩
    ⟨{}, {}⟩ none
  rw [orders_trio] at horders
  cases horders
  have hrun : ((FleetRun.initial trioOrders ⟨1, []⟩ ⟨{}, {}⟩ none).follow trioDispatcher.connector
      trioDispatcher.workstation trioOrders (trioMoves.map .move)).map
        (fun s => (s.outcome trioOrders).toOption.map (·.results.length)) = some (some 4) := by rfl
  have hsilent : (FleetRun.initial trioOrders ⟨1, []⟩ ⟨{}, {}⟩ none).endings (.worker 0)
      trioDispatcher.connector trioDispatcher.workstation trioOrders (trioMoves.map .move)
      = [] := by rfl
  obtain ⟨s, hs, hreport⟩ := Option.map_eq_some_iff.1 hrun
  cases houtcome : s.outcome trioOrders with
  | error failure => simp [houtcome, Except.toOption] at hreport
  | ok report =>
    obtain ⟨hactor, hresult⟩ := hall _ s hs report (.inl houtcome)
    have hlength : report.results.length = 4 := by simpa [houtcome, Except.toOption] using hreport
    refine ⟨validate_trio, s, report, hs, houtcome, hlength, ?_, ?_⟩
    · intro r hr
      obtain ⟨actor, hactor⟩ := hactor r hr
      exact (hresult actor r hactor).1
    · intro r hr
      cases houtput : r.output with
      | none => rfl
      | some output =>
        have hsome := (((hresult _ r hr).2.2 output).1 houtput).2
        simp [hsilent] at hsome

end RemoteFleet
