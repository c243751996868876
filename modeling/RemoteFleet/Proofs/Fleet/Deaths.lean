import RemoteFleet.Proofs.Fleet.Consistency
import RemoteFleet.Proofs.Fleet.Delivery
import RemoteFleet.Session.Faults

/-!
# Workers whose tasks die

A task that dies leaves no result, so none is sent when it is joined.  The report has a result in
its place all the same, but that one is made when all workers are done, and is not sent either.

* `deaths` lists the slots of the tasks that die in the course of events.  A worker is on the list
  exactly if it has come to where only the dead come (`mem_deaths_iff`), so in the end its slot is
  empty (`filterMap_slots_of_report`).
* What goes out are the results in the slots (`Delivered`), which are those of the report without
  those of the dead (`FleetReport.beside`).

What does not hold is that the receiver hears of every worker.  It does exactly if no task dies
(`hearsOfAll_iff`).
-/

namespace RemoteFleet

variable {Net Session Desk File : Type}

/-- Whether the task of an actor died. -/
def Standing.IsDead : Standing Session File → Prop
  | .ended none | .lost => True
  | _ => False

/-- The results of the workers, without those in some places. -/
def FleetReport.beside (report : FleetReport) (places : List Nat) : List RunResult :=
  (report.workers.zipIdx.filter fun entry => entry.2 ∉ places).map (·.1)

theorem FleetReport.beside_nil (report : FleetReport) : report.beside [] = report.workers := by
  simp [beside]

/-- What is in one of the places is missing. -/
theorem FleetReport.length_beside_lt {report : FleetReport} {places : List Nat} {slot : Nat}
    (hslot : slot ∈ places) (hlt : slot < report.workers.length) :
    (report.beside places).length < report.workers.length := by
  have hmem : (report.workers[slot], slot) ∈ report.workers.zipIdx :=
    List.mem_zipIdx_iff_getElem?.2 (List.getElem?_eq_getElem hlt)
  have hfewer := List.length_filter_lt_length_iff_exists
    (p := fun entry : RunResult × Nat => decide (entry.2 ∉ places)).2
      ⟨_, hmem, by simpa using hslot⟩
  rw [beside, List.length_map]
  exact Nat.lt_of_lt_of_eq hfewer List.length_zipIdx

namespace FleetRun

/-- The slot of a task that dies with an event: somebody makes it die, or its attempt to connect
does. -/
def dies? (c : Connector Net Session) (ws : Workstation Desk File)
    (s : FleetRun Net Session Desk File) : FleetEvent → Option Nat
  | .move (.die slot) => some slot
  | .move (.advance slot) => do
    let (errand, stage) ← s.stepping? (.move (.advance slot))
    let (stage', _) := stage.advance c ws errand s.world
    if stage'.isOver && stage'.result?.isNone then some slot else none
  | _ => none

/-- The slots of the tasks that die in the course of events. -/
def deaths (c : Connector Net Session) (ws : Workstation Desk File) (o : FleetOrders)
    (s : FleetRun Net Session Desk File) (events : List FleetEvent) : List Nat :=
  s.observe (dies? c ws) c ws o events

/-- The receiver got one result for every worker and then the leader's, and heard of the workers
whose tasks died that they could not be reached. -/
def HearsOfAll (o : FleetOrders) (dead : List Nat) (leader : Option RunResult)
    (s : FleetRun Net Session Desk File) : Prop :=
  ∃ workers, s.received = workers ++ leader.toList ∧
    (workers.map (·.subject)).Perm
      (o.targets.workers.map fun target => (o.workerErrand target).subject) ∧
    ∀ slot ∈ dead, ∃ target ∈ o.targets.workers[slot]?, ∃ r ∈ workers,
      r.subject = (o.workerErrand target).subject ∧ r.status = .failed ∧
        ∃ address reason, r.error = some (.connection address reason)

variable {c : Connector Net Session} {ws : Workstation Desk File} {o : FleetOrders}
  {s t : FleetRun Net Session Desk File} {events : List FleetEvent}

/-! ## Who dies -/

theorem dies?_eq_some_iff {m : FleetMove} {slot : Nat} :
    s.dies? c ws (.move m) = some slot ↔
      m = .die slot ∨ m = .advance slot ∧ ∃ errand stage stage' world,
        s.stepping? (.move m) = some (errand, stage) ∧
        stage.advance c ws errand s.world = (stage', world) ∧ stage'.isOver = true ∧
        stage'.result? = none := by
  cases m with
  | die slot' => simp [dies?]
  | advance slot' =>
    cases hstep : s.stepping? (.move (.advance slot')) with
    | none => simp [dies?, hstep]
    | some step =>
      obtain ⟨errand, stage⟩ := step
      rcases hadvance : stage.advance c ws errand s.world with ⟨stage', world⟩
      simp [dies?, hstep, hadvance]
      tauto
  | _ => simp [dies?]

/-- A passage leads to where the dead are if the actor was there before, or dies by it. -/
theorem isDead_of_passes (haccounted : Accounted s) (hunled : Unled s) {slot : Nat} {m : FleetMove}
    {x y : Standing Session File} (hx : s.Stands (.worker slot) x)
    (hpasses : Passes c ws o s.world (.worker slot) m x y) :
    y.IsDead ↔ x.IsDead ∨ s.dies? c ws (.move m) = some slot := by
  rw [dies?_eq_some_iff]
  cases hpasses with
  | stays hstep hdie =>
    refine (or_iff_left ?_).symm
    rintro (rfl | ⟨rfl, errand, stage, stage', world, hstepping, -⟩)
    · exact hdie slot rfl rfl
    · rw [hx.stepping?_eq haccounted hunled rfl, hstep rfl] at hstepping
      cases hstepping
  | advanced _ _ errand stage stage' world hactor hadvance hgoes =>
    refine iff_of_false id ?_
    rintro (hdead | rfl | ⟨rfl, errand', stage'', ended, world', hstepping, hends, hover, -⟩)
    · exact hdead
    · cases hactor
    · rw [hx.stepping?_eq haccounted hunled rfl] at hstepping
      cases hstepping
      cases hadvance.symm.trans hends
      cases hgoes.symm.trans hover
  | ended _ errand stage stage' world hadvance hover =>
    have hstepping := hx.stepping?_eq haccounted hunled (m := .advance slot) rfl
    cases hresult : stage'.result? with
    | none =>
      exact iff_of_true trivial
        (.inr (.inr ⟨rfl, errand, stage, stage', world, hstepping, hadvance, hover, hresult⟩))
    | some r =>
      refine iff_of_false id ?_
      rintro (hdead | hdies | ⟨-, errand', stage'', ended, world', hother, hends, -, hnone⟩)
      · exact hdead
      · cases hdies
      · rw [hstepping] at hother
        cases hother
        cases hadvance.symm.trans hends
        cases hresult.symm.trans hnone
  | died _ errand stage => exact iff_of_true trivial (.inr (.inl rfl))
  | buried _ => exact iff_of_true trivial (.inl trivial)
  | started _ errand herrand => simp [Standing.IsDead]
  | withheld _ phase target job now => simp [Standing.IsDead]
  | joined _ result => simp [Standing.IsDead]

/-- A task died exactly if its worker has come to where only the dead come. -/
theorem mem_deaths_iff {flags : CancelFlags} {world : World Net Desk}
    {stream : Option ResultStream}
    (h : (initial o flags world stream).follow c ws o events = some s) {slot : Nat}
    {x : Standing Session File} (hx : s.Stands (.worker slot) x) :
    slot ∈ (initial o flags world stream).deaths c ws o events ↔ x.IsDead := by
  refine stands_induction (P := fun events actor x => ∀ slot, actor = .worker slot →
    (slot ∈ (initial o flags world stream).deaths c ws o events ↔ x.IsDead)) h ?_ ?_ ?_ _ x hx
    slot rfl
  · intro actor slot _
    exact iff_of_false List.not_mem_nil id
  · intro before u token actor x hfollow hbefore
    rw [deaths, observe_append_singleton hfollow, dies?, Option.toList_none, List.append_nil]
    · exact hbefore
    · simp
    · simp
  · rintro before u m actor x y hfollow hx hpasses hbefore slot rfl
    rw [deaths, observe_append_singleton hfollow, List.mem_append, Option.mem_toList,
      isDead_of_passes (accounted_of_follow hfollow) (unled_of_follow hfollow) hx hpasses]
    exact or_congr_left (hbefore slot rfl)

/-- Who dies is at work. -/
theorem exists_task_of_dies {m : FleetMove} (hc : Change c ws o s m t) {slot : Nat}
    (hdies : s.dies? c ws (.move m) = some slot) : ∃ task ∈ s.tasks, task.slot = slot := by
  have hmove : m = .die slot ∨ m = .advance slot :=
    (dies?_eq_some_iff.1 hdies).imp_right fun h => h.1
  cases hc with
  | advanced before after task stage world htasks hadvance hgoes =>
    refine ⟨task, by simp [htasks], ?_⟩
    simpa using hmove
  | ended before after task stage world htasks hadvance hover =>
    refine ⟨task, by simp [htasks], ?_⟩
    simpa using hmove
  | died before after task net htasks hnet =>
    refine ⟨task, by simp [htasks], ?_⟩
    simpa using hmove
  | _ => simp at hmove

/-- Those who die are workers. -/
theorem lt_length_of_mem_deaths {flags : CancelFlags} {world : World Net Desk}
    {stream : Option ResultStream}
    (h : (initial o flags world stream).follow c ws o events = some s) {slot : Nat}
    (hdead : slot ∈ (initial o flags world stream).deaths c ws o events) :
    slot < o.targets.workers.length := by
  refine follow_induction (P := fun events _ =>
    slot ∈ (initial o flags world stream).deaths c ws o events → slot < o.targets.workers.length)
    h (fun hnil => absurd hnil List.not_mem_nil) ?_ hdead
  intro before u event v _ hfollow hstep hbefore hdead
  rw [deaths, observe_append_singleton hfollow, List.mem_append, Option.mem_toList] at hdead
  refine hdead.elim hbefore fun hdies => ?_
  cases event with
  | cancel token => cases hdies
  | move m =>
    obtain ⟨task, htask, rfl⟩ := exists_task_of_dies (change_of_move hstep) hdies
    obtain ⟨_, target, htarget, _⟩ := (placed_of_follow hfollow).tasks task htask
    exact (List.getElem?_eq_some_iff.1 htarget).1

/-! ## What the report has -/

section Report

variable {flags : CancelFlags} {world : World Net Desk} {stream : Option ResultStream}
  {report : FleetReport}

/-- A worker whose task died has an empty slot and a failed connection in the report.  The others
have the same result in both. -/
theorem slot_of_report (h : (initial o flags world stream).follow c ws o events = some s)
    (hduty : s.duty = .finished report) {slot : Nat} {r : RunResult}
    (hr : report.workers[slot]? = some r) :
    (slot ∉ (initial o flags world stream).deaths c ws o events ∧
        s.slots[slot]? = some (some r)) ∨
      slot ∈ (initial o flags world stream).deaths c ws o events ∧ s.slots[slot]? = some none ∧
        ∃ target now, r = RunResult.aborted target o.plan.job.name now := by
  have hresult : report.result? (.worker slot) = some r := hr
  rcases (collected_of_follow h).stands_of_result (staffed_of_follow h) hduty hresult with
    hknown | ⟨hlost, haborted⟩
  · refine .inl ⟨(mem_deaths_iff h hknown).not.2 id, ?_⟩
    cases hknown with
    | known _ _ hslot => exact hslot
  · refine .inr ⟨(mem_deaths_iff h hlost).2 trivial, ?_, haborted⟩
    cases hlost with
    | lost _ _ hslot => exact hslot

/-- The results in the slots are those of the report, without those of the dead. -/
theorem filterMap_slots_of_report
    (h : (initial o flags world stream).follow c ws o events = some s)
    (hduty : s.duty = .finished report) :
    s.slots.filterMap id
      = report.beside ((initial o flags world stream).deaths c ws o events) := by
  let dead := (initial o flags world stream).deaths c ws o events
  have hlength : s.slots.length = report.workers.length := by
    have hplaced := placed_of_follow h
    have hfits := hplaced.duty
    rw [hduty] at hfits
    have hworkers := congrArg List.length hfits.1
    rw [List.length_map, List.length_map] at hworkers
    rw [hplaced.length_slots, hworkers]
  have hslots : s.slots = report.workers.zipIdx.map fun entry =>
      if entry.2 ∈ dead then none else some entry.1 := by
    apply List.ext_getElem?
    intro slot
    rw [List.getElem?_map, List.getElem?_zipIdx, Nat.zero_add]
    cases hr : report.workers[slot]? with
    | none =>
      rw [List.getElem?_eq_none_iff] at hr
      exact List.getElem?_eq_none_iff.2 (hlength ▸ hr)
    | some r =>
      rcases slot_of_report h hduty hr with ⟨halive, hslot⟩ | ⟨hdead, hslot, -⟩
      · simp [hslot, dead, halive]
      · simp [hslot, dead, hdead]
  rw [hslots, List.filterMap_map, FleetReport.beside, ← List.filterMap_eq_map,
    List.filterMap_filter]
  refine List.filterMap_congr fun entry _ => ?_
  by_cases hdead : entry.2 ∈ dead <;> simp [dead, hdead]

/-- What was sent when the report is written: the results of the workers in some order, without
those of the dead, and then the leader's. -/
theorem exists_sent_of_report (hstay : .move .dropReceiver ∉ events)
    (h : (initial o flags world (some {})).follow c ws o events = some s)
    (hduty : s.duty = .finished report) :
    ∃ queue workers, s.stream = some ⟨queue, s.received, true⟩ ∧
      s.received ++ queue = workers ++ report.leader.toList ∧
      workers.Perm (report.beside ((initial o flags world (some {})).deaths c ws o events)) ∧
      (o.plan.concurrency ≤ 1 →
        workers = report.beside ((initial o flags world (some {})).deaths c ws o events)) := by
  have hdelivered := delivered_of_follow hstay h
  obtain ⟨queue, received, hstream⟩ := hdelivered.stays
  obtain ⟨workers, hemitted, hperm, hsame⟩ := hdelivered.emitted
  have hreceived : s.received = received := by rw [FleetRun.received, hstream]
  have hleader := ((collected_of_follow h).written report hduty).2
  rw [filterMap_slots_of_report h hduty] at hperm hsame
  simp only [sent, hstream, hduty, Duty.outgoing, List.append_nil, ← hleader] at hemitted
  exact ⟨queue, workers, hreceived ▸ hstream, hreceived ▸ hemitted, hperm, hsame⟩

/-- The report has one result for each worker, about that worker. -/
theorem workersFit_of_report {stream : Option ResultStream}
    (h : (initial o flags world stream).follow c ws o events = some s)
    (hduty : s.duty = .finished report) : o.WorkersFit report.workers := by
  have hfits := (placed_of_follow h).duty
  rw [hduty] at hfits
  exact hfits.1

/-- A worker whose task died has a failed connection to its own address in the report. -/
theorem aborted_of_mem_deaths {stream : Option ResultStream}
    (h : (initial o flags world stream).follow c ws o events = some s)
    (hduty : s.duty = .finished report) {slot : Nat}
    (hdead : slot ∈ (initial o flags world stream).deaths c ws o events) :
    ∃ target r, o.targets.workers[slot]? = some target ∧ report.workers[slot]? = some r ∧
      r.subject = (o.workerErrand target).subject ∧ r.status = .failed ∧
      r.error = some (.connection target.address "worker task aborted") := by
  have hlt := lt_length_of_mem_deaths h hdead
  have hfit := congrArg (·[slot]?) (workersFit_of_report h hduty)
  simp only [List.getElem?_map, List.getElem?_eq_getElem hlt, Option.map_some] at hfit
  obtain ⟨r, hr, hsubject⟩ := Option.map_eq_some_iff.1 hfit
  refine ⟨_, r, List.getElem?_eq_getElem hlt, hr, hsubject, ?_⟩
  rcases slot_of_report h hduty hr with ⟨halive, -⟩ | ⟨-, -, target, now, rfl⟩
  · exact absurd hdead halive
  · have haddress : target.address = o.targets.workers[slot].address :=
      congrArg (fun subject => subject.2.2.1) hsubject
    rw [← haddress]
    exact ⟨rfl, rfl⟩

/-- At the end of the stream the receiver heard of all workers exactly if no task died. -/
theorem hearsOfAll_iff (hstay : .move .dropReceiver ∉ events)
    (h : (initial o flags world (some {})).follow c ws o events = some s)
    (hduty : s.duty = .finished report) (hclosed : s.IsClosed) :
    s.HearsOfAll o ((initial o flags world (some {})).deaths c ws o events) report.leader ↔
      (initial o flags world (some {})).deaths c ws o events = [] := by
  obtain ⟨queue, workers, hstream, hsent, hperm, -⟩ := exists_sent_of_report hstay h hduty
  have hempty : queue = [] := by
    have hend := hclosed.2.symm.trans hstream
    cases hend
    rfl
  rw [hempty, List.append_nil] at hsent
  have hfit := workersFit_of_report h hduty
  constructor
  · rintro ⟨heard, hheard, hall, -⟩
    obtain rfl := List.append_cancel_right (hsent.symm.trans hheard)
    refine List.eq_nil_iff_forall_not_mem.2 fun slot hdead => ?_
    have hworkers := congrArg List.length hfit
    have hcount := hall.length_eq
    have hfewer : slot < report.workers.length →
        (report.beside _).length < report.workers.length := FleetReport.length_beside_lt hdead
    have hlt := lt_length_of_mem_deaths h hdead
    have hlength := hperm.length_eq
    simp only [List.length_map] at hworkers hcount
    omega
  · intro hnone
    rw [hnone, FleetReport.beside_nil] at hperm
    refine ⟨workers, hsent, ?_, by simp [hnone]⟩
    rw [← hfit]
    exact hperm.map _

end Report

end FleetRun

/-- What a receiver gets that stays, whoever dies.  In the report a worker whose task died has a
failed connection.  Of the results in the report, the receiver gets those of the other workers, and
then the leader's; with one worker at a time they come in roster order.  So it hears of all workers
exactly if no task dies.  What a dispatcher streams is such a run. -/
theorem Dispatcher.stream_omits_dead (d : Dispatcher Net Session Desk File) {roster : HostRoster}
    {plan : FleetPlan} (hplan : plan.validate roster = .ok ()) (token : CancelToken)
    (flags : CancelFlags) (world : World Net Desk) :
    ∃ o, d.orders roster plan token = .ok o ∧
      o.targets.workers = roster.select plan.selection d.credentials ∧
      d.Streams roster plan o flags world ∧
      ∀ events s dead, .move .dropReceiver ∉ events →
        (FleetRun.initial o flags world (some {})).follow d.connector d.workstation o events
          = some s →
        (FleetRun.initial o flags world (some {})).deaths d.connector d.workstation o events
          = dead →
        ∀ report, s.report? = some report →
          (∀ slot ∈ dead, ∃ target r, o.targets.workers[slot]? = some target ∧
            report.workers[slot]? = some r ∧ r.subject = (o.workerErrand target).subject ∧
            r.status = .failed ∧
            r.error = some (.connection target.address "worker task aborted")) ∧
          (∃ queue workers, s.stream = some ⟨queue, s.received, true⟩ ∧
            s.received ++ queue = workers ++ report.leader.toList ∧
            workers.Perm (report.beside dead) ∧
            (plan.concurrency = 1 → workers = report.beside dead)) ∧
          (s.IsClosed → (s.HearsOfAll o dead report.leader ↔ dead = [])) := by
  obtain ⟨targets, hresolve, hworkers, _⟩ :=
    FleetPlan.exists_resolve_of_validate hplan d.credentials
  have horders : d.orders roster plan token = .ok ⟨plan, targets, d.echo, token⟩ := by
    rw [orders, hresolve]
    rfl
  refine ⟨⟨plan, targets, d.echo, token⟩, horders, hworkers,
    d.streams_of_orders flags world horders, ?_⟩
  rintro events s dead hstay hfollow rfl report hreport
  have hduty := FleetRun.finished_of_report hreport
  refine ⟨fun slot hdead => FleetRun.aborted_of_mem_deaths hfollow hduty hdead, ?_,
    FleetRun.hearsOfAll_iff hstay hfollow hduty⟩
  obtain ⟨queue, workers, hstream, hsent, hperm, hsame⟩ :=
    FleetRun.exists_sent_of_report hstay hfollow hduty
  exact ⟨queue, workers, hstream, hsent, hperm, fun hone => hsame (Nat.le_of_eq hone)⟩

/-! ### A host that kills its task -/

/-- The three hosts, of which the second takes the task with it when it is connected to. -/
def mortalDispatcher : Dispatcher MockRecord MockSession LocalDesk FileStore.OpenFile :=
  { trioDispatcher with
    connector := (MockScript.connector {}).withFaults [("b", { connect := some .dies })] }

/-- The second worker dies while the first goes on.  All that is sent is received. -/
def mortalMoves : List FleetMove :=
  [.coordinate, .coordinate, .coordinate, .advance 1, .advance 1, .coordinate, .coordinate,
    .advance 0, .advance 0, .advance 0, .advance 0, .advance 0, .advance 0, .advance 0,
    .advance 2, .advance 2, .advance 2, .advance 2, .advance 2, .advance 2, .advance 2,
    .coordinate, .coordinate, .coordinate, .coordinate, .coordinate,
    .coordinate, .coordinate, .coordinate, .coordinate, .coordinate, .coordinate, .coordinate,
    .coordinate, .coordinate, .receive, .receive, .receive]

theorem orders_mortal : mortalDispatcher.orders trioRoster trioPlan ⟨1, [0]⟩ = .ok trioStreamed :=
  eq_ok_of_toOption (by decide +kernel)

theorem deaths_mortal :
    (FleetRun.initial trioStreamed ⟨2, []⟩ ⟨{}, {}⟩ (some {})).deaths mortalDispatcher.connector
      mortalDispatcher.workstation trioStreamed (mortalMoves.map .move) = [1] := by rfl

/-- The run comes to its end, and the receiver has the results of the first and the third worker and
the leader's, which is on the third host. -/
theorem exists_mortal_run :
    ∃ s report, (FleetRun.initial trioStreamed ⟨2, []⟩ ⟨{}, {}⟩ (some {})).follow
        mortalDispatcher.connector mortalDispatcher.workstation trioStreamed
          (mortalMoves.map .move) = some s ∧
      s.IsClosed ∧ s.report? = some report ∧
      report.workers.map (fun r => (r.index, r.status))
        = [(1, .succeeded), (2, .failed), (3, .succeeded)] ∧
      s.received.map (·.index) = [1, 3, 3] := by
  have hrun : ((FleetRun.initial trioStreamed ⟨2, []⟩ ⟨{}, {}⟩ (some {})).follow
      mortalDispatcher.connector mortalDispatcher.workstation trioStreamed
        (mortalMoves.map .move)).map
          (fun s => (s.report?.map fun report => report.workers.map fun r => (r.index, r.status),
            s.stream.map fun stream => (stream.queue, stream.isOpen), s.received.map (·.index)))
        = some (some [(1, .succeeded), (2, .failed), (3, .succeeded)], some ([], true),
            [1, 3, 3]) := by rfl
  obtain ⟨s, hs, hend⟩ := Option.map_eq_some_iff.1 hrun
  obtain ⟨hwritten, hend⟩ := Prod.mk.inj hend
  obtain ⟨hstream, hreceived⟩ := Prod.mk.inj hend
  obtain ⟨report, hreport, hworkers⟩ := Option.map_eq_some_iff.1 hwritten
  obtain ⟨⟨queue, received, isOpen⟩, hstream, hends⟩ := Option.map_eq_some_iff.1 hstream
  obtain ⟨rfl, rfl⟩ := Prod.mk.inj hends
  refine ⟨s, report, hs, ⟨?_, ?_⟩, hreport, hworkers, hreceived⟩
  · rw [FleetRun.finished_of_report hreport]
    rfl
  · rw [hstream, FleetRun.received, hstream]

/-- The second of three workers dies.  It has a failed connection in the report, and the receiver
gets the results of the other two and the leader's. -/
theorem Dispatcher.stream_omits_dead_trio :
    trioPlan.validate trioRoster = .ok () ∧
    ∃ s report, (FleetRun.initial trioStreamed ⟨2, []⟩ ⟨{}, {}⟩ (some {})).follow
        mortalDispatcher.connector mortalDispatcher.workstation trioStreamed
          (mortalMoves.map .move) = some s ∧
      s.IsClosed ∧ s.report? = some report ∧
      (∃ r, report.workers[1]? = some r ∧
        r.error = some (.connection "b" "worker task aborted")) ∧
      (∃ queue workers, s.received ++ queue = workers ++ report.leader.toList ∧
        workers.Perm (report.beside [1])) ∧
      ¬s.HearsOfAll trioStreamed [1] report.leader := by
  obtain ⟨o, horders, -, -, hall⟩ := mortalDispatcher.stream_omits_dead validate_trio ⟨1, [0]⟩
    ⟨2, []⟩ ⟨{}, {}⟩
  rw [orders_mortal] at horders
  cases horders
  obtain ⟨s, report, hs, hclosed, hreport, _⟩ := exists_mortal_run
  have hstay : .move .dropReceiver ∉ mortalMoves.map FleetEvent.move := by simp [mortalMoves]
  obtain ⟨hdead, ⟨queue, workers, _, hsent, hperm, _⟩, hheard⟩ :=
    hall _ s [1] hstay hs deaths_mortal report hreport
  obtain ⟨target, r, htarget, hr, _, _, herror⟩ := hdead 1 (by simp)
  have haddress : target.address = "b" :=
    congrArg RemoteTarget.address (Option.some.inj htarget.symm)
  refine ⟨validate_trio, s, report, hs, hclosed, hreport, ⟨r, hr, haddress ▸ herror⟩,
    ⟨queue, workers, hsent, hperm⟩, fun hears => ?_⟩
  cases (hheard hclosed).1 hears

/-- The receiver of that run stays to its end and gets nothing about the second worker, whose task
died. -/
theorem Dispatcher.dead_worker_unreported :
    trioPlan.validate trioRoster = .ok () ∧
    mortalDispatcher.orders trioRoster trioPlan ⟨1, [0]⟩ = .ok trioStreamed ∧
    .move .dropReceiver ∉ mortalMoves.map FleetEvent.move ∧
    (FleetRun.initial trioStreamed ⟨2, []⟩ ⟨{}, {}⟩ (some {})).deaths mortalDispatcher.connector
      mortalDispatcher.workstation trioStreamed (mortalMoves.map .move) = [1] ∧
    ∃ s report, (FleetRun.initial trioStreamed ⟨2, []⟩ ⟨{}, {}⟩ (some {})).follow
        mortalDispatcher.connector mortalDispatcher.workstation trioStreamed
          (mortalMoves.map .move) = some s ∧
      s.IsClosed ∧ s.report? = some report ∧
      report.workers.map (fun r => (r.index, r.status))
        = [(1, .succeeded), (2, .failed), (3, .succeeded)] ∧
      s.received.map (·.index) = [1, 3, 3] ∧ ¬s.HearsOfAll trioStreamed [1] report.leader := by
  obtain ⟨s, report, hs, hclosed, hreport, hworkers, hreceived⟩ := exists_mortal_run
  refine ⟨validate_trio, orders_mortal, by simp [mortalMoves], deaths_mortal, s, report, hs,
    hclosed, hreport, hworkers, hreceived, ?_⟩
  rintro ⟨workers, hheard, hall, -⟩
  have hselected : (Phase.worker, 2, "b", "prep") ∈
      trioStreamed.targets.workers.map (fun target => (trioStreamed.workerErrand target).subject)
        := by
    decide +kernel
  obtain ⟨r, hr, hsubject⟩ := List.mem_map.1 (hall.mem_iff.2 hselected)
  have hindex : (2 : UInt32) ∈ s.received.map (·.index) := by
    have hmem : r ∈ s.received := by
      rw [hheard]
      exact List.mem_append_left _ hr
    exact List.mem_map.2 ⟨r, hmem, congrArg (fun subject => subject.2.1) hsubject⟩
  simp [hreceived] at hindex

end RemoteFleet
