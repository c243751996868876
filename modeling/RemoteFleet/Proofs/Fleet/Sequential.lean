import RemoteFleet.Proofs.Execution.Alone
import RemoteFleet.Proofs.Fleet.Cancellation

/-!
# A run gives what its errands give one at a time

Workers take turns in an order that nobody chooses, and they share hosts, a console and a log.  It
makes no difference to the report, times aside.  `Replays` is the invariant: every task has come as
far as its errand would have come alone (`Tracks`), every result is that of an errand that was taken
alone, and as long as the workers are not all done the files are those of the beginning, for workers
have no capture files.  So the leader finds the files as if there had been no workers.

`FleetPlan.sequential` is what the report is compared with: a plain map over the targets, and then
the leader.
-/

namespace RemoteFleet

/-- The results of a plan whose errands are taken one at a time, each as if there were no other:
those of the workers, and that of the leader. -/
def FleetPlan.sequential {Net Session Desk File : Type} (plan : FleetPlan)
    (c : Connector Net Session) (ws : Workstation Desk File) (targets : ResolvedPlan) (echo : Bool)
    (w : World Net Desk) : List (Option RunResult) × Option RunResult :=
  let workers := targets.workers.map fun target =>
    Errand.alone c ws ⟨.worker, target, plan.job, echo⟩ w
  (workers, targets.leader.bind fun (target, job) =>
    if plan.strictWorkers && workers.any (fun r => !r.any (·.succeeded)) then
      some (.cancelled .leader target job.name .epoch)
    else Errand.alone c ws ⟨.leader, target, job, echo⟩ w)

namespace FleetRun

section Replay

variable {Desk File View : Type} (m : MockScript) (ws : Workstation Desk File)
  (files : Desk → View) (o : FleetOrders) (w₀ : World MockRecord Desk)

/-- An errand has come as far as it would have come alone, and the files it needs are as they would
be. -/
def Tracks (e : Errand) (stage : Stage MockSession File) (desk : Desk) : Prop :=
  ∃ j, Stage.Alike e stage (Stage.after m.connector ws e j (.waiting, w₀)).1 ∧
    e.SameFiles files desk (Stage.after m.connector ws e j (.waiting, w₀)).2.desk

/-- The result of a worker is that of its errand, taken alone. -/
def WorkerAlone (slot : Nat) (r : RunResult) : Prop :=
  ∃ target, o.targets.workers[slot]? = some target ∧
    (o.workerErrand target).alone m.connector ws w₀ = some r.untimed

/-- The result of the leader if its errand is taken alone, unless it is skipped. -/
def leaderAlone (workers : List RunResult) : Option RunResult :=
  o.targets.leader.bind fun (target, job) =>
    if o.plan.strictWorkers && workers.any (!·.succeeded) then
      some (.cancelled .leader target job.name .epoch)
    else (o.leaderErrand target job).alone m.connector ws w₀

/-- What is known of the leader because of what the coordinator does next. -/
def DutyReplays (s : FleetRun MockRecord MockSession Desk File) : Duty MockSession File → Prop
  | .announce | .manage | .sendWorker _ | .crashed => True
  | .lead errand stage => Tracks m ws files w₀ errand stage s.world.desk ∧
      (o.plan.strictWorkers && s.workers.any (!·.succeeded)) = false
  | .sendLeader _ | .report | .finished _ =>
      s.leader.map (·.untimed) = leaderAlone m ws o w₀ s.workers

/-- Everything is as it would be if the errands were taken alone. -/
structure Replays (s : FleetRun MockRecord MockSession Desk File) : Prop where
  files_eq : s.duty.inWorkerPhase = true → files s.world.desk = files w₀.desk
  tasks : ∀ task ∈ s.tasks, Tracks m ws files w₀ task.errand task.stage s.world.desk
  ended : ∀ slot r, (slot, some r) ∈ s.ended → WorkerAlone m ws o w₀ slot r
  slots : ∀ slot r, s.slots[slot]? = some (some r) → WorkerAlone m ws o w₀ slot r
  duty : DutyReplays m ws files o w₀ s s.duty

variable {m ws files o w₀} {s t : FleetRun MockRecord MockSession Desk File} {e : Errand}
  {stage stage' : Stage MockSession File} {desk desk' : Desk} {w w' : World MockRecord Desk}

/-! ## One errand among others -/

theorem tracks_waiting (h : files w₀.desk = files desk) : Tracks m ws files w₀ e .waiting desk :=
  ⟨0, .waiting, fun _ => h⟩

theorem Tracks.advance (hfiles : ws.FilesStandApart files) (h : Tracks m ws files w₀ e stage w.desk)
    (hadvance : stage.advance m.connector ws e w = (stage', w')) :
    Tracks m ws files w₀ e stage' w'.desk := by
  obtain ⟨j, halike, hdesks⟩ := h
  have hnext := halike.advance hfiles (.refl m e.target.address) hdesks
  rw [hadvance] at hnext
  exact ⟨j + 1, hnext.1, hnext.2⟩

/-- An errand without a capture file does not care what others do to the desk. -/
theorem Tracks.of_off (hoff : e.job.capture = .off) (h : Tracks m ws files w₀ e stage desk)
    (desk' : Desk) : Tracks m ws files w₀ e stage desk' := by
  obtain ⟨j, halike, _⟩ := h
  exact ⟨j, halike, fun hcaptures => absurd hoff hcaptures⟩

/-- The result of an errand that is over is the one it has when it is taken alone. -/
theorem Tracks.alone (h : Tracks m ws files w₀ e stage desk) (hover : stage.isOver = true) :
    e.alone m.connector ws w₀ = stage.result?.map (·.untimed) := by
  obtain ⟨j, halike, _⟩ := h
  exact Errand.alone_eq_of_alike halike hover

/-- A worker's step leaves the files alone. -/
theorem Tracks.files_advance (hfiles : ws.FilesStandApart files) (hoff : e.job.capture = .off)
    (h : Tracks m ws files w₀ e stage w.desk)
    (hadvance : stage.advance m.connector ws e w = (stage', w')) :
    files w'.desk = files w.desk := by
  obtain ⟨j, halike, _⟩ := h
  have hkept := Stage.files_advance (c := m.connector) (w := w) hfiles hoff
    (halike.capture?_eq_none hoff)
  rw [hadvance] at hkept
  exact hkept

/-! ## A step at a time -/

theorem files_of_notes (hfiles : ws.FilesStandApart files) (h : ws.Notes desk desk') :
    files desk' = files desk := by
  obtain rfl | ⟨event, rfl⟩ := h
  · rfl
  · exact hfiles.note event desk

theorem dutyReplays_of_inWorkerPhase (h : s.duty.inWorkerPhase = true) :
    DutyReplays m ws files o w₀ s s.duty := by
  cases hduty : s.duty with
  | announce => trivial
  | manage => trivial
  | sendWorker result => trivial
  | _ =>
    rw [hduty] at h
    cases h

theorem replays_initial (o : FleetOrders) (flags : CancelFlags) (stream : Option ResultStream) :
    Replays m ws files o w₀ (initial o flags w₀ stream) where
  files_eq _ := rfl
  tasks task h := by cases h
  ended slot r h := by cases h
  slots slot r h := by
    have hmem := List.mem_of_getElem? h
    cases List.eq_of_mem_replicate hmem
  duty := trivial

theorem Replays.slots_set (h : Replays m ws files o w₀ s) {slot : Nat} {r : RunResult}
    (hr : WorkerAlone m ws o w₀ slot r) :
    ∀ k r', (s.slots.set slot (some r))[k]? = some (some r') → WorkerAlone m ws o w₀ k r' := by
  intro k r' hk
  rw [List.getElem?_set] at hk
  split at hk
  · next heq =>
    split at hk
    · cases hk
      exact heq ▸ hr
    · cases hk
  · exact h.slots k r' hk

/-- What a task does, the others do not notice. -/
theorem Replays.tasks_of_mem (h : Replays m ws files o w₀ s) (hplaced : Placed m.connector o s)
    (hoff : o.plan.job.capture = .off) (desk : Desk) :
    ∀ task ∈ s.tasks, task.errand.job.capture = .off ∧
      Tracks m ws files w₀ task.errand task.stage desk := by
  intro task hmem
  obtain ⟨_, target, _, herrand⟩ := hplaced.tasks task hmem
  have hplain : task.errand.job.capture = .off := by
    rw [herrand]
    exact hoff
  exact ⟨hplain, (h.tasks task hmem).of_off hplain desk⟩

/-- Whatever happens in a run that is not cancelled, it is as if the errands were taken alone. -/
theorem Replays.change (h : Replays m ws files o w₀ s) (hfiles : ws.FilesStandApart files)
    (hoff : o.plan.job.capture = .off) (hlive : s.isCancelled o = false)
    (hplaced : Placed m.connector o s) (hstaffed : Staffed o s) {mv : FleetMove}
    (hc : Change m.connector ws o s mv t) : Replays m ws files o w₀ t := by
  cases hc with
  | announced now desk hduty hnotes =>
    have hsame : files desk = files w₀.desk :=
      (files_of_notes hfiles hnotes).trans (h.files_eq (by rw [hduty]; rfl))
    exact { h with
      files_eq := fun _ => hsame
      tasks := fun task hmem => (h.tasks_of_mem hplaced hoff desk task hmem).2
      duty := trivial }
  | buried slot ended desk hduty hended hnotes =>
    have hsame : files desk = files w₀.desk :=
      (files_of_notes hfiles hnotes).trans (h.files_eq (by rw [hduty]; rfl))
    exact { h with
      files_eq := fun _ => hsame
      tasks := fun task hmem => (h.tasks_of_mem hplaced hoff desk task hmem).2
      ended := fun k r hmem => h.ended k r (hended ▸ List.mem_cons_of_mem _ hmem)
      duty := hduty ▸ trivial }
  | joined slot result ended hduty hended =>
    exact { h with
      files_eq := fun _ => h.files_eq (by rw [hduty]; rfl)
      ended := fun k r hmem => h.ended k r (hended ▸ List.mem_cons_of_mem _ hmem)
      slots := h.slots_set (h.ended slot result (hended ▸ List.mem_cons_self))
      duty := trivial }
  | withheld slot target waiting now hduty hwaiting hcancelled hroom =>
    rw [hlive] at hcancelled
    cases hcancelled
  | started slot target waiting hduty hwaiting hlive' hroom =>
    have hsame := h.files_eq (by rw [hduty]; rfl)
    refine { h with files_eq := fun _ => hsame, tasks := ?_, duty := hduty ▸ trivial }
    intro task hmem
    rcases List.mem_append.1 hmem with hold | hnew
    · exact h.tasks task hold
    · cases List.mem_singleton.1 hnew
      exact tracks_waiting hsame.symm
  | workersDone hduty hwaiting htasks hended hleader =>
    have hnone : s.leader = none := hplaced.noLeader hleader
    refine { h with files_eq := fun hphase => (by cases hphase), duty := ?_ }
    simp only [DutyReplays, hnone, leaderAlone, hleader, Option.map_none, Option.bind_none]
  | leaderWithheld target job now desk hduty hwaiting htasks hended hleader hwhy hnotes =>
    have hskips := hwhy.resolve_left (by rw [hlive]; exact Bool.false_ne_true)
    refine { h with
      files_eq := fun hphase => (by cases hphase)
      tasks := fun task hmem => (h.tasks_of_mem hplaced hoff desk task hmem).2
      duty := ?_ }
    simp only [DutyReplays, leaderAlone, hleader, Option.bind_some, hskips.1, hskips.2,
      Bool.and_self, if_true]
    rfl
  | leaderStarted target job hduty hwaiting htasks hended hleader hlive' hstrict =>
    exact { h with
      files_eq := fun hphase => (by cases hphase)
      duty := ⟨tracks_waiting (h.files_eq (by rw [hduty]; rfl)).symm, hstrict⟩ }
  | sentWorker result desk flags stream hduty hsend =>
    have hsame : files desk = files w₀.desk :=
      (files_of_notes hfiles (notes_of_send hsend)).trans (h.files_eq (by rw [hduty]; rfl))
    exact { h with
      files_eq := fun _ => hsame
      tasks := fun task hmem => (h.tasks_of_mem hplaced hoff desk task hmem).2
      duty := trivial }
  | sentLeader result desk flags stream hduty hsend =>
    have hreplays := h.duty
    rw [hduty] at hreplays
    exact { h with
      files_eq := fun hphase => (by cases hphase)
      tasks := fun task hmem => (h.tasks_of_mem hplaced hoff desk task hmem).2
      duty := hreplays }
  | led errand stage stage' world hduty hadvance hgoes =>
    have hreplays := h.duty
    rw [hduty] at hreplays
    exact { h with
      files_eq := fun hphase => (by cases hphase)
      tasks := fun task hmem => (h.tasks_of_mem hplaced hoff world.desk task hmem).2
      duty := ⟨hreplays.1.advance hfiles hadvance, hreplays.2⟩ }
  | leaderDone errand stage result world hduty hadvance =>
    have hreplays := h.duty
    have hlead := hplaced.duty
    rw [hduty] at hreplays hlead
    obtain ⟨htracks, hstrict⟩ := hreplays
    obtain ⟨_, _, target, job, hleader, rfl⟩ := hlead
    refine { h with
      files_eq := fun hphase => (by cases hphase)
      tasks := fun task hmem => (h.tasks_of_mem hplaced hoff world.desk task hmem).2
      duty := ?_ }
    simp only [DutyReplays, leaderAlone, hleader, Option.bind_some, hstrict]
    exact ((htracks.advance hfiles hadvance).alone rfl).symm
  | leaderDied errand stage world hduty hadvance =>
    exact { h with
      files_eq := fun hphase => (by cases hphase)
      tasks := fun task hmem => (h.tasks_of_mem hplaced hoff world.desk task hmem).2
      duty := trivial }
  | reported report desk hduty hworkers hleader hstart =>
    have hreplays := h.duty
    rw [hduty] at hreplays
    exact { h with
      files_eq := fun hphase => (by cases hphase)
      tasks := fun task hmem => (h.tasks_of_mem hplaced hoff desk task hmem).2
      duty := hreplays }
  | advanced before after task stage world htasks hadvance hgoes =>
    have hphase := hstaffed.inWorkerPhase_of_cut htasks
    have hothers := h.tasks_of_mem hplaced hoff world.desk
    have hmem : task ∈ s.tasks := by simp [htasks]
    obtain ⟨hplain, _⟩ := hothers task hmem
    have htracks := h.tasks task hmem
    refine { h with
      files_eq := fun _ => (htracks.files_advance hfiles hplain hadvance).trans (h.files_eq hphase)
      tasks := ?_
      duty := dutyReplays_of_inWorkerPhase hphase }
    intro task' hmem'
    rw [htasks] at hothers
    rcases List.mem_append.1 hmem' with hbefore | hrest
    · exact (hothers task' (List.mem_append_left _ hbefore)).2
    · rcases List.mem_cons.1 hrest with rfl | hafter
      · exact htracks.advance hfiles hadvance
      · exact (hothers task' (List.mem_append_right _ (List.mem_cons_of_mem _ hafter))).2
  | ended before after task stage world htasks hadvance hover =>
    have hphase := hstaffed.inWorkerPhase_of_cut htasks
    have hothers := h.tasks_of_mem hplaced hoff world.desk
    have hmem : task ∈ s.tasks := by simp [htasks]
    obtain ⟨hplain, _⟩ := hothers task hmem
    have htracks := h.tasks task hmem
    refine { h with
      files_eq := fun _ => (htracks.files_advance hfiles hplain hadvance).trans (h.files_eq hphase)
      tasks := fun task' hmem' => (hothers task' (mem_tasks_of_cut htasks task' hmem')).2
      ended := ?_
      duty := dutyReplays_of_inWorkerPhase hphase }
    intro k r hmem'
    rcases List.mem_append.1 hmem' with hold | hnew
    · exact h.ended k r hold
    · obtain ⟨rfl, hr⟩ := Prod.mk.inj (List.mem_singleton.1 hnew)
      obtain ⟨_, target, htarget, herrand⟩ := hplaced.tasks task hmem
      refine ⟨target, htarget, ?_⟩
      rw [← herrand, (htracks.advance hfiles hadvance).alone hover, ← hr]
      rfl
  | died before after task net htasks hnet =>
    have hphase := hstaffed.inWorkerPhase_of_cut htasks
    refine { h with
      files_eq := h.files_eq
      tasks := fun task' hmem' => h.tasks task' (mem_tasks_of_cut htasks task' hmem')
      ended := ?_
      duty := dutyReplays_of_inWorkerPhase hphase }
    intro k r hmem'
    rcases List.mem_append.1 hmem' with hold | hnew
    · exact h.ended k r hold
    · cases List.mem_singleton.1 hnew
  | taken result queue received hstream => exact { h with files_eq := h.files_eq }
  | left queue received hstream => exact { h with files_eq := h.files_eq }

/-! ## Along a run -/

theorem replays_of_follow {events : List FleetEvent} {flags : CancelFlags}
    {stream : Option ResultStream} (hfiles : ws.FilesStandApart files)
    (hoff : o.plan.job.capture = .off)
    (h : (initial o flags w₀ stream).follow m.connector ws o events = some s)
    (hlive : s.isCancelled o = false) : Replays m ws files o w₀ s := by
  have heither : s.isCancelled o = true ∨ Replays m ws files o w₀ s := by
    refine follow_induction
      (P := fun _ s => s.isCancelled o = true ∨ Replays m ws files o w₀ s) h
      (.inr (replays_initial o flags stream)) ?_
    intro before u event v _ hfollow hstep hu
    cases event with
    | cancel token =>
      cases hstep
      exact hu.imp (isCancelled_cancel token) fun hu => ⟨hu.1, hu.2, hu.3, hu.4, hu.5⟩
    | move mv =>
      have hchange := change_of_move hstep
      cases hlive : u.isCancelled o with
      | true => exact .inl (isCancelled_change hchange hlive)
      | false =>
        have hreplays := hu.resolve_left (by rw [hlive]; exact Bool.false_ne_true)
        exact .inr (hreplays.change hfiles hoff hlive (placed_of_follow hfollow)
          (staffed_of_follow hfollow) hchange)
  exact heither.resolve_left (by rw [hlive]; exact Bool.false_ne_true)

/-- The workers' results, one by one. -/
theorem Replays.workers_of_report (h : Replays m ws files o w₀ s) (hplaced : Placed m.connector o s)
    (hgathered : Gathered s) {report : FleetReport} (hreport : s.report? = some report) :
    (report.workers.map fun r => some r.untimed)
      = o.targets.workers.map fun target => (o.workerErrand target).alone m.connector ws w₀ := by
  obtain ⟨hslots, _⟩ := hgathered.slots_of_report hreport
  have hlength := hplaced.length_slots
  rw [hslots, List.length_map] at hlength
  apply List.ext_getElem?
  intro k
  rw [List.getElem?_map, List.getElem?_map]
  cases hr : report.workers[k]? with
  | none =>
    have hnone : o.targets.workers[k]? = none := by
      rw [List.getElem?_eq_none_iff] at hr ⊢
      exact hlength ▸ hr
    rw [hnone]
    rfl
  | some r =>
    obtain ⟨target, htarget, halone⟩ := h.slots k r (by rw [hslots, List.getElem?_map, hr]; rfl)
    rw [htarget, Option.map_some, Option.map_some, halone]

/-- The leader's result, given those of the workers. -/
theorem Replays.leader_of_report (h : Replays m ws files o w₀ s) (hgathered : Gathered s)
    {report : FleetReport} (hreport : s.report? = some report) :
    report.leader.map (·.untimed) = leaderAlone m ws o w₀ report.workers := by
  have hduty := finished_of_report hreport
  obtain ⟨hworkers, hleader⟩ := hgathered.written report hduty
  have hreplays := h.duty
  rw [hduty] at hreplays
  rw [hworkers, hleader]
  exact hreplays

end Replay

end FleetRun

/-! ## The report -/

/-- What a report over scripted hosts says, when nothing is cancelled and no task dies.  Whatever
the number of workers at once and whatever the order in which they end, it has the results, times
aside, that come of taking the errands one at a time; and every run can be brought to its report.

The result of a worker is that of its errand alone, in any world, and under any script that has the
same for its host.  So is that of the leader, in a world with the same files if it captures to one,
unless it is skipped because a worker did not succeed. -/
theorem Dispatcher.report_eq_sequential {Desk File View : Type} (m : MockScript)
    (d : Dispatcher MockRecord MockSession Desk File) (hscript : d.connector = m.connector)
    (files : Desk → View) (hfiles : d.workstation.FilesStandApart files) {roster : HostRoster}
    {plan : FleetPlan} (hplan : plan.validate roster = .ok ()) (world : World MockRecord Desk) :
    ∃ targets, plan.resolve roster d.credentials = .ok targets ∧
      ∀ n, 1 ≤ n → ∀ token flags stream,
      ∃ o, d.orders roster { plan with concurrency := n } token = .ok o ∧ ∀ events s,
        (FleetRun.initial o flags world stream).LosesNone d.connector d.workstation o events →
        (FleetRun.initial o flags world stream).follow d.connector d.workstation o events
          = some s →
        (∃ (moves : List FleetMove) (t : FleetRun MockRecord MockSession Desk File),
          (∀ mv ∈ moves, mv.isMishap = false) ∧
          s.follow d.connector d.workstation o (moves.map .move) = some t ∧
          t.report?.isSome = true) ∧
        (s.isCancelled o = false → ∀ report, s.report? = some report →
          (report.workers.map fun r => some r.untimed, report.leader.map (·.untimed))
              = plan.sequential d.connector d.workstation targets d.echo world ∧
          ∀ (m' : MockScript) (world' : World MockRecord Desk),
            (∀ (k : Nat) target, targets.workers[k]? = some target → m.AgreesAt m' target.address →
              report.workers[k]?.map (·.untimed)
                = Errand.alone m'.connector d.workstation ⟨.worker, target, plan.job, d.echo⟩
                  world') ∧
            ∀ target job, targets.leader = some (target, job) → m.AgreesAt m' target.address →
              (job.capture ≠ .off → files world'.desk = files world.desk) →
              report.leader.map (·.untimed)
                = if plan.strictWorkers && report.workers.any (!·.succeeded) then
                    some (.cancelled .leader target job.name .epoch)
                  else Errand.alone m'.connector d.workstation ⟨.leader, target, job, d.echo⟩
                    world') := by
  obtain ⟨targets, hresolve, _⟩ := FleetPlan.exists_resolve_of_validate hplan d.credentials
  refine ⟨targets, hresolve, ?_⟩
  intro n hn token flags stream
  obtain ⟨_, hsame⟩ := FleetPlan.resolve_of_concurrency hplan hn d.credentials
  let o : FleetOrders := ⟨{ plan with concurrency := n }, targets, d.echo, token⟩
  refine ⟨o, by rw [orders, hsame, hresolve]; rfl, ?_⟩
  intro events s hnone hfollow
  rw [hscript] at hnone hfollow ⊢
  have hplaced := FleetRun.placed_of_follow hfollow
  have hgathered := FleetRun.gathered_of_follow hnone hfollow
  refine ⟨?_, ?_⟩
  · obtain ⟨moves, t, hmoves, hrest, hover⟩ :=
      FleetRun.exists_follow_isOver m.connector d.workstation o s
    refine ⟨moves, t, hmoves, hrest, ?_⟩
    rcases (FleetRun.placed_of_follow (FleetRun.follow_trans hfollow hrest)).report_or_died hover
      with hreport | ⟨target, job, net, _, hdied⟩
    · exact hreport
    · exact absurd hdied (m.connect_ne_died target net)
  · intro hlive report hreport
    have hoff : o.plan.job.capture = .off := (FleetPlan.checked_of_validate hplan).2.1
    have hreplays := FleetRun.replays_of_follow hfiles hoff hfollow hlive
    have hworkers := hreplays.workers_of_report hplaced hgathered hreport
    have hleader := hreplays.leader_of_report hgathered hreport
    refine ⟨?_, ?_⟩
    · have hany : (targets.workers.map fun target => (o.workerErrand target).alone m.connector
          d.workstation world).any (fun r => !r.any (·.succeeded))
          = report.workers.any (!·.succeeded) := by
        rw [← hworkers, List.any_map]
        rfl
      refine Prod.ext hworkers (hleader.trans ?_)
      rw [FleetRun.leaderAlone, ← hany]
      rfl
    · intro m' world'
      refine ⟨?_, ?_⟩
      · intro k target htarget hagree
        have hk := congrArg (·[k]?) hworkers
        simp only [List.getElem?_map, o, htarget, Option.map_some] at hk
        obtain ⟨r, hr, halone⟩ := Option.map_eq_some_iff.1 hk
        rw [hr, Option.map_some, halone]
        exact (Errand.alone_eq hfiles hagree fun hcaptures => absurd hoff hcaptures).symm
      · intro target job htarget hagree hdesks
        simp only [FleetRun.leaderAlone, o, htarget, Option.bind_some] at hleader
        rw [hleader]
        congr 1
        have hsame : (o.leaderErrand target job).SameFiles files world.desk world'.desk := hdesks
        exact (Errand.alone_eq hfiles hagree hsame).symm

/-- The orders for three hosts, one at a time. -/
def trioSingly : FleetOrders := { trioOrders with plan := { trioPlan with concurrency := 1 } }

/-- One worker after the other, and then the leader. -/
def trioOneByOne : List FleetMove :=
  List.replicate 2 .coordinate ++ List.replicate 7 (.advance 0) ++ List.replicate 3 .coordinate
    ++ List.replicate 7 (.advance 1) ++ List.replicate 3 .coordinate
    ++ List.replicate 7 (.advance 2) ++ List.replicate 12 .coordinate

/-- A run over three hosts that takes them in pairs, and one that takes them one at a time, report
the same but for times. -/
theorem Dispatcher.report_eq_sequential_trio :
    ∃ s report t report',
      (FleetRun.initial trioOrders ⟨1, []⟩ ⟨{}, {}⟩ none).follow trioDispatcher.connector
        trioDispatcher.workstation trioOrders (trioInPairs.map .move) = some s ∧
      s.report? = some report ∧
      (FleetRun.initial trioSingly ⟨1, []⟩ ⟨{}, {}⟩ none).follow trioDispatcher.connector
        trioDispatcher.workstation trioSingly (trioOneByOne.map .move) = some t ∧
      t.report? = some report' ∧
      report'.workers.map (some ·.untimed) = report.workers.map (some ·.untimed) ∧
      report'.leader.map (·.untimed) = report.leader.map (·.untimed) := by
  obtain ⟨targets, _, hall⟩ := Dispatcher.report_eq_sequential {} trioDispatcher rfl LocalDesk.files
    LocalDesk.filesStandApart validate_trio ⟨{}, {}⟩
  obtain ⟨o, horders, hpairs⟩ := hall 2 (by decide) ⟨0, []⟩ ⟨1, []⟩ none
  obtain ⟨o', horders', hsingly⟩ := hall 1 (by decide) ⟨0, []⟩ ⟨1, []⟩ none
  have htwo : trioDispatcher.orders trioRoster { trioPlan with concurrency := 2 } ⟨0, []⟩
      = .ok trioOrders := orders_trio
  have hone : trioDispatcher.orders trioRoster { trioPlan with concurrency := 1 } ⟨0, []⟩
      = .ok trioSingly := eq_ok_of_toOption (by decide +kernel)
  rw [htwo] at horders
  rw [hone] at horders'
  cases horders
  cases horders'
  have hnobody : ∀ (orders : FleetOrders) (moves : List FleetMove),
      (∀ slot, FleetMove.die slot ∉ moves) →
      (FleetRun.initial orders ⟨1, []⟩ ⟨{}, {}⟩ none).LosesNone trioDispatcher.connector
        trioDispatcher.workstation orders (moves.map .move) := by
    intro orders moves halive
    refine FleetRun.losesNone_of_alive (MockScript.connect_ne_died {}) ?_
      (FleetRun.placed_initial orders _ _ _) (fun _ hdead => by cases hdead)
    intro slot hmem
    obtain ⟨mv, hmv, heq⟩ := List.mem_map.1 hmem
    cases heq
    exact halive slot hmv
  have hrun : ((FleetRun.initial trioOrders ⟨1, []⟩ ⟨{}, {}⟩ none).follow trioDispatcher.connector
      trioDispatcher.workstation trioOrders (trioInPairs.map .move)).map
        (fun s => (s.report?.isSome, s.isCancelled trioOrders)) = some (true, false) := by rfl
  have hrun' : ((FleetRun.initial trioSingly ⟨1, []⟩ ⟨{}, {}⟩ none).follow trioDispatcher.connector
      trioDispatcher.workstation trioSingly (trioOneByOne.map .move)).map
        (fun s => (s.report?.isSome, s.isCancelled trioSingly)) = some (true, false) := by rfl
  obtain ⟨s, hs, hend⟩ := Option.map_eq_some_iff.1 hrun
  obtain ⟨t, ht, hend'⟩ := Option.map_eq_some_iff.1 hrun'
  obtain ⟨hwritten, hlive⟩ := Prod.mk.inj hend
  obtain ⟨hwritten', hlive'⟩ := Prod.mk.inj hend'
  obtain ⟨report, hreport⟩ := Option.isSome_iff_exists.1 hwritten
  obtain ⟨report', hreport'⟩ := Option.isSome_iff_exists.1 hwritten'
  have hsame := ((hpairs _ s (hnobody _ _ (by simp [trioInPairs])) hs).2 hlive report hreport).1
  have hsame' :=
    ((hsingly _ t (hnobody _ _ (by simp [trioOneByOne])) ht).2 hlive' report' hreport').1
  obtain ⟨hworkers, hleader⟩ := Prod.mk.inj (hsame'.trans hsame.symm)
  exact ⟨s, report, t, report', hs, hreport, ht, hreport', hworkers, hleader⟩

end RemoteFleet
