import RemoteFleet.Proofs.Execution.Footprint
import RemoteFleet.Proofs.Fleet.Leading
import RemoteFleet.Proofs.Fleet.Refusal
import RemoteFleet.Proofs.Fleet.Sequential

/-!
# Which files a run touches

The only file that a run can make or change is the capture file of its leader.  Workers have none,
and the coordinator writes to no file but with a step of the leader's errand (`files_of_move`).

`Confined` carries this along a run, together with what holds of the leader's errand meanwhile.  As
long as the leader has not called its host, and also if it called and was not let in, everything is
as it was before the run: what an earlier run has captured is lost only to a leader that is
connected.
-/

namespace RemoteFleet

open FileStore (SameBut OpenFile)

/-- Hosts that never let a target in. -/
def Connector.Refuses {Net Session : Type} (c : Connector Net Session) (target : RemoteTarget) :
    Prop :=
  ∀ net session, (c.connect target net).1 ≠ .opened session

/-- The file that the leader captures to, given the files there are. -/
def FleetOrders.captureAt? (o : FleetOrders) (store : FileStore) : Option Place :=
  o.targets.leader.bind fun (_, job) => job.capture.path?.bind store.fileAt?

namespace FleetRun

variable {Net Session : Type} {c : Connector Net Session} {o : FleetOrders} {store : FileStore}
  {s t : FleetRun Net Session LocalDesk OpenFile} {m : FleetMove}

/-! ## One move -/

/-- The files of a run. -/
def files (s : FleetRun Net Session LocalDesk OpenFile) : FileStore := s.world.desk.files

/-- Whether no worker has a capture file. -/
def CapturesNothing (s : FleetRun Net Session LocalDesk OpenFile) : Prop :=
  ∀ task ∈ s.tasks, task.errand.job.capture = .off ∧ task.stage.capture? = none

theorem files_of_task (hnone : s.CapturesNothing) {task : Task Session OpenFile}
    (hmem : task ∈ s.tasks) {stage : Stage Session OpenFile} {world : World Net LocalDesk}
    (hadvance : task.stage.advance c LocalDesk.workstation task.errand s.world = (stage, world)) :
    world.desk.files = s.files ∧ stage.capture? = none := by
  obtain ⟨hoff, hcapture⟩ := hnone task hmem
  have hfiles := Stage.files_advance (c := c) (w := s.world) LocalDesk.filesStandApart hoff hcapture
  rw [hadvance] at hfiles
  have hstill : (stage, world).1.capture? = none :=
    hadvance ▸ Stage.capture?_advance_of_off hoff hcapture
  exact ⟨hfiles, hstill⟩

/-- Writing the report leaves the files alone. -/
theorem files_finish : (s.finish LocalDesk.workstation o).files = s.files := rfl

/-- A move leaves the files alone, unless it is a step of the leader's errand. -/
theorem files_of_move (hnone : s.CapturesNothing)
    (h : s.move c LocalDesk.workstation o m = some t) :
    t.files = s.files ∨ m = .coordinate ∧ ∃ errand stage, s.duty = .lead errand stage ∧
      t.world = (stage.advance c LocalDesk.workstation errand s.world).2 := by
  have hnotes {desk desk' : LocalDesk} (h : LocalDesk.workstation.Notes desk desk') :
      desk'.files = desk.files := files_of_notes LocalDesk.filesStandApart h
  cases change_of_move h with
  | announced now desk hduty hwrites => exact .inl (hnotes hwrites)
  | buried slot ended desk hduty hended hwrites => exact .inl (hnotes hwrites)
  | leaderWithheld target job now desk hduty hwaiting htasks hended hleader hwhy hwrites =>
    exact .inl (hnotes hwrites)
  | sentWorker result desk flags stream hduty hsend =>
    have hwrites := notes_of_send hsend
    exact .inl (hnotes hwrites)
  | sentLeader result desk flags stream hduty hsend =>
    have hwrites := notes_of_send hsend
    exact .inl (hnotes hwrites)
  | led errand stage stage' world hduty hadvance hgoes =>
    exact .inr ⟨rfl, errand, stage, hduty, by rw [hadvance]⟩
  | leaderDone errand stage result world hduty hadvance =>
    exact .inr ⟨rfl, errand, stage, hduty, by rw [hadvance]⟩
  | leaderDied errand stage world hduty hadvance =>
    exact .inr ⟨rfl, errand, stage, hduty, by rw [hadvance]⟩
  | reported report desk hduty hworkers hleader hstart =>
    left
    simp only [move, coordinate, hduty, Option.some.injEq] at h
    rw [← h, files_finish]
  | advanced before after task stage world htasks hadvance hgoes =>
    exact .inl (files_of_task hnone (by simp [htasks]) hadvance).1
  | ended before after task stage world htasks hadvance hover =>
    exact .inl (files_of_task hnone (by simp [htasks]) hadvance).1
  | _ => exact .inl rfl

/-- Workers have no capture file if their job has none. -/
theorem CapturesNothing.change (h : s.CapturesNothing) (hoff : o.plan.job.capture = .off)
    (hc : Change c LocalDesk.workstation o s m t) : t.CapturesNothing := by
  cases hc with
  | started slot target waiting hduty hwaiting hlive hroom =>
    intro task hmem
    rcases List.mem_append.1 hmem with hold | hnew
    · exact h task hold
    · obtain rfl := List.mem_singleton.1 hnew
      exact ⟨hoff, rfl⟩
  | advanced before after task stage world htasks hadvance hgoes =>
    have hmem : task ∈ s.tasks := by simp [htasks]
    intro other hother
    have hcut : other = { task with stage } ∨ other ∈ before ++ after := by
      simpa [or_left_comm] using hother
    rcases hcut with rfl | hothers
    · exact ⟨(h task hmem).1, (files_of_task h hmem hadvance).2⟩
    · exact h other (mem_tasks_of_cut htasks other hothers)
  | ended before after task stage world htasks hadvance hover =>
    exact fun other hother => h other (mem_tasks_of_cut htasks other hother)
  | died before after task net htasks hnet =>
    exact fun other hother => h other (mem_tasks_of_cut htasks other hother)
  | _ => exact h

/-- How the leader came to where its errand is: it took a step, it was just sent out, or something
else happened. -/
theorem lead_of_change (hc : Change c LocalDesk.workstation o s m t) {errand : Errand}
    {stage : Stage Session OpenFile} (hlead : t.duty = .lead errand stage) :
    (∃ before, s.duty = .lead errand before ∧ stage.isOver = false ∧
      before.advance c LocalDesk.workstation errand s.world = (stage, t.world)) ∨
    (s.duty.inWorkerPhase = true ∧ stage = .waiting ∧ t.world = s.world) ∨
    (s.duty = .lead errand stage ∧ m ≠ .coordinate) := by
  cases hc with
  | led errand' before after world hduty hadvance hgoes =>
    cases hlead
    exact .inl ⟨before, hduty, hgoes, hadvance⟩
  | leaderStarted target job hduty hwaiting htasks hended hleader hlive hstrict =>
    cases hlead
    exact .inr (.inl ⟨by rw [hduty]; rfl, rfl, rfl⟩)
  | buried slot ended desk hduty hended => cases hduty.symm.trans hlead
  | started slot target waiting hduty => cases hduty.symm.trans hlead
  | advanced before after task stage' world htasks => exact .inr (.inr ⟨hlead, by simp⟩)
  | ended before after task stage' world htasks => exact .inr (.inr ⟨hlead, by simp⟩)
  | died before after task net htasks => exact .inr (.inr ⟨hlead, by simp⟩)
  | taken result queue received hstream => exact .inr (.inr ⟨hlead, by simp⟩)
  | left queue received hstream => exact .inr (.inr ⟨hlead, by simp⟩)
  | _ => cases hlead

/-! ## Along a run -/

/-- How a run stands to the files that were there when it began. -/
structure Confined (c : Connector Net Session) (o : FleetOrders) (store : FileStore)
    (s : FleetRun Net Session LocalDesk OpenFile) : Prop where
  workers : s.CapturesNothing
  lead : ∀ errand stage, s.duty = .lead errand stage → stage.Confined errand store s.files
  frame : SameBut (o.captureAt? store) store s.files
  uncalled : ¬s.HasCalled .leader → s.files = store
  /-- A leader that is not let in never comes further than its call. -/
  refused : (∀ target job, o.targets.leader = some (target, job) → c.Refuses target) →
    s.files = store ∧ ∀ errand stage, s.duty = .lead errand stage → stage.callee? errand ≠ none

theorem confined_initial (c : Connector Net Session) (o : FleetOrders) (flags : CancelFlags)
    (world : World Net LocalDesk) (stream : Option ResultStream) :
    Confined c o world.desk.files (initial o flags world stream) where
  workers _ hmem := by cases hmem
  lead _ _ hlead := by cases hlead
  frame := SameBut.refl _ _
  uncalled _ := rfl
  refused _ := ⟨rfl, fun _ _ hlead => by cases hlead⟩

/-- A host that lets nobody in is called and nothing comes of it. -/
theorem callee?_ne_none_of_refuses {errand : Errand} {before stage : Stage Session OpenFile}
    {w w' : World Net LocalDesk} (hrefuses : c.Refuses errand.target)
    (hbefore : before.callee? errand ≠ none) (hgoes : stage.isOver = false)
    (hadvance : before.advance c LocalDesk.workstation errand w = (stage, w')) :
    stage.callee? errand ≠ none := by
  cases before with
  | waiting =>
    cases hadvance
    simp [Stage.callee?]
  | connecting start =>
    simp only [Stage.advance, Errand.connect] at hadvance
    split at hadvance
    · next session net hopened =>
      exact absurd (congrArg Prod.fst hopened) (hrefuses w.net session)
    · cases hadvance
      cases hgoes
    · cases hadvance
      cases hgoes
  | _ => exact absurd rfl hbefore

/-- The errand that the leader takes is the one that it was given. -/
theorem Placed.exists_leaderErrand (h : Placed c o s) {errand : Errand}
    {stage : Stage Session OpenFile} (hduty : s.duty = .lead errand stage) :
    ∃ target job, o.targets.leader = some (target, job) ∧ errand = o.leaderErrand target job := by
  have hlead := h.duty
  rw [hduty] at hlead
  exact hlead.2.2

theorem captureAt?_leaderErrand {target : RemoteTarget} {job : CommandJob}
    (h : o.targets.leader = some (target, job)) :
    (o.leaderErrand target job).captureAt? store = o.captureAt? store := by
  rw [FleetOrders.captureAt?, h]
  rfl

/-- Before the leader has called, a move leaves the files alone. -/
theorem files_of_uncalled (hnone : s.CapturesNothing)
    (hcallee : ∀ errand stage, s.duty = .lead errand stage → stage.callee? errand ≠ none)
    (h : s.move c LocalDesk.workstation o m = some t) : t.files = s.files := by
  rcases files_of_move hnone h with hsame | ⟨_, errand, stage, hduty, hworld⟩
  · exact hsame
  · rw [files, hworld]
    exact Stage.files_advance_of_callee LocalDesk.filesStandApart (hcallee errand stage hduty)

/-- What is done to the files is done within these bounds. -/
theorem Confined.move (h : Confined c o store s) (hplaced : Placed c o s)
    (hoff : o.plan.job.capture = .off) (hmove : s.move c LocalDesk.workstation o m = some t) :
    Confined c o store t := by
  have hchange := change_of_move hmove
  have hmoved := files_of_move h.workers hmove
  refine ⟨h.workers.change hoff hchange, ?_, ?_, ?_, ?_⟩
  · intro errand stage hlead
    rcases lead_of_change hchange hlead with ⟨before, hduty, _, hadvance⟩ | ⟨hphase, rfl, hworld⟩ |
      ⟨hduty, hother⟩
    · have hstep := (h.lead errand before hduty).advance (c := c) (w := s.world)
      rw [hadvance] at hstep
      exact hstep
    · have hfiles : t.files = store := by
        rw [files, hworld]
        exact h.uncalled (not_hasCalled_of_inWorkerPhase hphase)
      rw [hfiles]
      exact Stage.Confined.waiting errand store
    · rw [hmoved.resolve_right fun hlead => hother hlead.1]
      exact h.lead errand stage hduty
  · rcases hmoved with hsame | ⟨_, errand, stage, hduty, hworld⟩
    · rw [hsame]
      exact h.frame
    · obtain ⟨target, job, hleader, rfl⟩ := hplaced.exists_leaderErrand hduty
      have hstep := (h.lead _ stage hduty).advance (c := c) (w := s.world)
      rw [files, hworld, ← captureAt?_leaderErrand hleader]
      exact hstep.frame
  · intro huncalled
    have hbefore : ¬s.HasCalled .leader := fun hcalled =>
      huncalled ((hasCalled_leader_change hplaced hchange).2 (.inl hcalled))
    rw [files_of_uncalled h.workers ?_ hmove]
    · exact h.uncalled hbefore
    · intro errand stage hduty hcallee
      refine hbefore ?_
      rw [HasCalled, hduty]
      exact hcallee
  · intro hrefuses
    obtain ⟨hfiles, hcallee⟩ := h.refused hrefuses
    refine ⟨(files_of_uncalled h.workers hcallee hmove).trans hfiles, ?_⟩
    intro errand stage hlead
    rcases lead_of_change hchange hlead with ⟨before, hduty, hgoes, hadvance⟩ | ⟨_, rfl, _⟩ |
      ⟨hduty, _⟩
    · obtain ⟨target, job, hleader, rfl⟩ := hplaced.exists_leaderErrand hduty
      exact callee?_ne_none_of_refuses (hrefuses target job hleader) (hcallee _ before hduty) hgoes
        hadvance
    · simp [Stage.callee?]
    · exact hcallee errand stage hduty

theorem confined_of_follow {flags : CancelFlags} {world : World Net LocalDesk}
    {stream : Option ResultStream} {events : List FleetEvent} (hoff : o.plan.job.capture = .off)
    (h : (initial o flags world stream).follow c LocalDesk.workstation o events = some s) :
    Confined c o world.desk.files s := by
  refine follow_induction (P := fun _ s => Confined c o world.desk.files s) h
    (confined_initial c o flags world stream) ?_
  intro before u event v _ hfollow hstep hu
  cases event with
  | move m => exact hu.move (placed_of_follow hfollow) hoff hstep
  | cancel token =>
    cases hstep
    exact ⟨hu.workers, hu.lead, hu.frame, hu.uncalled, hu.refused⟩

end FleetRun

/-! ## Runs over scripted hosts -/

theorem MockScript.refuses_of_not_accepts {m : MockScript} {target : RemoteTarget}
    (h : m.accepts target.address = false) : m.connector.Refuses target := by
  intro net session hopened
  change (m.connect target net).1 = .opened session at hopened
  rw [accepts] at h
  rw [connect] at hopened
  split at h
  · next reason hbehavior =>
    rw [hbehavior] at hopened
    cases hopened
  · next hbehavior =>
    rw [hbehavior] at hopened
    cases hopened
  · cases h

/-- The file that the leader of a plan captures to, given the files there are. -/
def FleetPlan.captureAt? (plan : FleetPlan) (store : FileStore) : Option Place :=
  plan.leader.bind fun leader => leader.job.capture.path?.bind store.fileAt?

/-- The only file that a run makes or changes is the one that its leader captures to, and it does so
only if the leader's host was called and let it in.

A refused plan leaves the world as it was.  In a run of any other, in each of its states and
whatever happens on the way, the directories are those of the beginning, and so are all files but
the leader's capture file.  That one is as it was, too, while the workers are at work, in the end if
the leader was cancelled or skipped, and always if its host lets nobody in.  A move of a worker
touches no file. -/
theorem Dispatcher.touches_capture_file_only (m : MockScript)
    (d : Dispatcher MockRecord MockSession LocalDesk OpenFile)
    (hscript : d.connector = m.connector) (hdesk : d.workstation = LocalDesk.workstation)
    (roster : HostRoster) (plan : FleetPlan) :
    (∀ e, plan.validate roster = .error e →
      (∀ token o, d.orders roster plan token ≠ .ok o) ∧
      ∀ env flags world, (d.run env roster plan flags world).2.2 = world) ∧
    (plan.validate roster = .ok () → ∀ token, ∃ o, d.orders roster plan token = .ok o ∧
      ∀ flags world stream events s,
        (FleetRun.initial o flags world stream).follow d.connector d.workstation o events = some s →
        SameBut (plan.captureAt? world.desk.files) world.desk.files s.files ∧
        (s.files ≠ world.desk.files → ∃ target job, o.targets.leader = some (target, job) ∧
          .leader ∈ (FleetRun.initial o flags world stream).calls d.connector d.workstation o
            events ∧
          m.accepts target.address = true) ∧
        (∀ report r, s.report? = some report → report.leader = some r → r.status = .cancelled →
          s.files = world.desk.files) ∧
        (s.duty.inWorkerPhase = true → s.files = world.desk.files) ∧
        ∀ mv t, mv ≠ .coordinate → s.move d.connector d.workstation o mv = some t →
          t.files = s.files) := by
  refine ⟨fun e hrefused => ⟨fun token o => ?_, fun env flags world => ?_⟩, fun hplan token => ?_⟩
  · rw [orders_eq_error_iff.2 hrefused]
    exact nofun
  · rw [run_of_refused hrefused]
  obtain ⟨targets, hresolve, _, hleader⟩ :=
    FleetPlan.exists_resolve_of_validate hplan d.credentials
  refine ⟨⟨plan, targets, d.echo, token⟩, by rw [orders, hresolve]; rfl, ?_⟩
  intro flags world stream events s hfollow
  rw [hscript, hdesk] at hfollow ⊢
  have hconfined := FleetRun.confined_of_follow (FleetPlan.checked_of_validate hplan).2.1 hfollow
  have hplace : FleetOrders.captureAt? ⟨plan, targets, d.echo, token⟩ world.desk.files
      = plan.captureAt? world.desk.files := by
    have hjobs := congrArg (·.bind fun (leader : UInt32 × CommandJob) =>
      leader.2.capture.path?.bind world.desk.files.fileAt?) hleader
    simp only [Option.bind_map] at hjobs
    exact hjobs
  refine ⟨hplace ▸ hconfined.frame, ?_, ?_, ?_, ?_⟩
  · intro hchanged
    have hcalled : s.HasCalled .leader := by
      by_contra huncalled
      exact hchanged (hconfined.uncalled huncalled)
    have haccepts : ∃ target job, targets.leader = some (target, job) ∧
        m.accepts target.address = true := by
      by_contra hnobody
      refine hchanged (hconfined.refused fun target job hsome => ?_).1
      refine MockScript.refuses_of_not_accepts (Bool.eq_false_iff.2 fun haccepts => ?_)
      exact hnobody ⟨target, job, hsome, haccepts⟩
    obtain ⟨target, job, hsome, haccepts⟩ := haccepts
    exact ⟨target, job, hsome, (FleetRun.leader_called_iff hfollow).2 hcalled, haccepts⟩
  · intro report r hreport hresult hcancelled
    refine hconfined.uncalled fun hcalled => ?_
    have hduty := FleetRun.finished_of_report hreport
    have hwritten := ((FleetRun.collected_of_follow hfollow).written report hduty).2
    rw [FleetRun.HasCalled, hduty] at hcalled
    obtain ⟨r', hr', hstatus⟩ := hcalled
    rw [← hwritten, hresult] at hr'
    cases hr'
    exact hstatus hcancelled
  · exact fun hphase => hconfined.uncalled (FleetRun.not_hasCalled_of_inWorkerPhase hphase)
  · intro mv t hother hmove
    exact (FleetRun.files_of_move hconfined.workers hmove).resolve_right fun hlead =>
      hother hlead.1

/-- The third of three hosts leads, and what it says goes into a file. -/
def captureTrioPlan : FleetPlan :=
  { trioPlan with
    selection := .nothing
    leader := some ⟨3, { trioBench with capture := .file "out.txt" }⟩ }

/-- Hosts of which the third does not answer. -/
def silentDispatcher : Dispatcher MockRecord MockSession LocalDesk OpenFile :=
  { trioDispatcher with connector := MockScript.connector { hosts := [("c", .timeout)] } }

def captureTrioOrders : FleetOrders :=
  ⟨captureTrioPlan, ⟨[], (trioRoster.target? {} 3).map (·,
    { trioBench with capture := .file "out.txt" })⟩, false, ⟨0, []⟩⟩

theorem validate_captureTrio : captureTrioPlan.validate trioRoster = .ok () :=
  eq_ok_of_toOption (by decide +kernel)

theorem orders_captureTrio :
    trioDispatcher.orders trioRoster captureTrioPlan ⟨0, []⟩ = .ok captureTrioOrders :=
  eq_ok_of_toOption (by decide +kernel)

theorem orders_silent :
    silentDispatcher.orders trioRoster captureTrioPlan ⟨0, []⟩ = .ok captureTrioOrders :=
  eq_ok_of_toOption (by decide +kernel)

/-- What an earlier run has captured, and a file of somebody else's. -/
def earlierFiles : FileStore := ⟨[], [(["out.txt"], [9]), (["notes.txt"], [7])]⟩

def leaderMoves : List FleetMove :=
  [.coordinate, .coordinate, .coordinate, .coordinate, .coordinate, .coordinate]

/-- The leader's host does not answer, and what was captured before is still there.  Another time it
does, the capture file is emptied, and the other file is as it was. -/
theorem Dispatcher.touches_capture_file_only_trio :
    (∃ s, (FleetRun.initial captureTrioOrders ⟨1, []⟩ ⟨{}, { files := earlierFiles }⟩
        none).follow silentDispatcher.connector silentDispatcher.workstation captureTrioOrders
          (leaderMoves.map .move) = some s ∧
      s.duty.isOver = true ∧ s.world.net.connects = ["c"] ∧ s.files = earlierFiles) ∧
    ∃ s, (FleetRun.initial captureTrioOrders ⟨1, []⟩ ⟨{}, { files := earlierFiles }⟩
        none).follow trioDispatcher.connector trioDispatcher.workstation captureTrioOrders
          (leaderMoves.map .move) = some s ∧
      s.files.files.lookup ["out.txt"] = some [] ∧
      s.files.files.lookup ["notes.txt"] = some [7] := by
  have hcaptures : captureTrioPlan.captureAt? earlierFiles = some ["out.txt"] := by decide +kernel
  constructor
  · obtain ⟨o, horders, hall⟩ := (Dispatcher.touches_capture_file_only
      { hosts := [("c", .timeout)] } silentDispatcher rfl rfl trioRoster captureTrioPlan).2
        validate_captureTrio ⟨0, []⟩
    rw [orders_silent] at horders
    cases horders
    have hrun : ((FleetRun.initial captureTrioOrders ⟨1, []⟩ ⟨{}, { files := earlierFiles }⟩
        none).follow silentDispatcher.connector silentDispatcher.workstation captureTrioOrders
          (leaderMoves.map .move)).map (fun s => (s.duty.isOver, s.world.net.connects))
            = some (true, ["c"]) := by rfl
    obtain ⟨s, hs, hend⟩ := Option.map_eq_some_iff.1 hrun
    obtain ⟨hover, hconnects⟩ := Prod.mk.inj hend
    refine ⟨s, hs, hover, hconnects, ?_⟩
    by_contra hchanged
    obtain ⟨target, job, hleader, _, haccepts⟩ := (hall _ _ _ _ s hs).2.1 hchanged
    cases hleader
    revert haccepts
    decide
  · obtain ⟨o, horders, hall⟩ := (Dispatcher.touches_capture_file_only
      {} trioDispatcher rfl rfl trioRoster captureTrioPlan).2 validate_captureTrio ⟨0, []⟩
    rw [orders_captureTrio] at horders
    cases horders
    have hrun : ((FleetRun.initial captureTrioOrders ⟨1, []⟩ ⟨{}, { files := earlierFiles }⟩
        none).follow trioDispatcher.connector trioDispatcher.workstation captureTrioOrders
          (leaderMoves.map .move)).map (fun s => s.files.files.lookup ["out.txt"])
            = some (some []) := by rfl
    obtain ⟨s, hs, hemptied⟩ := Option.map_eq_some_iff.1 hrun
    obtain ⟨hsame, _⟩ := hall _ _ _ _ s hs
    refine ⟨s, hs, hemptied, ?_⟩
    rw [hsame.lookup ["notes.txt"] (by rw [hcaptures]; decide)]
    rfl

end RemoteFleet
