import Mathlib.Data.List.Perm.Subperm
import RemoteFleet.Proofs.Fleet.Recording
import RemoteFleet.Proofs.Fleet.Sequential

/-!
# A run executes what its plan lists

`preview` lists the runs of a plan without a session, and the errands of a run render their commands
on their own.  `executed` lists the runs whose commands are executed in the course of events, and
`unsent` reads off a state what is left to execute.

* `Balanced`: what a change executes and leaves unsent was unsent before it.  With one worker at a
  time the order stays; and if nothing comes between, nothing is left out.
* `Follows`: so what was executed and what is left is what was planned, or part of it.
* `commands_of_record`: the commands of `executed` are those that the connector gets, each in a
  session of the target of its run.

What can come between is said of the events (`GoesWell`) where it is about hosts and files, and of
the state in the end where it is about a cancelling or a leader that is skipped.
-/

namespace RemoteFleet

variable {Net Session Desk File : Type}

/-- The run that an errand makes, as plans list it. -/
def Errand.planned (e : Errand) : PlannedRun :=
  ⟨e.phase, e.target, e.job.name, e.command, e.job.capture.path?⟩

/-! ## Errands -/

namespace Stage

/-- The run whose command is executed with the next step. -/
def sends? (e : Errand) : Stage Session File → Option PlannedRun
  | .ready _ _ _ => some e.planned
  | _ => none

/-- The run whose command is not executed yet, but will be if nothing comes between. -/
def unsent? (e : Errand) : Stage Session File → Option PlannedRun
  | .waiting | .connecting _ | .connected _ _ | .ready _ _ _ => some e.planned
  | _ => none

/-- Nothing comes between an errand and its command with the next step: the host accepts, or the
capture file can be created. -/
def GoesWell (c : Connector Net Session) (ws : Workstation Desk File) (e : Errand)
    (w : World Net Desk) : Stage Session File → Prop
  | .connecting _ => ∃ session, (c.connect e.target w.net).1 = .opened session
  | .connected _ _ => ∀ path, e.job.capture = .file path →
      ∃ file, (ws.create path w.desk).1 = .ok file
  | _ => True

variable {c : Connector Net Session} {ws : Workstation Desk File} {e : Errand}
  {stage stage' : Stage Session File} {w w' : World Net Desk}

theorem unsent?_of_isOver (h : stage.isOver = true) (e : Errand) : stage.unsent? e = none := by
  cases stage <;> first | rfl | cases h

/-- The command that is executed is the command of the call. -/
theorem command?_call? (e : Errand) (stage : Stage Session File) :
    (stage.call? e).bind SessionCall.command?
      = (stage.sends? e).map fun r => (r.target, r.command) := by
  cases stage <;> rfl

/-- A step executes the command or leaves it to be executed, and does neither only if something
comes between. -/
theorem unsent?_advance (h : stage.advance c ws e w = (stage', w')) :
    ((stage.sends? e).toList ++ (stage'.unsent? e).toList = (stage.unsent? e).toList) ∨
      (stage.sends? e = none ∧ stage'.unsent? e = none ∧ ¬ stage.GoesWell c ws e w) := by
  cases stage with
  | connecting start =>
    simp only [advance, Errand.connect] at h
    rcases hattempt : c.connect e.target w.net with ⟨_ | _ | _, net⟩ <;> rw [hattempt] at h <;>
      cases h
    · exact .inl rfl
    · exact .inr ⟨rfl, rfl, by simp [GoesWell, hattempt]⟩
    · exact .inr ⟨rfl, rfl, by simp [GoesWell, hattempt]⟩
  | connected start session =>
    simp only [advance, Errand.openCapture] at h
    split at h
    · cases h
      exact .inl rfl
    · next path hcapture =>
      rcases hcreate : ws.create path w.desk with ⟨_ | _, desk⟩ <;>
        rw [Capture.create, hcreate] at h <;> cases h
      · exact .inr ⟨rfl, rfl, by simp [GoesWell, hcapture, hcreate]⟩
      · exact .inl rfl
  | listening start session capture transcript =>
    simp only [advance, Errand.listen] at h
    split at h <;> cases h <;> exact .inl rfl
  | settling start aftermath =>
    simp only [advance, Errand.settle] at h
    split at h <;> cases h <;> exact .inl rfl
  | _ =>
    cases h
    exact .inl rfl

end Stage

namespace FleetRun

/-- The run whose command is executed with an event. -/
def sends? (s : FleetRun Net Session Desk File) (event : FleetEvent) : Option PlannedRun :=
  (s.stepping? event).bind fun (errand, stage) => stage.sends? errand

/-- The runs whose commands are executed in the course of events, in their order. -/
def executed (c : Connector Net Session) (ws : Workstation Desk File) (o : FleetOrders)
    (s : FleetRun Net Session Desk File) (events : List FleetEvent) : List PlannedRun :=
  s.observe sends? c ws o events

/-- The leader's run, if its command is not executed yet. -/
def leaderUnsent? (o : FleetOrders) (s : FleetRun Net Session Desk File) : Option PlannedRun :=
  match s.duty with
  | .announce | .manage | .sendWorker _ =>
    o.targets.leader.map fun (target, job) => (o.leaderErrand target job).planned
  | .lead errand stage => stage.unsent? errand
  | _ => none

/-- The runs whose commands are not executed yet, but will be if nothing comes between. -/
def unsent (o : FleetOrders) (s : FleetRun Net Session Desk File) : List PlannedRun :=
  s.tasks.filterMap (fun task => task.stage.unsent? task.errand)
    ++ (s.waiting.map (fun entry => (o.workerErrand entry.2).planned)
      ++ (s.leaderUnsent? o).toList)

/-- Nothing comes between an errand and its command with an event: a step goes well, and a task
that dies has executed its command.  A task that dies earlier does so in its attempt to connect or
to create the file, so that did not succeed. -/
def EventGoesWell (c : Connector Net Session) (ws : Workstation Desk File)
    (s : FleetRun Net Session Desk File) : FleetEvent → Prop
  | .move (.die slot) => ∀ task ∈ s.tasks, task.slot = slot → task.stage.unsent? task.errand = none
  | event => ∀ errand stage, s.stepping? event = some (errand, stage) →
      stage.GoesWell c ws errand s.world

/-- In the course of events every attempt to connect succeeds, every capture file can be created,
and no task dies before its command is executed. -/
def GoesWell (c : Connector Net Session) (ws : Workstation Desk File) (o : FleetOrders)
    (s : FleetRun Net Session Desk File) (events : List FleetEvent) : Prop :=
  ∀ before event t, before ++ [event] <+: events → s.follow c ws o before = some t →
    t.EventGoesWell c ws event

/-- Errands may be withheld: the run is cancelled, or the leader is skipped because of a worker. -/
def IsCut (o : FleetOrders) (s : FleetRun Net Session Desk File) : Prop :=
  s.isCancelled o = true ∨ s.duty.inWorkerPhase = false ∧ s.skipsLeader o = true

variable {c : Connector Net Session} {ws : Workstation Desk File} {o : FleetOrders}
  {s t : FleetRun Net Session Desk File} {events : List FleetEvent}

/-! ## A step -/

/-- What an event executes and leaves to be executed was to be executed before it, in the same order
if there is one worker at a time; and it is all that was, if nothing comes between. -/
structure Balanced (c : Connector Net Session) (ws : Workstation Desk File) (o : FleetOrders)
    (s : FleetRun Net Session Desk File) (event : FleetEvent)
    (t : FleetRun Net Session Desk File) : Prop where
  subperm : ((s.sends? event).toList ++ t.unsent o).Subperm (s.unsent o)
  sublist : o.plan.concurrency ≤ 1 → ((s.sends? event).toList ++ t.unsent o).Sublist (s.unsent o)
  complete : s.EventGoesWell c ws event →
    t.IsCut o ∨ (s.unsent o).length ≤ ((s.sends? event).toList ++ t.unsent o).length

section Balance

variable {event : FleetEvent}

theorem balanced_of_eq (h : (s.sends? event).toList ++ t.unsent o = s.unsent o) :
    Balanced c ws o s event t where
  subperm := h ▸ List.Subperm.refl _
  sublist _ := h ▸ List.Sublist.refl _
  complete _ := .inr (Nat.le_of_eq (congrArg List.length h.symm))

theorem balanced_of_quiet (hquiet : s.sends? event = none) (h : t.unsent o = s.unsent o) :
    Balanced c ws o s event t :=
  balanced_of_eq (by rw [hquiet, h, Option.toList_none, List.nil_append])

/-- An event that takes something from what is unsent and executes nothing. -/
theorem balanced_of_loss (hquiet : s.sends? event = none) (h : (t.unsent o).Sublist (s.unsent o))
    (hcut : s.EventGoesWell c ws event → t.IsCut o) : Balanced c ws o s event t where
  subperm := by
    rw [hquiet]
    exact h.subperm
  sublist _ := by
    rw [hquiet]
    exact h
  complete hgoes := .inl (hcut hgoes)

theorem sends?_of_coordinate (hduty : ∀ errand stage, s.duty ≠ .lead errand stage) :
    s.sends? (.move .coordinate) = none := by
  rw [sends?, stepping?_of_coordinate hduty]
  rfl

theorem leaderUnsent?_of_inWorkerPhase (h : s.duty.inWorkerPhase = true) :
    s.leaderUnsent? o
      = o.targets.leader.map fun (target, job) => (o.leaderErrand target job).planned := by
  unfold leaderUnsent?
  cases hduty : s.duty with
  | announce => rfl
  | manage => rfl
  | sendWorker result => rfl
  | _ =>
    rw [hduty] at h
    cases h

/-- While the workers are not all done, what is unsent depends on tasks and waiting workers. -/
theorem unsent_of_inWorkerPhase (htasks : t.tasks = s.tasks) (hwaiting : t.waiting = s.waiting)
    (hbefore : s.duty.inWorkerPhase = true) (hafter : t.duty.inWorkerPhase = true) :
    t.unsent o = s.unsent o := by
  rw [unsent, unsent, htasks, hwaiting, leaderUnsent?_of_inWorkerPhase hbefore,
    leaderUnsent?_of_inWorkerPhase hafter]

/-- A task goes on, with or without its command executed, or it ends. -/
theorem balanced_of_task (haccounted : Accounted s) (hstaffed : Staffed o s)
    {before after : List (Task Session File)} {task : Task Session File}
    {stage : Stage Session File} {world : World Net Desk}
    (htasks : s.tasks = before ++ task :: after)
    (hadvance : task.stage.advance c ws task.errand s.world = (stage, world))
    (hduty : t.duty = s.duty) (hwaiting : t.waiting = s.waiting)
    (hgoes : t.tasks = before ++ { task with stage } :: after ∨
      t.tasks = before ++ after ∧ stage.isOver = true) :
    Balanced c ws o s (.move (.advance task.slot)) t := by
  have hstep := stepping?_of_task haccounted htasks
  have hsends : s.sends? (.move (.advance task.slot)) = task.stage.sends? task.errand := by
    rw [sends?, hstep, Option.bind_some]
  have hleader : t.leaderUnsent? o = s.leaderUnsent? o := by
    rw [leaderUnsent?, leaderUnsent?, hduty]
  have hleft : t.tasks.filterMap (fun task => task.stage.unsent? task.errand)
      = before.filterMap (fun task => task.stage.unsent? task.errand)
        ++ (stage.unsent? task.errand).toList
        ++ after.filterMap (fun task => task.stage.unsent? task.errand) := by
    rcases hgoes with htasks' | ⟨htasks', hover⟩
    · rw [htasks', filterMap_cut]
    · rw [htasks', List.filterMap_append, Stage.unsent?_of_isOver hover, Option.toList_none,
        List.append_nil]
  rcases Stage.unsent?_advance hadvance with hall | ⟨hnone, hlost, hbad⟩
  · have hperm : ((s.sends? (.move (.advance task.slot))).toList ++ t.unsent o).Perm
        (s.unsent o) := by
      rw [unsent, unsent, hleft, htasks, filterMap_cut, hwaiting, hleader, hsends, ← hall]
      simp only [List.append_assoc]
      exact List.perm_append_comm_assoc _ _ _
    refine ⟨hperm.subperm, ?_, fun _ => .inr (Nat.le_of_eq hperm.length_eq.symm)⟩
    intro hone
    obtain ⟨rfl, rfl⟩ := hstaffed.alone hone htasks
    rw [unsent, unsent, hleft, htasks, filterMap_cut, hwaiting, hleader, hsends, ← hall]
    simp
  · refine balanced_of_loss (hsends.trans hnone) ?_ fun hgoes => absurd (hgoes _ _ hstep) hbad
    rw [unsent, unsent, hleft, htasks, filterMap_cut, hwaiting, hleader, hlost]
    exact (((List.nil_sublist _).append_left _).append_right _).append_right _

/-- The leader's errand takes a step. -/
theorem balanced_of_lead (hstaffed : Staffed o s) {errand : Errand}
    {stage stage' : Stage Session File} {world : World Net Desk}
    (hduty : s.duty = .lead errand stage)
    (hadvance : stage.advance c ws errand s.world = (stage', world))
    (htasks : t.tasks = s.tasks) (hwaiting : t.waiting = s.waiting)
    (hleft : t.leaderUnsent? o = stage'.unsent? errand) :
    Balanced c ws o s (.move .coordinate) t := by
  obtain ⟨hstarted, hnone, _⟩ := hstaffed.allDone (by rw [hduty]; rfl)
  have hstep := stepping?_of_lead hduty
  have hsends : s.sends? (.move .coordinate) = stage.sends? errand := by
    rw [sends?, hstep, Option.bind_some]
  have hs : s.unsent o = (stage.unsent? errand).toList := by
    rw [unsent, hnone, hstarted, leaderUnsent?, hduty]
    rfl
  have ht : t.unsent o = (stage'.unsent? errand).toList := by
    rw [unsent, htasks, hwaiting, hnone, hstarted, hleft]
    rfl
  rcases Stage.unsent?_advance hadvance with hall | ⟨hquiet, hlost, hbad⟩
  · exact balanced_of_eq (by rw [hsends, ht, hs, hall])
  · refine balanced_of_loss (hsends.trans hquiet) ?_ fun hgoes => absurd (hgoes _ _ hstep) hbad
    rw [ht, hlost]
    exact List.nil_sublist _

/-- A task dies. -/
theorem balanced_of_death {before after : List (Task Session File)} {task : Task Session File}
    (htasks : s.tasks = before ++ task :: after) (hduty : t.duty = s.duty)
    (hwaiting : t.waiting = s.waiting) (htasks' : t.tasks = before ++ after) :
    Balanced c ws o s (.move (.die task.slot)) t := by
  have hleader : t.leaderUnsent? o = s.leaderUnsent? o := by
    rw [leaderUnsent?, leaderUnsent?, hduty]
  cases hunsent : task.stage.unsent? task.errand with
  | none =>
    refine balanced_of_quiet rfl ?_
    rw [unsent, unsent, htasks', htasks, filterMap_cut, List.filterMap_append, hunsent,
      Option.toList_none, List.append_nil, hwaiting, hleader]
  | some planned =>
    refine balanced_of_loss rfl ?_ fun hgoes => ?_
    · rw [unsent, unsent, htasks', htasks, filterMap_cut, List.filterMap_append, hwaiting, hleader]
      exact ((List.sublist_append_left _ _).append_right _).append_right _
    · have hsent := hgoes task (by simp [htasks]) rfl
      rw [hunsent] at hsent
      cases hsent

theorem balanced_of_change (haccounted : Accounted s) (hstaffed : Staffed o s) {m : FleetMove}
    (hc : Change c ws o s m t) : Balanced c ws o s (.move m) t := by
  cases hc with
  | advanced before after task stage world htasks hadvance hgoes =>
    exact balanced_of_task haccounted hstaffed htasks hadvance rfl rfl (.inl rfl)
  | ended before after task stage world htasks hadvance hover =>
    exact balanced_of_task haccounted hstaffed htasks hadvance rfl rfl (.inr ⟨rfl, hover⟩)
  | died before after task net htasks hnet => exact balanced_of_death htasks rfl rfl rfl
  | led errand stage stage' world hduty hadvance hgoes =>
    exact balanced_of_lead hstaffed hduty hadvance rfl rfl rfl
  | leaderDone errand stage result world hduty hadvance =>
    exact balanced_of_lead hstaffed hduty hadvance rfl rfl rfl
  | leaderDied errand stage world hduty hadvance =>
    exact balanced_of_lead hstaffed hduty hadvance rfl rfl rfl
  | started slot target waiting hduty hwaiting hlive hroom =>
    refine balanced_of_quiet (sends?_of_coordinate (by simp [hduty])) ?_
    simp [unsent, leaderUnsent?, hduty, hwaiting, Stage.unsent?]
  | withheld slot target waiting now hduty hwaiting hcancelled hroom =>
    refine balanced_of_loss (sends?_of_coordinate (by simp [hduty])) ?_ fun _ => .inl hcancelled
    rw [unsent, unsent, hwaiting, leaderUnsent?_of_inWorkerPhase rfl,
      leaderUnsent?_of_inWorkerPhase (by rw [hduty]; rfl)]
    exact ((List.sublist_cons_self _ _).append_right _).append_left _
  | workersDone hduty hwaiting htasks hended hleader =>
    refine balanced_of_quiet (sends?_of_coordinate (by simp [hduty])) ?_
    simp only [unsent, leaderUnsent?, hduty, hleader, Option.map_none]
  | leaderWithheld target job now desk hduty hwaiting htasks hended hleader hwhy =>
    refine balanced_of_loss (sends?_of_coordinate (by simp [hduty])) ?_ fun _ => ?_
    · exact ((List.nil_sublist _).append_left _).append_left _
    · exact hwhy.imp id fun hskips => ⟨rfl, Bool.and_eq_true_iff.2 hskips⟩
  | leaderStarted target job hduty hwaiting htasks hended hleader hlive hstrict =>
    refine balanced_of_quiet (sends?_of_coordinate (by simp [hduty])) ?_
    simp only [unsent, leaderUnsent?, hduty, hleader, Stage.unsent?, Option.map_some]
  | announced now desk hduty =>
    exact balanced_of_quiet (sends?_of_coordinate (by simp [hduty]))
      (unsent_of_inWorkerPhase rfl rfl (by rw [hduty]; rfl) rfl)
  | buried slot ended desk hduty hended =>
    exact balanced_of_quiet (sends?_of_coordinate (by simp [hduty])) rfl
  | joined slot result ended hduty hended =>
    exact balanced_of_quiet (sends?_of_coordinate (by simp [hduty]))
      (unsent_of_inWorkerPhase rfl rfl (by rw [hduty]; rfl) rfl)
  | sentWorker result desk flags stream hduty hsend =>
    exact balanced_of_quiet (sends?_of_coordinate (by simp [hduty]))
      (unsent_of_inWorkerPhase rfl rfl (by rw [hduty]; rfl) rfl)
  | sentLeader result desk flags stream hduty hsend =>
    refine balanced_of_quiet (sends?_of_coordinate (by simp [hduty])) ?_
    simp only [unsent, leaderUnsent?, hduty]
  | reported report desk hduty hworkers hleader hstart =>
    refine balanced_of_quiet (sends?_of_coordinate (by simp [hduty])) ?_
    simp only [unsent, leaderUnsent?, hduty]
  | taken result queue received hstream => exact balanced_of_quiet rfl rfl
  | left queue received hstream => exact balanced_of_quiet rfl rfl

theorem balanced_of_step (haccounted : Accounted s) (hstaffed : Staffed o s)
    (h : s.step c ws o event = some t) : Balanced c ws o s event t := by
  cases event with
  | move m => exact balanced_of_change haccounted hstaffed (change_of_move h)
  | cancel token =>
    cases h
    exact balanced_of_quiet rfl rfl

end Balance

/-! ## When the workers are done -/

/-- Workers that are all done stay so, and so do their results. -/
theorem workers_change (hphase : s.duty.inWorkerPhase = false) {m : FleetMove}
    (hc : Change c ws o s m t) : t.duty.inWorkerPhase = false ∧ t.workers = s.workers := by
  have hdone : s.duty ≠ .announce ∧ s.duty ≠ .manage ∧ ∀ result, s.duty ≠ .sendWorker result := by
    refine ⟨?_, ?_, fun result => ?_⟩ <;> intro hduty <;> rw [hduty] at hphase <;> cases hphase
  obtain ⟨hannounce, hmanage, hsendWorker⟩ := hdone
  cases hc with
  | announced now desk hduty => exact absurd hduty hannounce
  | buried slot ended desk hduty hended => exact absurd hduty hmanage
  | joined slot result ended hduty hended => exact absurd hduty hmanage
  | withheld slot target waiting now hduty hwaiting hcancelled hroom => exact absurd hduty hmanage
  | started slot target waiting hduty hwaiting hlive hroom => exact absurd hduty hmanage
  | workersDone hduty hwaiting htasks hended hleader => exact absurd hduty hmanage
  | leaderWithheld target job now desk hduty hwaiting htasks hended hleader hwhy =>
    exact absurd hduty hmanage
  | leaderStarted target job hduty hwaiting htasks hended hleader hlive hstrict =>
    exact absurd hduty hmanage
  | sentWorker result desk flags stream hduty hsend => exact absurd hduty (hsendWorker result)
  | sentLeader result desk flags stream hduty hsend => exact ⟨rfl, rfl⟩
  | led errand stage stage' world hduty hadvance hgoes => exact ⟨rfl, rfl⟩
  | leaderDone errand stage result world hduty hadvance => exact ⟨rfl, rfl⟩
  | leaderDied errand stage world hduty hadvance => exact ⟨rfl, rfl⟩
  | reported report desk hduty hworkers hleader hstart => exact ⟨rfl, rfl⟩
  | _ => exact ⟨hphase, rfl⟩

theorem workers_step (hphase : s.duty.inWorkerPhase = false) {event : FleetEvent}
    (h : s.step c ws o event = some t) :
    t.duty.inWorkerPhase = false ∧ t.workers = s.workers := by
  cases event with
  | move m => exact workers_change hphase (change_of_move h)
  | cancel token =>
    cases h
    exact ⟨hphase, rfl⟩

/-- No run is uncancelled, and no leader that is skipped is led after all. -/
theorem IsCut.step (h : s.IsCut o) {event : FleetEvent} (hstep : s.step c ws o event = some t) :
    t.IsCut o := by
  rcases h with hcancelled | ⟨hphase, hskips⟩
  · left
    cases event with
    | move m => exact isCancelled_change (change_of_move hstep) hcancelled
    | cancel token =>
      cases hstep
      exact isCancelled_cancel token hcancelled
  · obtain ⟨hphase', hworkers⟩ := workers_step hphase hstep
    refine .inr ⟨hphase', ?_⟩
    rw [skipsLeader, hworkers]
    exact hskips

/-- Who takes a step is a worker as long as the workers are not all done, and then the leader. -/
theorem errand_of_stepping? (hplaced : Placed c o s) (hstaffed : Staffed o s) {event : FleetEvent}
    {errand : Errand} {stage : Stage Session File}
    (h : s.stepping? event = some (errand, stage)) :
    (s.duty.inWorkerPhase = true ∧ ∃ target, errand = o.workerErrand target) ∨
      s.duty.inWorkerPhase = false ∧ ∃ target job, o.targets.leader = some (target, job) ∧
        errand = o.leaderErrand target job := by
  cases event with
  | cancel token => cases h
  | move m =>
    cases m with
    | coordinate =>
      cases hduty : s.duty with
      | lead errand' stage' =>
        rw [stepping?_of_lead hduty] at h
        cases h
        have hlead := hplaced.duty
        rw [hduty] at hlead
        obtain ⟨_, _, hleader⟩ := hlead
        exact .inr ⟨rfl, hleader⟩
      | _ =>
        rw [stepping?_of_coordinate (by simp [hduty])] at h
        cases h
    | advance slot =>
      obtain ⟨⟨before, task, after⟩, hcut, heq⟩ := Option.map_eq_some_iff.1 h
      cases heq
      obtain ⟨htasks, _⟩ := Task.eq_of_cutAt? hcut
      obtain ⟨_, target, _, herrand⟩ := hplaced.tasks task (by simp [htasks])
      exact .inl ⟨hstaffed.inWorkerPhase_of_cut htasks, target, herrand⟩
    | _ => cases h

/-- Workers' commands are executed while the workers are not all done, and the leader's when they
are. -/
theorem phase_of_sends? (hplaced : Placed c o s) (hstaffed : Staffed o s) {event : FleetEvent}
    {r : PlannedRun} (h : s.sends? event = some r) :
    r.phase = if s.duty.inWorkerPhase then .worker else .leader := by
  obtain ⟨⟨errand, stage⟩, hstep, hsends⟩ := Option.bind_eq_some_iff.1 h
  have hphase : r.phase = errand.phase := by
    cases stage with
    | ready start session capture =>
      cases hsends
      rfl
    | _ => cases hsends
  rw [hphase]
  rcases errand_of_stepping? hplaced hstaffed hstep with
    ⟨hworking, target, rfl⟩ | ⟨hdone, target, job, _, rfl⟩
  · rw [hworking]
    rfl
  · rw [hdone]
    rfl

/-! ## Along a run -/

/-- How what was executed so far compares with what was planned. -/
structure Follows (o : FleetOrders) (planned executed : List PlannedRun) (goesWell : Prop)
    (s : FleetRun Net Session Desk File) : Prop where
  subperm : (executed ++ s.unsent o).Subperm planned
  sublist : o.plan.concurrency ≤ 1 → (executed ++ s.unsent o).Sublist planned
  complete : goesWell → s.IsCut o ∨ planned.length ≤ (executed ++ s.unsent o).length
  /-- The leader's command comes after the workers'. -/
  phases : ∃ workers leader, executed = workers ++ leader ∧ (∀ r ∈ workers, r.phase = .worker) ∧
    (∀ r ∈ leader, r.phase = .leader) ∧ (s.duty.inWorkerPhase = true → leader = [])

theorem Follows.step {planned executed : List PlannedRun} {goesWell : Prop}
    (h : Follows o planned executed goesWell s) (hplaced : Placed c o s)
    (haccounted : Accounted s) (hstaffed : Staffed o s) {event : FleetEvent}
    (hstep : s.step c ws o event = some t) :
    Follows o planned (executed ++ (s.sends? event).toList)
      (goesWell ∧ s.EventGoesWell c ws event) t := by
  have hbalanced := balanced_of_step haccounted hstaffed hstep
  refine ⟨?_, fun hone => ?_, fun ⟨hbefore, hevent⟩ => ?_, ?_⟩
  · rw [List.append_assoc]
    exact ((List.subperm_append_left executed).2 hbalanced.subperm).trans h.subperm
  · rw [List.append_assoc]
    exact ((hbalanced.sublist hone).append_left executed).trans (h.sublist hone)
  · rcases h.complete hbefore with hcut | hlength
    · exact .inl (hcut.step hstep)
    · refine (hbalanced.complete hevent).imp id fun hmore => ?_
      simp only [List.length_append] at hlength hmore ⊢
      omega
  · obtain ⟨workers, leader, rfl, hworkers, hleader, hnone⟩ := h.phases
    cases hphase : s.duty.inWorkerPhase with
    | true =>
      rw [hnone hphase, List.append_nil]
      refine ⟨workers ++ (s.sends? event).toList, [], (List.append_nil _).symm, ?_, by simp,
        fun _ => rfl⟩
      intro r hmem
      rcases List.mem_append.1 hmem with hold | hnew
      · exact hworkers r hold
      · rw [phase_of_sends? hplaced hstaffed (Option.mem_toList.1 hnew), hphase]
        rfl
    | false =>
      refine ⟨workers, leader ++ (s.sends? event).toList, List.append_assoc _ _ _, hworkers, ?_, ?_⟩
      · intro r hmem
        rcases List.mem_append.1 hmem with hold | hnew
        · exact hleader r hold
        · rw [phase_of_sends? hplaced hstaffed (Option.mem_toList.1 hnew), hphase]
          rfl
      · rw [(workers_step hphase hstep).1]
        exact nofun

theorem GoesWell.of_append_singleton {event : FleetEvent}
    (h : s.GoesWell c ws o (events ++ [event])) (hfollow : s.follow c ws o events = some t) :
    s.GoesWell c ws o events ∧ t.EventGoesWell c ws event :=
  ⟨fun before event u hbefore => h before event u (hbefore.trans (List.prefix_append _ _)),
    h events event t (List.prefix_refl _) hfollow⟩

/-- What a run executes is what its state in the beginning leaves to be executed. -/
theorem follows_of_follow {flags : CancelFlags} {world : World Net Desk}
    {stream : Option ResultStream}
    (h : (initial o flags world stream).follow c ws o events = some s) :
    Follows o ((initial o flags world stream : FleetRun Net Session Desk File).unsent o)
      ((initial o flags world stream).executed c ws o events)
      ((initial o flags world stream).GoesWell c ws o events) s := by
  refine follow_induction (P := fun events s =>
    Follows o ((initial o flags world stream : FleetRun Net Session Desk File).unsent o)
      ((initial o flags world stream).executed c ws o events)
      ((initial o flags world stream).GoesWell c ws o events) s) h ?_ ?_
  · refine ⟨List.Subperm.refl _, fun _ => List.Sublist.refl _, fun _ => .inr (Nat.le_refl _), ?_⟩
    exact ⟨[], [], rfl, by simp, by simp, fun _ => rfl⟩
  · intro before u event v _ hfollow hstep hu
    have hnext := hu.step (placed_of_follow hfollow) (accounted_of_follow hfollow)
      (staffed_of_follow hfollow) hstep
    rw [executed, observe_append_singleton hfollow]
    exact { hnext with complete := fun hgoes => hnext.complete (hgoes.of_append_singleton hfollow) }

/-- All goes well where every host accepts, every capture file can be created, and nobody makes a
task die. -/
theorem goesWell_of_alive {flags : CancelFlags} {world : World Net Desk}
    {stream : Option ResultStream}
    (hconnect : ∀ target net, ∃ session, (c.connect target net).1 = .opened session)
    (hoff : o.plan.job.capture = .off)
    (hcreate : ∀ target job path, o.targets.leader = some (target, job) →
      job.capture = .file path → ∀ desk, ∃ file, (ws.create path desk).1 = .ok file)
    (halive : ∀ slot, .move (.die slot) ∉ events) :
    (initial o flags world stream).GoesWell c ws o events := by
  intro before event t hbefore hfollow
  have hplaced := placed_of_follow hfollow
  have hmem : event ∈ events := hbefore.subset (List.mem_append_right _ List.mem_cons_self)
  have hstep : ∀ errand stage, t.stepping? event = some (errand, stage) →
      stage.GoesWell c ws errand t.world := by
    intro errand stage hstep
    cases stage with
    | connecting start => exact hconnect errand.target t.world.net
    | connected start session =>
      intro path hcapture
      rcases errand_of_stepping? hplaced (staffed_of_follow hfollow) hstep with
        ⟨_, target, rfl⟩ | ⟨_, target, job, hleader, rfl⟩
      · rw [FleetOrders.workerErrand, hoff] at hcapture
        cases hcapture
      · exact hcreate target job path hleader hcapture t.world.desk
    | _ => trivial
  cases event with
  | cancel token => exact hstep
  | move m =>
    cases m with
    | die slot => exact absurd hmem (halive slot)
    | _ => exact hstep

/-- When nothing is left to do, nothing is left to execute. -/
theorem Staffed.unsent_of_isOver (h : Staffed o s) (hover : s.duty.isOver = true) :
    s.unsent o = [] := by
  cases hduty : s.duty with
  | finished report =>
    obtain ⟨hwaiting, htasks, _⟩ := h.allDone (by rw [hduty]; rfl)
    rw [unsent, hwaiting, htasks, leaderUnsent?, hduty]
    rfl
  | crashed =>
    obtain ⟨hwaiting, htasks, _⟩ := h.allDone (by rw [hduty]; rfl)
    rw [unsent, hwaiting, htasks, leaderUnsent?, hduty]
    rfl
  | _ => simp [hduty, Duty.isOver] at hover

/-- What is executed is what the connector gets. -/
theorem commands_of_record (s : FleetRun Net Session Desk File) :
    (s.observe call? c ws o events).filterMap SessionCall.command?
      = (s.executed c ws o events).map fun r => (r.target, r.command) := by
  rw [← List.filterMap_eq_map, executed, filterMap_observe, filterMap_observe]
  congr 1
  funext u event
  simp only [call?, sends?, Option.bind_assoc]
  refine Option.bind_congr fun step _ => ?_
  rw [Stage.command?_call?]
  cases step.2.sends? step.1 <;> rfl

end FleetRun

/-! ## The plan -/

/-- A plan has one run at most for each phase and host. -/
theorem FleetPlan.nodup_runs {plan : FleetPlan} {roster : HostRoster} {credentials : Credentials}
    {targets : ResolvedPlan}
    (hworkers : targets.workers = roster.select plan.selection credentials) :
    ((plan.runs targets).map fun r => (r.phase, r.target.index)).Nodup := by
  have hascending := roster.select_ascending plan.selection credentials
  rw [← hworkers, List.pairwise_map] at hascending
  rw [runs, List.map_append]
  refine List.nodup_append.2 ⟨?_, ?_, ?_⟩
  · rw [List.map_map]
    exact List.pairwise_map.2
      (hascending.imp fun hlt heq => UInt32.ne_of_lt hlt (Prod.mk.inj heq).2)
  · cases targets.leader <;> simp
  · cases targets.leader <;> simp [workerRun, leaderRun]

theorem FleetPlan.countP_runs_le_one (plan : FleetPlan) (targets : ResolvedPlan) :
    (plan.runs targets).countP (·.phase = .leader) ≤ 1 := by
  have hworkers : (targets.workers.map plan.workerRun).countP (·.phase = .leader) = 0 := by
    simp [List.countP_eq_zero, workerRun]
  rw [runs, List.countP_append, hworkers, Nat.zero_add]
  refine Nat.le_trans List.countP_le_length ?_
  cases targets.leader <;> simp

theorem FleetOrders.planned_workerErrand {o : FleetOrders} (hoff : o.plan.job.capture = .off)
    (target : RemoteTarget) : (o.workerErrand target).planned = o.plan.workerRun target := by
  simp only [Errand.planned, FleetOrders.workerErrand, hoff]
  rfl

/-- At the beginning all runs of the plan are left to be executed. -/
theorem FleetRun.unsent_initial {o : FleetOrders} (hoff : o.plan.job.capture = .off)
    (flags : CancelFlags) (world : World Net Desk) (stream : Option ResultStream) :
    (initial o flags world stream : FleetRun Net Session Desk File).unsent o
      = o.plan.runs o.targets := by
  have hwaiting : (initial o flags world stream : FleetRun Net Session Desk File).waiting.map (·.2)
      = o.targets.workers := waiting_initial o flags world stream
  have hleader :
      ((initial o flags world stream : FleetRun Net Session Desk File).leaderUnsent? o).toList
        = o.targets.leader.toList.map fun (target, job) => FleetPlan.leaderRun target job := by
    rw [leaderUnsent?_of_inWorkerPhase rfl]
    cases o.targets.leader <;> rfl
  rw [unsent, hleader, FleetPlan.runs, ← hwaiting, List.map_map]
  simp only [FleetOrders.planned_workerErrand hoff]
  rfl

/-- A plan and its run agree.  Whatever happens, each command that the connector gets is that of a
run that the plan lists, for the host and the phase that it is listed for; none is executed twice,
and the leader's comes last.  A run that is over has executed all of them, if all attempts to
connect succeeded, all capture files could be created, and neither was the run cancelled nor the
leader skipped; and with one worker at a time, it has executed them as they are listed. -/
theorem Dispatcher.executes_preview (d : Dispatcher Net Session Desk File) {roster : HostRoster}
    {plan : FleetPlan} (hplan : plan.validate roster = .ok ()) (token : CancelToken)
    (flags : CancelFlags) (world : World Net Desk) (stream : Option ResultStream) :
    ∃ o planned, d.orders roster plan token = .ok o ∧
      plan.preview roster d.credentials = .ok planned ∧
      (planned.map fun r => (r.phase, r.target.index)).Nodup ∧
      ∀ events s,
        (FleetRun.initial o flags world stream).follow d.connector d.workstation o events = some s →
        ∃ executed,
          (FleetRun.initial o flags world stream).executed d.connector d.workstation o events
            = executed ∧
          (∃ t, (FleetRun.initial o flags ⟨(world.net, []), world.desk⟩ stream).follow
              d.connector.recorded d.workstation o events = some t ∧ t.plain = s ∧
            t.world.net.2.filterMap SessionCall.command?
              = executed.map fun r => (r.target, r.command)) ∧
          executed.Subperm planned ∧
          (∃ workers leader, executed = workers ++ leader ∧ (∀ r ∈ workers, r.phase = .worker) ∧
            (∀ r ∈ leader, r.phase = .leader) ∧ leader.length ≤ 1) ∧
          ((FleetRun.initial o flags world stream).GoesWell d.connector d.workstation o events →
            s.duty.isOver = true → s.isCancelled o = false → s.skipsLeader o = false →
            executed.Perm planned ∧ (plan.concurrency = 1 → executed = planned)) := by
  obtain ⟨targets, hresolve, hworkers, _⟩ :=
    FleetPlan.exists_resolve_of_validate hplan d.credentials
  let o : FleetOrders := ⟨plan, targets, d.echo, token⟩
  refine ⟨o, plan.runs targets, by rw [orders, hresolve]; rfl,
    FleetPlan.preview_of_resolve hresolve, FleetPlan.nodup_runs hworkers, ?_⟩
  intro events s hfollow
  have hfollows := FleetRun.follows_of_follow hfollow
  rw [FleetRun.unsent_initial (FleetPlan.checked_of_validate hplan).2.1] at hfollows
  have hsubperm := (List.sublist_append_left _ _).subperm.trans hfollows.subperm
  refine ⟨_, rfl, ?_, hsubperm, ?_, ?_⟩
  · obtain ⟨t, ht, hplain, hrecord⟩ := FleetRun.exists_recorded_follow hfollow
    exact ⟨t, ht, hplain, by rw [hrecord, FleetRun.commands_of_record]⟩
  · obtain ⟨workers, leader, hsplit, hbefore, hafter, _⟩ := hfollows.phases
    refine ⟨workers, leader, hsplit, hbefore, hafter, ?_⟩
    have hcount := Nat.le_trans (hsubperm.countP_le (·.phase = .leader))
      (plan.countP_runs_le_one targets)
    have hall : leader.countP (·.phase = .leader) = leader.length := by
      simpa [List.countP_eq_length] using hafter
    rw [hsplit, List.countP_append, hall] at hcount
    omega
  · intro hgoes hover hlive hleads
    have hlength := (hfollows.complete hgoes).resolve_left (by simp [FleetRun.IsCut, hlive, hleads])
    rw [(FleetRun.staffed_of_follow hfollow).unsent_of_isOver hover, List.append_nil] at hlength
    refine ⟨hsubperm.perm_of_length_le hlength, fun hone => ?_⟩
    have hsublist := (List.sublist_append_left _ _).trans (hfollows.sublist (Nat.le_of_eq hone))
    exact hsublist.eq_of_length_le hlength

/-- A run over three hosts, one at a time, that has executed what its plan lists. -/
theorem Dispatcher.executes_preview_trio :
    ∃ s planned, trioSingly.plan.validate trioRoster = .ok () ∧
      (FleetRun.initial trioSingly ⟨1, []⟩ ⟨{}, {}⟩ none).follow trioDispatcher.connector
        trioDispatcher.workstation trioSingly (trioOneByOne.map .move) = some s ∧
      s.duty.isOver = true ∧ trioSingly.plan.preview trioRoster {} = .ok planned ∧
      (planned.map fun r => (r.target.address, r.command))
        = [("a", "uptime"), ("b", "uptime"), ("c", "uptime"), ("c", "bench")] ∧
      (FleetRun.initial trioSingly ⟨1, []⟩ ⟨{}, {}⟩ none).executed trioDispatcher.connector
        trioDispatcher.workstation trioSingly (trioOneByOne.map .move) = planned := by
  have hvalid : trioSingly.plan.validate trioRoster = .ok () :=
    eq_ok_of_toOption (by decide +kernel)
  have hsingly : trioDispatcher.orders trioRoster trioSingly.plan ⟨0, []⟩ = .ok trioSingly :=
    eq_ok_of_toOption (by decide +kernel)
  obtain ⟨o, planned, horders, hpreview, _, hall⟩ := trioDispatcher.executes_preview hvalid
    ⟨0, []⟩ ⟨1, []⟩ ⟨{}, {}⟩ none
  rw [hsingly] at horders
  cases horders
  have hrun : ((FleetRun.initial trioSingly ⟨1, []⟩ ⟨{}, {}⟩ none).follow trioDispatcher.connector
      trioDispatcher.workstation trioSingly (trioOneByOne.map .move)).map
        (fun s => (s.duty.isOver, s.isCancelled trioSingly, s.skipsLeader trioSingly))
          = some (true, false, false) := by rfl
  obtain ⟨s, hs, hend⟩ := Option.map_eq_some_iff.1 hrun
  obtain ⟨hover, hrest⟩ := Prod.mk.inj hend
  obtain ⟨hlive, hleads⟩ := Prod.mk.inj hrest
  have hgoes : (FleetRun.initial trioSingly ⟨1, []⟩ ⟨{}, {}⟩ none).GoesWell
      trioDispatcher.connector trioDispatcher.workstation trioSingly (trioOneByOne.map .move) := by
    refine FleetRun.goesWell_of_alive (fun target net => ⟨⟨target, false⟩, rfl⟩) rfl ?_ ?_
    · intro target job path hleader hcapture
      cases hleader
      cases hcapture
    · intro slot hmem
      simp [trioOneByOne] at hmem
  obtain ⟨executed, hexecuted, _, _, _, hcomplete⟩ := hall _ s hs
  have hlisted : (trioSingly.plan.preview trioRoster {}).toOption.map
      (List.map fun r => (r.target.address, r.command))
        = some [("a", "uptime"), ("b", "uptime"), ("c", "uptime"), ("c", "bench")] := by
    decide +kernel
  have hpreview' : trioSingly.plan.preview trioRoster {} = .ok planned := hpreview
  rw [hpreview'] at hlisted
  exact ⟨s, planned, hvalid, hs, hover, hpreview', Option.some.inj hlisted,
    hexecuted.trans ((hcomplete hgoes hover hlive hleads).2 rfl)⟩

end RemoteFleet
