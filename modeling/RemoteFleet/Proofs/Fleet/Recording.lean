import RemoteFleet.Proofs.Fleet.Calls
import RemoteFleet.Proofs.Session.Recording

/-!
# The record of a run

A run over a recorded connector makes the moves that it makes without the record
(`FleetRun.follow_plain`).  What the record holds in the end can be read off the run without it:
`observe` goes through the events of a run and notes what is to be seen in the state before each,
and `exists_recorded_follow` says that noting the calls gives the record.
-/

namespace RemoteFleet

variable {Net Session Desk File : Type}

/-- The task without the target of its session. -/
def Task.plain (task : Task (RemoteTarget × Session) File) : Task Session File :=
  ⟨task.slot, task.errand, task.stage.plain⟩

/-- The duty without the target of the leader's session. -/
def Duty.plain : Duty (RemoteTarget × Session) File → Duty Session File
  | .announce => .announce
  | .manage => .manage
  | .sendWorker result => .sendWorker result
  | .lead errand stage => .lead errand stage.plain
  | .sendLeader result => .sendLeader result
  | .report => .report
  | .finished written => .finished written
  | .crashed => .crashed

theorem Task.cutAt?_plain (slot : Nat) (tasks : List (Task (RemoteTarget × Session) File)) :
    cutAt? slot (tasks.map plain) = (cutAt? slot tasks).map fun (before, task, after) =>
      (before.map plain, task.plain, after.map plain) := by
  induction tasks with
  | nil => rfl
  | cons task tasks ih =>
    simp only [List.map_cons, cutAt?, ih, plain]
    split
    · rfl
    · cases cutAt? slot tasks <;> rfl

namespace FleetRun

/-- The run without the record. -/
def plain (s : FleetRun (Net × List SessionCall) (RemoteTarget × Session) Desk File) :
    FleetRun Net Session Desk File where
  world := s.world.plain
  flags := s.flags
  duty := s.duty.plain
  waiting := s.waiting
  tasks := s.tasks.map Task.plain
  ended := s.ended
  slots := s.slots
  workers := s.workers
  leader := s.leader
  startedAt := s.startedAt
  stream := s.stream

section Plain

variable (c : Connector Net Session) (ws : Workstation Desk File) (o : FleetOrders)
  (s : FleetRun (Net × List SessionCall) (RemoteTarget × Session) Desk File)

/-! ## Moves without the record -/

theorem isCancelled_plain : s.plain.isCancelled o = s.isCancelled o := rfl

theorem mustJoin_plain : s.plain.mustJoin o = s.mustJoin o := by
  have hinFlight : s.plain.inFlight = s.inFlight := by
    simp only [inFlight, plain, List.length_map]
  have hwaiting : s.plain.waiting = s.waiting := rfl
  rw [mustJoin, mustJoin, hinFlight, hwaiting]

theorem join_plain : s.plain.join ws = (s.join ws).map plain := by
  simp only [join, plain]
  rcases s.ended with _ | ⟨⟨slot, _ | result⟩, ended⟩ <;> rfl

theorem start_plain (slot : Nat) (target : RemoteTarget) (waiting : List (Nat × RemoteTarget)) :
    s.plain.start ws o slot target waiting = (s.start ws o slot target waiting).plain := by
  rw [start, start, isCancelled_plain]
  split
  · rfl
  · simp [plain, Task.plain, Stage.plain]

theorem startLeader_plain (target : RemoteTarget) (job : CommandJob) :
    s.plain.startLeader ws o target job = (s.startLeader ws o target job).plain := by
  have hskips : s.plain.skipsLeader o = s.skipsLeader o := rfl
  simp only [startLeader, isCancelled_plain, hskips]
  split
  · rfl
  · split <;> rfl

theorem endWorkers_plain : s.plain.endWorkers ws o = (s.endWorkers ws o).plain := by
  simp only [endWorkers]
  cases o.targets.leader with
  | none => rfl
  | some leader =>
    exact startLeader_plain ws o { s with workers := s.collect ws o } leader.1 leader.2

theorem advanceLeader_plain (errand : Errand) (stage : Stage (RemoteTarget × Session) File) :
    s.plain.advanceLeader c ws errand stage.plain =
      (s.advanceLeader c.recorded ws errand stage).plain := by
  have hworld : s.plain.world = s.world.plain := rfl
  simp only [advanceLeader, hworld, stage.advance_plain]
  rcases stage.advance c.recorded ws errand s.world with ⟨stage', world⟩
  cases stage' <;> rfl

theorem send_plain (result : RunResult) :
    s.plain.send ws o result = (s.send ws o result).map plain := by
  have hstream : s.plain.stream = s.stream := rfl
  simp only [send, isCancelled_plain, hstream]
  cases s.stream with
  | none => rfl
  | some stream =>
    dsimp only
    split
    · split <;> rfl
    · split <;> rfl

theorem coordinate_plain :
    s.plain.coordinate c ws o = (s.coordinate c.recorded ws o).map plain := by
  have hduty : s.plain.duty = s.duty.plain := rfl
  have hwaiting : s.plain.waiting = s.waiting := rfl
  simp only [coordinate, hduty]
  cases s.duty with
  | manage =>
    simp only [Duty.plain, mustJoin_plain, hwaiting]
    split
    · exact join_plain ws s
    · cases s.waiting with
      | nil => exact congrArg some (endWorkers_plain ws o s)
      | cons first waiting => exact congrArg some (start_plain ws o s first.1 first.2 waiting)
  | sendWorker result =>
    simp only [Duty.plain, send_plain, Option.map_map]
    rfl
  | lead errand stage => exact congrArg some (advanceLeader_plain c ws s errand stage)
  | sendLeader result =>
    simp only [Duty.plain, send_plain, Option.map_map]
    rfl
  | _ => rfl

theorem advance_plain (slot : Nat) :
    s.plain.advance c ws slot = (s.advance c.recorded ws slot).map plain := by
  have htasks : s.plain.tasks = s.tasks.map Task.plain := rfl
  have hworld : s.plain.world = s.world.plain := rfl
  simp only [advance, htasks, Task.cutAt?_plain, hworld]
  rcases Task.cutAt? slot s.tasks with _ | ⟨before, task, after⟩
  · rfl
  · simp only [Option.map_some, Task.plain, Stage.advance_plain, Stage.isOver_plain,
      Stage.result?_plain]
    split
    · simp [plain]
    · simp [plain, Task.plain]

theorem die_plain (slot : Nat) : s.plain.die c slot = (s.die c.recorded slot).map plain := by
  have htasks : s.plain.tasks = s.tasks.map Task.plain := rfl
  simp only [die, htasks, Task.cutAt?_plain]
  rcases Task.cutAt? slot s.tasks with _ | ⟨before, task, after⟩
  · rfl
  · simp only [Option.map_some, Task.plain, Stage.session?_plain]
    cases task.stage.session? <;> simp [plain, World.plain, Connector.recorded]

/-- A move does the same with the record and without it. -/
theorem move_plain (m : FleetMove) :
    s.plain.move c ws o m = (s.move c.recorded ws o m).map plain := by
  cases m with
  | coordinate => exact coordinate_plain c ws o s
  | advance slot => exact advance_plain c ws s slot
  | die slot => exact die_plain c s slot
  | receive =>
    have hstream : s.plain.stream = s.stream := rfl
    simp only [move, receive, hstream]
    split <;> rfl
  | dropReceiver =>
    have hstream : s.plain.stream = s.stream := rfl
    simp only [move, dropReceiver, hstream]
    split <;> rfl

theorem step_plain (event : FleetEvent) :
    s.plain.step c ws o event = (s.step c.recorded ws o event).map plain := by
  cases event with
  | move m => exact move_plain c ws o s m
  | cancel token => rfl

/-- Events lead to the same state with the record and without it. -/
theorem follow_plain (events : List FleetEvent) :
    s.plain.follow c ws o events = (s.follow c.recorded ws o events).map plain := by
  induction events generalizing s with
  | nil => rfl
  | cons event events ih =>
    rw [follow, follow, step_plain, Option.map_bind, Option.bind_map]
    exact Option.bind_congr fun t _ => ih t

end Plain

/-! ## What is to be seen of a run -/

/-- The errand that takes a step with an event, and how far it has come. -/
def stepping? (s : FleetRun Net Session Desk File) :
    FleetEvent → Option (Errand × Stage Session File)
  | .move .coordinate =>
    match s.duty with
    | .lead errand stage => some (errand, stage)
    | _ => none
  | .move (.advance slot) =>
    (Task.cutAt? slot s.tasks).map fun (_, task, _) => (task.errand, task.stage)
  | _ => none

/-- The call that an event makes. -/
def call? (s : FleetRun Net Session Desk File) (event : FleetEvent) : Option SessionCall :=
  (s.stepping? event).bind fun (errand, stage) => stage.call? errand

/-- What there is to note in the course of events. -/
def observe {α : Type} (note : FleetRun Net Session Desk File → FleetEvent → Option α)
    (c : Connector Net Session) (ws : Workstation Desk File) (o : FleetOrders)
    (s : FleetRun Net Session Desk File) : List FleetEvent → List α
  | [] => []
  | event :: events => (note s event).toList ++ match s.step c ws o event with
    | none => []
    | some t => t.observe note c ws o events

variable {c : Connector Net Session} {ws : Workstation Desk File} {o : FleetOrders}
  {events : List FleetEvent}

section Observe

variable {α β : Type} {note : FleetRun Net Session Desk File → FleetEvent → Option α}
  {s t : FleetRun Net Session Desk File}

theorem observe_append (h : s.follow c ws o events = some t) (later : List FleetEvent) :
    s.observe note c ws o (events ++ later)
      = s.observe note c ws o events ++ t.observe note c ws o later := by
  induction events generalizing s with
  | nil =>
    cases h
    rfl
  | cons first events ih =>
    obtain ⟨u, hstep, hrest⟩ := Option.bind_eq_some_iff.1 h
    simp only [List.cons_append, observe, hstep, ih hrest, List.append_assoc]

theorem observe_append_singleton {event : FleetEvent} (h : s.follow c ws o events = some t) :
    s.observe note c ws o (events ++ [event])
      = s.observe note c ws o events ++ (note t event).toList := by
  rw [observe_append h, observe]
  cases hstep : t.step c ws o event <;> simp [observe]

/-- Notes of notes are notes. -/
theorem filterMap_observe (f : α → Option β) :
    (s.observe note c ws o events).filterMap f
      = s.observe (fun s event => (note s event).bind f) c ws o events := by
  induction events generalizing s with
  | nil => rfl
  | cons event events ih =>
    have hfirst : (note s event).toList.filterMap f = ((note s event).bind f).toList := by
      cases note s event with
      | none => rfl
      | some a => cases h : f a <;> simp [h]
    rw [observe, observe, List.filterMap_append, hfirst]
    cases s.step c ws o event with
    | none => rfl
    | some u => exact congrArg _ ih

theorem stepping?_of_task (h : Accounted s) {before after : List (Task Session File)}
    {task : Task Session File} (htasks : s.tasks = before ++ task :: after) :
    s.stepping? (.move (.advance task.slot)) = some (task.errand, task.stage) := by
  have hnodup := h.nodup_tasks
  rw [htasks] at hnodup
  simp only [stepping?, htasks, cutAt?_of_nodup hnodup, Option.map_some]

theorem stepping?_of_lead {errand : Errand} {stage : Stage Session File}
    (hduty : s.duty = .lead errand stage) :
    s.stepping? (.move .coordinate) = some (errand, stage) := by
  simp only [stepping?, hduty]

/-- The coordinator takes no errand but the leader's. -/
theorem stepping?_of_coordinate (hduty : ∀ errand stage, s.duty ≠ .lead errand stage) :
    s.stepping? (.move .coordinate) = none := by
  simp only [stepping?]

end Observe

/-! ## What the record holds -/

section Record

variable {s t : FleetRun (Net × List SessionCall) (RemoteTarget × Session) Desk File}

theorem call?_plain (event : FleetEvent) : s.plain.call? event = s.call? event := by
  cases event with
  | cancel token => rfl
  | move m =>
    cases m with
    | coordinate =>
      have hduty : s.plain.duty = s.duty.plain := rfl
      simp only [call?, stepping?, hduty]
      cases s.duty with
      | lead errand stage => exact stage.call?_plain
      | _ => rfl
    | advance slot =>
      have htasks : s.plain.tasks = s.tasks.map Task.plain := rfl
      simp only [call?, stepping?, htasks, Task.cutAt?_plain]
      rcases Task.cutAt? slot s.tasks with _ | ⟨before, task, after⟩
      · rfl
      · exact task.stage.call?_plain
    | _ => rfl

/-- Every session is one of the target of its errand. -/
structure Labelled (s : FleetRun (Net × List SessionCall) (RemoteTarget × Session) Desk File) :
    Prop where
  tasks : ∀ task ∈ s.tasks, task.stage.IsFor task.errand.target
  leader : ∀ errand stage, s.duty = .lead errand stage → stage.IsFor errand.target

/-- A change that makes no call, and with which no errand goes on. -/
theorem Labelled.of_quiet (h : Labelled s) {m : FleetMove} (hquiet : s.call? (.move m) = none)
    (hnet : t.world.net.2 = s.world.net.2) (htasks : ∀ task ∈ t.tasks, task ∈ s.tasks)
    (hduty : (∀ errand stage, t.duty ≠ .lead errand stage) ∨ t.duty = s.duty) :
    t.world.net.2 = s.world.net.2 ++ (s.call? (.move m)).toList ∧ Labelled t := by
  refine ⟨?_, fun task hmem => h.tasks task (htasks task hmem), fun errand stage hlead => ?_⟩
  · rw [hquiet, hnet, Option.toList_none, List.append_nil]
  · rcases hduty with hnone | hsame
    · exact absurd hlead (hnone errand stage)
    · exact h.leader errand stage (hsame ▸ hlead)

theorem call?_of_coordinate (hduty : ∀ errand stage, s.duty ≠ .lead errand stage) :
    s.call? (.move .coordinate) = none := by
  rw [call?, stepping?_of_coordinate hduty]
  rfl

/-- The call of a move is added to the record. -/
theorem record_change (h : Labelled s) (haccounted : Accounted s) {m : FleetMove}
    (hc : Change c.recorded ws o s m t) :
    t.world.net.2 = s.world.net.2 ++ (s.call? (.move m)).toList ∧ Labelled t := by
  cases hc with
  | led errand stage stage' world hduty hadvance hgoes =>
    obtain ⟨hnet, hfor⟩ := Stage.record_advance (h.leader errand stage hduty) hadvance
    rw [call?, stepping?_of_lead hduty]
    refine ⟨hnet, h.tasks, fun errand' stage'' hlead => ?_⟩
    cases hlead
    exact hfor
  | leaderDone errand stage result world hduty hadvance =>
    obtain ⟨hnet, _⟩ := Stage.record_advance (h.leader errand stage hduty) hadvance
    rw [call?, stepping?_of_lead hduty]
    exact ⟨hnet, h.tasks, fun _ _ hlead => by cases hlead⟩
  | leaderDied errand stage world hduty hadvance =>
    obtain ⟨hnet, _⟩ := Stage.record_advance (h.leader errand stage hduty) hadvance
    rw [call?, stepping?_of_lead hduty]
    exact ⟨hnet, h.tasks, fun _ _ hlead => by cases hlead⟩
  | leaderStarted target job hduty hwaiting htasks hended hleader hlive hstrict =>
    rw [call?_of_coordinate (by simp [hduty])]
    refine ⟨(List.append_nil _).symm, h.tasks, fun errand stage hlead => ?_⟩
    cases hlead
    exact nofun
  | advanced before after task stage world htasks hadvance hgoes =>
    have hmem : task ∈ s.tasks := by simp [htasks]
    obtain ⟨hnet, hfor⟩ := Stage.record_advance (h.tasks task hmem) hadvance
    rw [call?, stepping?_of_task haccounted htasks]
    refine ⟨hnet, fun other hother => ?_, h.leader⟩
    have hcut : other = { task with stage } ∨ other ∈ before ++ after := by
      simpa [or_left_comm] using hother
    rcases hcut with rfl | hothers
    · exact hfor
    · exact h.tasks other (mem_tasks_of_cut htasks other hothers)
  | ended before after task stage world htasks hadvance hover =>
    have hmem : task ∈ s.tasks := by simp [htasks]
    obtain ⟨hnet, _⟩ := Stage.record_advance (h.tasks task hmem) hadvance
    rw [call?, stepping?_of_task haccounted htasks]
    exact ⟨hnet, fun other hother => h.tasks other (mem_tasks_of_cut htasks other hother), h.leader⟩
  | started slot target waiting hduty hwaiting hlive hroom =>
    rw [call?_of_coordinate (by simp [hduty])]
    refine ⟨(List.append_nil _).symm, fun task hmem => ?_, h.leader⟩
    rcases List.mem_append.1 hmem with hold | hnew
    · exact h.tasks task hold
    · rw [List.mem_singleton.1 hnew]
      exact nofun
  | died before after task net htasks hnet =>
    refine h.of_quiet rfl ?_ (mem_tasks_of_cut htasks) (.inr rfl)
    rw [hnet]
    cases task.stage.session? <;> rfl
  | taken result queue received hstream => exact h.of_quiet rfl rfl (fun _ => id) (.inr rfl)
  | left queue received hstream => exact h.of_quiet rfl rfl (fun _ => id) (.inr rfl)
  | buried slot ended desk hduty hended =>
    exact h.of_quiet (call?_of_coordinate (by simp [hduty])) rfl (fun _ => id) (.inr rfl)
  | announced now desk hduty =>
    exact h.of_quiet (call?_of_coordinate (by simp [hduty])) rfl (fun _ => id) (.inl (by simp))
  | joined slot result ended hduty hended =>
    exact h.of_quiet (call?_of_coordinate (by simp [hduty])) rfl (fun _ => id) (.inl (by simp))
  | withheld slot target waiting now hduty hwaiting hcancelled hroom =>
    exact h.of_quiet (call?_of_coordinate (by simp [hduty])) rfl (fun _ => id) (.inl (by simp))
  | workersDone hduty hwaiting htasks hended hleader =>
    exact h.of_quiet (call?_of_coordinate (by simp [hduty])) rfl (fun _ => id) (.inl (by simp))
  | leaderWithheld target job now desk hduty hwaiting htasks hended hleader hwhy =>
    exact h.of_quiet (call?_of_coordinate (by simp [hduty])) rfl (fun _ => id) (.inl (by simp))
  | sentWorker result desk flags stream hduty hsend =>
    exact h.of_quiet (call?_of_coordinate (by simp [hduty])) rfl (fun _ => id) (.inl (by simp))
  | sentLeader result desk flags stream hduty hsend =>
    exact h.of_quiet (call?_of_coordinate (by simp [hduty])) rfl (fun _ => id) (.inl (by simp))
  | reported report desk hduty hworkers hleader hstart =>
    exact h.of_quiet (call?_of_coordinate (by simp [hduty])) rfl (fun _ => id) (.inl (by simp))

theorem labelled_initial (o : FleetOrders) (flags : CancelFlags)
    (world : World (Net × List SessionCall) Desk) (stream : Option ResultStream) :
    Labelled (initial o flags world stream :
      FleetRun (Net × List SessionCall) (RemoteTarget × Session) Desk File) where
  tasks _ hmem := by cases hmem
  leader _ _ hlead := by cases hlead

theorem record_of_follow {flags : CancelFlags} {world : World (Net × List SessionCall) Desk}
    {stream : Option ResultStream}
    (h : (initial o flags world stream).follow c.recorded ws o events = some s) :
    Labelled s ∧ s.world.net.2 = world.net.2 ++
      (initial o flags world stream).observe call? c.recorded ws o events := by
  refine follow_induction (P := fun events s => Labelled s ∧ s.world.net.2 = world.net.2 ++
    (initial o flags world stream).observe call? c.recorded ws o events) h ?_ ?_
  · exact ⟨labelled_initial o flags world stream, (List.append_nil _).symm⟩
  · intro before u event v _ hfollow hstep ⟨hlabelled, hrecord⟩
    rw [observe_append_singleton hfollow, ← List.append_assoc, ← hrecord]
    cases event with
    | cancel token =>
      cases hstep
      exact ⟨⟨hlabelled.tasks, hlabelled.leader⟩, (List.append_nil _).symm⟩
    | move m =>
      exact (record_change hlabelled (accounted_of_follow hfollow) (change_of_move hstep)).symm

end Record

/-- Calls are seen without the record as they are with it. -/
theorem observe_call?_plain
    (s : FleetRun (Net × List SessionCall) (RemoteTarget × Session) Desk File)
    (events : List FleetEvent) :
    s.plain.observe call? c ws o events = s.observe call? c.recorded ws o events := by
  induction events generalizing s with
  | nil => rfl
  | cons event events ih =>
    rw [observe, observe, call?_plain, step_plain]
    cases s.step c.recorded ws o event with
    | none => rfl
    | some t => exact congrArg _ (ih t)

/-- Every run is a run over the recorded connector, without the record.  The record of that run has
the calls that are to be seen in this one, in their order. -/
theorem exists_recorded_follow {flags : CancelFlags} {world : World Net Desk}
    {stream : Option ResultStream} {s : FleetRun Net Session Desk File}
    (h : (initial o flags world stream).follow c ws o events = some s) :
    ∃ t, (initial o flags ⟨(world.net, []), world.desk⟩ stream).follow c.recorded ws o events
        = some t ∧ t.plain = s ∧
      t.world.net.2 = (initial o flags world stream).observe call? c ws o events := by
  have hinitial : (initial o flags world stream : FleetRun Net Session Desk File) =
      (initial o flags ⟨(world.net, []), world.desk⟩ stream).plain := rfl
  rw [hinitial] at h ⊢
  rw [follow_plain] at h
  obtain ⟨t, ht, hplain⟩ := Option.map_eq_some_iff.1 h
  refine ⟨t, ht, hplain, ?_⟩
  rw [observe_call?_plain]
  exact (record_of_follow ht).2

end FleetRun

end RemoteFleet
