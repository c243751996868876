import Mathlib.Data.List.Induction
import RemoteFleet.Fleet.Dispatch

/-!
# The moves of a run, one by one

`FleetRun.move` is a function of many branches.  `Change` lists what a move can do, one constructor
for each thing that can happen, with the facts that made it possible; `change_of_move` says that
the list is complete.  What every run keeps is proved by cases on a change and carried along a run
by `follow_invariant`; no later proof opens the branches again.

The module ends with a fact about whole runs: from every state some moves lead to the end of the
run (`exists_follow_isOver`).  So a run never gets stuck, and since every move brings it nearer to
its end it cannot go on for ever either.
-/

namespace RemoteFleet

/-! ## Errands of a run -/

/-- What a worker is sent out for. -/
def FleetOrders.workerErrand (o : FleetOrders) (target : RemoteTarget) : Errand :=
  ⟨.worker, target, o.plan.job, o.echo⟩

/-- What the leader is sent out for. -/
def FleetOrders.leaderErrand (o : FleetOrders) (target : RemoteTarget) (job : CommandJob) :
    Errand :=
  ⟨.leader, target, job, o.echo⟩

/-- Whether the workers are not all done. -/
def Duty.inWorkerPhase {Session File : Type} : Duty Session File → Bool
  | .announce | .manage | .sendWorker _ => true
  | _ => false

/-- Whether the leader's result is not known yet. -/
def Duty.awaitsLeader {Session File : Type} : Duty Session File → Bool
  | .announce | .manage | .sendWorker _ | .lead _ _ => true
  | _ => false

/-- Whether nothing is left to do. -/
def Duty.isOver {Session File : Type} : Duty Session File → Bool
  | .finished _ | .crashed => true
  | _ => false

/-- Who takes a move of its own. -/
def FleetMove.actor? : FleetMove → Option Actor
  | .coordinate => some .leader
  | .advance slot => some (.worker slot)
  | _ => none

/-- Whether a move is a mishap: a task dies, or the receiver goes away. -/
def FleetMove.isMishap : FleetMove → Bool
  | .die _ | .dropReceiver => true
  | _ => false

/-- At most a line of the log lies between two states of a desk. -/
def Workstation.Notes {Desk File : Type} (ws : Workstation Desk File) (desk desk' : Desk) : Prop :=
  desk' = desk ∨ ∃ event, desk' = ws.note event desk

namespace FleetRun

section Changes

variable {Net Session Desk File : Type} (c : Connector Net Session) (ws : Workstation Desk File)
  (o : FleetOrders)

/-! ## What a move can do -/

/-- What happens by a move in a state. -/
inductive Change (s : FleetRun Net Session Desk File) :
    FleetMove → FleetRun Net Session Desk File → Prop where
  | announced (now : Timestamp) (desk : Desk) (hduty : s.duty = .announce)
      (hnotes : ws.Notes s.world.desk desk) :
      Change s .coordinate
        { s with startedAt := now, duty := .manage, world := ⟨s.world.net, desk⟩ }
  /-- A task that died is joined. -/
  | buried (slot : Nat) (ended : List (Nat × Option RunResult)) (desk : Desk)
      (hduty : s.duty = .manage) (hended : s.ended = (slot, none) :: ended)
      (hnotes : ws.Notes s.world.desk desk) :
      Change s .coordinate { s with ended, world := ⟨s.world.net, desk⟩ }
  /-- A task that has a result is joined. -/
  | joined (slot : Nat) (result : RunResult) (ended : List (Nat × Option RunResult))
      (hduty : s.duty = .manage) (hended : s.ended = (slot, some result) :: ended) :
      Change s .coordinate
        { s with ended, slots := s.slots.set slot (some result), duty := .sendWorker result }
  /-- A worker is reported as cancelled. -/
  | withheld (slot : Nat) (target : RemoteTarget) (waiting : List (Nat × RemoteTarget))
      (now : Timestamp) (hduty : s.duty = .manage)
      (hwaiting : s.waiting = (slot, target) :: waiting) (hcancelled : s.isCancelled o = true)
      (hroom : s.inFlight < max o.plan.concurrency 1) :
      Change s .coordinate
        { s with waiting,
                 slots := s.slots.set slot
                  (some (.cancelled .worker target o.plan.job.name now)),
                 duty := .sendWorker (.cancelled .worker target o.plan.job.name now) }
  | started (slot : Nat) (target : RemoteTarget) (waiting : List (Nat × RemoteTarget))
      (hduty : s.duty = .manage) (hwaiting : s.waiting = (slot, target) :: waiting)
      (hlive : s.isCancelled o = false) (hroom : s.inFlight < max o.plan.concurrency 1) :
      Change s .coordinate
        { s with waiting, tasks := s.tasks ++ [⟨slot, o.workerErrand target, .waiting⟩] }
  /-- All workers are done, and there is no leader. -/
  | workersDone (hduty : s.duty = .manage) (hwaiting : s.waiting = []) (htasks : s.tasks = [])
      (hended : s.ended = []) (hleader : o.targets.leader = none) :
      Change s .coordinate { s with workers := s.collect ws o, duty := .report }
  /-- All workers are done, and the leader is cancelled or skipped. -/
  | leaderWithheld (target : RemoteTarget) (job : CommandJob) (now : Timestamp) (desk : Desk)
      (hduty : s.duty = .manage) (hwaiting : s.waiting = []) (htasks : s.tasks = [])
      (hended : s.ended = []) (hleader : o.targets.leader = some (target, job))
      (hwhy : s.isCancelled o = true ∨
        o.plan.strictWorkers = true ∧ (s.collect ws o).any (!·.succeeded) = true)
      (hnotes : ws.Notes s.world.desk desk) :
      Change s .coordinate
        { s with workers := s.collect ws o, world := ⟨s.world.net, desk⟩,
                 leader := some (.cancelled .leader target job.name now),
                 duty := .sendLeader (.cancelled .leader target job.name now) }
  /-- All workers are done, and the leader's errand begins. -/
  | leaderStarted (target : RemoteTarget) (job : CommandJob)
      (hduty : s.duty = .manage) (hwaiting : s.waiting = []) (htasks : s.tasks = [])
      (hended : s.ended = []) (hleader : o.targets.leader = some (target, job))
      (hlive : s.isCancelled o = false)
      (hstrict : (o.plan.strictWorkers && (s.collect ws o).any (!·.succeeded)) = false) :
      Change s .coordinate
        { s with workers := s.collect ws o, duty := .lead (o.leaderErrand target job) .waiting }
  | sentWorker (result : RunResult) (desk : Desk) (flags : CancelFlags)
      (stream : Option ResultStream) (hduty : s.duty = .sendWorker result)
      (hsend : s.send ws o result
        = some { s with world := ⟨s.world.net, desk⟩, flags, stream }) :
      Change s .coordinate
        { s with world := ⟨s.world.net, desk⟩, flags, stream, duty := .manage }
  | sentLeader (result : RunResult) (desk : Desk) (flags : CancelFlags)
      (stream : Option ResultStream) (hduty : s.duty = .sendLeader result)
      (hsend : s.send ws o result
        = some { s with world := ⟨s.world.net, desk⟩, flags, stream }) :
      Change s .coordinate
        { s with world := ⟨s.world.net, desk⟩, flags, stream, duty := .report }
  /-- The leader's errand goes on. -/
  | led (errand : Errand) (stage stage' : Stage Session File) (world : World Net Desk)
      (hduty : s.duty = .lead errand stage)
      (hadvance : stage.advance c ws errand s.world = (stage', world))
      (hgoes : stage'.isOver = false) :
      Change s .coordinate { s with world, duty := .lead errand stage' }
  | leaderDone (errand : Errand) (stage : Stage Session File) (result : RunResult)
      (world : World Net Desk) (hduty : s.duty = .lead errand stage)
      (hadvance : stage.advance c ws errand s.world = (.done result, world)) :
      Change s .coordinate
        { s with world, leader := some result, duty := .sendLeader result }
  | leaderDied (errand : Errand) (stage : Stage Session File) (world : World Net Desk)
      (hduty : s.duty = .lead errand stage)
      (hadvance : stage.advance c ws errand s.world = (.dead, world)) :
      Change s .coordinate { s with world, duty := .crashed }
  | reported (report : FleetReport) (desk : Desk) (hduty : s.duty = .report)
      (hworkers : report.workers = s.workers) (hleader : report.leader = s.leader)
      (hstart : report.startedAt = s.startedAt) :
      Change s .coordinate { s with world := ⟨s.world.net, desk⟩, duty := .finished report }
  /-- A task goes on. -/
  | advanced (before after : List (Task Session File)) (task : Task Session File)
      (stage : Stage Session File) (world : World Net Desk)
      (htasks : s.tasks = before ++ task :: after)
      (hadvance : task.stage.advance c ws task.errand s.world = (stage, world))
      (hgoes : stage.isOver = false) :
      Change s (.advance task.slot)
        { s with world, tasks := before ++ { task with stage } :: after }
  /-- A task ends. -/
  | ended (before after : List (Task Session File)) (task : Task Session File)
      (stage : Stage Session File) (world : World Net Desk)
      (htasks : s.tasks = before ++ task :: after)
      (hadvance : task.stage.advance c ws task.errand s.world = (stage, world))
      (hover : stage.isOver = true) :
      Change s (.advance task.slot)
        { s with world, tasks := before ++ after,
                 ended := s.ended ++ [(task.slot, stage.result?)] }
  /-- A task dies, and the session that it holds is let go. -/
  | died (before after : List (Task Session File)) (task : Task Session File) (net : Net)
      (htasks : s.tasks = before ++ task :: after)
      (hnet : net = match task.stage.session? with
        | none => s.world.net
        | some session => c.drop session s.world.net) :
      Change s (.die task.slot)
        { s with world := ⟨net, s.world.desk⟩, tasks := before ++ after,
                 ended := s.ended ++ [(task.slot, none)] }
  | taken (result : RunResult) (queue received : List RunResult)
      (hstream : s.stream = some ⟨result :: queue, received, true⟩) :
      Change s .receive { s with stream := some ⟨queue, received ++ [result], true⟩ }
  | left (queue received : List RunResult)
      (hstream : s.stream = some ⟨queue, received, true⟩) :
      Change s .dropReceiver { s with stream := some ⟨[], received, false⟩ }

end Changes

variable {Net Session Desk File : Type} {c : Connector Net Session} {ws : Workstation Desk File}
  {o : FleetOrders} {s t : FleetRun Net Session Desk File}

/-! ## The list is complete -/

/-- Sending touches the desk, the flags and the stream only. -/
theorem send_frame {result : RunResult} (h : s.send ws o result = some t) :
    ∃ desk flags stream, t = { s with world := ⟨s.world.net, desk⟩, flags, stream } := by
  unfold send at h
  split at h
  · cases h
    exact ⟨s.world.desk, s.flags, s.stream, rfl⟩
  · next stream hstream =>
    split at h
    · split at h
      · cases h
        exact ⟨s.world.desk, s.flags, _, rfl⟩
      · cases h
    · split at h
      · cases h
        exact ⟨s.world.desk, s.flags, s.stream, rfl⟩
      · cases h
        exact ⟨_, _, s.stream, rfl⟩

/-- Sending writes a line of the log at most. -/
theorem notes_of_send {result : RunResult} (h : s.send ws o result = some t) :
    ws.Notes s.world.desk t.world.desk := by
  unfold send at h
  split at h
  · cases h
    exact .inl rfl
  · split at h
    · split at h
      · cases h
        exact .inl rfl
      · cases h
    · split at h
      · cases h
        exact .inl rfl
      · cases h
        exact .inr ⟨_, rfl⟩

theorem change_of_join (h : s.join ws = some t) (hduty : s.duty = .manage) :
    Change c ws o s .coordinate t := by
  unfold join at h
  split at h
  · cases h
  · next slot ended hended =>
    cases h
    exact .buried slot ended _ hduty hended (.inr ⟨_, rfl⟩)
  · next slot result ended hended =>
    cases h
    exact .joined slot result ended hduty hended

theorem change_of_endWorkers (hduty : s.duty = .manage) (hwaiting : s.waiting = [])
    (hnone : s.inFlight = 0) : Change c ws o s .coordinate (s.endWorkers ws o) := by
  have htasks : s.tasks = [] := List.length_eq_zero_iff.1 (by unfold inFlight at hnone; omega)
  have hended : s.ended = [] := List.length_eq_zero_iff.1 (by unfold inFlight at hnone; omega)
  unfold endWorkers
  cases hleader : o.targets.leader with
  | none => exact .workersDone hduty hwaiting htasks hended hleader
  | some leader =>
    obtain ⟨target, job⟩ := leader
    simp only [startLeader]
    split
    · next hcancelled =>
      exact .leaderWithheld target job _ _ hduty hwaiting htasks hended hleader (.inl hcancelled)
        (.inl rfl)
    · next hlive =>
      split
      · next hskip =>
        exact .leaderWithheld target job _ _ hduty hwaiting htasks hended hleader
          (.inr (Bool.and_eq_true_iff.1 hskip)) (.inr ⟨_, rfl⟩)
      · next hstrict =>
        exact .leaderStarted target job hduty hwaiting htasks hended hleader
          (Bool.eq_false_iff.2 hlive) (Bool.eq_false_iff.2 hstrict)

theorem change_of_advanceLeader {errand : Errand} {stage : Stage Session File}
    (hduty : s.duty = .lead errand stage) :
    Change c ws o s .coordinate (s.advanceLeader c ws errand stage) := by
  rcases hadvance : stage.advance c ws errand s.world with ⟨stage', world⟩
  simp only [advanceLeader, hadvance]
  split
  · next result => exact .leaderDone errand stage result world hduty hadvance
  · exact .leaderDied errand stage world hduty hadvance
  · next hdone hdead =>
    refine .led errand stage stage' world hduty hadvance ?_
    cases stage' with
    | done result => exact absurd rfl (hdone result)
    | dead => exact absurd rfl hdead
    | _ => rfl

theorem change_of_coordinate (h : s.coordinate c ws o = some t) :
    Change c ws o s .coordinate t := by
  unfold coordinate at h
  split at h
  · next hduty =>
    cases h
    exact .announced _ _ hduty (.inr ⟨_, rfl⟩)
  · next hduty =>
    split at h
    · exact change_of_join h hduty
    · next hjoin =>
      split at h
      · next hwaiting =>
        cases h
        refine change_of_endWorkers hduty hwaiting ?_
        simp only [mustJoin, hwaiting, decide_eq_true_eq] at hjoin
        omega
      · next slot target waiting hwaiting =>
        cases h
        simp only [mustJoin, hwaiting, decide_eq_true_eq, Nat.not_le] at hjoin
        unfold start
        split
        · next hcancelled =>
          exact .withheld slot target waiting _ hduty hwaiting hcancelled hjoin
        · next hlive =>
          exact .started slot target waiting hduty hwaiting (Bool.eq_false_iff.2 hlive) hjoin
  · next result hduty =>
    obtain ⟨u, hu, rfl⟩ := Option.map_eq_some_iff.1 h
    obtain ⟨desk, flags, stream, rfl⟩ := send_frame hu
    exact .sentWorker result desk flags stream hduty hu
  · next hduty =>
    cases h
    exact change_of_advanceLeader hduty
  · next result hduty =>
    obtain ⟨u, hu, rfl⟩ := Option.map_eq_some_iff.1 h
    obtain ⟨desk, flags, stream, rfl⟩ := send_frame hu
    exact .sentLeader result desk flags stream hduty hu
  · next hduty =>
    cases h
    exact .reported _ _ hduty rfl rfl rfl
  · cases h
  · cases h

theorem change_of_advance {slot : Nat} (h : s.advance c ws slot = some t) :
    Change c ws o s (.advance slot) t := by
  unfold advance at h
  split at h
  · cases h
  · next before task after hcut =>
    obtain ⟨htasks, rfl⟩ := Task.eq_of_cutAt? hcut
    rcases hadvance : task.stage.advance c ws task.errand s.world with ⟨stage, world⟩
    simp only [hadvance] at h
    split at h
    · next hover =>
      cases h
      exact .ended before after task stage world htasks hadvance hover
    · next hgoes =>
      cases h
      exact .advanced before after task stage world htasks hadvance (Bool.eq_false_iff.2 hgoes)

theorem change_of_die {slot : Nat} (h : s.die c slot = some t) :
    Change c ws o s (.die slot) t := by
  unfold die at h
  split at h
  · cases h
  · next before task after hcut =>
    obtain ⟨htasks, rfl⟩ := Task.eq_of_cutAt? hcut
    cases h
    exact .died before after task _ htasks rfl

/-- Whatever a move does is one of the changes. -/
theorem change_of_move {m : FleetMove} (h : s.move c ws o m = some t) : Change c ws o s m t := by
  cases m with
  | coordinate => exact change_of_coordinate h
  | advance slot => exact change_of_advance h
  | die slot => exact change_of_die h
  | receive =>
    simp only [move, receive] at h
    split at h
    · next result queue received hstream =>
      cases h
      exact .taken result queue received hstream
    · cases h
  | dropReceiver =>
    simp only [move, dropReceiver] at h
    split at h
    · next queue received hstream =>
      cases h
      exact .left queue received hstream
    · cases h

/-! ## Whole runs -/

/-- What holds at the beginning, and after every event if it did before it, holds at the end.  What
holds may be said of the events so far as well as of the state. -/
theorem follow_induction {P : List FleetEvent → FleetRun Net Session Desk File → Prop}
    {events : List FleetEvent} (h : s.follow c ws o events = some t) (hs : P [] s)
    (hstep : ∀ before u event v, before ++ [event] <+: events →
      s.follow c ws o before = some u → u.step c ws o event = some v → P before u →
      P (before ++ [event]) v) : P events t := by
  induction events using List.reverseRecOn generalizing t with
  | nil =>
    cases h
    exact hs
  | append_singleton before event ih =>
    rw [follow_append] at h
    obtain ⟨u, hu, hlast⟩ := Option.bind_eq_some_iff.1 h
    obtain ⟨v, hv, hend⟩ := Option.bind_eq_some_iff.1 hlast
    cases hend
    refine hstep before u event t (List.prefix_refl _) hu hv (ih hu ?_)
    intro before' u' event' v' hbefore
    exact hstep before' u' event' v' (hbefore.trans (List.prefix_append _ _))

/-- What no change and no cancelling breaks holds along a run, if it holds at its beginning.  A
change may be taken to be by a move of the run. -/
theorem follow_invariant {P : FleetRun Net Session Desk File → Prop} {events : List FleetEvent}
    (hchange : ∀ s m t, .move m ∈ events → Change c ws o s m t → P s → P t)
    (hcancel : ∀ s token, P s → P (s.cancel token))
    (h : s.follow c ws o events = some t) (hs : P s) : P t := by
  refine follow_induction (P := fun _ s => P s) h hs ?_
  intro before u event v hbefore _ hstep hu
  cases event with
  | move m =>
    have hmem : .move m ∈ events := hbefore.subset (List.mem_append_right _ List.mem_cons_self)
    exact hchange u m v hmem (change_of_move hstep) hu
  | cancel token =>
    cases hstep
    exact hcancel u token hu

/-- A run in which `a` comes before `b`. -/
theorem follow_trans {u : FleetRun Net Session Desk File} {a b : List FleetEvent}
    (hst : s.follow c ws o a = some t) (htu : t.follow c ws o b = some u) :
    s.follow c ws o (a ++ b) = some u := by
  rw [follow_append, hst]
  exact htu

/-! ## No run gets stuck -/

/-- Only a stream that holds something makes a sender wait. -/
theorem send_eq_none {result : RunResult} (h : s.send ws o result = none) :
    ∃ r queue received, s.stream = some ⟨r :: queue, received, true⟩ := by
  unfold send at h
  split at h
  · cases h
  · next stream hstream =>
    split at h
    · next hopen =>
      split at h
      · cases h
      · next hfull =>
        obtain ⟨queue, received, isOpen⟩ := stream
        cases hopen
        cases queue with
        | nil => simp [ResultStream.capacity] at hfull
        | cons r queue => exact ⟨r, queue, received, hstream⟩
    · split at h <;> cases h

variable (c ws) in
/-- A task that goes on can take a step. -/
theorem exists_advance {task : Task Session File} {tasks : List (Task Session File)}
    (h : s.tasks = task :: tasks) : ∃ t, s.advance c ws task.slot = some t := by
  simp only [advance, h, Task.cutAt?]
  split
  · next hcut => simp at hcut
  · split <;> exact ⟨_, rfl⟩

/-- The coordinator's move is no mishap. -/
theorem exists_move_of_coordinate (h : (s.coordinate c ws o).isSome = true) :
    ∃ m t, m.isMishap = false ∧ s.move c ws o m = some t := by
  obtain ⟨t, ht⟩ := Option.isSome_iff_exists.1 h
  exact ⟨.coordinate, t, rfl, ht⟩

/-- When a task must be joined, one has ended or can go on. -/
theorem exists_move_of_mustJoin (hduty : s.duty = .manage) (hjoin : s.mustJoin o = true) :
    ∃ m t, m.isMishap = false ∧ s.move c ws o m = some t := by
  cases hended : s.ended with
  | cons entry ended =>
    obtain ⟨slot, result⟩ := entry
    apply exists_move_of_coordinate
    cases result <;> simp [coordinate, hduty, hjoin, join, hended]
  | nil =>
    have hsome : 0 < s.inFlight := by
      unfold mustJoin at hjoin
      split at hjoin
      · exact of_decide_eq_true hjoin
      · have := of_decide_eq_true hjoin
        omega
    cases htasks : s.tasks with
    | nil => simp [inFlight, htasks, hended] at hsome
    | cons task tasks =>
      obtain ⟨t, ht⟩ := exists_advance c ws htasks
      exact ⟨.advance task.slot, t, rfl, ht⟩

/-- A sender goes on, or the receiver can take something. -/
theorem exists_move_of_send (result : RunResult)
    (hsend : ∀ u, s.send ws o result = some u → (s.coordinate c ws o).isSome = true) :
    ∃ m t, m.isMishap = false ∧ s.move c ws o m = some t := by
  cases h : s.send ws o result with
  | some u => exact exists_move_of_coordinate (hsend u h)
  | none =>
    obtain ⟨r, queue, received, hstream⟩ := send_eq_none h
    have hreceive : s.receive.isSome = true := by simp [receive, hstream]
    obtain ⟨t, ht⟩ := Option.isSome_iff_exists.1 hreceive
    exact ⟨.receive, t, rfl, ht⟩

variable (c ws o) in
/-- As long as something is left to do, some move is possible that is no mishap. -/
theorem exists_move (h : s.duty.isOver = false) :
    ∃ m t, m.isMishap = false ∧ s.move c ws o m = some t := by
  cases hduty : s.duty with
  | announce => exact exists_move_of_coordinate (by simp [coordinate, hduty])
  | manage =>
    cases hjoin : s.mustJoin o with
    | true => exact exists_move_of_mustJoin hduty hjoin
    | false =>
      apply exists_move_of_coordinate
      cases hwaiting : s.waiting <;> simp [coordinate, hduty, hjoin, hwaiting]
  | sendWorker result =>
    exact exists_move_of_send result fun u hu => by simp [coordinate, hduty, hu]
  | lead errand stage => exact exists_move_of_coordinate (by simp [coordinate, hduty])
  | sendLeader result =>
    exact exists_move_of_send result fun u hu => by simp [coordinate, hduty, hu]
  | report => exact exists_move_of_coordinate (by simp [coordinate, hduty])
  | finished report => simp [hduty, Duty.isOver] at h
  | crashed => simp [hduty, Duty.isOver] at h

/-- There is no endless way nearer to the end. -/
theorem nearer_wellFounded :
    WellFounded (Nearer : FleetRun Net Session Desk File → FleetRun Net Session Desk File → Prop)
    := by
  refine Subrelation.wf (r := InvImage (Prod.Lex (· < ·) (· < ·))
    fun s : FleetRun Net Session Desk File => (s.work, s.backlog)) ?_ ?_
  · intro t s h
    exact Prod.lex_def.2 h
  · exact InvImage.wf _ (Prod.lex Nat.lt_wfRel Nat.lt_wfRel).wf

variable (c ws o) in
/-- From every state some moves lead to the end, without a mishap. -/
theorem exists_follow_isOver (s : FleetRun Net Session Desk File) :
    ∃ (moves : List FleetMove) (t : FleetRun Net Session Desk File),
      (∀ m ∈ moves, m.isMishap = false) ∧ s.follow c ws o (moves.map .move) = some t ∧
        t.duty.isOver = true := by
  induction s using nearer_wellFounded.induction with
  | _ s ih =>
    cases hover : s.duty.isOver with
    | true => exact ⟨[], s, by simp, rfl, hover⟩
    | false =>
      obtain ⟨m, u, hm, hmove⟩ := exists_move c ws o hover
      obtain ⟨moves, t, hmoves, hfollow, ht⟩ := ih u (move_nearer hmove)
      refine ⟨m :: moves, t, List.forall_mem_cons.2 ⟨hm, hmoves⟩, ?_, ht⟩
      simp only [List.map_cons, follow, step, hmove, Option.bind_some, hfollow]

end FleetRun

end RemoteFleet
