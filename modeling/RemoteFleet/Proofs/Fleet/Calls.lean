import Mathlib.Data.List.Perm.Basic
import RemoteFleet.Proofs.Fleet.Sessions
import RemoteFleet.Proofs.Fleet.Survival

/-!
# Who was called

An errand calls its host once, with one of its steps.  `calls` lists the actors whose attempts to
connect are made in the course of events.

`HasCalled` reads off a state who must have called: a worker that has come so far, or whose result
is not that of a cancelled one.  `called_iff` says that it is right at every moment of a run in
which no task dies.  What the results are that came in, `Ran` and `Outcomes` say: they come of the
errand of their slot, or are those of cancelled workers.
-/

namespace RemoteFleet

/-! ## Results -/

/-- A result that comes of an errand is not that of a cancelled run. -/
theorem Errand.Gives.status_ne_cancelled {e : Errand} {r : RunResult} (h : e.Gives r) :
    r.status ≠ .cancelled := by
  cases h with
  | refused start stop error => simp [Errand.failed]
  | uncaptured start stop path error => simp [Errand.failed]
  | ran start stop capture ending =>
    unfold Errand.resultOf
    split
    · simp [Errand.failed]
    · split
      · simp [Errand.failed]
      · split <;> simp [Errand.succeeded, Errand.failed]

/-- The errand of an actor. -/
def FleetOrders.errand? (o : FleetOrders) : Actor → Option Errand
  | .worker slot => o.targets.workers[slot]?.map o.workerErrand
  | .leader => o.targets.leader.map fun (target, job) => o.leaderErrand target job

/-- A result that comes of the errand of an actor. -/
def FleetOrders.Ran (o : FleetOrders) (actor : Actor) (r : RunResult) : Prop :=
  ∃ e, o.errand? actor = some e ∧ e.Gives r

theorem FleetOrders.Ran.status_ne_cancelled {o : FleetOrders} {actor : Actor} {r : RunResult}
    (h : o.Ran actor r) : r.status ≠ .cancelled := by
  obtain ⟨e, _, hgives⟩ := h
  exact hgives.status_ne_cancelled

/-- The result of an actor. -/
def FleetReport.result? (report : FleetReport) : Actor → Option RunResult
  | .worker slot => report.workers[slot]?
  | .leader => report.leader

/-! ## Calls -/

namespace Stage

variable {Net Session Desk File : Type} {c : Connector Net Session} {ws : Workstation Desk File}
  {e : Errand} {stage stage' : Stage Session File} {w w' : World Net Desk}

/-- Whether the next step is the attempt to connect. -/
def isConnecting : Stage Session File → Bool
  | .connecting _ => true
  | _ => false

/-- A step leaves the target to be called, unless it calls it. -/
theorem callee?_advance (h : stage.advance c ws e w = (stage', w')) :
    stage'.callee? e = if stage.isConnecting then none else stage.callee? e := by
  cases stage with
  | waiting =>
    cases h
    rfl
  | connecting start =>
    simp only [advance, Errand.connect] at h
    split at h <;> cases h <;> rfl
  | connected start session =>
    simp only [advance, Errand.openCapture] at h
    split at h
    · cases h
      rfl
    · split at h <;> cases h <;> rfl
  | listening start session capture transcript =>
    simp only [advance, Errand.listen] at h
    split at h <;> cases h <;> rfl
  | settling start aftermath =>
    simp only [advance, Errand.settle] at h
    split at h <;> cases h <;> rfl
  | _ =>
    cases h
    rfl

theorem callee?_eq_none_advance (h : stage.advance c ws e w = (stage', w')) :
    stage'.callee? e = none ↔ stage.callee? e = none ∨ stage.isConnecting = true := by
  rw [callee?_advance h]
  cases stage <;> simp [isConnecting, callee?]

end Stage

namespace FleetRun

variable {Net Session Desk File : Type}

/-- Who makes an attempt to connect with an event. -/
def caller? (s : FleetRun Net Session Desk File) : FleetEvent → Option Actor
  | .move m => (s.connectsTo? m).bind fun _ => m.actor?
  | .cancel _ => none

/-- Who makes attempts to connect in the course of events. -/
def calls (c : Connector Net Session) (ws : Workstation Desk File) (o : FleetOrders)
    (s : FleetRun Net Session Desk File) : List FleetEvent → List Actor
  | [] => []
  | event :: events => (s.caller? event).toList ++ match s.step c ws o event with
    | none => []
    | some t => t.calls c ws o events

variable {c : Connector Net Session} {ws : Workstation Desk File} {o : FleetOrders}
  {s t : FleetRun Net Session Desk File} {events : List FleetEvent}

theorem calls_append (h : s.follow c ws o events = some t) (later : List FleetEvent) :
    s.calls c ws o (events ++ later) = s.calls c ws o events ++ t.calls c ws o later := by
  induction events generalizing s with
  | nil =>
    cases h
    rfl
  | cons event events ih =>
    obtain ⟨u, hstep, hrest⟩ := Option.bind_eq_some_iff.1 h
    simp only [List.cons_append, calls, hstep, ih hrest, List.append_assoc]

theorem calls_append_singleton {event : FleetEvent} (h : s.follow c ws o events = some t) :
    s.calls c ws o (events ++ [event]) = s.calls c ws o events ++ (t.caller? event).toList := by
  rw [calls_append h, calls]
  cases t.step c ws o event <;> simp [calls]

/-! ### Who calls with a change -/

/-- Cutting at the slot of a task finds the task, if it is the only one of its slot. -/
theorem cutAt?_of_nodup {before after : List (Task Session File)} {task : Task Session File}
    (h : ((before ++ task :: after).map (·.slot)).Nodup) :
    Task.cutAt? task.slot (before ++ task :: after) = some (before, task, after) := by
  induction before with
  | nil => simp [Task.cutAt?]
  | cons first before ih =>
    rw [List.cons_append, List.map_cons, List.nodup_cons] at h
    have hne : first.slot ≠ task.slot := by
      intro heq
      refine h.1 ?_
      rw [heq]
      exact List.mem_map_of_mem (List.mem_append_right _ List.mem_cons_self)
    rw [List.cons_append, Task.cutAt?, if_neg hne, ih h.2]
    rfl

theorem Accounted.nodup_tasks (h : Accounted s) : (s.tasks.map (·.slot)).Nodup := by
  have hnodup := h.nodup
  rw [openPlaces] at hnodup
  exact (List.nodup_append.1 (List.nodup_append.1 hnodup).1).2.1

theorem caller?_of_task (h : Accounted s) {before after : List (Task Session File)}
    {task : Task Session File} (htasks : s.tasks = before ++ task :: after) :
    s.caller? (.move (.advance task.slot))
      = if task.stage.isConnecting then some (.worker task.slot) else none := by
  have hnodup := h.nodup_tasks
  rw [htasks] at hnodup
  obtain ⟨slot, errand, stage⟩ := task
  simp only [caller?, connectsTo?, htasks, cutAt?_of_nodup hnodup]
  cases stage <;> rfl

theorem caller?_of_lead {errand : Errand} {stage : Stage Session File}
    (hduty : s.duty = .lead errand stage) :
    s.caller? (.move .coordinate) = if stage.isConnecting then some .leader else none := by
  simp only [caller?, connectsTo?, hduty]
  cases stage <;> rfl

/-- The coordinator calls nobody but for the leader. -/
theorem caller?_of_coordinate (hduty : ∀ errand stage, s.duty ≠ .lead errand stage) :
    s.caller? (.move .coordinate) = none := by
  simp only [caller?, connectsTo?]
  cases h : s.duty with
  | lead errand stage => exact absurd h (hduty errand stage)
  | _ => rfl

/-! ## Results that came in -/

/-- Results come of the errands of their slots, or are those of cancelled runs. -/
structure Outcomes (o : FleetOrders) (s : FleetRun Net Session Desk File) : Prop where
  ended : ∀ slot r, (slot, some r) ∈ s.ended → o.Ran (.worker slot) r
  slots : ∀ slot r, s.slots[slot]? = some (some r) → r.status = .cancelled ∨ o.Ran (.worker slot) r
  leader : ∀ r, s.leader = some r → r.status = .cancelled ∨ o.Ran .leader r

theorem outcomes_initial (o : FleetOrders) (flags : CancelFlags) (world : World Net Desk)
    (stream : Option ResultStream) :
    Outcomes o (initial o flags world stream : FleetRun Net Session Desk File) where
  ended slot r h := by cases h
  slots slot r h := by
    have hmem := List.mem_of_getElem? h
    cases List.eq_of_mem_replicate hmem
  leader r h := by cases h

/-- A slot is filled with a result of its errand, or with that of a cancelled worker. -/
theorem Outcomes.slots_set (h : Outcomes o s) {slot : Nat} {r : RunResult}
    (hr : r.status = .cancelled ∨ o.Ran (.worker slot) r) :
    ∀ k r', (s.slots.set slot (some r))[k]? = some (some r') →
      r'.status = .cancelled ∨ o.Ran (.worker k) r' := by
  intro k r' hk
  rw [List.getElem?_set] at hk
  split at hk
  · next heq =>
    split at hk
    · cases hk
      exact heq ▸ hr
    · cases hk
  · exact h.slots k r' hk

/-- Every result that comes in is of one of these kinds. -/
theorem Outcomes.change (h : Outcomes o s) (hplaced : Placed c o s) {m : FleetMove}
    (hc : Change c ws o s m t) : Outcomes o t := by
  cases hc with
  | buried slot ended desk hduty hended =>
    refine { h with ended := ?_ }
    intro k r hmem
    exact h.ended k r (hended ▸ List.mem_cons_of_mem _ hmem)
  | joined slot result ended hduty hended =>
    refine { h with
      ended := ?_, slots := h.slots_set (.inr (h.ended slot result (hended ▸ List.mem_cons_self))) }
    intro k r hmem
    exact h.ended k r (hended ▸ List.mem_cons_of_mem _ hmem)
  | withheld slot target waiting now hduty hwaiting hcancelled hroom =>
    exact { h with slots := h.slots_set (.inl rfl) }
  | leaderWithheld target job now desk hduty hwaiting htasks hended hleader hwhy =>
    refine { h with leader := ?_ }
    intro r hr
    cases hr
    exact .inl rfl
  | leaderDone errand stage result world hduty hadvance =>
    refine { h with leader := ?_ }
    intro r hr
    cases hr
    have hlead := hplaced.duty
    rw [hduty] at hlead
    obtain ⟨_, hgoes, target, job, hleader, rfl⟩ := hlead
    have herrand : o.errand? .leader = some (o.leaderErrand target job) := by
      rw [FleetOrders.errand?, hleader]
      rfl
    exact .inr ⟨_, herrand, Errand.gives_of_advance hgoes hadvance⟩
  | ended before after task stage world htasks hadvance hover =>
    refine { h with ended := ?_ }
    intro k r hmem
    rcases List.mem_append.1 hmem with hold | hnew
    · exact h.ended k r hold
    · obtain ⟨rfl, hr⟩ := Prod.mk.inj (List.mem_singleton.1 hnew)
      obtain ⟨hgoes, target, htarget, herrand⟩ := hplaced.tasks task (by simp [htasks])
      cases stage with
      | done result =>
        cases hr
        refine ⟨o.workerErrand target, ?_, herrand ▸ Errand.gives_of_advance hgoes hadvance⟩
        rw [FleetOrders.errand?, htarget]
        rfl
      | dead => cases hr
      | _ => cases hover
  | died before after task net htasks hnet =>
    refine { h with ended := ?_ }
    intro k r hmem
    rcases List.mem_append.1 hmem with hold | hnew
    · exact h.ended k r hold
    · cases List.mem_singleton.1 hnew
  | _ => exact { h with }

/-! ## Who has called -/

/-- Whether the leader has called, given its result if there is one. -/
def LeaderHasCalled (leader : Option RunResult) : Duty Session File → Prop
  | .announce | .manage | .sendWorker _ => False
  | .lead errand stage => stage.callee? errand = none
  | .sendLeader _ | .report | .finished _ => ∃ r, leader = some r ∧ r.status ≠ .cancelled
  | .crashed => True

/-- What a state tells of who has called. -/
def HasCalled (s : FleetRun Net Session Desk File) : Actor → Prop
  | .worker slot =>
    (∃ task ∈ s.tasks, task.slot = slot ∧ task.stage.callee? task.errand = none) ∨
      (∃ r, (slot, some r) ∈ s.ended) ∨
      ∃ r, s.slots[slot]? = some (some r) ∧ r.status ≠ .cancelled
  | .leader => LeaderHasCalled s.leader s.duty

theorem not_hasCalled_initial (o : FleetOrders) (flags : CancelFlags) (world : World Net Desk)
    (stream : Option ResultStream) (actor : Actor) :
    ¬ (initial o flags world stream : FleetRun Net Session Desk File).HasCalled actor := by
  cases actor with
  | leader => exact id
  | worker slot =>
    rintro (⟨task, hmem, _⟩ | ⟨r, hmem⟩ | ⟨r, hslot, _⟩)
    · cases hmem
    · cases hmem
    · cases List.eq_of_mem_replicate (List.mem_of_getElem? hslot)

theorem caller?_coordinate_ne_worker (slot : Nat) :
    s.caller? (.move .coordinate) ≠ some (.worker slot) := by
  cases h : s.connectsTo? .coordinate <;> simp [caller?, FleetMove.actor?, h]

/-- A slot that is filled says that its worker has called, unless the worker is cancelled. -/
theorem hasCalled_set {slot k : Nat} {r : RunResult} (hempty : s.slots[slot]? = some none) :
    (∃ r', (s.slots.set slot (some r))[k]? = some (some r') ∧ r'.status ≠ .cancelled) ↔
      k = slot ∧ r.status ≠ .cancelled ∨
        ∃ r', s.slots[k]? = some (some r') ∧ r'.status ≠ .cancelled := by
  by_cases heq : k = slot
  · subst heq
    rw [List.getElem?_set_self (List.getElem?_eq_some_iff.1 hempty).1, hempty]
    simp
  · rw [List.getElem?_set_ne (Ne.symm heq)]
    simp [heq]

/-- Some member of a list, cut at one of them, has a property: that one or another. -/
theorem exists_mem_cut {α : Type} {p : α → Prop} {before after : List α} {x : α} :
    (∃ y ∈ before ++ x :: after, p y) ↔ p x ∨ ∃ y ∈ before ++ after, p y := by
  simp only [List.mem_append, List.mem_cons, or_and_right, exists_or, exists_eq_left]
  exact or_left_comm

/-- A worker has called after a change if it had before, or makes its call with the change. -/
theorem hasCalled_worker_change (haccounted : Accounted s) (houtcomes : Outcomes o s)
    (hs : s.Unharmed) (ht : t.Unharmed) {m : FleetMove} (hc : Change c ws o s m t) (k : Nat) :
    t.HasCalled (.worker k) ↔ s.HasCalled (.worker k) ∨ s.caller? (.move m) = some (.worker k) := by
  cases hc with
  | buried slot ended desk hduty hended =>
    exact absurd (hended ▸ List.mem_cons_self) (hs slot)
  | joined slot result ended hduty hended =>
    have hran := houtcomes.ended slot result (hended ▸ List.mem_cons_self)
    have hempty := haccounted.empty slot (by simp [openPlaces, hended])
    simp only [HasCalled, hasCalled_set hempty, caller?_coordinate_ne_worker, or_false, hended,
      List.mem_cons, Prod.mk.injEq, Option.some.injEq]
    have hstatus := hran.status_ne_cancelled
    grind
  | withheld slot target waiting now hduty hwaiting hcancelled hroom =>
    have hempty := haccounted.empty slot (by simp [openPlaces, hwaiting])
    simp only [HasCalled, hasCalled_set hempty, caller?_coordinate_ne_worker, or_false]
    simp [RunResult.cancelled]
  | started slot target waiting hduty hwaiting hlive hroom =>
    simp only [HasCalled, caller?_coordinate_ne_worker, or_false, List.mem_append,
      List.mem_singleton]
    simp [or_and_right, exists_or, Stage.callee?]
  | advanced before after task stage world htasks hadvance hgoes =>
    have hcallee := Stage.callee?_eq_none_advance hadvance
    rw [caller?_of_task haccounted htasks]
    simp only [HasCalled, htasks, exists_mem_cut, hcallee]
    cases task.stage.isConnecting <;> grind
  | ended before after task stage world htasks hadvance hover =>
    have hcallee := Stage.callee?_eq_none_advance hadvance
    rw [Stage.callee?_of_isOver hover, eq_self, true_iff] at hcallee
    have hresult : ∃ r, stage.result? = some r := by
      cases hr : stage.result? with
      | some r => exact ⟨r, rfl⟩
      | none => exact absurd (List.mem_append_right _ (by simp [hr])) (ht task.slot)
    obtain ⟨r, hr⟩ := hresult
    rw [caller?_of_task haccounted htasks]
    simp only [HasCalled, htasks, hr, List.mem_append, List.mem_singleton,
      Prod.mk.injEq, Option.some.injEq]
    cases htask : task.stage.isConnecting <;> grind
  | died before after task net htasks hnet =>
    exact absurd (List.mem_append_right _ (by simp)) (ht task.slot)
  | taken result queue received hstream => simp [HasCalled, caller?, FleetMove.actor?]
  | left queue received hstream => simp [HasCalled, caller?, FleetMove.actor?]
  | _ => simp only [HasCalled, caller?_coordinate_ne_worker, or_false]

/-- A move that is not the coordinator's is no call of the leader. -/
theorem caller?_ne_leader {m : FleetMove} (hm : m ≠ .coordinate) :
    s.caller? (.move m) ≠ some .leader := by
  cases m with
  | coordinate => exact absurd rfl hm
  | advance slot => cases h : s.connectsTo? (.advance slot) <;> simp [caller?, FleetMove.actor?, h]
  | _ => simp [caller?, connectsTo?]

/-- The leader has called after a change if it had before, or makes its call with the change. -/
theorem hasCalled_leader_change (hplaced : Placed c o s) {m : FleetMove}
    (hc : Change c ws o s m t) :
    t.HasCalled .leader ↔ s.HasCalled .leader ∨ s.caller? (.move m) = some .leader := by
  cases hc with
  | led errand stage stage' world hduty hadvance hgoes =>
    rw [caller?_of_lead hduty]
    simp only [HasCalled, LeaderHasCalled, hduty, Stage.callee?_eq_none_advance hadvance]
    simp
  | leaderDone errand stage result world hduty hadvance =>
    have hcallee := Stage.callee?_eq_none_advance hadvance
    have hlead := hplaced.duty
    rw [hduty] at hlead
    have hstatus := (Errand.gives_of_advance hlead.2.1 hadvance).status_ne_cancelled
    rw [caller?_of_lead hduty]
    simp only [HasCalled, LeaderHasCalled, hduty]
    simpa [Stage.callee?, hstatus] using hcallee
  | leaderDied errand stage world hduty hadvance =>
    have hcallee := Stage.callee?_eq_none_advance hadvance
    rw [caller?_of_lead hduty]
    simp only [HasCalled, LeaderHasCalled, hduty]
    simpa [Stage.callee?] using hcallee
  | workersDone hduty hwaiting htasks hended hleader =>
    have hnone := hplaced.noLeader hleader
    simp [HasCalled, LeaderHasCalled, hduty, hnone, caller?_of_coordinate]
  | leaderWithheld target job now desk hduty hwaiting htasks hended hleader hwhy =>
    simp [HasCalled, LeaderHasCalled, hduty, RunResult.cancelled, caller?_of_coordinate]
  | leaderStarted target job hduty hwaiting htasks hended hleader hlive hstrict =>
    simp [HasCalled, LeaderHasCalled, hduty, Stage.callee?, caller?_of_coordinate]
  | announced now desk hduty => simp [HasCalled, LeaderHasCalled, hduty, caller?_of_coordinate]
  | joined slot result ended hduty hended =>
    simp [HasCalled, LeaderHasCalled, hduty, caller?_of_coordinate]
  | withheld slot target waiting now hduty hwaiting hcancelled =>
    simp [HasCalled, LeaderHasCalled, hduty, caller?_of_coordinate]
  | sentWorker result desk flags stream hduty hsend =>
    simp [HasCalled, LeaderHasCalled, hduty, caller?_of_coordinate]
  | sentLeader result desk flags stream hduty hsend =>
    simp [HasCalled, LeaderHasCalled, hduty, caller?_of_coordinate]
  | reported report desk hduty hworkers hleader hstart =>
    simp [HasCalled, LeaderHasCalled, hduty, caller?_of_coordinate]
  | buried slot ended desk hduty hended =>
    simp [HasCalled, LeaderHasCalled, hduty, caller?_of_coordinate]
  | started slot target waiting hduty hwaiting hlive hroom =>
    simp [HasCalled, LeaderHasCalled, hduty, caller?_of_coordinate]
  | _ => simp [HasCalled, caller?_ne_leader]

/-! ## Along a run -/

theorem outcomes_of_follow {flags : CancelFlags} {world : World Net Desk}
    {stream : Option ResultStream}
    (h : (initial o flags world stream).follow c ws o events = some s) : Outcomes o s := by
  have hboth : Placed c o s ∧ Outcomes o s := by
    refine follow_invariant (P := fun s => Placed c o s ∧ Outcomes o s) ?_ ?_ h
      ⟨placed_initial o flags world stream, outcomes_initial o flags world stream⟩
    · rintro s m t _ hchange ⟨hplaced, houtcomes⟩
      exact ⟨hplaced.change hchange, houtcomes.change hplaced hchange⟩
    · rintro s token ⟨hplaced, houtcomes⟩
      exact ⟨{ hplaced with }, ⟨houtcomes.ended, houtcomes.slots, houtcomes.leader⟩⟩
  exact hboth.2

/-- In a run in which no task dies, those have called of whom the state says so. -/
theorem called_iff {flags : CancelFlags} {world : World Net Desk} {stream : Option ResultStream}
    (hnone : (initial o flags world stream).LosesNone c ws o events)
    (h : (initial o flags world stream).follow c ws o events = some s) (actor : Actor) :
    actor ∈ (initial o flags world stream).calls c ws o events ↔ s.HasCalled actor := by
  refine follow_induction (P := fun events s =>
    actor ∈ (initial o flags world stream).calls c ws o events ↔ s.HasCalled actor) h ?_ ?_
  · simp [calls, not_hasCalled_initial]
  · intro before u event v hbefore hfollow hstep hcalled
    rw [calls_append_singleton hfollow, List.mem_append, hcalled, Option.mem_toList]
    cases event with
    | cancel token =>
      cases hstep
      simp only [caller?, reduceCtorEq, or_false]
      cases actor <;> rfl
    | move m =>
      have hchange := change_of_move hstep
      have hplaced := placed_of_follow hfollow
      cases actor with
      | leader => exact (hasCalled_leader_change hplaced hchange).symm
      | worker slot =>
        have hu := hnone before u ((List.prefix_append _ _).trans hbefore) hfollow
        have hv := hnone _ v hbefore (follow_trans hfollow (by rw [follow, hstep]; rfl))
        exact (hasCalled_worker_change (accounted_of_follow hfollow) (outcomes_of_follow hfollow)
          hu hv hchange slot).symm

end FleetRun

end RemoteFleet
