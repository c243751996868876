import RemoteFleet.Proofs.Fleet.Places
import RemoteFleet.Proofs.Session.Ledger

/-!
# How many sessions a run holds

A run holds the sessions of its tasks, and then that of the leader.

* `Staffed`: no more workers are in flight than the plan allows, and none is left when the leader is
  up.
* `DealsWell`: a change deals with the hosts of a script as one step of one errand does, or not at
  all.  With one worker at a time, it also calls the targets in their order.
* `Booked`: so the ledger of the hosts is right in every state of a run.

A task that dies would drop its session unclosed; the results here are about runs in which none
does.
-/

namespace RemoteFleet

/-- The session that the leader holds. -/
def Duty.session? {Session File : Type} : Duty Session File → Option Session
  | .lead _ stage => stage.session?
  | _ => none

/-- The targets of a run, workers first. -/
def ResolvedPlan.all (targets : ResolvedPlan) : List RemoteTarget :=
  targets.workers ++ (targets.leader.map (·.1)).toList

namespace FleetRun

variable {Net Session Desk File : Type}

/-- The sessions that a run holds. -/
def held (s : FleetRun Net Session Desk File) : List Session :=
  s.tasks.filterMap (·.stage.session?) ++ s.duty.session?.toList

/-- The leader's target, if it has still to be called. -/
def leaderCallee? (o : FleetOrders) (s : FleetRun Net Session Desk File) : Option RemoteTarget :=
  match s.duty with
  | .announce | .manage | .sendWorker _ => o.targets.leader.map (·.1)
  | .lead errand stage => stage.callee? errand
  | _ => none

/-- The targets that have still to be called. -/
def upcoming (o : FleetOrders) (s : FleetRun Net Session Desk File) : List RemoteTarget :=
  s.tasks.filterMap (fun task => task.stage.callee? task.errand)
    ++ (s.waiting.map (·.2) ++ (s.leaderCallee? o).toList)

section Staff

variable {c : Connector Net Session} {ws : Workstation Desk File} {o : FleetOrders}
  {s t : FleetRun Net Session Desk File}

/-! ## How many workers are in flight -/

/-- There is room for the workers in flight, and none of them is left when the leader is up. -/
structure Staffed (o : FleetOrders) (s : FleetRun Net Session Desk File) : Prop where
  inFlight_le : s.inFlight ≤ max o.plan.concurrency 1
  allDone : s.duty.inWorkerPhase = false → s.waiting = [] ∧ s.tasks = [] ∧ s.ended = []

theorem staffed_initial (o : FleetOrders) (flags : CancelFlags) (world : World Net Desk)
    (stream : Option ResultStream) :
    Staffed o (initial o flags world stream : FleetRun Net Session Desk File) where
  inFlight_le := Nat.zero_le _
  allDone h := by cases h

/-- As long as somebody works, the workers are not all done. -/
theorem Staffed.inWorkerPhase_of_tasks (h : Staffed o s) (htasks : s.tasks ≠ []) :
    s.duty.inWorkerPhase = true := by
  cases hphase : s.duty.inWorkerPhase with
  | true => rfl
  | false => exact absurd (h.allDone hphase).2.1 htasks

theorem Staffed.inWorkerPhase_of_cut (h : Staffed o s) {before after : List (Task Session File)}
    {task : Task Session File} (htasks : s.tasks = before ++ task :: after) :
    s.duty.inWorkerPhase = true := by
  refine h.inWorkerPhase_of_tasks ?_
  rw [htasks]
  simp

/-- A task that ends is still in flight, until it is joined. -/
theorem Staffed.of_ended (h : Staffed o s) {before after : List (Task Session File)}
    {task : Task Session File} {world : World Net Desk} {result : Option RunResult}
    (htasks : s.tasks = before ++ task :: after) :
    Staffed o
      { s with world, tasks := before ++ after, ended := s.ended ++ [(task.slot, result)] } := by
  have hle := h.inFlight_le
  unfold inFlight at hle
  constructor
  · rw [htasks] at hle
    simp only [inFlight, List.length_append, List.length_cons, List.length_nil] at hle ⊢
    omega
  · intro hphase
    rw [h.inWorkerPhase_of_cut htasks] at hphase
    cases hphase

/-- Whatever a move does, there is room for the workers in flight. -/
theorem Staffed.change (h : Staffed o s) {m : FleetMove} (hc : Change c ws o s m t) :
    Staffed o t := by
  have hle := h.inFlight_le
  unfold inFlight at hle
  cases hc with
  | announced now desk hduty => exact ⟨hle, fun hphase => by cases hphase⟩
  | buried slot ended desk hduty hended =>
    constructor
    · rw [hended, List.length_cons] at hle
      simp only [inFlight]
      omega
    · intro hphase
      rw [hduty] at hphase
      cases hphase
  | joined slot result ended hduty hended =>
    refine ⟨?_, fun hphase => by cases hphase⟩
    rw [hended, List.length_cons] at hle
    simp only [inFlight]
    omega
  | withheld slot target waiting now hduty hwaiting hcancelled =>
    exact ⟨hle, fun hphase => by cases hphase⟩
  | started slot target waiting hduty hwaiting hlive hroom =>
    constructor
    · unfold inFlight at hroom
      simp only [inFlight, List.length_append, List.length_cons, List.length_nil]
      omega
    · intro hphase
      rw [hduty] at hphase
      cases hphase
  | workersDone hduty hwaiting htasks hended hleader =>
    exact ⟨hle, fun _ => ⟨hwaiting, htasks, hended⟩⟩
  | leaderWithheld target job now desk hduty hwaiting htasks hended hleader hwhy =>
    exact ⟨hle, fun _ => ⟨hwaiting, htasks, hended⟩⟩
  | leaderStarted target job hduty hwaiting htasks hended hleader hlive hstrict =>
    exact ⟨hle, fun _ => ⟨hwaiting, htasks, hended⟩⟩
  | sentWorker result desk flags stream hduty hsend =>
    exact ⟨hle, fun hphase => by cases hphase⟩
  | sentLeader result desk flags stream hduty hsend =>
    exact ⟨hle, fun _ => h.allDone (by rw [hduty]; rfl)⟩
  | led errand stage stage' world hduty hadvance hgoes =>
    exact ⟨hle, fun _ => h.allDone (by rw [hduty]; rfl)⟩
  | leaderDone errand stage result world hduty hadvance =>
    exact ⟨hle, fun _ => h.allDone (by rw [hduty]; rfl)⟩
  | leaderDied errand stage world hduty hadvance =>
    exact ⟨hle, fun _ => h.allDone (by rw [hduty]; rfl)⟩
  | reported report desk hduty hworkers hleader hstart =>
    exact ⟨hle, fun _ => h.allDone (by rw [hduty]; rfl)⟩
  | advanced before after task stage world htasks hadvance hgoes =>
    constructor
    · rw [htasks] at hle
      simp only [inFlight, List.length_append, List.length_cons] at hle ⊢
      exact hle
    · intro hphase
      rw [h.inWorkerPhase_of_cut htasks] at hphase
      cases hphase
  | ended before after task stage world htasks hadvance hover => exact h.of_ended htasks
  | died before after task net htasks hnet => exact h.of_ended htasks
  | taken result queue received hstream => exact ⟨hle, h.allDone⟩
  | left queue received hstream => exact ⟨hle, h.allDone⟩

theorem staffed_of_follow {events : List FleetEvent} {flags : CancelFlags} {world : World Net Desk}
    {stream : Option ResultStream}
    (h : (initial o flags world stream).follow c ws o events = some s) : Staffed o s :=
  follow_invariant (fun _ _ _ _ hchange hs => hs.change hchange)
    (fun _ _ hs => ⟨hs.inFlight_le, hs.allDone⟩) h (staffed_initial o flags world stream)

/-! ## The sessions that are held -/

theorem session?_of_inWorkerPhase {duty : Duty Session File} (h : duty.inWorkerPhase = true) :
    duty.session? = none := by
  cases duty <;> first | rfl | cases h

/-- The leader holds one session at most, and no worker holds one any more. -/
theorem Staffed.length_held_le_one (h : Staffed o s) (hphase : s.duty.inWorkerPhase = false) :
    s.held.length ≤ 1 := by
  rw [held, (h.allDone hphase).2.1]
  cases hsession : s.duty.session? <;> simp

/-- When the leader is up, the sessions that are held are the leader's. -/
theorem Staffed.held_of_lead (h : Staffed o s) {errand : Errand} {stage : Stage Session File}
    (hduty : s.duty = .lead errand stage) : s.held = stage.session?.toList := by
  rw [held, (h.allDone (by rw [hduty]; rfl)).2.1, hduty]
  rfl

/-- No more sessions are held than there is room for workers. -/
theorem Staffed.length_held_le (h : Staffed o s) : s.held.length ≤ max o.plan.concurrency 1 := by
  cases hphase : s.duty.inWorkerPhase with
  | false =>
    have hone := h.length_held_le_one hphase
    omega
  | true =>
    have hle := h.inFlight_le
    have htasks := List.length_filterMap_le (fun task : Task Session File => task.stage.session?)
      s.tasks
    unfold inFlight at hle
    simp only [held, session?_of_inWorkerPhase hphase, Option.toList_none, List.append_nil]
    omega

/-- When nothing is left to do, no session is held. -/
theorem Staffed.held_eq_nil_of_isOver (h : Staffed o s) (hover : s.duty.isOver = true) :
    s.held = [] := by
  cases hduty : s.duty with
  | finished report => rw [held, (h.allDone (by rw [hduty]; rfl)).2.1, hduty]; rfl
  | crashed => rw [held, (h.allDone (by rw [hduty]; rfl)).2.1, hduty]; rfl
  | _ => simp [hduty, Duty.isOver] at hover

/-- With one worker at a time, a task is the only one. -/
theorem Staffed.alone (h : Staffed o s) (hone : o.plan.concurrency ≤ 1)
    {before after : List (Task Session File)} {task : Task Session File}
    (htasks : s.tasks = before ++ task :: after) : before = [] ∧ after = [] := by
  have hle := h.inFlight_le
  unfold inFlight at hle
  have hlength : (before ++ task :: after).length ≤ 1 := by
    rw [← htasks]
    omega
  exact eq_nil_of_length_le (Nat.le_refl 1) hlength

end Staff

/-! ## What a run does to the hosts -/

section Scripted

variable {m : MockScript} {ws : Workstation Desk File} {o : FleetOrders}
  {s t : FleetRun MockRecord MockSession Desk File}

/-- A change deals with the hosts as a step of an errand does, or not at all.  With one worker at a
time, the targets are called in their order. -/
def DealsWell (m : MockScript) (o : FleetOrders)
    (s t : FleetRun MockRecord MockSession Desk File) : Prop :=
  ∃ called, m.Deals s.world.net called s.held t.held t.world.net ∧
    (o.plan.concurrency ≤ 1 → (called ++ t.upcoming o).Sublist (s.upcoming o))

/-- A change that leaves the hosts alone. -/
theorem dealsWell_of_quiet (hnet : t.world.net = s.world.net) (hheld : t.held = s.held)
    (hupcoming : (t.upcoming o).Sublist (s.upcoming o)) : DealsWell m o s t := by
  refine ⟨[], ?_, fun _ => hupcoming⟩
  rw [hnet, hheld]
  exact .nothing s.held s.world.net.runs

theorem leaderCallee?_of_inWorkerPhase (h : s.duty.inWorkerPhase = true) :
    s.leaderCallee? o = o.targets.leader.map (·.1) := by
  unfold leaderCallee?
  cases hduty : s.duty with
  | announce => rfl
  | manage => rfl
  | sendWorker result => rfl
  | _ =>
    rw [hduty] at h
    cases h

/-- While the workers are not all done, starting none of them leaves the hosts alone. -/
theorem dealsWell_of_inWorkerPhase (hnet : t.world.net = s.world.net) (htasks : t.tasks = s.tasks)
    (hwaiting : t.waiting.Sublist s.waiting) (hbefore : s.duty.inWorkerPhase = true)
    (hafter : t.duty.inWorkerPhase = true) : DealsWell m o s t := by
  refine dealsWell_of_quiet hnet ?_ ?_
  · rw [held, held, htasks, session?_of_inWorkerPhase hbefore, session?_of_inWorkerPhase hafter]
  · rw [upcoming, upcoming, htasks, leaderCallee?_of_inWorkerPhase hbefore,
      leaderCallee?_of_inWorkerPhase hafter]
    exact ((hwaiting.map (·.2)).append_right _).append_left _

/-- The session of a task is one of those that are held. -/
theorem unclosed_of_task {before after : List (Task MockSession File)}
    {task : Task MockSession File} (hunclosed : ∀ session ∈ s.held, session.closed = false)
    (htasks : s.tasks = before ++ task :: after) :
    ∀ session, task.stage.session? = some session → session.closed = false := by
  intro session hsession
  apply hunclosed
  simp [held, htasks, hsession]

theorem unclosed_of_lead {errand : Errand} {stage : Stage MockSession File} (h : Staffed o s)
    (hunclosed : ∀ session ∈ s.held, session.closed = false)
    (hduty : s.duty = .lead errand stage) :
    ∀ session, stage.session? = some session → session.closed = false := by
  intro session hsession
  apply hunclosed
  simp [h.held_of_lead hduty, hsession]

/-- What the members of a list give, cut at one of them. -/
theorem filterMap_cut {α β : Type} (f : α → Option β) (before : List α) (x : α) (after : List α) :
    (before ++ x :: after).filterMap f
      = before.filterMap f ++ (f x).toList ++ after.filterMap f := by
  rw [List.filterMap_append, List.filterMap_cons]
  cases f x <;> simp

/-- A task takes a step, and goes on or not. -/
theorem dealsWell_of_task {before after : List (Task MockSession File)}
    {task : Task MockSession File} {stage : Stage MockSession File} {world : World MockRecord Desk}
    (h : Staffed o s) (hunclosed : ∀ session ∈ s.held, session.closed = false)
    (htasks : s.tasks = before ++ task :: after)
    (hadvance : task.stage.advance m.connector ws task.errand s.world = (stage, world))
    (hduty : t.duty = s.duty) (hwaiting : t.waiting = s.waiting) (hworld : t.world = world)
    (hgoes : t.tasks = before ++ { task with stage } :: after ∨
      t.tasks = before ++ after ∧ stage.isOver = true) : DealsWell m o s t := by
  have hphase := h.inWorkerPhase_of_cut htasks
  have hleft : ∀ {β : Type} (f : Task MockSession File → Option β),
      (stage.isOver = true → f { task with stage } = none) → t.tasks.filterMap f
        = before.filterMap f ++ (f { task with stage }).toList ++ after.filterMap f := by
    intro β f hover
    rcases hgoes with htasks' | ⟨htasks', hdone⟩
    · rw [htasks', filterMap_cut]
    · rw [htasks', List.filterMap_append, hover hdone, Option.toList_none, List.append_nil]
  obtain ⟨called, hdeals, hcallee⟩ :=
    Stage.deals_of_advance (unclosed_of_task hunclosed htasks) hadvance
  refine ⟨called, ?_, ?_⟩
  · have hbeside := hdeals.beside (before.filterMap (·.stage.session?))
      (after.filterMap (·.stage.session?))
    rw [held, held, hduty, session?_of_inWorkerPhase hphase, Option.toList_none, List.append_nil,
      List.append_nil, htasks, filterMap_cut, hleft (·.stage.session?) Stage.session?_of_isOver,
      hworld]
    exact hbeside
  · intro hone
    obtain ⟨rfl, rfl⟩ := h.alone hone htasks
    have hcallees := hleft (fun task => task.stage.callee? task.errand)
      fun hover => Stage.callee?_of_isOver hover task.errand
    have hleader : t.leaderCallee? o = s.leaderCallee? o := by
      rw [leaderCallee?, leaderCallee?, hduty]
    rw [upcoming, upcoming, hcallees, htasks, filterMap_cut, hwaiting, hleader, ← hcallee]
    simp

/-- The leader's errand takes a step. -/
theorem dealsWell_of_leader {errand : Errand} {stage stage' : Stage MockSession File}
    {world : World MockRecord Desk} (h : Staffed o s)
    (hunclosed : ∀ session ∈ s.held, session.closed = false) (hduty : s.duty = .lead errand stage)
    (hadvance : stage.advance m.connector ws errand s.world = (stage', world))
    (htasks : t.tasks = s.tasks) (hwaiting : t.waiting = s.waiting) (hworld : t.world = world)
    (hgoes : t.duty = .lead errand stage' ∨
      (t.duty.session? : Option MockSession) = none ∧ t.leaderCallee? o = none ∧
        stage'.isOver = true) :
    DealsWell m o s t := by
  obtain ⟨hstarted, hnone, _⟩ := h.allDone (by rw [hduty]; rfl)
  have hheld := h.held_of_lead hduty
  obtain ⟨called, hdeals, hcallee⟩ :=
    Stage.deals_of_advance (unclosed_of_lead h hunclosed hduty) hadvance
  have hsession : t.duty.session? = stage'.session? := by
    rcases hgoes with hlead | ⟨hsession, _, hover⟩
    · rw [hlead]
      rfl
    · rw [hsession, Stage.session?_of_isOver hover]
  have hleader : t.leaderCallee? o = stage'.callee? errand := by
    rcases hgoes with hlead | ⟨_, hleader, hover⟩
    · rw [leaderCallee?, hlead]
    · rw [hleader, Stage.callee?_of_isOver hover]
  refine ⟨called, ?_, ?_⟩
  · rw [hheld, held, htasks, hnone, hsession, hworld]
    exact hdeals
  · intro _
    have hstart : s.leaderCallee? o = stage.callee? errand := by rw [leaderCallee?, hduty]
    rw [upcoming, upcoming, htasks, hnone, hwaiting, hstarted, hleader, hstart, ← hcallee]
    exact List.Sublist.refl _

/-- Whatever a change does to the hosts, a step of an errand does. -/
theorem dealsWell_of_change (h : Staffed o s)
    (hunclosed : ∀ session ∈ s.held, session.closed = false) {mv : FleetMove}
    (halive : ∀ slot, mv ≠ .die slot) (hc : Change m.connector ws o s mv t) :
    DealsWell m o s t := by
  cases hc with
  | announced now desk hduty =>
    exact dealsWell_of_inWorkerPhase rfl rfl (List.Sublist.refl _) (by rw [hduty]; rfl) rfl
  | joined slot result ended hduty hended =>
    exact dealsWell_of_inWorkerPhase rfl rfl (List.Sublist.refl _) (by rw [hduty]; rfl) rfl
  | withheld slot target waiting now hduty hwaiting hcancelled =>
    refine dealsWell_of_inWorkerPhase rfl rfl ?_ (by rw [hduty]; rfl) rfl
    rw [hwaiting]
    exact List.sublist_cons_self _ _
  | sentWorker result desk flags stream hduty hsend =>
    exact dealsWell_of_inWorkerPhase rfl rfl (List.Sublist.refl _) (by rw [hduty]; rfl) rfl
  | started slot target waiting hduty hwaiting hlive hroom =>
    refine dealsWell_of_quiet rfl ?_ ?_
    · simp [held, Stage.session?]
    · simp [upcoming, leaderCallee?, hduty, hwaiting, Stage.callee?, FleetOrders.workerErrand]
  | workersDone hduty hwaiting htasks hended hleader =>
    refine dealsWell_of_quiet rfl ?_ ?_
    · simp only [held, hduty, Duty.session?]
    · simp only [upcoming, leaderCallee?, hduty, hleader, Option.map_none]
      exact List.Sublist.refl _
  | leaderWithheld target job now desk hduty hwaiting htasks hended hleader hwhy =>
    refine dealsWell_of_quiet rfl ?_ ?_
    · simp only [held, hduty, Duty.session?]
    · simp only [upcoming, leaderCallee?, hduty]
      exact ((List.nil_sublist _).append_left _).append_left _
  | leaderStarted target job hduty hwaiting htasks hended hleader hlive hstrict =>
    refine dealsWell_of_quiet rfl ?_ ?_
    · simp only [held, hduty, Duty.session?, Stage.session?]
    · simp only [upcoming, leaderCallee?, hduty, hleader, Stage.callee?, FleetOrders.leaderErrand]
      exact List.Sublist.refl _
  | sentLeader result desk flags stream hduty hsend =>
    refine dealsWell_of_quiet rfl ?_ ?_
    · simp only [held, hduty, Duty.session?]
    · simp only [upcoming, leaderCallee?, hduty]
      exact List.Sublist.refl _
  | reported report desk hduty hworkers hleader hstart =>
    refine dealsWell_of_quiet rfl ?_ ?_
    · simp only [held, hduty, Duty.session?]
    · simp only [upcoming, leaderCallee?, hduty]
      exact List.Sublist.refl _
  | led errand stage stage' world hduty hadvance hgoes =>
    exact dealsWell_of_leader h hunclosed hduty hadvance rfl rfl rfl (.inl rfl)
  | leaderDone errand stage result world hduty hadvance =>
    exact dealsWell_of_leader h hunclosed hduty hadvance rfl rfl rfl (.inr ⟨rfl, rfl, rfl⟩)
  | leaderDied errand stage world hduty hadvance =>
    exact dealsWell_of_leader h hunclosed hduty hadvance rfl rfl rfl (.inr ⟨rfl, rfl, rfl⟩)
  | advanced before after task stage world htasks hadvance hgoes =>
    exact dealsWell_of_task h hunclosed htasks hadvance rfl rfl rfl (.inl rfl)
  | ended before after task stage world htasks hadvance hover =>
    exact dealsWell_of_task h hunclosed htasks hadvance rfl rfl rfl (.inr ⟨rfl, hover⟩)
  | died before after task net htasks hnet => exact absurd rfl (halive task.slot)
  | buried slot ended desk hduty hended =>
    exact dealsWell_of_quiet rfl rfl (List.Sublist.refl _)
  | taken result queue received hstream =>
    exact dealsWell_of_quiet rfl rfl (List.Sublist.refl _)
  | left queue received hstream => exact dealsWell_of_quiet rfl rfl (List.Sublist.refl _)

/-- A task that calls its target, when it is the only one, is all there is, and holds no session. -/
theorem held_eq_nil_of_task {before after : List (Task MockSession File)}
    {task : Task MockSession File} {stage : Stage MockSession File} {world : World MockRecord Desk}
    (h : Staffed o s) (hunclosed : ∀ session ∈ s.held, session.closed = false)
    (hone : o.plan.concurrency ≤ 1) (htasks : s.tasks = before ++ task :: after)
    (hadvance : task.stage.advance m.connector ws task.errand s.world = (stage, world))
    (hcalls : world.net.connects ≠ s.world.net.connects) : s.held = [] := by
  have hphase := h.inWorkerPhase_of_cut htasks
  have hnone := Stage.session?_of_call (unclosed_of_task hunclosed htasks) hadvance hcalls
  obtain ⟨rfl, rfl⟩ := h.alone hone htasks
  rw [held, htasks, session?_of_inWorkerPhase hphase, filterMap_cut, hnone]
  rfl

theorem held_eq_nil_of_leader {errand : Errand} {stage stage' : Stage MockSession File}
    {world : World MockRecord Desk} (h : Staffed o s)
    (hunclosed : ∀ session ∈ s.held, session.closed = false) (hduty : s.duty = .lead errand stage)
    (hadvance : stage.advance m.connector ws errand s.world = (stage', world))
    (hcalls : world.net.connects ≠ s.world.net.connects) : s.held = [] := by
  have hnone := Stage.session?_of_call (unclosed_of_lead h hunclosed hduty) hadvance hcalls
  rw [h.held_of_lead hduty, hnone]
  rfl

/-- When the leader's target is called, no session is held; with one worker at a time, none is when
any target is called. -/
theorem held_eq_nil_of_call (h : Staffed o s)
    (hunclosed : ∀ session ∈ s.held, session.closed = false) {mv : FleetMove}
    (hsolo : mv = .coordinate ∨ o.plan.concurrency ≤ 1) (hc : Change m.connector ws o s mv t)
    (hcalls : t.world.net.connects ≠ s.world.net.connects) : s.held = [] := by
  cases hc with
  | led errand stage stage' world hduty hadvance hgoes =>
    exact held_eq_nil_of_leader h hunclosed hduty hadvance hcalls
  | leaderDone errand stage result world hduty hadvance =>
    exact held_eq_nil_of_leader h hunclosed hduty hadvance hcalls
  | leaderDied errand stage world hduty hadvance =>
    exact held_eq_nil_of_leader h hunclosed hduty hadvance hcalls
  | advanced before after task stage world htasks hadvance hgoes =>
    have hone := hsolo.resolve_left (by simp)
    exact held_eq_nil_of_task h hunclosed hone htasks hadvance hcalls
  | ended before after task stage world htasks hadvance hover =>
    have hone := hsolo.resolve_left (by simp)
    exact held_eq_nil_of_task h hunclosed hone htasks hadvance hcalls
  | died before after task net htasks hnet =>
    refine absurd ?_ hcalls
    rw [hnet]
    cases task.stage.session? with
    | none => rfl
    | some session =>
      simp only [MockScript.connector, MockScript.drop]
      split <;> rfl
  | _ => exact absurd rfl hcalls

/-! ## Along a run -/

/-- The ledger of the hosts is right, and with one worker at a time the targets that were called and
those that are to be called are in their order. -/
structure Booked (m : MockScript) (o : FleetOrders) (r₀ : MockRecord)
    (s : FleetRun MockRecord MockSession Desk File) : Prop where
  staffed : Staffed o s
  ledger : ∃ called, Ledger m (max o.plan.concurrency 1) r₀ called s.world.net s.held ∧
    (o.plan.concurrency ≤ 1 → (called ++ s.upcoming o).Sublist o.targets.all)

/-- At the beginning all workers are waiting. -/
theorem waiting_initial (o : FleetOrders) (flags : CancelFlags) (world : World Net Desk)
    (stream : Option ResultStream) :
    (initial o flags world stream : FleetRun Net Session Desk File).waiting.map (·.2)
      = o.targets.workers := by
  simp only [initial, List.map_map]
  exact List.zipIdx_map_fst 0 o.targets.workers

theorem booked_initial (m : MockScript) (o : FleetOrders) (flags : CancelFlags)
    (world : World MockRecord Desk) (stream : Option ResultStream) :
    Booked m o world.net
      (initial o flags world stream : FleetRun MockRecord MockSession Desk File) := by
  refine ⟨staffed_initial o flags world stream, [], Ledger.start m _ world.net, ?_⟩
  intro _
  rw [upcoming, waiting_initial]
  exact List.Sublist.refl _

theorem Booked.change {r₀ : MockRecord} (h : Booked m o r₀ s) {mv : FleetMove}
    (halive : ∀ slot, mv ≠ .die slot) (hc : Change m.connector ws o s mv t) : Booked m o r₀ t := by
  obtain ⟨called, hledger, horder⟩ := h.ledger
  have hstaffed := h.staffed.change hc
  obtain ⟨more, hdeals, hupcoming⟩ := dealsWell_of_change h.staffed hledger.unclosed halive hc
  refine ⟨hstaffed, called ++ more, hledger.deals hdeals hstaffed.length_held_le, ?_⟩
  intro hone
  rw [List.append_assoc]
  exact ((hupcoming hone).append_left called).trans (horder hone)

theorem booked_of_follow {events : List FleetEvent} {flags : CancelFlags}
    {world : World MockRecord Desk} {stream : Option ResultStream}
    (halive : ∀ slot, .move (.die slot) ∉ events)
    (h : (initial o flags world stream).follow m.connector ws o events = some s) :
    Booked m o world.net s := by
  refine follow_invariant (P := Booked m o world.net) ?_ ?_ h
    (booked_initial m o flags world stream)
  · intro s mv t hmem hchange hs
    refine hs.change ?_ hchange
    intro slot heq
    exact halive slot (heq ▸ hmem)
  · intro s token hs
    exact ⟨⟨hs.staffed.inFlight_le, hs.staffed.allDone⟩, hs.ledger⟩

end Scripted

end FleetRun

/-! ## The sessions of a run -/

/-- What a run does to scripted hosts when no task dies, in each of its states.  As many sessions
more are open than before as the run holds, which is as many as there may be workers, and one when
the leader is up; every other session that it opened is closed, once.  It holds none when the
leader's target is called, nor when it is over.  With one worker at a time it holds none when any
target is called, sessions are closed in the order in which they were opened, and the workers are
called in ascending index. -/
theorem Dispatcher.sessions_bounded {Desk File : Type} (m : MockScript)
    (d : Dispatcher MockRecord MockSession Desk File) (hscript : d.connector = m.connector)
    {roster : HostRoster} {plan : FleetPlan} (hplan : plan.validate roster = .ok ())
    (token : CancelToken) (flags : CancelFlags) (world : World MockRecord Desk)
    (stream : Option ResultStream) :
    ∃ o, d.orders roster plan token = .ok o ∧ ∀ events s,
      (∀ slot, FleetEvent.move (.die slot) ∉ events) →
      (FleetRun.initial o flags world stream).follow d.connector d.workstation o events = some s →
      (s.world.net.openNow = world.net.openNow + s.held.length ∧
        s.held.length ≤ plan.concurrency ∧
        (s.duty.inWorkerPhase = false → s.held.length ≤ 1) ∧
        s.world.net.maxOpen ≤ max world.net.maxOpen (world.net.openNow + plan.concurrency) ∧
        s.world.net.droppedOpen = world.net.droppedOpen) ∧
      ∃ (called : List RemoteTarget) (closes : List String),
        s.world.net.connects = world.net.connects ++ called.map (·.address) ∧
        s.world.net.closes = world.net.closes ++ closes ∧
        ((called.map (·.address)).filter m.accepts).Perm
          (closes ++ s.held.map (·.target.address)) ∧
        (∀ t, s.move d.connector d.workstation o .coordinate = some t →
          t.world.net.connects ≠ s.world.net.connects → s.held = []) ∧
        (s.duty.isOver = true → s.held = []) ∧
        (plan.concurrency = 1 →
          (∀ mv t, s.move d.connector d.workstation o mv = some t →
            t.world.net.connects ≠ s.world.net.connects → s.held = []) ∧
          (called.map (·.address)).filter m.accepts
            = closes ++ s.held.map (·.target.address) ∧
          ∃ workers leader : List RemoteTarget, called = workers ++ leader ∧
            workers.Sublist (roster.select plan.selection d.credentials) ∧
            (workers.map (·.index)).Pairwise (· < ·) ∧
            leader.Sublist (o.targets.leader.map (·.1)).toList) := by
  obtain ⟨targets, hresolve, hworkers, _⟩ :=
    FleetPlan.exists_resolve_of_validate hplan d.credentials
  refine ⟨⟨plan, targets, d.echo, token⟩, by rw [orders, hresolve]; rfl, ?_⟩
  intro events s halive hfollow
  rw [hscript] at hfollow ⊢
  have hbooked := FleetRun.booked_of_follow halive hfollow
  obtain ⟨called, hledger, horder⟩ := hbooked.ledger
  have hstaffed := hbooked.staffed
  have hlimit : max plan.concurrency 1 = plan.concurrency :=
    Nat.max_eq_left (FleetPlan.checked_of_validate hplan).1
  simp only [hlimit] at hledger
  have hunclosed := hledger.unclosed
  obtain ⟨closes, hcloses, hperm, hinorder⟩ := hledger.closes
  refine ⟨⟨hledger.openNow, hledger.length_le, hstaffed.length_held_le_one, hledger.maxOpen,
      hledger.droppedOpen⟩,
    called, closes, hledger.connects, hcloses, hperm, ?_, hstaffed.held_eq_nil_of_isOver, ?_⟩
  · intro t hmove hcalls
    exact FleetRun.held_eq_nil_of_call hstaffed hunclosed (.inl rfl)
      (FleetRun.change_of_move hmove) hcalls
  · intro hone
    have hle : plan.concurrency ≤ 1 := Nat.le_of_eq hone
    refine ⟨fun mv t hmove hcalls => FleetRun.held_eq_nil_of_call hstaffed hunclosed (.inr hle)
      (FleetRun.change_of_move hmove) hcalls, hinorder hle, ?_⟩
    have hsublist : called.Sublist targets.all :=
      (List.sublist_append_left called _).trans (horder hle)
    obtain ⟨workers, leader, hcalled, hbefore, hafter⟩ := List.sublist_append_iff.1 hsublist
    rw [hworkers] at hbefore
    refine ⟨workers, leader, hcalled, hbefore, ?_, hafter⟩
    exact (roster.select_ascending plan.selection d.credentials).sublist (hbefore.map (·.index))

/-- Two workers at once, then the third, then the leader. -/
def trioInPairs : List FleetMove :=
  List.replicate 3 .coordinate ++ List.replicate 2 (.advance 0) ++ List.replicate 7 (.advance 1)
    ++ List.replicate 5 (.advance 0) ++ List.replicate 3 .coordinate
    ++ List.replicate 7 (.advance 2) ++ List.replicate 14 .coordinate

/-- A run over three hosts that was never left with more than two sessions, and at its end has
closed each of the four that it opened. -/
theorem Dispatcher.sessions_bounded_trio :
    ∃ s, (FleetRun.initial trioOrders ⟨1, []⟩ ⟨{}, {}⟩ none).follow trioDispatcher.connector
        trioDispatcher.workstation trioOrders (trioInPairs.map .move) = some s ∧
      s.duty.isOver = true ∧ s.world.net.openNow = 0 ∧ s.world.net.droppedOpen = 0 ∧
      s.world.net.maxOpen ≤ 2 ∧ s.world.net.connects.length = 4 ∧
      (s.world.net.connects.filter (MockScript.accepts {})).Perm s.world.net.closes := by
  obtain ⟨o, horders, hall⟩ := Dispatcher.sessions_bounded {} trioDispatcher rfl validate_trio
    ⟨0, []⟩ ⟨1, []⟩ ⟨{}, {}⟩ none
  rw [orders_trio] at horders
  cases horders
  have hrun : ((FleetRun.initial trioOrders ⟨1, []⟩ ⟨{}, {}⟩ none).follow trioDispatcher.connector
      trioDispatcher.workstation trioOrders (trioInPairs.map .move)).map
        (fun s => (s.duty.isOver, s.world.net.connects.length)) = some (true, 4) := by rfl
  obtain ⟨s, hs, hend⟩ := Option.map_eq_some_iff.1 hrun
  obtain ⟨hover, hconnects⟩ := Prod.mk.inj hend
  have halive : ∀ slot, FleetEvent.move (.die slot) ∉ trioInPairs.map .move := by
    intro slot hmem
    simp [trioInPairs] at hmem
  obtain ⟨⟨hopen, _, _, hmax, hdropped⟩, called, closes, hcalled, hcloses, hperm, _, hheld, _⟩ :=
    hall _ s halive hs
  rw [hheld hover] at hopen hperm
  refine ⟨s, hs, hover, hopen, hdropped, hmax, hconnects, ?_⟩
  rw [hcalled, hcloses]
  rw [List.map_nil, List.append_nil] at hperm
  exact hperm

end RemoteFleet
