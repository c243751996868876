import RemoteFleet.Proofs.Fleet.Deaths

/-!
# Attempts to connect that end without an answer

A connector owes its caller a session or an error.  An attempt that gives neither takes its caller
with it, and that is felt in two ways.

* A worker's task dies, and the report says of it that it was aborted.  Where nobody makes a task
  die there are no other deaths (`deaths_eq_nil_iff`).
* The leader's errand is taken by the coordinator itself, so the whole run ends without a report,
  and by nothing else (`duty_eq_crashed_iff`).

`attempts` lists the attempts that are made in the course of events.  An errand makes its attempt in
one stage, and that is the only stage in which it can die (`Stage.advance_eq_dead_iff`).
-/

namespace RemoteFleet

variable {Net Session Desk File : Type}

/-- An attempt to connect: for which errand it is made, and on which net. -/
structure ConnectAttempt (Net : Type) where
  errand : Errand
  net : Net

/-- An attempt that gives neither a session nor an error. -/
def ConnectAttempt.Dies (c : Connector Net Session) (a : ConnectAttempt Net) : Prop :=
  (c.connect a.errand.target a.net).1 = .died

/-- An errand dies where it connects, and nowhere else. -/
theorem Stage.advance_eq_dead_iff {c : Connector Net Session} {ws : Workstation Desk File}
    {e : Errand} {stage stage' : Stage Session File} {w w' : World Net Desk}
    (hgoes : stage.isOver = false) (hadvance : stage.advance c ws e w = (stage', w')) :
    stage' = .dead ↔
      (∃ start, stage = .connecting start) ∧ (c.connect e.target w.net).1 = .died := by
  constructor
  · rintro rfl
    refine ⟨?_, Errand.died_of_advance hgoes hadvance⟩
    cases stage with
    | connecting start => exact ⟨start, rfl⟩
    | connected start session =>
      simp only [advance, Errand.openCapture] at hadvance
      split at hadvance
      · cases hadvance
      · split at hadvance <;> cases hadvance
    | listening start session capture transcript =>
      simp only [advance, Errand.listen] at hadvance
      split at hadvance <;> cases hadvance
    | settling start aftermath =>
      simp only [advance, Errand.settle] at hadvance
      split at hadvance <;> cases hadvance
    | done result => cases hgoes
    | dead => cases hgoes
    | _ => cases hadvance
  · rintro ⟨⟨start, rfl⟩, hdied⟩
    rcases hconnect : c.connect e.target w.net with ⟨attempt, net⟩
    rw [hconnect] at hdied
    obtain rfl : attempt = .died := hdied
    simp only [advance, Errand.connect, hconnect] at hadvance
    exact (congrArg Prod.fst hadvance).symm

namespace FleetRun

/-- The attempt to connect that an event makes. -/
def attempt? (s : FleetRun Net Session Desk File) (event : FleetEvent) :
    Option (ConnectAttempt Net) :=
  (s.stepping? event).bind fun (errand, stage) =>
    match stage with
    | .connecting _ => some ⟨errand, s.world.net⟩
    | _ => none

/-- The attempts to connect that are made in the course of events. -/
def attempts (c : Connector Net Session) (ws : Workstation Desk File) (o : FleetOrders)
    (s : FleetRun Net Session Desk File) (events : List FleetEvent) : List (ConnectAttempt Net) :=
  s.observe attempt? c ws o events

/-- With an event an attempt dies that is made in some phase. -/
def Fails (c : Connector Net Session) (phase : Phase) (s : FleetRun Net Session Desk File)
    (event : FleetEvent) : Prop :=
  ∃ a ∈ s.attempt? event, a.errand.phase = phase ∧ a.Dies c

variable {c : Connector Net Session} {ws : Workstation Desk File} {o : FleetOrders}
  {s t : FleetRun Net Session Desk File} {events : List FleetEvent} {phase : Phase}

/-! ## One event -/

theorem not_fails_of_still {event : FleetEvent} (hstill : s.stepping? event = none) :
    ¬s.Fails c phase event := by
  rintro ⟨a, ha, -⟩
  simp [attempt?, hstill] at ha

/-- The attempt of an errand dies exactly if its step leads to the end without a result. -/
theorem fails_iff_dead {event : FleetEvent} {errand : Errand} {stage stage' : Stage Session File}
    {world : World Net Desk} (hstepping : s.stepping? event = some (errand, stage))
    (hgoes : stage.isOver = false)
    (hadvance : stage.advance c ws errand s.world = (stage', world)) :
    s.Fails c phase event ↔ errand.phase = phase ∧ stage' = .dead := by
  rw [Stage.advance_eq_dead_iff hgoes hadvance]
  unfold Fails
  cases stage with
  | connecting start => simp [attempt?, hstepping, ConnectAttempt.Dies]
  | _ => simp [attempt?, hstepping]

theorem Placed.of_lead (h : Placed c o s) {errand : Errand} {stage : Stage Session File}
    (hduty : s.duty = .lead errand stage) : stage.isOver = false ∧ errand.phase = .leader := by
  have hplaced := h.duty
  rw [hduty] at hplaced
  obtain ⟨-, hgoes, target, job, -, rfl⟩ := hplaced
  exact ⟨hgoes, rfl⟩

/-- Who takes a step is at work: the leader by the coordinator's move, and a worker by its own. -/
theorem Placed.of_stepping (h : Placed c o s) {event : FleetEvent} {errand : Errand}
    {stage : Stage Session File} (hstepping : s.stepping? event = some (errand, stage)) :
    stage.isOver = false ∧
      (event = .move .coordinate ∧ errand.phase = .leader ∨
        ∃ slot, event = .move (.advance slot) ∧ errand.phase = .worker) := by
  unfold stepping? at hstepping
  split at hstepping
  · split at hstepping
    · next hduty =>
      cases hstepping
      obtain ⟨hgoes, hphase⟩ := h.of_lead hduty
      exact ⟨hgoes, .inl ⟨rfl, hphase⟩⟩
    · cases hstepping
  · next slot =>
    obtain ⟨⟨before, task, after⟩, hcut, heq⟩ := Option.map_eq_some_iff.1 hstepping
    cases heq
    have hmem : task ∈ s.tasks := by
      rw [(Task.eq_of_cutAt? hcut).1]
      simp
    obtain ⟨hgoes, target, -, herrand⟩ := h.tasks task hmem
    exact ⟨hgoes, .inr ⟨slot, rfl, by rw [herrand]; rfl⟩⟩
  · cases hstepping

theorem Placed.move_of_fails (h : Placed c o s) {event : FleetEvent}
    (hfails : s.Fails c phase event) :
    event = .move .coordinate ∧ phase = .leader ∨
      ∃ slot, event = .move (.advance slot) ∧ phase = .worker := by
  obtain ⟨a, ha, rfl, -⟩ := hfails
  obtain ⟨⟨errand, stage⟩, hstepping, hconnecting⟩ := Option.bind_eq_some_iff.1 ha
  have herrand : a.errand = errand := by
    cases stage with
    | connecting start =>
      cases hconnecting
      rfl
    | _ => cases hconnecting
  rw [herrand]
  exact (h.of_stepping hstepping).2

/-- The leader's attempt that dies ends the run. -/
theorem Placed.crashed_of_change (h : Placed c o s) {m : FleetMove} (hc : Change c ws o s m t) :
    t.duty = .crashed ↔ s.duty = .crashed ∨ s.Fails c .leader (.move m) := by
  -- The coordinator does something else than to take a step of the leader's errand.
  have hother (hm : m = .coordinate) (hlead : ∀ errand stage, s.duty ≠ .lead errand stage)
      (hbefore : s.duty ≠ .crashed) (hafter : t.duty ≠ .crashed) :
      t.duty = .crashed ↔ s.duty = .crashed ∨ s.Fails c .leader (.move m) := by
    subst hm
    refine iff_of_false hafter ?_
    rintro (hcrashed | hfails)
    · exact hbefore hcrashed
    · exact not_fails_of_still (stepping?_of_coordinate hlead) hfails
  -- The coordinator does nothing.
  have hidle (hm : m ≠ .coordinate) (hduty : t.duty = s.duty) :
      t.duty = .crashed ↔ s.duty = .crashed ∨ s.Fails c .leader (.move m) := by
    rw [hduty]
    refine (or_iff_left fun hfails => ?_).symm
    rcases h.move_of_fails hfails with ⟨hmove, -⟩ | ⟨slot, -, hphase⟩
    · exact hm (FleetEvent.move.inj hmove)
    · cases hphase
  cases hc with
  | led errand stage stage' world hduty hadvance hgoes =>
    obtain ⟨hstage, -⟩ := h.of_lead hduty
    rw [fails_iff_dead (stepping?_of_lead hduty) hstage hadvance]
    refine iff_of_false (by simp) ?_
    rintro (hcrashed | ⟨-, rfl⟩)
    · rw [hduty] at hcrashed
      cases hcrashed
    · cases hgoes
  | leaderDone errand stage result world hduty hadvance =>
    obtain ⟨hstage, -⟩ := h.of_lead hduty
    rw [fails_iff_dead (stepping?_of_lead hduty) hstage hadvance]
    simp [hduty]
  | leaderDied errand stage world hduty hadvance =>
    obtain ⟨hstage, hphase⟩ := h.of_lead hduty
    rw [fails_iff_dead (stepping?_of_lead hduty) hstage hadvance]
    exact iff_of_true rfl (.inr ⟨hphase, rfl⟩)
  | announced _ _ hduty | buried _ _ _ hduty | joined _ _ _ hduty | withheld _ _ _ _ hduty
  | started _ _ _ hduty | workersDone hduty | leaderWithheld _ _ _ _ hduty
  | leaderStarted _ _ hduty | sentWorker _ _ _ _ hduty | sentLeader _ _ _ _ hduty
  | reported _ _ hduty =>
    exact hother rfl (by simp [hduty]) (by simp [hduty]) (by simp [hduty])
  | _ => exact hidle (by simp) rfl

/-- A worker's attempt that dies takes the task with it, and nothing else does as long as nobody
makes a task die. -/
theorem Placed.dies?_eq_none_iff (h : Placed c o s) {event : FleetEvent}
    (halive : ∀ slot, event ≠ .move (.die slot)) :
    s.dies? c ws event = none ↔ ¬s.Fails c .worker event := by
  cases hstepping : s.stepping? event with
  | none =>
    refine iff_of_true ?_ (not_fails_of_still hstepping)
    unfold dies?
    split
    · next slot => exact absurd rfl (halive slot)
    · rw [hstepping]
      rfl
    · rfl
  | some step =>
    obtain ⟨errand, stage⟩ := step
    rcases hadvance : stage.advance c ws errand s.world with ⟨stage', world⟩
    obtain ⟨hgoes, hwho⟩ := h.of_stepping hstepping
    rw [fails_iff_dead hstepping hgoes hadvance]
    rcases hwho with ⟨rfl, hphase⟩ | ⟨slot, rfl, hphase⟩
    · exact iff_of_true rfl (by simp [hphase])
    · have hdead : stage' = .dead ↔ (stage'.isOver && stage'.result?.isNone) = true := by
        cases stage' <;> simp [Stage.isOver, Stage.result?]
      simp [dies?, hstepping, hadvance, hphase, hdead]

/-! ## The whole run -/

section Run

variable {flags : CancelFlags} {world : World Net Desk} {stream : Option ResultStream}

theorem exists_attempt_concat {u : FleetRun Net Session Desk File} {event : FleetEvent}
    (h : s.follow c ws o events = some u) (phase : Phase) :
    (∃ a ∈ s.attempts c ws o (events ++ [event]), a.errand.phase = phase ∧ a.Dies c) ↔
      (∃ a ∈ s.attempts c ws o events, a.errand.phase = phase ∧ a.Dies c) ∨
        u.Fails c phase event := by
  simp only [attempts, observe_append_singleton h, List.mem_append, Option.mem_toList,
    Option.mem_def, or_and_right, exists_or, Fails]

/-- The run ends without a report exactly if an attempt of the leader's dies. -/
theorem duty_eq_crashed_iff (h : (initial o flags world stream).follow c ws o events = some s) :
    s.duty = .crashed ↔
      ∃ a ∈ (initial o flags world stream).attempts c ws o events,
        a.errand.phase = .leader ∧ a.Dies c := by
  refine follow_induction (P := fun events s => s.duty = .crashed ↔
    ∃ a ∈ (initial o flags world stream).attempts c ws o events,
      a.errand.phase = .leader ∧ a.Dies c) h ?_ ?_
  · refine iff_of_false ?_ ?_
    · show Duty.announce ≠ Duty.crashed
      simp
    · rintro ⟨a, ha, -⟩
      exact List.not_mem_nil ha
  · intro before u event v _ hfollow hstep hbefore
    rw [exists_attempt_concat hfollow, ← hbefore]
    cases event with
    | move m => exact (placed_of_follow hfollow).crashed_of_change (change_of_move hstep)
    | cancel token =>
      cases hstep
      exact (or_iff_left (not_fails_of_still rfl)).symm

/-- Where nobody makes a task die, the tasks that die are those whose attempts do. -/
theorem deaths_eq_nil_iff (halive : ∀ slot, .move (.die slot) ∉ events)
    (h : (initial o flags world stream).follow c ws o events = some s) :
    (initial o flags world stream).deaths c ws o events = [] ↔
      ∀ a ∈ (initial o flags world stream).attempts c ws o events,
        a.errand.phase = .worker → ¬a.Dies c := by
  have hnone : (initial o flags world stream).deaths c ws o events = [] ↔
      ¬∃ a ∈ (initial o flags world stream).attempts c ws o events,
        a.errand.phase = .worker ∧ a.Dies c := by
    refine follow_induction (P := fun events _ =>
      (initial o flags world stream).deaths c ws o events = [] ↔
        ¬∃ a ∈ (initial o flags world stream).attempts c ws o events,
          a.errand.phase = .worker ∧ a.Dies c) h ?_ ?_
    · refine iff_of_true rfl ?_
      rintro ⟨a, ha, -⟩
      exact List.not_mem_nil ha
    · intro before u event v hbefore hfollow _ hdeaths
      have hevent : ∀ slot, event ≠ .move (.die slot) := by
        rintro slot rfl
        exact halive slot (hbefore.subset (by simp))
      rw [exists_attempt_concat hfollow, not_or, ← hdeaths, deaths, deaths,
        observe_append_singleton hfollow, List.append_eq_nil_iff, Option.toList_eq_nil_iff,
        (placed_of_follow hfollow).dies?_eq_none_iff hevent]
  rw [hnone]
  simp only [not_exists, not_and]

/-- A run that is over has a report, unless it crashed. -/
theorem isSome_report?_iff (hover : s.duty.isOver = true) :
    s.report?.isSome = true ↔ s.duty ≠ .crashed := by
  unfold report?
  cases hduty : s.duty with
  | finished report => simp
  | crashed => simp
  | _ =>
    rw [hduty] at hover
    cases hover

end Run

end FleetRun

end RemoteFleet
