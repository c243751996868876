import RemoteFleet.Proofs.Fleet.Recording

/-!
# Where an actor stands

A run keeps its workers in four places: a line of those that wait, the tasks that go on, those that
ended, and the slots.  Seen from one worker, or from the leader, there is just one thing that
happens after the other.  `Stands` says how far an actor has come, and `Passes` lists how a move
takes it further, with the step of its errand if that is what the move is.

* `exists_passes_of_change`: whatever happens to an actor by a change is one of these.
* `Stands.stepping?_eq`: an actor makes the step of the errand that it is working on.
* `stands_induction`: what holds of actors that wait at the beginning, and is kept by every passage,
  holds of all actors along a run.
-/

namespace RemoteFleet

/-- How far an actor has come. -/
inductive Standing (Session File : Type) where
  | waiting
  | working (errand : Errand) (stage : Stage Session File)
  /-- The task ended and was not joined. -/
  | ended (result : Option RunResult)
  | known (result : RunResult)
  /-- There will be no result. -/
  | lost

/-- The errand that takes a step when the actor does. -/
def Standing.step? {Session File : Type} :
    Standing Session File → Option (Errand × Stage Session File)
  | .working errand stage => some (errand, stage)
  | _ => none

namespace FleetRun

variable {Net Session Desk File : Type}

/-- An actor has come as far as is said. -/
inductive Stands (s : FleetRun Net Session Desk File) : Actor → Standing Session File → Prop where
  | waiting (slot : Nat) (hwaiting : slot ∈ s.waiting.map (·.1)) : Stands s (.worker slot) .waiting
  | working (task : Task Session File) (htask : task ∈ s.tasks) :
      Stands s (.worker task.slot) (.working task.errand task.stage)
  | ended (slot : Nat) (result : Option RunResult) (hended : (slot, result) ∈ s.ended) :
      Stands s (.worker slot) (.ended result)
  | known (slot : Nat) (result : RunResult) (hslot : s.slots[slot]? = some (some result)) :
      Stands s (.worker slot) (.known result)
  | lost (slot : Nat) (hclosed : slot ∉ s.openPlaces) (hslot : s.slots[slot]? = some none) :
      Stands s (.worker slot) .lost
  | leaderWaiting (hphase : s.duty.inWorkerPhase = true) : Stands s .leader .waiting
  | leading (errand : Errand) (stage : Stage Session File) (hduty : s.duty = .lead errand stage) :
      Stands s .leader (.working errand stage)
  | leaderKnown (result : RunResult) (hleader : s.leader = some result) :
      Stands s .leader (.known result)
  | leaderLost (hduty : s.duty = .crashed) : Stands s .leader .lost

/-- How a move takes an actor from one standing to another. -/
inductive Passes (c : Connector Net Session) (ws : Workstation Desk File) (o : FleetOrders)
    (w : World Net Desk) : Actor → FleetMove → Standing Session File → Standing Session File → Prop
    where
  /-- The move is not the actor's. -/
  | stays {actor : Actor} {m : FleetMove} {x : Standing Session File}
      (hstep : m.actor? = some actor → x.step? = none)
      (hdie : ∀ slot, actor = .worker slot → m ≠ .die slot) : Passes c ws o w actor m x x
  | started (actor : Actor) (errand : Errand) (herrand : o.errand? actor = some errand) :
      Passes c ws o w actor .coordinate .waiting (.working errand .waiting)
  | withheld (actor : Actor) (phase : Phase) (target : RemoteTarget) (job : String)
      (now : Timestamp) :
      Passes c ws o w actor .coordinate .waiting (.known (.cancelled phase target job now))
  | advanced (actor : Actor) (m : FleetMove) (errand : Errand) (stage stage' : Stage Session File)
      (world : World Net Desk) (hactor : m.actor? = some actor)
      (hadvance : stage.advance c ws errand w = (stage', world)) (hgoes : stage'.isOver = false) :
      Passes c ws o w actor m (.working errand stage) (.working errand stage')
  | ended (slot : Nat) (errand : Errand) (stage stage' : Stage Session File)
      (world : World Net Desk) (hadvance : stage.advance c ws errand w = (stage', world))
      (hover : stage'.isOver = true) :
      Passes c ws o w (.worker slot) (.advance slot) (.working errand stage) (.ended stage'.result?)
  | died (slot : Nat) (errand : Errand) (stage : Stage Session File) :
      Passes c ws o w (.worker slot) (.die slot) (.working errand stage) (.ended none)
  | joined (slot : Nat) (result : RunResult) :
      Passes c ws o w (.worker slot) .coordinate (.ended (some result)) (.known result)
  | buried (slot : Nat) : Passes c ws o w (.worker slot) .coordinate (.ended none) .lost
  | leaderDone (errand : Errand) (stage : Stage Session File) (result : RunResult)
      (world : World Net Desk) (hadvance : stage.advance c ws errand w = (.done result, world)) :
      Passes c ws o w .leader .coordinate (.working errand stage) (.known result)
  | leaderDied (errand : Errand) (stage : Stage Session File) (world : World Net Desk)
      (hadvance : stage.advance c ws errand w = (.dead, world)) :
      Passes c ws o w .leader .coordinate (.working errand stage) .lost

variable {c : Connector Net Session} {ws : Workstation Desk File} {o : FleetOrders}
  {s t : FleetRun Net Session Desk File} {events : List FleetEvent}

/-! ## Workers -/

/-- A move that is neither a step nor the end of a worker. -/
theorem Passes.of_other {w : World Net Desk} {slot : Nat} {m : FleetMove}
    (hadvance : m ≠ .advance slot) (hdie : m ≠ .die slot) (x : Standing Session File) :
    Passes c ws o w (.worker slot) m x x := by
  refine .stays ?_ fun slot' hslot => by cases hslot; exact hdie
  intro hactor
  cases m with
  | advance slot' =>
    cases hactor
    exact absurd rfl hadvance
  | _ => cases hactor

/-- A move of the coordinator that is not about the worker. -/
theorem Passes.of_coordinate {w : World Net Desk} {slot : Nat} (x : Standing Session File) :
    Passes c ws o w (.worker slot) .coordinate x x := by
  refine .of_other ?_ ?_ x <;> exact nofun

/-- What leaves the workers alone takes none of them any further. -/
theorem exists_passes_of_same {slot : Nat} {m : FleetMove} {y : Standing Session File}
    (h : t.Stands (.worker slot) y) (hwaiting : t.waiting = s.waiting) (htasks : t.tasks = s.tasks)
    (hended : t.ended = s.ended) (hslots : t.slots = s.slots) (hadvance : m ≠ .advance slot)
    (hdie : m ≠ .die slot) :
    ∃ x, s.Stands (.worker slot) x ∧ Passes c ws o s.world (.worker slot) m x y := by
  have hplaces : t.openPlaces = s.openPlaces := by
    rw [openPlaces, openPlaces, hwaiting, htasks, hended]
  refine ⟨y, ?_, .of_other hadvance hdie y⟩
  cases h with
  | waiting slot hmem => exact .waiting slot (hwaiting ▸ hmem)
  | working task htask => exact .working task (htasks ▸ htask)
  | ended slot result hmem => exact .ended slot result (hended ▸ hmem)
  | known slot result hslot => exact .known slot result (hslots ▸ hslot)
  | lost slot hclosed hslot => exact .lost slot (hplaces ▸ hclosed) (hslots ▸ hslot)

/-- A slot is filled, and that takes its worker further. -/
theorem exists_passes_of_filled {place slot : Nat} {r : RunResult} {x y : Standing Session File}
    (h : t.Stands (.worker slot) y) (haccounted : Accounted s)
    (hperm : s.openPlaces.Perm (place :: t.openPlaces))
    (hslots : t.slots = s.slots.set place (some r))
    (hwaiting : ∀ entry ∈ t.waiting, entry ∈ s.waiting)
    (htasks : t.tasks = s.tasks) (hended : ∀ entry ∈ t.ended, entry ∈ s.ended)
    (hx : s.Stands (.worker place) x)
    (hpasses : Passes c ws o s.world (.worker place) .coordinate x (.known r)) :
    ∃ x, s.Stands (.worker slot) x ∧ Passes c ws o s.world (.worker slot) .coordinate x y := by
  have hempty := haccounted.empty place (hperm.mem_iff.2 List.mem_cons_self)
  have hstays : s.Stands (.worker slot) y →
      ∃ x, s.Stands (.worker slot) x ∧ Passes c ws o s.world (.worker slot) .coordinate x y :=
    fun hy => ⟨y, hy, .of_coordinate y⟩
  cases h with
  | waiting slot hmem =>
    obtain ⟨entry, hentry, rfl⟩ := List.mem_map.1 hmem
    exact hstays (.waiting _ (List.mem_map_of_mem (hwaiting entry hentry)))
  | working task htask => exact hstays (.working task (htasks ▸ htask))
  | ended slot result hmem => exact hstays (.ended slot result (hended _ hmem))
  | known slot result hslot =>
    rw [hslots] at hslot
    by_cases heq : place = slot
    · subst heq
      rw [List.getElem?_set_self (List.getElem?_eq_some_iff.1 hempty).1] at hslot
      cases hslot
      exact ⟨x, hx, hpasses⟩
    · rw [List.getElem?_set_ne heq] at hslot
      exact hstays (.known slot result hslot)
  | lost slot hclosed hslot =>
    rw [hslots] at hslot
    have hne : place ≠ slot := by
      rintro rfl
      rw [List.getElem?_set_self (List.getElem?_eq_some_iff.1 hempty).1] at hslot
      cases hslot
    rw [List.getElem?_set_ne hne] at hslot
    refine hstays (.lost slot ?_ hslot)
    intro hopen
    rcases List.mem_cons.1 (hperm.mem_iff.1 hopen) with rfl | hmem
    · exact hne rfl
    · exact hclosed hmem

/-- The slots of the tasks beside a task are others. -/
theorem Accounted.slot_ne_of_cut (h : Accounted s) {before after : List (Task Session File)}
    {task : Task Session File} (htasks : s.tasks = before ++ task :: after) :
    ∀ other ∈ before ++ after, other.slot ≠ task.slot := by
  have hnodup := h.nodup_tasks
  have hperm : (before ++ task :: after).Perm (task :: (before ++ after)) := List.perm_middle
  rw [htasks, (hperm.map _).nodup_iff, List.map_cons, List.nodup_cons] at hnodup
  intro other hmem heq
  exact hnodup.1 (heq ▸ List.mem_map_of_mem hmem)

/-- The slots of workers that wait, and of those that ended, are not those of tasks. -/
theorem Accounted.slot_ne_of_task (h : Accounted s) {task : Task Session File}
    (htask : task ∈ s.tasks) :
    task.slot ∉ s.waiting.map (·.1) ∧ task.slot ∉ s.ended.map (·.1) := by
  have hnodup := h.nodup
  rw [openPlaces] at hnodup
  obtain ⟨hfirst, _, hended⟩ := List.nodup_append.1 hnodup
  obtain ⟨_, _, hwaiting⟩ := List.nodup_append.1 hfirst
  have hmem : task.slot ∈ s.tasks.map (·.slot) := List.mem_map_of_mem htask
  exact ⟨fun hslot => hwaiting _ hslot _ hmem rfl,
    fun hslot => hended _ (List.mem_append_right _ hmem) _ hslot rfl⟩

theorem slot_mem_openPlaces {task : Task Session File} (h : task ∈ s.tasks) :
    task.slot ∈ s.openPlaces :=
  List.mem_append_left _ (List.mem_append_right _ (List.mem_map_of_mem h))

/-- A worker whose task goes on stands nowhere else. -/
theorem Stands.eq_of_task (h : Accounted s) {task : Task Session File} (htask : task ∈ s.tasks)
    {x : Standing Session File} (hx : s.Stands (.worker task.slot) x) :
    x = .working task.errand task.stage := by
  have hopen := slot_mem_openPlaces htask
  obtain ⟨hwaiting, hended⟩ := h.slot_ne_of_task htask
  generalize hslot : task.slot = slot at hx
  cases hx with
  | waiting slot hmem => exact absurd (hslot ▸ hmem) hwaiting
  | working other hother =>
    obtain ⟨before, after, htasks⟩ := List.append_of_mem htask
    rw [htasks] at hother
    rcases List.mem_append.1 hother with hbefore | hrest
    · exact absurd hslot.symm (h.slot_ne_of_cut htasks other (List.mem_append_left _ hbefore))
    · rcases List.mem_cons.1 hrest with rfl | hafter
      · rfl
      · exact absurd hslot.symm (h.slot_ne_of_cut htasks other (List.mem_append_right _ hafter))
  | ended slot result hmem => exact absurd (hslot ▸ List.mem_map_of_mem hmem) hended
  | known slot result hfilled =>
    rw [← hslot, h.empty _ hopen] at hfilled
    cases hfilled
  | lost slot hclosed hempty => exact absurd (hslot ▸ hopen) hclosed

/-- A task that ends takes its worker further, and no other. -/
theorem exists_passes_of_ended (haccounted : Accounted s) {before after : List (Task Session File)}
    {task : Task Session File} {world : World Net Desk} {result : Option RunResult} {m : FleetMove}
    (htasks : s.tasks = before ++ task :: after)
    (hpasses : Passes c ws o s.world (.worker task.slot) m (.working task.errand task.stage)
      (.ended result))
    (hmove : m = .advance task.slot ∨ m = .die task.slot) {slot : Nat} {y : Standing Session File}
    (h : ({ s with world, tasks := before ++ after, ended := s.ended ++ [(task.slot, result)] } :
      FleetRun Net Session Desk File).Stands (.worker slot) y) :
    ∃ x, s.Stands (.worker slot) x ∧ Passes c ws o s.world (.worker slot) m x y := by
  have hperm : s.openPlaces.Perm (openPlaces
      { s with world, tasks := before ++ after, ended := s.ended ++ [(task.slot, result)] }) :=
    perm_ended htasks
  have htask : task ∈ s.tasks := by simp [htasks]
  by_cases heq : slot = task.slot
  · subst heq
    refine ⟨_, .working task htask, ?_⟩
    obtain ⟨hwaiting, hended⟩ := haccounted.slot_ne_of_task htask
    have hopen := slot_mem_openPlaces htask
    generalize hslot : task.slot = slot at h
    cases h with
    | waiting slot hmem => exact absurd (hslot ▸ hmem) hwaiting
    | working other hother =>
      exact absurd hslot.symm (haccounted.slot_ne_of_cut htasks other hother)
    | ended slot result' hmem =>
      rcases List.mem_append.1 hmem with hold | hnew
      · exact absurd (hslot ▸ List.mem_map_of_mem hold) hended
      · cases List.mem_singleton.1 hnew
        exact hslot ▸ hpasses
    | known slot result' hfilled =>
      have hempty := haccounted.empty _ hopen
      rw [hslot, hfilled] at hempty
      cases hempty
    | lost slot hclosed hempty => exact absurd (hslot ▸ hperm.mem_iff.1 hopen) hclosed
  · refine ⟨y, ?_, .of_other ?_ ?_ y⟩
    · cases h with
      | waiting slot hmem => exact .waiting slot hmem
      | working other hother => exact .working other (mem_tasks_of_cut htasks other hother)
      | ended slot result' hmem =>
        rcases List.mem_append.1 hmem with hold | hnew
        · exact .ended slot result' hold
        · cases List.mem_singleton.1 hnew
          exact absurd rfl heq
      | known slot result' hfilled => exact .known slot result' hfilled
      | lost slot hclosed hempty =>
        exact .lost slot (fun hopen => hclosed (hperm.mem_iff.1 hopen)) hempty
    · rintro rfl
      rcases hmove with hmove | hmove <;> cases hmove
      exact heq rfl
    · rintro rfl
      rcases hmove with hmove | hmove <;> cases hmove
      exact heq rfl

/-- What happens to a worker by a change. -/
theorem exists_worker_passes (hplaced : Placed c o s) (haccounted : Accounted s) {m : FleetMove}
    (hc : Change c ws o s m t) {slot : Nat} {y : Standing Session File}
    (h : t.Stands (.worker slot) y) :
    ∃ x, s.Stands (.worker slot) x ∧ Passes c ws o s.world (.worker slot) m x y := by
  have haccounted' := haccounted.change hc
  cases hc with
  | buried place ended desk hduty hended =>
    have hperm : s.openPlaces.Perm (place :: openPlaces
        { s with ended, world := ⟨s.world.net, desk⟩ }) := by
      simp only [openPlaces, hended, List.map_cons]
      exact List.perm_middle
    have hmem : ∀ entry ∈ ended, entry ∈ s.ended := fun entry hentry =>
      hended ▸ List.mem_cons_of_mem _ hentry
    cases h with
    | waiting slot hwaiting => exact ⟨_, .waiting slot hwaiting, .of_coordinate _⟩
    | working task htask => exact ⟨_, .working task htask, .of_coordinate _⟩
    | ended slot result hold => exact ⟨_, .ended slot result (hmem _ hold), .of_coordinate _⟩
    | known slot result hslot => exact ⟨_, .known slot result hslot, .of_coordinate _⟩
    | lost slot hclosed hslot =>
      by_cases heq : slot = place
      · subst heq
        exact ⟨_, .ended slot none (hended ▸ List.mem_cons_self), .buried slot⟩
      · refine ⟨_, .lost slot ?_ hslot, .of_coordinate _⟩
        intro hopen
        exact hclosed ((List.mem_cons.1 (hperm.mem_iff.1 hopen)).resolve_left heq)
  | joined place result ended hduty hended =>
    refine exists_passes_of_filled h haccounted ?_ rfl (fun _ => id) rfl
      (fun entry hentry => hended ▸ List.mem_cons_of_mem _ hentry)
      (.ended place (some result) (hended ▸ List.mem_cons_self)) (.joined place result)
    simp only [openPlaces, hended, List.map_cons]
    exact List.perm_middle
  | withheld place target waiting now hduty hwaiting hcancelled hroom =>
    refine exists_passes_of_filled h haccounted ?_ rfl
      (fun entry hentry => hwaiting ▸ List.mem_cons_of_mem _ hentry) rfl (fun _ => id)
      (.waiting place ?_) (.withheld _ _ target _ now)
    · simp only [openPlaces, hwaiting, List.map_cons]
      exact List.Perm.refl _
    · rw [hwaiting]
      exact List.mem_cons_self
  | started place target waiting hduty hwaiting hlive hroom =>
    cases h with
    | waiting slot hmem =>
      exact ⟨_, .waiting slot (hwaiting ▸ List.mem_cons_of_mem _ hmem), .of_coordinate _⟩
    | working task htask =>
      rcases List.mem_append.1 htask with hold | hnew
      · exact ⟨_, .working task hold, .of_coordinate _⟩
      · cases List.mem_singleton.1 hnew
        refine ⟨_, .waiting place (hwaiting ▸ List.mem_cons_self), .started _ _ ?_⟩
        rw [FleetOrders.errand?, hplaced.waiting place target (hwaiting ▸ List.mem_cons_self)]
        rfl
    | ended slot result hmem => exact ⟨_, .ended slot result hmem, .of_coordinate _⟩
    | known slot result hslot => exact ⟨_, .known slot result hslot, .of_coordinate _⟩
    | lost slot hclosed hslot =>
      refine ⟨_, .lost slot ?_ hslot, .of_coordinate _⟩
      simpa [openPlaces, hwaiting, or_assoc, or_left_comm] using hclosed
  | advanced before after task stage world htasks hadvance hgoes =>
    have htask : task ∈ s.tasks := by simp [htasks]
    by_cases heq : slot = task.slot
    · subst heq
      obtain rfl : y = .working task.errand stage :=
        Stands.eq_of_task haccounted' (List.mem_append_right before List.mem_cons_self) h
      exact ⟨_, .working task htask, .advanced _ _ _ _ _ world rfl hadvance hgoes⟩
    · refine ⟨y, ?_, .of_other (fun hm => heq (FleetMove.advance.inj hm).symm) (by simp) y⟩
      cases h with
      | waiting slot hmem => exact .waiting slot hmem
      | working other hother =>
        have hcut : other = { task with stage } ∨ other ∈ before ++ after := by
          simpa [or_left_comm] using hother
        rcases hcut with rfl | hothers
        · exact absurd rfl heq
        · exact .working other (mem_tasks_of_cut htasks other hothers)
      | ended slot result hmem => exact .ended slot result hmem
      | known slot result hslot => exact .known slot result hslot
      | lost slot hclosed hslot =>
        refine .lost slot ?_ hslot
        simpa [openPlaces, htasks] using hclosed
  | ended before after task stage world htasks hadvance hover =>
    exact exists_passes_of_ended haccounted htasks (.ended _ _ _ _ world hadvance hover) (.inl rfl)
      h
  | died before after task net htasks hnet =>
    exact exists_passes_of_ended haccounted htasks (.died _ _ _) (.inr rfl) h
  | _ => exact exists_passes_of_same h rfl rfl rfl rfl (by simp) (by simp)

/-! ## The leader -/

/-- A move that takes the leader nowhere. -/
theorem Passes.of_leader {w : World Net Desk} {m : FleetMove} {x : Standing Session File}
    (hstep : m.actor? = some .leader → x.step? = none) : Passes c ws o w .leader m x x :=
  .stays hstep nofun

/-- What leaves the leader alone takes it no further. -/
theorem exists_leader_passes_of_same {m : FleetMove} {y : Standing Session File}
    (h : t.Stands .leader y) (hduty : t.duty = s.duty) (hleader : t.leader = s.leader)
    (hm : m ≠ .coordinate) :
    ∃ x, s.Stands .leader x ∧ Passes c ws o s.world .leader m x y := by
  refine ⟨y, ?_, .of_leader ?_⟩
  · cases h with
    | leaderWaiting hphase => exact .leaderWaiting (hduty ▸ hphase)
    | leading errand stage hlead => exact .leading errand stage (hduty ▸ hlead)
    | leaderKnown result hsome => exact .leaderKnown result (hleader ▸ hsome)
    | leaderLost hcrashed => exact .leaderLost (hduty ▸ hcrashed)
  · intro hactor
    cases m with
    | coordinate => exact absurd rfl hm
    | _ => cases hactor

/-- A move of the coordinator that is not for the leader. -/
theorem exists_leader_passes_of_other {y : Standing Session File} (h : t.Stands .leader y)
    (hphase : t.duty.inWorkerPhase = true → s.duty.inWorkerPhase = true)
    (hlead : ∀ errand stage, t.duty ≠ .lead errand stage) (hcrashed : t.duty ≠ .crashed)
    (hleader : t.leader = s.leader) :
    ∃ x, s.Stands .leader x ∧ Passes c ws o s.world .leader .coordinate x y := by
  cases h with
  | leaderWaiting hworking =>
    exact ⟨_, .leaderWaiting (hphase hworking), .of_leader fun _ => rfl⟩
  | leading errand stage hduty => exact absurd hduty (hlead errand stage)
  | leaderKnown result hsome =>
    exact ⟨_, .leaderKnown result (hleader ▸ hsome), .of_leader fun _ => rfl⟩
  | leaderLost hduty => exact absurd hduty hcrashed

/-- What happens to the leader by a change. -/
theorem exists_leader_passes {m : FleetMove} (hc : Change c ws o s m t)
    {y : Standing Session File} (h : t.Stands .leader y) :
    ∃ x, s.Stands .leader x ∧ Passes c ws o s.world .leader m x y := by
  cases hc with
  | leaderWithheld target job now desk hduty hwaiting htasks hended hleader hwhy =>
    have hwaits : s.Stands .leader .waiting := .leaderWaiting (by rw [hduty]; rfl)
    cases h with
    | leaderKnown result hsome =>
      cases hsome
      exact ⟨_, hwaits, .withheld _ _ target _ now⟩
    | leaderWaiting hphase => cases hphase
    | leading errand stage hlead => cases hlead
    | leaderLost hcrashed => cases hcrashed
  | leaderStarted target job hduty hwaiting htasks hended hleader hlive hstrict =>
    have hwaits : s.Stands .leader .waiting := .leaderWaiting (by rw [hduty]; rfl)
    cases h with
    | leading errand stage hlead =>
      cases hlead
      refine ⟨_, hwaits, .started _ _ ?_⟩
      rw [FleetOrders.errand?, hleader]
      rfl
    | leaderWaiting hphase => cases hphase
    | leaderKnown result hsome => exact ⟨_, .leaderKnown result hsome, .of_leader fun _ => rfl⟩
    | leaderLost hcrashed => cases hcrashed
  | led errand stage stage' world hduty hadvance hgoes =>
    cases h with
    | leading errand' stage'' hlead =>
      cases hlead
      exact ⟨_, .leading errand stage hduty, .advanced _ _ _ _ _ world rfl hadvance hgoes⟩
    | leaderWaiting hphase => cases hphase
    | leaderKnown result hsome => exact ⟨_, .leaderKnown result hsome, .of_leader fun _ => rfl⟩
    | leaderLost hcrashed => cases hcrashed
  | leaderDone errand stage result world hduty hadvance =>
    cases h with
    | leaderKnown result' hsome =>
      cases hsome
      exact ⟨_, .leading errand stage hduty, .leaderDone errand stage result world hadvance⟩
    | leaderWaiting hphase => cases hphase
    | leading errand' stage' hlead => cases hlead
    | leaderLost hcrashed => cases hcrashed
  | leaderDied errand stage world hduty hadvance =>
    cases h with
    | leaderLost hcrashed =>
      exact ⟨_, .leading errand stage hduty, .leaderDied errand stage world hadvance⟩
    | leaderWaiting hphase => cases hphase
    | leading errand' stage' hlead => cases hlead
    | leaderKnown result hsome => exact ⟨_, .leaderKnown result hsome, .of_leader fun _ => rfl⟩
  | announced now desk hduty =>
    exact exists_leader_passes_of_other h (fun _ => by rw [hduty]; rfl) (by simp) (by simp) rfl
  | buried slot ended desk hduty hended =>
    exact exists_leader_passes_of_other h id (by simp [hduty]) (by simp [hduty]) rfl
  | joined slot result ended hduty hended =>
    exact exists_leader_passes_of_other h (fun _ => by rw [hduty]; rfl) (by simp) (by simp) rfl
  | withheld slot target waiting now hduty hwaiting hcancelled hroom =>
    exact exists_leader_passes_of_other h (fun _ => by rw [hduty]; rfl) (by simp) (by simp) rfl
  | started slot target waiting hduty hwaiting hlive hroom =>
    exact exists_leader_passes_of_other h id (by simp [hduty]) (by simp [hduty]) rfl
  | workersDone hduty hwaiting htasks hended hleader =>
    exact exists_leader_passes_of_other h (fun _ => by rw [hduty]; rfl) (by simp) (by simp) rfl
  | sentWorker result desk flags stream hduty hsend =>
    exact exists_leader_passes_of_other h (fun _ => by rw [hduty]; rfl) (by simp) (by simp) rfl
  | sentLeader result desk flags stream hduty hsend =>
    exact exists_leader_passes_of_other h (fun hphase => by cases hphase) (by simp) (by simp) rfl
  | reported report desk hduty hworkers hleader hstart =>
    exact exists_leader_passes_of_other h (fun hphase => by cases hphase) (by simp) (by simp) rfl
  | _ => exact exists_leader_passes_of_same h rfl rfl (by simp)

/-! ## Along a run -/

/-- Whatever happens to an actor by a change is a passage. -/
theorem exists_passes_of_change (hplaced : Placed c o s) (haccounted : Accounted s) {m : FleetMove}
    (hc : Change c ws o s m t) {actor : Actor} {y : Standing Session File}
    (h : t.Stands actor y) :
    ∃ x, s.Stands actor x ∧ Passes c ws o s.world actor m x y := by
  cases actor with
  | worker slot => exact exists_worker_passes hplaced haccounted hc h
  | leader => exact exists_leader_passes hc h

/-- Cancelling takes nobody any further. -/
theorem Stands.of_cancel {token : CancelToken} {actor : Actor} {x : Standing Session File}
    (h : (s.cancel token).Stands actor x) : s.Stands actor x := by
  cases h with
  | waiting slot hmem => exact .waiting slot hmem
  | working task htask => exact .working task htask
  | ended slot result hmem => exact .ended slot result hmem
  | known slot result hslot => exact .known slot result hslot
  | lost slot hclosed hslot => exact .lost slot hclosed hslot
  | leaderWaiting hphase => exact .leaderWaiting hphase
  | leading errand stage hduty => exact .leading errand stage hduty
  | leaderKnown result hleader => exact .leaderKnown result hleader
  | leaderLost hduty => exact .leaderLost hduty

/-- At the beginning everybody waits. -/
theorem eq_waiting_of_initial {flags : CancelFlags} {world : World Net Desk}
    {stream : Option ResultStream} {actor : Actor} {x : Standing Session File}
    (h : (initial o flags world stream : FleetRun Net Session Desk File).Stands actor x) :
    x = .waiting := by
  cases h with
  | waiting slot hmem => rfl
  | leaderWaiting hphase => rfl
  | working task htask => cases htask
  | ended slot result hmem => cases hmem
  | known slot result hslot => cases List.eq_of_mem_replicate (List.mem_of_getElem? hslot)
  | lost slot hclosed hslot =>
    have hgathered : Gathered (initial o flags world stream : FleetRun Net Session Desk File) :=
      gathered_initial o flags world stream
    rcases hgathered.filled slot (List.getElem?_eq_some_iff.1 hslot).1 with hopen | ⟨r, hr⟩
    · exact absurd hopen hclosed
    · rw [hslot] at hr
      cases hr
  | leading errand stage hduty => cases hduty
  | leaderKnown result hleader => cases hleader
  | leaderLost hduty => cases hduty

/-- An actor that moves takes the step of the errand that it is working on. -/
theorem Stands.stepping?_eq (haccounted : Accounted s) (hunled : Unled s) {actor : Actor}
    {x : Standing Session File} (h : s.Stands actor x) {m : FleetMove}
    (hactor : m.actor? = some actor) : s.stepping? (.move m) = x.step? := by
  cases m with
  | coordinate =>
    cases hactor
    cases h with
    | leaderWaiting hphase =>
      refine stepping?_of_coordinate fun errand stage hduty => ?_
      rw [hduty] at hphase
      cases hphase
    | leading errand stage hduty => exact stepping?_of_lead hduty
    | leaderKnown result hleader =>
      refine stepping?_of_coordinate fun errand stage hduty => ?_
      have hnone := hunled (by rw [hduty]; rfl)
      rw [hleader] at hnone
      cases hnone
    | leaderLost hduty => exact stepping?_of_coordinate (by simp [hduty])
  | advance slot =>
    cases hactor
    cases hcut : Task.cutAt? slot s.tasks with
    | some cut =>
      obtain ⟨before, task, after⟩ := cut
      obtain ⟨htasks, rfl⟩ := Task.eq_of_cutAt? hcut
      have htask : task ∈ s.tasks := by simp [htasks]
      rw [h.eq_of_task haccounted htask, stepping?_of_task haccounted htasks]
      rfl
    | none =>
      cases h with
      | working task htask =>
        obtain ⟨before, after, htasks⟩ := List.append_of_mem htask
        have hnodup := haccounted.nodup_tasks
        rw [htasks] at hnodup hcut
        rw [cutAt?_of_nodup hnodup] at hcut
        cases hcut
      | _ => simp [stepping?, hcut, Standing.step?]
  | _ => cases hactor

/-- The step of an errand that an actor takes with an event. -/
def stepOf? (actor : Actor) (s : FleetRun Net Session Desk File) :
    FleetEvent → Option (Errand × Stage Session File)
  | .move m => if m.actor? = some actor then s.stepping? (.move m) else none
  | .cancel _ => none

/-- An actor that does not work takes no step. -/
theorem stepOf?_of_idle (haccounted : Accounted s) (hunled : Unled s) {actor : Actor}
    {x : Standing Session File} (h : s.Stands actor x) {m : FleetMove}
    (hidle : m.actor? = some actor → x.step? = none) : s.stepOf? actor (.move m) = none := by
  rw [stepOf?]
  split
  · next hactor => rw [h.stepping?_eq haccounted hunled hactor, hidle hactor]
  · rfl

/-- An actor that moves takes a step of the errand that it is working on. -/
theorem stepOf?_of_working (haccounted : Accounted s) (hunled : Unled s) {actor : Actor}
    {errand : Errand} {stage : Stage Session File} (h : s.Stands actor (.working errand stage))
    {m : FleetMove} (hactor : m.actor? = some actor) :
    s.stepOf? actor (.move m) = some (errand, stage) := by
  rw [stepOf?, if_pos hactor, h.stepping?_eq haccounted hunled hactor]
  rfl

/-- What holds of actors that wait at the beginning, and is kept by every passage, holds of all
actors. -/
theorem stands_induction {P : List FleetEvent → Actor → Standing Session File → Prop}
    {flags : CancelFlags} {world : World Net Desk} {stream : Option ResultStream}
    (h : (initial o flags world stream).follow c ws o events = some s)
    (hstart : ∀ actor, P [] actor .waiting)
    (hcancel : ∀ before u token actor x,
      (initial o flags world stream).follow c ws o before = some u →
      P before actor x → P (before ++ [.cancel token]) actor x)
    (hmove : ∀ before u m actor x y,
      (initial o flags world stream).follow c ws o before = some u → u.Stands actor x →
      Passes c ws o u.world actor m x y → P before actor x → P (before ++ [.move m]) actor y) :
    ∀ actor x, s.Stands actor x → P events actor x := by
  refine follow_induction (P := fun events s => ∀ actor x, s.Stands actor x → P events actor x)
    h ?_ ?_
  · intro actor x hx
    rw [eq_waiting_of_initial hx]
    exact hstart actor
  · intro before u event v _ hfollow hstep hu actor y hy
    cases event with
    | cancel token =>
      cases hstep
      exact hcancel before u token actor y hfollow (hu actor y hy.of_cancel)
    | move m =>
      obtain ⟨x, hx, hpasses⟩ := exists_passes_of_change (placed_of_follow hfollow)
        (accounted_of_follow hfollow) (change_of_move hstep) hy
      exact hmove before u m actor x y hfollow hx hpasses (hu actor x hx)

end FleetRun

end RemoteFleet
