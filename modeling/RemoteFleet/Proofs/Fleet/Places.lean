import RemoteFleet.Proofs.Execution.Results
import RemoteFleet.Proofs.Fleet.Moves
import RemoteFleet.Proofs.Fleet.Resolve
import RemoteFleet.Session.Mock
import RemoteFleet.Workstation.Local

/-!
# Every target has its place in the report

Workers end in any order, may die, and may be cancelled before they start; yet the report has one
result for each of them, in roster order.  Three invariants of a run say why.

* `Placed`: whatever stands in a slot, is on its way to it or will be sent out for it is about the
  target of that slot, and what is known of the leader is about the leader.
* `Accounted`: a slot that is still being worked on is empty, and nobody else works on it.
* `Known`: a result that came in for a slot stays there, up to the report.

`collect` fills a slot only when the task of that slot died, so nothing is lost on the way.
-/

namespace RemoteFleet

/-! ## What belongs where -/

/-- A result that is about the worker of a slot. -/
def FleetOrders.Fits (o : FleetOrders) (slot : Nat) (r : RunResult) : Prop :=
  ∃ target, o.targets.workers[slot]? = some target ∧ r.subject = (o.workerErrand target).subject

/-- Results that are about the workers, one by one. -/
def FleetOrders.WorkersFit (o : FleetOrders) (results : List RunResult) : Prop :=
  results.map (·.subject) = o.targets.workers.map fun target => (o.workerErrand target).subject

/-- A result that is about the leader, or none without a leader. -/
def FleetOrders.LeaderFits (o : FleetOrders) (result : Option RunResult) : Prop :=
  result.map (·.subject)
    = o.targets.leader.map fun (target, job) => (o.leaderErrand target job).subject

namespace FleetRun

variable {Net Session Desk File : Type}

/-- What must hold of the results of a run because of what the coordinator does next. -/
def DutyPlaced (c : Connector Net Session) (o : FleetOrders)
    (s : FleetRun Net Session Desk File) : Duty Session File → Prop
  | .announce | .manage | .sendWorker _ => True
  | .lead errand stage => o.WorkersFit s.workers ∧ stage.isOver = false ∧
      ∃ target job, o.targets.leader = some (target, job) ∧ errand = o.leaderErrand target job
  | .sendLeader _ | .report => o.WorkersFit s.workers ∧ o.LeaderFits s.leader
  | .finished report => o.WorkersFit report.workers ∧ o.LeaderFits report.leader
  | .crashed => ∃ target job net, o.targets.leader = some (target, job) ∧
      (c.connect target net).1 = .died

/-- Everything is about the target of its slot. -/
structure Placed (c : Connector Net Session) (o : FleetOrders)
    (s : FleetRun Net Session Desk File) : Prop where
  length_slots : s.slots.length = o.targets.workers.length
  waiting : ∀ slot target, (slot, target) ∈ s.waiting → o.targets.workers[slot]? = some target
  tasks : ∀ task ∈ s.tasks, task.stage.isOver = false ∧
    ∃ target, o.targets.workers[task.slot]? = some target ∧ task.errand = o.workerErrand target
  ended : ∀ slot r, (slot, some r) ∈ s.ended → o.Fits slot r
  slots : ∀ slot r, s.slots[slot]? = some (some r) → o.Fits slot r
  noLeader : o.targets.leader = none → s.leader = none
  duty : DutyPlaced c o s s.duty

variable {c : Connector Net Session} {ws : Workstation Desk File} {o : FleetOrders}
  {s t : FleetRun Net Session Desk File}

theorem placed_initial (o : FleetOrders) (flags : CancelFlags) (world : World Net Desk)
    (stream : Option ResultStream) :
    Placed c o (initial o flags world stream : FleetRun Net Session Desk File) where
  length_slots := List.length_replicate
  waiting slot target h := by
    obtain ⟨⟨target', slot'⟩, hmem, heq⟩ := List.mem_map.1 h
    cases heq
    exact List.mem_zipIdx_iff_getElem?.1 hmem
  tasks task h := by cases h
  ended slot r h := by cases h
  slots slot r h := by
    have hmem := List.mem_of_getElem? h
    cases List.eq_of_mem_replicate hmem
  noLeader _ := rfl
  duty := trivial

/-! ### A step at a time -/

/-- A slot that is filled with a result that fits leaves everything in its place. -/
theorem Placed.slots_set (h : Placed c o s) {slot : Nat} {r : RunResult} (hr : o.Fits slot r) :
    ∀ k r', (s.slots.set slot (some r))[k]? = some (some r') → o.Fits k r' := by
  intro k r' hk
  rw [List.getElem?_set] at hk
  split at hk
  · next heq =>
    split at hk
    · cases hk
      exact heq ▸ hr
    · cases hk
  · exact h.slots k r' hk

/-- One result for each worker is what `collect` gives. -/
theorem Placed.workersFit_collect (h : Placed c o s) : o.WorkersFit (s.collect ws o) := by
  unfold FleetOrders.WorkersFit collect
  apply List.ext_getElem?
  intro k
  simp only [List.getElem?_map, List.getElem?_zipWith]
  cases htarget : o.targets.workers[k]? with
  | none => simp
  | some target =>
    have hk : k < s.slots.length := by
      rw [h.length_slots]
      exact (List.getElem?_eq_some_iff.1 htarget).1
    rw [List.getElem?_eq_getElem hk]
    cases hslot : s.slots[k] with
    | none => rfl
    | some r =>
      obtain ⟨target', htarget', hsubject⟩ := h.slots k r (List.getElem?_eq_some_iff.2 ⟨hk, hslot⟩)
      rw [htarget] at htarget'
      cases htarget'
      simp only [Option.map_some, Option.getD_some, hsubject]

/-- A list of tasks stays in place when one of them takes a step. -/
theorem Placed.tasks_advanced (h : Placed c o s) {before after : List (Task Session File)}
    {task : Task Session File} {stage : Stage Session File}
    (htasks : s.tasks = before ++ task :: after) (hgoes : stage.isOver = false) :
    ∀ task' ∈ before ++ { task with stage } :: after, task'.stage.isOver = false ∧
      ∃ target, o.targets.workers[task'.slot]? = some target ∧
        task'.errand = o.workerErrand target := by
  intro task' hmem
  have hold := h.tasks
  rw [htasks] at hold
  rcases List.mem_append.1 hmem with hbefore | hrest
  · exact hold task' (List.mem_append_left _ hbefore)
  · rcases List.mem_cons.1 hrest with rfl | hafter
    · exact ⟨hgoes, (hold task (by simp)).2⟩
    · exact hold task' (List.mem_append_right _ (List.mem_cons_of_mem _ hafter))

/-- The tasks that are left when one is cut out were there before. -/
theorem mem_tasks_of_cut {before after : List (Task Session File)} {task : Task Session File}
    (htasks : s.tasks = before ++ task :: after) : ∀ task' ∈ before ++ after, task' ∈ s.tasks := by
  rw [htasks]
  exact ((List.sublist_cons_self task after).append_left before).subset

/-- What is in place is in place after every move. -/
theorem Placed.change (h : Placed c o s) {m : FleetMove} (hc : Change c ws o s m t) :
    Placed c o t := by
  cases hc with
  | announced now desk hduty => exact { h with duty := trivial }
  | buried slot ended desk hduty hended =>
    refine { h with ended := ?_, duty := hduty ▸ trivial }
    intro k r hmem
    exact h.ended k r (hended ▸ List.mem_cons_of_mem _ hmem)
  | joined slot result ended hduty hended =>
    have hfits : o.Fits slot result := h.ended slot result (hended ▸ List.mem_cons_self)
    refine { h with
      length_slots := ?_, ended := ?_, slots := h.slots_set hfits, duty := trivial }
    · rw [List.length_set]
      exact h.length_slots
    · intro k r hmem
      exact h.ended k r (hended ▸ List.mem_cons_of_mem _ hmem)
  | withheld slot target waiting now hduty hwaiting hcancelled =>
    have htarget := h.waiting slot target (hwaiting ▸ List.mem_cons_self)
    refine { h with
      length_slots := ?_, waiting := ?_, slots := h.slots_set ⟨target, htarget, rfl⟩,
      duty := trivial }
    · rw [List.length_set]
      exact h.length_slots
    · intro k target' hmem
      exact h.waiting k target' (hwaiting ▸ List.mem_cons_of_mem _ hmem)
  | started slot target waiting hduty hwaiting hlive hroom =>
    have htarget := h.waiting slot target (hwaiting ▸ List.mem_cons_self)
    refine { h with waiting := ?_, tasks := ?_, duty := hduty ▸ trivial }
    · intro k target' hmem
      exact h.waiting k target' (hwaiting ▸ List.mem_cons_of_mem _ hmem)
    · intro task hmem
      rcases List.mem_append.1 hmem with hold | hnew
      · exact h.tasks task hold
      · cases List.mem_singleton.1 hnew
        exact ⟨rfl, target, htarget, rfl⟩
  | workersDone hduty hwaiting htasks hended hleader =>
    refine { h with duty := ⟨h.workersFit_collect, ?_⟩ }
    simp only [FleetOrders.LeaderFits, hleader, h.noLeader hleader, Option.map_none]
  | leaderWithheld target job now desk hduty hwaiting htasks hended hleader hwhy =>
    refine { h with noLeader := ?_, duty := ⟨h.workersFit_collect, ?_⟩ }
    · intro hnone
      rw [hleader] at hnone
      cases hnone
    · simp only [FleetOrders.LeaderFits, hleader, Option.map_some]
      rfl
  | leaderStarted target job hduty hwaiting htasks hended hleader hlive hstrict =>
    exact { h with duty := ⟨h.workersFit_collect, rfl, target, job, hleader, rfl⟩ }
  | sentWorker result desk flags stream hduty hsend => exact { h with duty := trivial }
  | sentLeader result desk flags stream hduty hsend =>
    have hplaced := h.duty
    rw [hduty] at hplaced
    exact { h with duty := hplaced }
  | led errand stage stage' world hduty hadvance hgoes =>
    have hplaced := h.duty
    rw [hduty] at hplaced
    exact { h with duty := ⟨hplaced.1, hgoes, hplaced.2.2⟩ }
  | leaderDone errand stage result world hduty hadvance =>
    have hplaced := h.duty
    rw [hduty] at hplaced
    obtain ⟨hworkers, hgoes, target, job, hleader, rfl⟩ := hplaced
    have hsubject := (Errand.gives_of_advance hgoes hadvance).subject_eq
    refine { h with noLeader := ?_, duty := ⟨hworkers, ?_⟩ }
    · intro hnone
      rw [hleader] at hnone
      cases hnone
    · simp only [FleetOrders.LeaderFits, hleader, Option.map_some, hsubject]
  | leaderDied errand stage world hduty hadvance =>
    have hplaced := h.duty
    rw [hduty] at hplaced
    obtain ⟨_, hgoes, target, job, hleader, rfl⟩ := hplaced
    exact { h with duty := ⟨target, job, _, hleader, Errand.died_of_advance hgoes hadvance⟩ }
  | reported report desk hduty hworkers hleader hstart =>
    have hplaced := h.duty
    rw [hduty] at hplaced
    refine { h with duty := ?_ }
    simp only [DutyPlaced, hworkers, hleader]
    exact hplaced
  | advanced before after task stage world htasks hadvance hgoes =>
    exact { h with tasks := h.tasks_advanced htasks hgoes }
  | ended before after task stage world htasks hadvance hover =>
    have hmem : task ∈ s.tasks := by
      rw [htasks]
      simp
    obtain ⟨hgoes, target, htarget, herrand⟩ := h.tasks task hmem
    refine { h with
      tasks := fun task' hmem' => h.tasks task' (mem_tasks_of_cut htasks task' hmem'), ended := ?_ }
    · intro k r hmem'
      rcases List.mem_append.1 hmem' with hold | hnew
      · exact h.ended k r hold
      · obtain ⟨rfl, hr⟩ := Prod.mk.inj (List.mem_singleton.1 hnew)
        cases stage with
        | done result =>
          cases hr
          exact ⟨target, htarget, herrand ▸ (Errand.gives_of_advance hgoes hadvance).subject_eq⟩
        | dead => cases hr
        | _ => cases hover
  | died before after task net htasks hnet =>
    refine { h with
      tasks := fun task' hmem' => h.tasks task' (mem_tasks_of_cut htasks task' hmem'), ended := ?_ }
    · intro k r hmem'
      rcases List.mem_append.1 hmem' with hold | hnew
      · exact h.ended k r hold
      · cases List.mem_singleton.1 hnew
  | taken result queue received hstream => exact { h with }
  | left queue received hstream => exact { h with }

/-! ## Nobody else works on a slot -/

/-- The slots whose workers are waiting, at work, or not joined. -/
def openPlaces (s : FleetRun Net Session Desk File) : List Nat :=
  s.waiting.map (·.1) ++ s.tasks.map (·.slot) ++ s.ended.map (·.1)

/-- A slot that is being worked on is empty, and nobody else works on it. -/
structure Accounted (s : FleetRun Net Session Desk File) : Prop where
  nodup : s.openPlaces.Nodup
  empty : ∀ k ∈ s.openPlaces, s.slots[k]? = some none

theorem accounted_initial (o : FleetOrders) (flags : CancelFlags) (world : World Net Desk)
    (stream : Option ResultStream) :
    Accounted (initial o flags world stream : FleetRun Net Session Desk File) := by
  have hplaces : (initial o flags world stream : FleetRun Net Session Desk File).openPlaces
      = List.range' 0 o.targets.workers.length := by
    simp only [openPlaces, initial, List.map_nil, List.append_nil, List.map_map]
    exact List.zipIdx_map_snd 0 o.targets.workers
  constructor
  · rw [hplaces]
    exact List.nodup_range'
  · intro k hk
    rw [hplaces, List.mem_range'_1] at hk
    simp only [initial, List.getElem?_replicate]
    exact if_pos (by omega)

/-- A worker changes hands. -/
theorem Accounted.of_perm (h : Accounted s) (hperm : s.openPlaces.Perm t.openPlaces)
    (hslots : t.slots = s.slots) : Accounted t where
  nodup := hperm.nodup_iff.1 h.nodup
  empty k hk := by
    rw [hslots]
    exact h.empty k (hperm.mem_iff.2 hk)

/-- Nobody works on a slot any more, and only that one changes. -/
theorem Accounted.of_perm_cons (h : Accounted s) (slot : Nat)
    (hperm : s.openPlaces.Perm (slot :: t.openPlaces))
    (hslots : ∀ k, k ≠ slot → t.slots[k]? = s.slots[k]?) : Accounted t := by
  have hnodup := List.nodup_cons.1 (hperm.nodup_iff.1 h.nodup)
  refine ⟨hnodup.2, ?_⟩
  intro k hk
  have hne : k ≠ slot := fun heq => hnodup.1 (heq ▸ hk)
  rw [hslots k hne]
  exact h.empty k (hperm.mem_iff.2 (List.mem_cons_of_mem _ hk))

/-- A task that ends is not joined. -/
theorem perm_ended {before after : List (Task Session File)} {task : Task Session File}
    {result : Option RunResult} {world : World Net Desk}
    (htasks : s.tasks = before ++ task :: after) :
    s.openPlaces.Perm (openPlaces
      { s with world, tasks := before ++ after, ended := s.ended ++ [(task.slot, result)] }) := by
  simp only [openPlaces, htasks, List.map_append, List.map_cons, List.map_nil, List.append_assoc]
  refine List.Perm.append_left _ (List.Perm.append_left _ ?_)
  rw [List.cons_append, ← List.append_assoc]
  exact (List.perm_append_singleton task.slot _).symm

/-- A worker changes hands, or nobody works on a slot any more because it was filled, or because the
task of that slot died. -/
theorem places_of_change {m : FleetMove} (hc : Change c ws o s m t) :
    (s.openPlaces.Perm t.openPlaces ∧ t.slots = s.slots) ∨
      ∃ slot, s.openPlaces.Perm (slot :: t.openPlaces) ∧
        ((∃ r, t.slots = s.slots.set slot (some r)) ∨
          (slot, none) ∈ s.ended ∧ t.slots = s.slots) := by
  cases hc with
  | buried slot ended desk hduty hended =>
    refine .inr ⟨slot, ?_, .inr ⟨hended ▸ List.mem_cons_self, rfl⟩⟩
    simp only [openPlaces, hended, List.map_cons]
    exact List.perm_middle
  | joined slot result ended hduty hended =>
    refine .inr ⟨slot, ?_, .inl ⟨result, rfl⟩⟩
    simp only [openPlaces, hended, List.map_cons]
    exact List.perm_middle
  | withheld slot target waiting now hduty hwaiting hcancelled =>
    refine .inr ⟨slot, ?_, .inl ⟨_, rfl⟩⟩
    simp only [openPlaces, hwaiting, List.map_cons]
    exact List.Perm.refl _
  | started slot target waiting hduty hwaiting hlive hroom =>
    refine .inl ⟨?_, rfl⟩
    simp only [openPlaces, hwaiting, List.map_cons, List.map_append, List.map_nil]
    refine List.Perm.append_right _ ?_
    rw [← List.append_assoc]
    exact (List.perm_append_singleton slot _).symm
  | advanced before after task stage world htasks hadvance hgoes =>
    refine .inl ⟨?_, rfl⟩
    simp only [openPlaces, htasks, List.map_append, List.map_cons]
    exact List.Perm.refl _
  | ended before after task stage world htasks hadvance hover =>
    exact .inl ⟨perm_ended htasks, rfl⟩
  | died before after task net htasks hnet => exact .inl ⟨perm_ended htasks, rfl⟩
  | _ => exact .inl ⟨List.Perm.refl _, rfl⟩

/-- The account is right after every move. -/
theorem Accounted.change (h : Accounted s) {m : FleetMove} (hc : Change c ws o s m t) :
    Accounted t := by
  rcases places_of_change hc with ⟨hperm, hslots⟩ | ⟨slot, hperm, ⟨r, hslots⟩ | ⟨_, hslots⟩⟩
  · exact h.of_perm hperm hslots
  · exact h.of_perm_cons slot hperm fun k hk => hslots ▸ List.getElem?_set_ne (Ne.symm hk)
  · exact h.of_perm_cons slot hperm fun k _ => hslots ▸ rfl

/-- The first of a line leaves it. -/
theorem exists_line_tail {line : List Nat} {slot first n : Nat}
    (h : slot :: line = List.range' first (n - first)) :
    slot = first ∧ line = List.range' (first + 1) (n - (first + 1)) := by
  cases hlength : n - first with
  | zero =>
    rw [hlength] at h
    cases h
  | succ m =>
    rw [hlength, List.range'_succ] at h
    obtain ⟨rfl, rfl⟩ := List.cons.inj h
    refine ⟨rfl, ?_⟩
    rw [Nat.sub_add_eq, hlength]
    rfl

/-! ## A result that came in stays -/

/-- What is known of a worker's result because of what the coordinator does next. -/
def DutyKnows (slot : Nat) (r : RunResult) (workers : List RunResult) : Duty Session File → Prop
  | .announce | .manage | .sendWorker _ => True
  | .lead _ _ | .sendLeader _ | .report | .crashed => workers[slot]? = some r
  | .finished report => report.workers[slot]? = some r

/-- A worker's result came in: it is not joined, in its slot, or in the report. -/
structure Known (c : Connector Net Session) (o : FleetOrders) (slot : Nat) (r : RunResult)
    (s : FleetRun Net Session Desk File) : Prop where
  placed : Placed c o s
  accounted : Accounted s
  here : (slot, some r) ∈ s.ended ∨ s.slots[slot]? = some (some r)
  duty : DutyKnows slot r s.workers s.duty

/-- A worker whose result came in is one of the workers. -/
theorem Known.fits {slot : Nat} {r : RunResult} (h : Known c o slot r s) : o.Fits slot r :=
  h.here.elim (h.placed.ended slot r) (h.placed.slots slot r)

theorem Known.lt_length {slot : Nat} {r : RunResult} (h : Known c o slot r s) :
    slot < s.slots.length := by
  obtain ⟨target, htarget, _⟩ := h.fits
  rw [h.placed.length_slots]
  exact (List.getElem?_eq_some_iff.1 htarget).1

/-- Filling another slot leaves a result where it is. -/
theorem Known.slots_set {slot k : Nat} {r : RunResult} (h : Known c o slot r s)
    (hk : k ∈ s.openPlaces) (r' : Option RunResult) (hslot : s.slots[slot]? = some (some r)) :
    (s.slots.set k r')[slot]? = some (some r) := by
  have hne : k ≠ slot := by
    intro heq
    have hempty := h.accounted.empty k hk
    rw [heq, hslot] at hempty
    cases hempty
  rw [List.getElem?_set_ne hne]
  exact hslot

/-- When no task is left to join, the result is in its slot, and `collect` takes it from there. -/
theorem Known.getElem?_collect {slot : Nat} {r : RunResult} (h : Known c o slot r s)
    (hended : s.ended = []) : (s.collect ws o)[slot]? = some r := by
  obtain ⟨target, htarget, _⟩ := h.fits
  have hslot : s.slots[slot]? = some (some r) := by
    rcases h.here with hmem | hslot
    · rw [hended] at hmem
      cases hmem
    · exact hslot
  simp only [collect, List.getElem?_zipWith, htarget, hslot, Option.getD_some]

/-- What came in stays, whatever the move. -/
theorem Known.change {slot : Nat} {r : RunResult} (h : Known c o slot r s) {m : FleetMove}
    (hc : Change c ws o s m t) : Known c o slot r t := by
  have hplaced := h.placed.change hc
  have haccounted := h.accounted.change hc
  have hknows := h.duty
  cases hc with
  | announced now desk hduty => exact ⟨hplaced, haccounted, h.here, trivial⟩
  | buried slot' ended desk hduty hended =>
    refine ⟨hplaced, haccounted, h.here.imp_left ?_, hknows⟩
    intro hmem
    rw [hended] at hmem
    exact (List.mem_cons.1 hmem).resolve_left (by simp)
  | joined slot' result ended hduty hended =>
    refine ⟨hplaced, haccounted, ?_, trivial⟩
    have hopen : slot' ∈ s.openPlaces := by simp [openPlaces, hended]
    rcases h.here with hmem | hslot
    · rw [hended] at hmem
      rcases List.mem_cons.1 hmem with heq | hmem
      · cases heq
        exact .inr (List.getElem?_set_self h.lt_length)
      · exact .inl hmem
    · exact .inr (h.slots_set hopen _ hslot)
  | withheld slot' target waiting now hduty hwaiting hcancelled =>
    have hopen : slot' ∈ s.openPlaces := by simp [openPlaces, hwaiting]
    exact ⟨hplaced, haccounted, h.here.imp_right (h.slots_set hopen _), trivial⟩
  | workersDone hduty hwaiting htasks hended hleader =>
    exact ⟨hplaced, haccounted, h.here, h.getElem?_collect hended⟩
  | leaderWithheld target job now desk hduty hwaiting htasks hended hleader hwhy =>
    exact ⟨hplaced, haccounted, h.here, h.getElem?_collect hended⟩
  | leaderStarted target job hduty hwaiting htasks hended hleader hlive hstrict =>
    exact ⟨hplaced, haccounted, h.here, h.getElem?_collect hended⟩
  | sentWorker result desk flags stream hduty hsend =>
    exact ⟨hplaced, haccounted, h.here, trivial⟩
  | sentLeader result desk flags stream hduty hsend =>
    rw [hduty] at hknows
    exact ⟨hplaced, haccounted, h.here, hknows⟩
  | led errand stage stage' world hduty hadvance hgoes =>
    rw [hduty] at hknows
    exact ⟨hplaced, haccounted, h.here, hknows⟩
  | leaderDone errand stage result world hduty hadvance =>
    rw [hduty] at hknows
    exact ⟨hplaced, haccounted, h.here, hknows⟩
  | leaderDied errand stage world hduty hadvance =>
    rw [hduty] at hknows
    exact ⟨hplaced, haccounted, h.here, hknows⟩
  | reported report desk hduty hworkers hleader hstart =>
    rw [hduty] at hknows
    refine ⟨hplaced, haccounted, h.here, ?_⟩
    simp only [DutyKnows, hworkers]
    exact hknows
  | ended before after task stage world htasks hadvance hover =>
    exact ⟨hplaced, haccounted, h.here.imp_left (List.mem_append_left _), hknows⟩
  | died before after task net htasks hnet =>
    exact ⟨hplaced, haccounted, h.here.imp_left (List.mem_append_left _), hknows⟩
  | _ => exact ⟨hplaced, haccounted, h.here, hknows⟩

/-! ## The leader comes last -/

/-- There is no result of the leader as long as it is awaited. -/
def Unled (s : FleetRun Net Session Desk File) : Prop :=
  s.duty.awaitsLeader = true → s.leader = none

theorem Unled.change (h : Unled s) {m : FleetMove} (hc : Change c ws o s m t) : Unled t := by
  intro hawaits
  cases hc with
  | announced now desk hduty => exact h (by rw [hduty]; rfl)
  | joined slot result ended hduty hended => exact h (by rw [hduty]; rfl)
  | withheld slot target waiting now hduty hwaiting hcancelled hroom => exact h (by rw [hduty]; rfl)
  | sentWorker result desk flags stream hduty hsend => exact h (by rw [hduty]; rfl)
  | leaderStarted target job hduty hwaiting htasks hended hleader hlive hstrict =>
    exact h (by rw [hduty]; rfl)
  | led errand stage stage' world hduty hadvance hgoes => exact h (by rw [hduty]; rfl)
  | workersDone hduty hwaiting htasks hended hleader => cases hawaits
  | leaderWithheld target job now desk hduty hwaiting htasks hended hleader hwhy => cases hawaits
  | sentLeader result desk flags stream hduty hsend => cases hawaits
  | leaderDone errand stage result world hduty hadvance => cases hawaits
  | leaderDied errand stage world hduty hadvance => cases hawaits
  | reported report desk hduty hworkers hleader hstart => cases hawaits
  | _ => exact h hawaits

/-! ## Along a run -/

theorem unled_of_follow {events : List FleetEvent} {flags : CancelFlags} {world : World Net Desk}
    {stream : Option ResultStream}
    (h : (initial o flags world stream).follow c ws o events = some s) : Unled s :=
  follow_invariant (fun _ _ _ _ hchange hs => hs.change hchange) (fun _ _ hs => hs) h
    (fun _ => rfl)

theorem placed_of_follow {events : List FleetEvent} {flags : CancelFlags} {world : World Net Desk}
    {stream : Option ResultStream}
    (h : (initial o flags world stream).follow c ws o events = some s) : Placed c o s :=
  follow_invariant (fun _ _ _ _ hchange hs => hs.change hchange) (fun _ _ hs => { hs with }) h
    (placed_initial o flags world stream)

theorem accounted_of_follow {events : List FleetEvent} {flags : CancelFlags}
    {world : World Net Desk} {stream : Option ResultStream}
    (h : (initial o flags world stream).follow c ws o events = some s) : Accounted s :=
  follow_invariant (fun _ _ _ _ hchange hs => hs.change hchange)
    (fun _ _ hs => ⟨hs.nodup, hs.empty⟩) h (accounted_initial o flags world stream)

theorem known_of_follow {events : List FleetEvent} {slot : Nat} {r : RunResult}
    (h : s.follow c ws o events = some t) (hs : Known c o slot r s) : Known c o slot r t :=
  follow_invariant (fun _ _ _ _ hchange hs => hs.change hchange)
    (fun _ _ hs => { hs with placed := { hs.placed with }, accounted := ⟨hs.2.1, hs.2.2⟩ }) h hs

/-- A result that came in while the workers are not all done is known. -/
theorem known_of_inWorkerPhase {slot : Nat} {r : RunResult} (hplaced : Placed c o s)
    (haccounted : Accounted s) (hphase : s.duty.inWorkerPhase = true)
    (hhere : (slot, some r) ∈ s.ended ∨ s.slots[slot]? = some (some r)) : Known c o slot r s := by
  refine ⟨hplaced, haccounted, hhere, ?_⟩
  cases hduty : s.duty with
  | announce => trivial
  | manage => trivial
  | sendWorker result => trivial
  | _ => simp [hduty, Duty.inWorkerPhase] at hphase

theorem finished_of_report {report : FleetReport} (h : s.report? = some report) :
    s.duty = .finished report := by
  unfold report? at h
  split at h
  · next written hduty =>
    cases h
    exact hduty
  · cases h

/-- A run with an outcome other than a crash has written its report. -/
theorem finished_of_outcome {report : FleetReport}
    (h : s.outcome o = .ok report ∨ s.outcome o = .error (.leaderFailed report)) :
    s.duty = .finished report := by
  unfold outcome report? at h
  cases hduty : s.duty with
  | finished written =>
    simp only [hduty] at h
    split at h
    · rcases h with h | h
      · cases h
      · cases h
        rfl
    · rcases h with h | h
      · cases h
        rfl
      · cases h
  | _ => simp [hduty] at h

/-- A run that is over has its report, unless the leader's attempt to connect died. -/
theorem Placed.report_or_died (h : Placed c o s) (hover : s.duty.isOver = true) :
    s.report?.isSome = true ∨ ∃ target job net, o.targets.leader = some (target, job) ∧
      (c.connect target net).1 = .died := by
  have hend := h.duty
  unfold report?
  cases hduty : s.duty with
  | finished report => exact .inl rfl
  | crashed =>
    rw [hduty] at hend
    exact .inr hend
  | _ => simp [hduty, Duty.isOver] at hover

end FleetRun

/-! ## The report -/

/-- A run never gets stuck, keeps what came in, and reports every target in its place: one result
for each worker in roster order, and one for the leader exactly if there is one.  It ends without a
report only when the leader's attempt to connect dies. -/
theorem Dispatcher.report_covers_targets {Net Session Desk File : Type}
    (d : Dispatcher Net Session Desk File) {roster : HostRoster} {plan : FleetPlan}
    (hplan : plan.validate roster = .ok ()) (token : CancelToken) (flags : CancelFlags)
    (world : World Net Desk) (stream : Option ResultStream) :
    ∃ o, d.orders roster plan token = .ok o ∧ ∀ events s,
      (FleetRun.initial o flags world stream).follow d.connector d.workstation o events = some s →
      (∃ (moves : List FleetMove) (t : FleetRun Net Session Desk File),
        (∀ m ∈ moves, m.isMishap = false) ∧
        s.follow d.connector d.workstation o (moves.map .move) = some t ∧
        (t.report?.isSome = true ∨ ∃ target job net, o.targets.leader = some (target, job) ∧
          (d.connector.connect target net).1 = .died)) ∧
      (∀ slot r, s.duty.inWorkerPhase = true →
        ((slot, some r) ∈ s.ended ∨ s.slots[slot]? = some (some r)) →
        ∀ later t report, s.follow d.connector d.workstation o later = some t →
          t.report? = some report → report.workers[slot]? = some r) ∧
      ∀ report, s.outcome o = .ok report ∨ s.outcome o = .error (.leaderFailed report) →
        (report.workers.map fun r => (r.phase, r.index, r.address, r.job))
            = (roster.select plan.selection d.credentials).map
              (fun target => (.worker, target.index, target.address, plan.job.name)) ∧
          (report.workers.map (·.index)).Pairwise (· < ·) ∧
          (report.leader.map fun r => (r.phase, r.index))
            = plan.leader.map fun leader => (.leader, leader.index) := by
  obtain ⟨targets, hresolve, hworkers, hleader⟩ :=
    FleetPlan.exists_resolve_of_validate hplan d.credentials
  refine ⟨⟨plan, targets, d.echo, token⟩, by rw [orders, hresolve]; rfl, ?_⟩
  intro events s hfollow
  have hplaced := FleetRun.placed_of_follow hfollow
  have haccounted := FleetRun.accounted_of_follow hfollow
  refine ⟨?_, ?_, ?_⟩
  · obtain ⟨moves, t, hmoves, hrest, hover⟩ :=
      FleetRun.exists_follow_isOver d.connector d.workstation ⟨plan, targets, d.echo, token⟩ s
    refine ⟨moves, t, hmoves, hrest, ?_⟩
    have hend := (FleetRun.placed_of_follow (FleetRun.follow_trans hfollow hrest)).duty
    unfold FleetRun.report?
    cases hduty : t.duty with
    | finished report => exact .inl rfl
    | crashed =>
      rw [hduty] at hend
      exact .inr hend
    | _ => simp [hduty, Duty.isOver] at hover
  · intro slot r hphase hhere later t report hlater hreport
    have hknown := FleetRun.known_of_follow hlater
      (FleetRun.known_of_inWorkerPhase hplaced haccounted hphase hhere)
    have hduty := hknown.duty
    unfold FleetRun.report? at hreport
    split at hreport
    · next written hwritten =>
      cases hreport
      rw [hwritten] at hduty
      exact hduty
    · cases hreport
  · intro report houtcome
    have hduty := hplaced.duty
    rw [FleetRun.finished_of_outcome houtcome] at hduty
    obtain ⟨hall, hlead⟩ := hduty
    have hsubjects : (report.workers.map fun r => (r.phase, r.index, r.address, r.job))
        = (roster.select plan.selection d.credentials).map
          fun target => (.worker, target.index, target.address, plan.job.name) := by
      rw [← hworkers]
      exact hall
    refine ⟨hsubjects, ?_, ?_⟩
    · have hindices := congrArg (List.map fun subject => subject.2.1) hsubjects
      rw [List.map_map, List.map_map] at hindices
      have hascending := roster.select_ascending plan.selection d.credentials
      exact hindices ▸ hascending
    · have hone := congrArg (Option.map fun subject => (subject.1, subject.2.1)) hlead
      have htwo := congrArg (Option.map fun pair => (Phase.leader, pair.1)) hleader
      rw [Option.map_map, Option.map_map] at hone htwo
      exact hone.trans htwo

/-! ### Three hosts -/

/-- Three hosts that do what they are asked. -/
def trioRoster : HostRoster :=
  ⟨[⟨1, "a", none, none, none⟩, ⟨2, "b", none, none, none⟩, ⟨3, "c", none, none, none⟩],
    by decide, by decide, by decide⟩

/-- The leader's job on the third of three hosts. -/
def trioBench : CommandJob := { name := "bench", template := { command := "bench" } }

/-- All three hosts are prepared, two at a time, and then the third leads. -/
def trioPlan : FleetPlan :=
  { job := { name := "prep", template := { command := "uptime" } }
    leader := some ⟨3, trioBench⟩
    concurrency := 2 }

def trioDispatcher : Dispatcher MockRecord MockSession LocalDesk FileStore.OpenFile :=
  ⟨MockScript.connector {}, LocalDesk.workstation, {}, ⟨0, []⟩, false⟩

def trioOrders : FleetOrders :=
  ⟨trioPlan, ⟨trioRoster.select .all {}, (trioRoster.target? {} 3).map (·, trioBench)⟩, false,
    ⟨0, []⟩⟩

theorem validate_trio : trioPlan.validate trioRoster = .ok () :=
  eq_ok_of_toOption (by decide +kernel)

theorem orders_trio : trioDispatcher.orders trioRoster trioPlan ⟨0, []⟩ = .ok trioOrders :=
  eq_ok_of_toOption (by decide +kernel)

/-- The second worker ends before the first, which dies. -/
def trioMoves : List FleetMove :=
  List.replicate 3 .coordinate ++ List.replicate 7 (.advance 1) ++ List.replicate 3 .coordinate
    ++ [.die 0] ++ List.replicate 7 (.advance 2) ++ List.replicate 13 .coordinate

/-- The report of a run in which the second worker ends first and the first one dies. -/
theorem Dispatcher.report_covers_trio :
    trioPlan.validate trioRoster = .ok () ∧
    ∃ s report, (FleetRun.initial trioOrders ⟨1, []⟩ ⟨{}, {}⟩ none).follow trioDispatcher.connector
        trioDispatcher.workstation trioOrders (trioMoves.map .move) = some s ∧
      s.outcome trioOrders = .ok report ∧
      (report.workers.map fun r => (r.index, r.address)) = [(1, "a"), (2, "b"), (3, "c")] ∧
      (report.leader.map fun r => (r.phase, r.index)) = some (.leader, 3) := by
  obtain ⟨o, horders, hall⟩ := trioDispatcher.report_covers_targets validate_trio ⟨0, []⟩ ⟨1, []⟩
    ⟨{}, {}⟩ none
  rw [orders_trio] at horders
  cases horders
  have hrun : ((FleetRun.initial trioOrders ⟨1, []⟩ ⟨{}, {}⟩ none).follow trioDispatcher.connector
      trioDispatcher.workstation trioOrders (trioMoves.map .move)).map
        (fun s => (s.outcome trioOrders).toOption.isSome) = some true := by rfl
  obtain ⟨s, hs, hreport⟩ := Option.map_eq_some_iff.1 hrun
  cases houtcome : s.outcome trioOrders with
  | error failure => simp [houtcome, Except.toOption] at hreport
  | ok report =>
    obtain ⟨hworkers, _, hleader⟩ := (hall _ s hs).2.2 report (.inl houtcome)
    refine ⟨validate_trio, s, report, hs, houtcome, ?_, hleader⟩
    have hplaces := congrArg (List.map fun subject => (subject.2.1, subject.2.2.1)) hworkers
    rw [List.map_map, List.map_map] at hplaces
    exact hplaces

end RemoteFleet
