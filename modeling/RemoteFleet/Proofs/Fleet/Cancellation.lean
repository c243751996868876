import RemoteFleet.Proofs.Fleet.Calls

/-!
# Cancelled runs

A run is cancelled with its token, with a token that this one descends from, or when a result is
sent to a receiver that has left; and it stays cancelled.  From then on nobody is started
(`underWay_of_follow`), and those who were started and have not called yet are the ones who will
(`callers_of_follow`).

`HeldBack` are those who were not started, whether this has been reported or not; from the moment of
the cancelling on they are always the same (`heldBack_of_follow`).  `CutOff` says which they are:
whoever comes behind a cancelled worker, and the leader.  So the cancelled workers are the last ones
of the report, and where there is one the leader is cancelled as well.
-/

namespace RemoteFleet

/-! ## Flags -/

/-- Cancelling a token cancels it and those that descend from it. -/
theorem CancelFlags.isCancelled_cancel {f : CancelFlags} {cancelled token : CancelToken} :
    (f.cancel cancelled).isCancelled token = true ↔
      cancelled.flag ∈ token.flag :: token.ancestors ∨ f.isCancelled token = true := by
  simp only [isCancelled, cancel, List.any_eq_true, List.contains_cons, Bool.or_eq_true, beq_iff_eq]
  constructor
  · rintro ⟨flag, hmem, rfl | hraised⟩
    · exact .inl hmem
    · exact .inr ⟨flag, hmem, hraised⟩
  · rintro (hmem | ⟨flag, hmem, hraised⟩)
    · exact ⟨cancelled.flag, hmem, .inl rfl⟩
    · exact ⟨flag, hmem, .inr hraised⟩

/-- The worker, if it has still to call its target. -/
def Task.caller? {Session File : Type} (task : Task Session File) : Option Actor :=
  (task.stage.callee? task.errand).map fun _ => .worker task.slot

/-- Who takes the leader's errand. -/
def Duty.actor? {Session File : Type} : Duty Session File → Option Actor
  | .lead _ _ => some .leader
  | _ => none

/-- The leader, if it has still to call its target. -/
def Duty.caller? {Session File : Type} : Duty Session File → Option Actor
  | .lead errand stage => (stage.callee? errand).map fun _ => .leader
  | _ => none

namespace FleetRun

variable {Net Session Desk File : Type}

/-- Who was started, and is not joined. -/
def underWay (s : FleetRun Net Session Desk File) : List Actor :=
  (s.tasks.map (·.slot) ++ s.ended.map (·.1)).map .worker ++ s.duty.actor?.toList

/-- Who was started, and has still to call. -/
def callers (s : FleetRun Net Session Desk File) : List Actor :=
  s.tasks.filterMap (·.caller?) ++ s.duty.caller?.toList

/-- The result that came in for an actor. -/
def result? (s : FleetRun Net Session Desk File) : Actor → Option RunResult
  | .worker slot => s.slots[slot]?.join
  | .leader => s.leader

/-- An actor is reported as cancelled. -/
def Withheld (s : FleetRun Net Session Desk File) (actor : Actor) : Prop :=
  ∃ r, s.result? actor = some r ∧ r.status = .cancelled

/-- Who is not started yet. -/
def pending (o : FleetOrders) (s : FleetRun Net Session Desk File) : List Actor :=
  s.waiting.map (fun entry => .worker entry.1)
    ++ if s.duty.inWorkerPhase && o.targets.leader.isSome then [.leader] else []

/-- An actor was not started, and is reported as cancelled or will be if the run is. -/
def HeldBack (o : FleetOrders) (s : FleetRun Net Session Desk File) (actor : Actor) : Prop :=
  actor ∈ s.pending o ∨ s.Withheld actor

/-- Workers wait in their order, and behind a worker that is cancelled nobody is started. -/
structure CutOff (o : FleetOrders) (s : FleetRun Net Session Desk File) : Prop where
  queued : ∃ first, s.waiting.map (·.1) = List.range' first (s.slots.length - first)
  behind : ∀ k, s.Withheld (.worker k) → s.isCancelled o = true ∧
    (∀ j, k ≤ j → j < s.slots.length → s.HeldBack o (.worker j)) ∧
    (o.targets.leader.isSome = true → s.HeldBack o .leader)

variable {c : Connector Net Session} {ws : Workstation Desk File} {o : FleetOrders}
  {s t : FleetRun Net Session Desk File} {events : List FleetEvent}

/-! ## A run stays cancelled -/

/-- Sending leaves a cancelled run cancelled, and cancels one whose receiver has left. -/
theorem isCancelled_send {result : RunResult} (h : s.send ws o result = some t) :
    (s.isCancelled o = true → t.isCancelled o = true) ∧
      ∀ queue received, s.stream = some ⟨queue, received, false⟩ → t.isCancelled o = true := by
  unfold send at h
  split at h
  · next hnone =>
    cases h
    refine ⟨id, ?_⟩
    intro queue received hstream
    rw [hnone] at hstream
    cases hstream
  · next stream hstream =>
    split at h
    · next hopen =>
      split at h
      · cases h
        refine ⟨id, ?_⟩
        intro queue received hleft
        rw [hstream] at hleft
        cases hleft
        cases hopen
      · cases h
    · split at h
      · next hcancelled =>
        cases h
        exact ⟨id, fun _ _ _ => hcancelled⟩
      · cases h
        have hnow : (s.flags.cancel o.token).isCancelled o.token = true :=
          CancelFlags.isCancelled_cancel.2 (.inl List.mem_cons_self)
        exact ⟨fun _ => hnow, fun _ _ _ => hnow⟩

/-- No change takes a cancelling back. -/
theorem isCancelled_change {m : FleetMove} (hc : Change c ws o s m t)
    (hcancelled : s.isCancelled o = true) : t.isCancelled o = true := by
  cases hc with
  | sentWorker result desk flags stream hduty hsend => exact (isCancelled_send hsend).1 hcancelled
  | sentLeader result desk flags stream hduty hsend => exact (isCancelled_send hsend).1 hcancelled
  | _ => exact hcancelled

theorem isCancelled_cancel (token : CancelToken) (hcancelled : s.isCancelled o = true) :
    (s.cancel token).isCancelled o = true :=
  CancelFlags.isCancelled_cancel.2 (.inr hcancelled)

theorem isCancelled_of_follow (h : s.follow c ws o events = some t)
    (hcancelled : s.isCancelled o = true) : t.isCancelled o = true :=
  follow_invariant (P := fun s => s.isCancelled o = true)
    (fun _ _ _ _ hchange hs => isCancelled_change hchange hs)
    (fun _ token hs => isCancelled_cancel token hs) h hcancelled

/-! ## Nobody is started any more -/

/-- No more are under way than there is room for. -/
theorem Staffed.length_underWay_le (h : Staffed o s) :
    s.underWay.length ≤ max o.plan.concurrency 1 := by
  have hle := h.inFlight_le
  unfold inFlight at hle
  simp only [underWay, List.length_append, List.length_map]
  cases hduty : s.duty with
  | lead errand stage =>
    obtain ⟨_, htasks, hended⟩ := h.allDone (by rw [hduty]; rfl)
    rw [htasks, hended]
    exact Nat.le_max_right _ _
  | _ => simpa [Duty.actor?] using hle

/-- A change keeps those under way, or some of them, and in a run that is not cancelled it may start
a worker or the leader. -/
theorem underWay_of_change {m : FleetMove} (hc : Change c ws o s m t) :
    t.underWay ⊆ s.underWay ∨ s.isCancelled o = false ∧ s.duty = .manage ∧
      ((∃ slot, t.underWay ⊆ .worker slot :: s.underWay) ∧ t.duty = .manage ∧
          t.inFlight = s.inFlight + 1 ∨
        t.underWay ⊆ .leader :: s.underWay ∧ t.inFlight = s.inFlight) := by
  cases hc with
  | started slot target waiting hduty hwaiting hlive hroom =>
    refine .inr ⟨hlive, hduty, .inl ⟨⟨slot, ?_⟩, hduty, ?_⟩⟩
    · intro actor hmem
      simp only [underWay, hduty, Duty.actor?, List.map_append, List.map_cons, List.mem_append,
        List.mem_cons, List.mem_map] at hmem ⊢
      grind
    · simp only [inFlight, List.length_append, List.length_cons, List.length_nil]
      omega
  | leaderStarted target job hduty hwaiting htasks hended hleader hlive hstrict =>
    exact .inr ⟨hlive, hduty, .inr ⟨by simp [underWay, htasks, hended, Duty.actor?], rfl⟩⟩
  | advanced before after task stage world htasks hadvance hgoes =>
    exact .inl (by simp [underWay, htasks])
  | ended before after task stage world htasks hadvance hover =>
    left
    intro actor hmem
    simp only [underWay, htasks, List.mem_append, List.mem_map] at hmem ⊢
    grind
  | died before after task net htasks hnet =>
    left
    intro actor hmem
    simp only [underWay, htasks, List.mem_append, List.mem_map] at hmem ⊢
    grind
  | buried slot ended desk hduty hended =>
    left
    intro actor hmem
    simp only [underWay, hended, List.map_cons, List.mem_append, List.mem_map] at hmem ⊢
    grind
  | joined slot result ended hduty hended =>
    left
    intro actor hmem
    simp only [underWay, hended, hduty, Duty.actor?, List.map_cons, List.mem_append,
      List.mem_map] at hmem ⊢
    grind
  | led errand stage stage' world hduty hadvance hgoes =>
    exact .inl (by simp [underWay, hduty, Duty.actor?])
  | announced now desk hduty => exact .inl (by simp [underWay, hduty, Duty.actor?])
  | withheld slot target waiting now hduty hwaiting hcancelled hroom =>
    exact .inl (by simp [underWay, hduty, Duty.actor?])
  | workersDone hduty hwaiting htasks hended hleader =>
    exact .inl (by simp [underWay, hduty, Duty.actor?])
  | leaderWithheld target job now desk hduty hwaiting htasks hended hleader hwhy =>
    exact .inl (by simp [underWay, hduty, Duty.actor?])
  | sentWorker result desk flags stream hduty hsend =>
    exact .inl (by simp [underWay, hduty, Duty.actor?])
  | sentLeader result desk flags stream hduty hsend =>
    exact .inl (by simp [underWay, hduty, Duty.actor?])
  | leaderDone errand stage result world hduty hadvance =>
    exact .inl (by simp [underWay, Duty.actor?])
  | leaderDied errand stage world hduty hadvance => exact .inl (by simp [underWay, Duty.actor?])
  | reported report desk hduty hworkers hleader hstart =>
    exact .inl (by simp [underWay, hduty, Duty.actor?])
  | taken result queue received hstream => exact .inl (List.Subset.refl _)
  | left queue received hstream => exact .inl (List.Subset.refl _)

/-- In a cancelled run nobody is started. -/
theorem underWay_change {m : FleetMove} (hcancelled : s.isCancelled o = true)
    (hc : Change c ws o s m t) : t.underWay ⊆ s.underWay := by
  refine (underWay_of_change hc).resolve_right fun hstarts => ?_
  rw [hcancelled] at hstarts
  cases hstarts.1

theorem underWay_of_follow {later : List FleetEvent} (h : s.follow c ws o later = some t)
    (hcancelled : s.isCancelled o = true) : t.underWay ⊆ s.underWay := by
  have hboth : t.isCancelled o = true ∧ t.underWay ⊆ s.underWay := by
    refine follow_invariant (P := fun u => u.isCancelled o = true ∧ u.underWay ⊆ s.underWay) ?_ ?_ h
      ⟨hcancelled, List.Subset.refl _⟩
    · rintro u m v _ hchange ⟨hu, hsubset⟩
      exact ⟨isCancelled_change hchange hu, List.Subset.trans (underWay_change hu hchange) hsubset⟩
    · rintro u token ⟨hu, hsubset⟩
      exact ⟨isCancelled_cancel token hu, hsubset⟩
  exact hboth.2

/-! ## Who still calls -/

/-- Only those under way have still to call. -/
theorem callers_sublist : s.callers.Sublist s.underWay := by
  have hworkers : (s.tasks.filterMap (·.caller?)).Sublist
      ((s.tasks.map (·.slot)).map Actor.worker) := by
    induction s.tasks with
    | nil => exact List.Sublist.refl _
    | cons task tasks ih =>
      rw [List.filterMap_cons, List.map_cons, List.map_cons]
      unfold Task.caller?
      cases task.stage.callee? task.errand with
      | none => exact ih.cons _
      | some target => exact ih.cons_cons _
  unfold callers underWay
  rw [List.map_append]
  refine List.Sublist.append (hworkers.trans (List.sublist_append_left _ _)) ?_
  cases s.duty with
  | lead errand stage =>
    simp only [Duty.caller?, Duty.actor?]
    cases stage.callee? errand with
    | none => exact List.nil_sublist _
    | some target => exact List.Sublist.refl _
  | _ => exact List.Sublist.refl _

/-- A step of an errand calls its target, or leaves it to be called. -/
theorem call_balance {stage stage' : Stage Session File} {e : Errand} {w w' : World Net Desk}
    (h : stage.advance c ws e w = (stage', w')) (actor : Actor) :
    (if stage.isConnecting then some actor else none).toList
        ++ ((stage'.callee? e).map fun _ => actor).toList
      = ((stage.callee? e).map fun _ => actor).toList := by
  rw [Stage.callee?_advance h]
  cases stage <;> rfl

/-- A task that takes a step calls its target, or leaves it to be called. -/
theorem callers_of_task (haccounted : Accounted s) {before after : List (Task Session File)}
    {task : Task Session File} {stage : Stage Session File} {world : World Net Desk}
    (htasks : s.tasks = before ++ task :: after)
    (hadvance : task.stage.advance c ws task.errand s.world = (stage, world)) :
    ((s.caller? (.move (.advance task.slot))).toList
        ++ ((before ++ { task with stage } :: after).filterMap (·.caller?)
          ++ s.duty.caller?.toList)).Perm s.callers := by
  rw [caller?_of_task haccounted htasks, callers, htasks, filterMap_cut, filterMap_cut]
  have hbalance := call_balance hadvance (Actor.worker task.slot)
  simp only [Task.caller?]
  rw [← hbalance]
  simp only [List.append_assoc]
  exact List.perm_append_comm_assoc _ _ _

/-- A leader that takes a step calls its target, or leaves it to be called. -/
theorem callers_of_lead {errand : Errand} {stage stage' : Stage Session File}
    {world : World Net Desk} (hduty : s.duty = .lead errand stage)
    (hadvance : stage.advance c ws errand s.world = (stage', world)) :
    ((s.caller? (.move .coordinate)).toList ++ (s.tasks.filterMap (·.caller?)
      ++ ((stage'.callee? errand).map fun _ => Actor.leader).toList)).Perm s.callers := by
  rw [caller?_of_lead hduty, callers, hduty, Duty.caller?, ← call_balance hadvance Actor.leader]
  exact List.perm_append_comm_assoc _ _ _

/-- A coordinator that starts nobody calls nobody and leaves everybody to call. -/
theorem callers_of_coordinate (hduty : ∀ errand stage, s.duty ≠ .lead errand stage)
    (htasks : t.tasks = s.tasks) (hcaller : t.duty.caller? = none) :
    ((s.caller? (.move .coordinate)).toList ++ t.callers).Perm s.callers := by
  have hnone : s.duty.caller? = none := by
    cases h : s.duty with
    | lead errand stage => exact absurd h (hduty errand stage)
    | _ => rfl
  rw [caller?_of_coordinate hduty, callers, callers, htasks, hcaller, hnone]
  exact List.Perm.refl _

/-- In a cancelled run, those who have still to call are one less for each call. -/
theorem callers_change {m : FleetMove} (hcancelled : s.isCancelled o = true)
    (haccounted : Accounted s) (ht : t.Unharmed) (hc : Change c ws o s m t) :
    ((s.caller? (.move m)).toList ++ t.callers).Perm s.callers := by
  cases hc with
  | started slot target waiting hduty hwaiting hlive hroom =>
    rw [hcancelled] at hlive
    cases hlive
  | leaderStarted target job hduty hwaiting htasks hended hleader hlive hstrict =>
    rw [hcancelled] at hlive
    cases hlive
  | advanced before after task stage world htasks hadvance hgoes =>
    exact callers_of_task haccounted htasks hadvance
  | ended before after task stage world htasks hadvance hover =>
    have hcallers := callers_of_task haccounted htasks hadvance
    have hnone : ({ task with stage } : Task Session File).caller? = none := by
      rw [Task.caller?, Stage.callee?_of_isOver hover]
      rfl
    rw [filterMap_cut, hnone, Option.toList_none, List.append_nil, ← List.filterMap_append]
      at hcallers
    exact hcallers
  | died before after task net htasks hnet =>
    exact absurd (List.mem_append_right _ List.mem_cons_self) (ht task.slot)
  | led errand stage stage' world hduty hadvance hgoes => exact callers_of_lead hduty hadvance
  | leaderDone errand stage result world hduty hadvance => exact callers_of_lead hduty hadvance
  | leaderDied errand stage world hduty hadvance => exact callers_of_lead hduty hadvance
  | taken result queue received hstream => exact List.Perm.refl _
  | left queue received hstream => exact List.Perm.refl _
  | announced now desk hduty => exact callers_of_coordinate (by simp [hduty]) rfl rfl
  | buried slot ended desk hduty hended =>
    exact callers_of_coordinate (by simp [hduty]) rfl (by simp [hduty, Duty.caller?])
  | joined slot result ended hduty hended => exact callers_of_coordinate (by simp [hduty]) rfl rfl
  | withheld slot target waiting now hduty hwaiting hcancelled hroom =>
    exact callers_of_coordinate (by simp [hduty]) rfl rfl
  | workersDone hduty hwaiting htasks hended hleader =>
    exact callers_of_coordinate (by simp [hduty]) rfl rfl
  | leaderWithheld target job now desk hduty hwaiting htasks hended hleader hwhy =>
    exact callers_of_coordinate (by simp [hduty]) rfl rfl
  | sentWorker result desk flags stream hduty hsend =>
    exact callers_of_coordinate (by simp [hduty]) rfl rfl
  | sentLeader result desk flags stream hduty hsend =>
    exact callers_of_coordinate (by simp [hduty]) rfl rfl
  | reported report desk hduty hworkers hleader hstart =>
    exact callers_of_coordinate (by simp [hduty]) rfl rfl

/-- Those who call in a cancelled run, and those who have still to call at its end, are those who
had still to call. -/
theorem callers_of_follow {later : List FleetEvent} (hcancelled : s.isCancelled o = true)
    (haccounted : Accounted s) (hnone : s.LosesNone c ws o later)
    (h : s.follow c ws o later = some t) :
    (s.calls c ws o later ++ t.callers).Perm s.callers := by
  have hall : (t.isCancelled o = true ∧ Accounted t) ∧
      (s.calls c ws o later ++ t.callers).Perm s.callers := by
    refine follow_induction (P := fun later t => (t.isCancelled o = true ∧ Accounted t) ∧
      (s.calls c ws o later ++ t.callers).Perm s.callers) h
      ⟨⟨hcancelled, haccounted⟩, List.Perm.refl _⟩ ?_
    rintro before u event v hbefore hfollow hstep ⟨⟨hu, haccounted⟩, hperm⟩
    rw [calls_append_singleton hfollow, List.append_assoc]
    cases event with
    | cancel token =>
      cases hstep
      exact ⟨⟨isCancelled_cancel token hu, haccounted.nodup, haccounted.empty⟩, hperm⟩
    | move m =>
      have hchange := change_of_move hstep
      have hunharmed := hnone _ v hbefore (follow_trans hfollow (by rw [follow, hstep]; rfl))
      exact ⟨⟨isCancelled_change hchange hu, haccounted.change hchange⟩,
        ((callers_change hu haccounted hunharmed hchange).append_left _).trans hperm⟩
  exact hall.2

/-! ## Who is held back -/

theorem heldBack_worker {k : Nat} :
    s.HeldBack o (.worker k) ↔ k ∈ s.waiting.map (·.1) ∨ s.Withheld (.worker k) := by
  unfold HeldBack pending
  cases s.duty.inWorkerPhase && o.targets.leader.isSome <;> simp

theorem heldBack_leader :
    s.HeldBack o .leader ↔
      (s.duty.inWorkerPhase = true ∧ o.targets.leader.isSome = true) ∨ s.Withheld .leader := by
  unfold HeldBack pending
  cases s.duty.inWorkerPhase <;> cases o.targets.leader.isSome <;> simp

/-- A slot that is filled says that its worker is cancelled, or does not. -/
theorem withheld_set {slot k : Nat} {r : RunResult} (hempty : s.slots[slot]? = some none)
    (hslots : t.slots = s.slots.set slot (some r)) :
    t.Withheld (.worker k) ↔ k = slot ∧ r.status = .cancelled ∨ s.Withheld (.worker k) := by
  simp only [Withheld, result?, hslots]
  by_cases heq : k = slot
  · subst heq
    rw [List.getElem?_set_self (List.getElem?_eq_some_iff.1 hempty).1, hempty]
    simp
  · rw [List.getElem?_set_ne (Ne.symm heq)]
    simp [heq]

/-- What fills no slot leaves the cancelled workers as they are. -/
theorem withheld_of_eq (hslots : t.slots = s.slots) {k : Nat} :
    t.Withheld (.worker k) ↔ s.Withheld (.worker k) := by
  simp only [Withheld, result?, hslots]

/-- A change leaves the cancelled workers as they are, or adds the first one that waits, and then
the run is cancelled. -/
theorem withheld_change (haccounted : Accounted s) (houtcomes : Outcomes o s) {m : FleetMove}
    (hc : Change c ws o s m t) {k : Nat} (hk : t.Withheld (.worker k)) :
    s.Withheld (.worker k) ∨ s.isCancelled o = true ∧ s.duty.inWorkerPhase = true ∧
      ∃ rest, s.waiting.map (·.1) = k :: rest := by
  cases hc with
  | joined slot result ended hduty hended =>
    have hran := houtcomes.ended slot result (hended ▸ List.mem_cons_self)
    have hempty := haccounted.empty slot (by simp [openPlaces, hended])
    left
    rcases (withheld_set hempty rfl).1 hk with ⟨_, hstatus⟩ | hold
    · exact absurd hstatus hran.status_ne_cancelled
    · exact hold
  | withheld slot target waiting now hduty hwaiting hcancelled hroom =>
    have hempty := haccounted.empty slot (by simp [openPlaces, hwaiting])
    rcases (withheld_set hempty rfl).1 hk with ⟨rfl, _⟩ | hold
    · refine .inr ⟨hcancelled, by rw [hduty]; rfl, waiting.map (·.1), ?_⟩
      rw [hwaiting, List.map_cons]
    · exact .inl hold
  | _ => exact .inl ((withheld_of_eq rfl).1 hk)

/-- In a cancelled run the workers that are held back stay the same. -/
theorem heldBack_worker_change {m : FleetMove} (hcancelled : s.isCancelled o = true)
    (haccounted : Accounted s) (houtcomes : Outcomes o s) (hc : Change c ws o s m t) (k : Nat) :
    t.HeldBack o (.worker k) ↔ s.HeldBack o (.worker k) := by
  rw [heldBack_worker, heldBack_worker]
  cases hc with
  | joined slot result ended hduty hended =>
    have hran := houtcomes.ended slot result (hended ▸ List.mem_cons_self)
    have hempty := haccounted.empty slot (by simp [openPlaces, hended])
    rw [withheld_set hempty rfl]
    simp [hran.status_ne_cancelled]
  | withheld slot target waiting now hduty hwaiting hcancelled' hroom =>
    have hempty := haccounted.empty slot (by simp [openPlaces, hwaiting])
    rw [withheld_set hempty rfl, hwaiting, List.map_cons, List.mem_cons]
    have hstatus : (RunResult.cancelled .worker target o.plan.job.name now).status = .cancelled :=
      rfl
    tauto
  | started slot target waiting hduty hwaiting hlive hroom =>
    rw [hcancelled] at hlive
    cases hlive
  | _ => exact or_congr_right (withheld_of_eq rfl)

/-- What keeps to the workers, or comes after them, leaves the leader as it is. -/
theorem heldBack_leader_of_eq (hphase : t.duty.inWorkerPhase = s.duty.inWorkerPhase)
    (hleader : t.leader = s.leader) : t.HeldBack o .leader ↔ s.HeldBack o .leader := by
  simp only [heldBack_leader, Withheld, result?, hphase, hleader]

/-- In a cancelled run the leader is held back or not, once and for all. -/
theorem heldBack_leader_change {m : FleetMove} (hcancelled : s.isCancelled o = true)
    (hplaced : Placed c o s) (hunled : Unled s) (hc : Change c ws o s m t) :
    t.HeldBack o .leader ↔ s.HeldBack o .leader := by
  cases hc with
  | leaderStarted target job hduty hwaiting htasks hended hleader hlive hstrict =>
    rw [hcancelled] at hlive
    cases hlive
  | leaderDone errand stage result world hduty hadvance =>
    have hlead := hplaced.duty
    rw [hduty] at hlead
    have hstatus := (Errand.gives_of_advance hlead.2.1 hadvance).status_ne_cancelled
    have hnone : s.leader = none := hunled (by rw [hduty]; rfl)
    simp [heldBack_leader, hduty, Duty.inWorkerPhase, Withheld, result?, hnone, hstatus]
  | leaderWithheld target job now desk hduty hwaiting htasks hended hleader hwhy =>
    simp [heldBack_leader, hduty, hleader, Duty.inWorkerPhase, Withheld, result?,
      RunResult.cancelled]
  | workersDone hduty hwaiting htasks hended hleader =>
    simp [heldBack_leader, hduty, hleader, Duty.inWorkerPhase, Withheld, result?]
  | announced now desk hduty => exact heldBack_leader_of_eq (by rw [hduty]; rfl) rfl
  | joined slot result ended hduty hended =>
    exact heldBack_leader_of_eq (by rw [hduty]; rfl) rfl
  | withheld slot target waiting now hduty hwaiting hcancelled' hroom =>
    exact heldBack_leader_of_eq (by rw [hduty]; rfl) rfl
  | sentWorker result desk flags stream hduty hsend =>
    exact heldBack_leader_of_eq (by rw [hduty]; rfl) rfl
  | sentLeader result desk flags stream hduty hsend =>
    exact heldBack_leader_of_eq (by rw [hduty]; rfl) rfl
  | led errand stage stage' world hduty hadvance hgoes =>
    exact heldBack_leader_of_eq (by rw [hduty]; rfl) rfl
  | leaderDied errand stage world hduty hadvance =>
    exact heldBack_leader_of_eq (by rw [hduty]; rfl) rfl
  | reported report desk hduty hworkers hleader hstart =>
    exact heldBack_leader_of_eq (by rw [hduty]; rfl) rfl
  | _ => exact heldBack_leader_of_eq rfl rfl

theorem heldBack_change {m : FleetMove} (hcancelled : s.isCancelled o = true)
    (hplaced : Placed c o s) (haccounted : Accounted s) (hunled : Unled s)
    (houtcomes : Outcomes o s) (hc : Change c ws o s m t) (actor : Actor) :
    t.HeldBack o actor ↔ s.HeldBack o actor := by
  cases actor with
  | worker k => exact heldBack_worker_change hcancelled haccounted houtcomes hc k
  | leader => exact heldBack_leader_change hcancelled hplaced hunled hc

/-! ## Behind a cancelled worker -/

/-- The first of those that wait may leave; nothing else happens to them. -/
theorem waiting_change {m : FleetMove} (hc : Change c ws o s m t) :
    t.slots.length = s.slots.length ∧
      (t.waiting = s.waiting ∨ ∃ entry, s.waiting = entry :: t.waiting) := by
  cases hc with
  | joined slot result ended hduty hended => exact ⟨List.length_set, .inl rfl⟩
  | withheld slot target waiting now hduty hwaiting hcancelled hroom =>
    exact ⟨List.length_set, .inr ⟨_, hwaiting⟩⟩
  | started slot target waiting hduty hwaiting hlive hroom => exact ⟨rfl, .inr ⟨_, hwaiting⟩⟩
  | _ => exact ⟨rfl, .inl rfl⟩

theorem cutOff_initial (o : FleetOrders) (flags : CancelFlags) (world : World Net Desk)
    (stream : Option ResultStream) :
    CutOff o (initial o flags world stream : FleetRun Net Session Desk File) where
  queued := by
    refine ⟨0, ?_⟩
    simp only [initial, List.map_map, List.length_replicate]
    exact List.zipIdx_map_snd 0 o.targets.workers
  behind := by
    rintro k ⟨r, hr, _⟩
    simp only [result?, initial, List.getElem?_replicate] at hr
    split at hr <;> cases hr

theorem CutOff.change (h : CutOff o s) (hplaced : Placed c o s) (haccounted : Accounted s)
    (hunled : Unled s) (houtcomes : Outcomes o s) {m : FleetMove} (hc : Change c ws o s m t) :
    CutOff o t := by
  obtain ⟨hlength, hwaiting⟩ := waiting_change hc
  obtain ⟨first, hline⟩ := h.queued
  constructor
  · rcases hwaiting with hsame | ⟨entry, hfirst⟩
    · exact ⟨first, by rw [hsame, hlength, hline]⟩
    · rw [hfirst, List.map_cons] at hline
      exact ⟨first + 1, by rw [hlength, (exists_line_tail hline).2]⟩
  · intro k hk
    have hbehind : s.isCancelled o = true ∧
        (∀ j, k ≤ j → j < s.slots.length → s.HeldBack o (.worker j)) ∧
        (o.targets.leader.isSome = true → s.HeldBack o .leader) := by
      rcases withheld_change haccounted houtcomes hc hk with hold | ⟨hcancelled, hphase, rest, hk⟩
      · exact h.behind k hold
      · refine ⟨hcancelled, ?_, fun hsome => heldBack_leader.2 (.inl ⟨hphase, hsome⟩)⟩
        intro j hkj hj
        have hmem : j ∈ List.range' first (s.slots.length - first) := by
          rw [hk] at hline
          obtain ⟨rfl, _⟩ := exists_line_tail hline
          exact List.mem_range'_1.2 (by omega)
        exact heldBack_worker.2 (.inl (hline ▸ hmem))
    obtain ⟨hcancelled, hworkers, hleader⟩ := hbehind
    have hstays := heldBack_change hcancelled hplaced haccounted hunled houtcomes hc
    refine ⟨isCancelled_change hc hcancelled, ?_, fun hsome => (hstays _).2 (hleader hsome)⟩
    intro j hkj hj
    exact (hstays _).2 (hworkers j hkj (hlength ▸ hj))

/-! ## Along a run -/

section Run

variable {flags : CancelFlags} {world : World Net Desk} {stream : Option ResultStream}

theorem cutOff_of_follow (h : (initial o flags world stream).follow c ws o events = some s) :
    CutOff o s := by
  refine follow_induction (P := fun _ s => CutOff o s) h (cutOff_initial o flags world stream) ?_
  intro before u event v _ hfollow hstep hu
  cases event with
  | cancel token =>
    cases hstep
    refine ⟨hu.queued, ?_⟩
    intro k hk
    obtain ⟨hcancelled, hworkers, hleader⟩ := hu.behind k hk
    exact ⟨isCancelled_cancel token hcancelled, hworkers, hleader⟩
  | move m =>
    exact hu.change (placed_of_follow hfollow) (accounted_of_follow hfollow)
      (unled_of_follow hfollow) (outcomes_of_follow hfollow) (change_of_move hstep)

/-- Once a run is cancelled, it is settled who is held back. -/
theorem heldBack_of_follow {later : List FleetEvent}
    (hs : (initial o flags world stream).follow c ws o events = some s)
    (hcancelled : s.isCancelled o = true) (h : s.follow c ws o later = some t) (actor : Actor) :
    t.HeldBack o actor ↔ s.HeldBack o actor := by
  have hboth : t.isCancelled o = true ∧ (t.HeldBack o actor ↔ s.HeldBack o actor) := by
    refine follow_induction (P := fun _ t => t.isCancelled o = true ∧
      (t.HeldBack o actor ↔ s.HeldBack o actor)) h ⟨hcancelled, Iff.rfl⟩ ?_
    rintro before u event v _ hfollow hstep ⟨hu, hstays⟩
    cases event with
    | cancel token =>
      cases hstep
      exact ⟨isCancelled_cancel token hu, hstays⟩
    | move m =>
      have hreached := follow_trans hs hfollow
      have hchange := change_of_move hstep
      exact ⟨isCancelled_change hchange hu,
        (heldBack_change hu (placed_of_follow hreached) (accounted_of_follow hreached)
          (unled_of_follow hreached) (outcomes_of_follow hreached) hchange actor).trans hstays⟩
  exact hboth.2

/-- Who is under way is not held back. -/
theorem not_heldBack_of_underWay
    (h : (initial o flags world stream).follow c ws o events = some s) {actor : Actor}
    (hactor : actor ∈ s.underWay) : ¬ s.HeldBack o actor := by
  have hstaffed := staffed_of_follow h
  cases actor with
  | leader =>
    have hlead : s.duty.actor? = some .leader := by simpa [underWay] using hactor
    cases hduty : s.duty with
    | lead errand stage =>
      have hnone := unled_of_follow h (by rw [hduty]; rfl)
      rw [heldBack_leader]
      simp [hduty, Duty.inWorkerPhase, Withheld, result?, hnone]
    | _ => simp [hduty, Duty.actor?] at hlead
  | worker k =>
    have hopen : k ∈ s.tasks.map (·.slot) ++ s.ended.map (·.1) := by
      rcases List.mem_append.1 hactor with hmem | hmem
      · obtain ⟨slot, hslot, heq⟩ := List.mem_map.1 hmem
        cases heq
        exact hslot
      · cases hduty : s.duty <;> simp [hduty, Duty.actor?] at hmem
    have haccounted := accounted_of_follow h
    have hnodup := haccounted.nodup
    have hempty := haccounted.empty k
    rw [openPlaces, List.append_assoc] at hnodup hempty
    rw [heldBack_worker, not_or]
    refine ⟨fun hwaiting => (List.nodup_append.1 hnodup).2.2 k hwaiting k hopen rfl, ?_⟩
    rintro ⟨r, hr, _⟩
    rw [result?, hempty (List.mem_append_right _ hopen)] at hr
    cases hr

/-- Who is under way has an errand. -/
theorem isSome_errand?_of_underWay (hplaced : Placed c o s) (hunharmed : s.Unharmed)
    {actor : Actor} (hactor : actor ∈ s.underWay) : (o.errand? actor).isSome = true := by
  rw [underWay, List.map_append, List.mem_append, List.mem_append] at hactor
  rcases hactor with (htask | hended) | hleader
  · obtain ⟨slot, hslot, rfl⟩ := List.mem_map.1 htask
    obtain ⟨task, hmem, rfl⟩ := List.mem_map.1 hslot
    obtain ⟨_, target, htarget, _⟩ := hplaced.tasks task hmem
    simp [FleetOrders.errand?, htarget]
  · obtain ⟨slot, hslot, rfl⟩ := List.mem_map.1 hended
    obtain ⟨⟨slot, result⟩, hmem, rfl⟩ := List.mem_map.1 hslot
    cases result with
    | none => exact absurd hmem (hunharmed slot)
    | some r =>
      obtain ⟨target, htarget, _⟩ := hplaced.ended slot r hmem
      simp [FleetOrders.errand?, htarget]
  · cases hduty : s.duty with
    | lead errand stage =>
      rw [hduty] at hleader
      cases List.mem_singleton.1 hleader
      have hlead := hplaced.duty
      rw [hduty] at hlead
      obtain ⟨_, _, target, job, htarget, _⟩ := hlead
      simp [FleetOrders.errand?, htarget]
    | _ => simp [hduty, Duty.actor?] at hleader

/-! ### The report -/

theorem Outcomes.ran_of_result? (h : Outcomes o s) {actor : Actor} {r : RunResult}
    (hr : s.result? actor = some r) : r.status = .cancelled ∨ o.Ran actor r := by
  cases actor with
  | leader => exact h.leader r hr
  | worker k =>
    refine h.slots k r ?_
    cases hslot : s.slots[k]? with
    | none => simp [result?, hslot] at hr
    | some slot =>
      rw [result?, hslot] at hr
      exact congrArg some hr

/-- The report has the results that came in. -/
theorem Gathered.result?_eq (h : Gathered s) {report : FleetReport}
    (hreport : s.report? = some report) (actor : Actor) :
    report.result? actor = s.result? actor := by
  obtain ⟨hslots, hleader⟩ := h.slots_of_report hreport
  cases actor with
  | leader => exact hleader
  | worker k =>
    rw [FleetReport.result?, result?, hslots, List.getElem?_map]
    cases report.workers[k]? <;> rfl

/-- Whoever has an errand has a result in the report. -/
theorem Placed.exists_result (h : Placed c o s) {report : FleetReport}
    (hreport : s.report? = some report) {actor : Actor}
    (hactor : (o.errand? actor).isSome = true) : ∃ r, report.result? actor = some r := by
  have hfits := h.duty
  rw [finished_of_report hreport] at hfits
  refine Option.isSome_iff_exists.1 ?_
  cases actor with
  | leader =>
    have hleader := congrArg Option.isSome hfits.2
    rw [Option.isSome_map, Option.isSome_map] at hleader
    rw [FleetOrders.errand?, Option.isSome_map] at hactor
    exact hleader.trans hactor
  | worker k =>
    have hworkers := congrArg List.length hfits.1
    rw [List.length_map, List.length_map] at hworkers
    rw [FleetOrders.errand?, Option.isSome_map, isSome_getElem?] at hactor
    rw [FleetReport.result?, isSome_getElem?, hworkers]
    exact hactor

/-- At the end nobody is waiting: those held back are reported as cancelled. -/
theorem heldBack_of_report (hstaffed : Staffed o s) {report : FleetReport}
    (hreport : s.report? = some report) (actor : Actor) :
    s.HeldBack o actor ↔ s.Withheld actor := by
  have hphase : s.duty.inWorkerPhase = false := by
    rw [finished_of_report hreport]
    rfl
  have hwaiting := (hstaffed.allDone hphase).1
  simp [HeldBack, pending, hphase, hwaiting]

/-- At the end those have called whose results are not those of cancelled ones. -/
theorem hasCalled_of_report (hstaffed : Staffed o s) (hgathered : Gathered s)
    {report : FleetReport} (hreport : s.report? = some report) (actor : Actor) :
    s.HasCalled actor ↔ ∃ r, report.result? actor = some r ∧ r.status ≠ .cancelled := by
  have hduty := finished_of_report hreport
  obtain ⟨_, htasks, hended⟩ := hstaffed.allDone (by rw [hduty]; rfl)
  rw [hgathered.result?_eq hreport]
  cases actor with
  | leader => simp only [HasCalled, LeaderHasCalled, hduty, result?]
  | worker k => simp [HasCalled, htasks, hended, result?, Option.join_eq_some_iff]

/-- What holds of all members behind one of which it holds, holds of the last ones. -/
theorem exists_suffix {α : Type} {p : α → Prop} (l : List α)
    (h : ∀ (j k : Nat) x y, j ≤ k → l[j]? = some x → p x → l[k]? = some y → p y) :
    ∃ front back, l = front ++ back ∧ (∀ x ∈ front, ¬ p x) ∧ ∀ x ∈ back, p x := by
  induction l with
  | nil => exact ⟨[], [], rfl, by simp, by simp⟩
  | cons x l ih =>
    by_cases hx : p x
    · refine ⟨[], x :: l, rfl, by simp, ?_⟩
      intro y hy
      obtain ⟨k, hk⟩ := List.mem_iff_getElem?.1 hy
      exact h 0 k x y (Nat.zero_le k) rfl hx hk
    · obtain ⟨front, back, rfl, hfront, hback⟩ := ih fun j k y z hjk hy =>
        h (j + 1) (k + 1) y z (Nat.succ_le_succ hjk) hy
      exact ⟨x :: front, back, rfl, List.forall_mem_cons.2 ⟨hx, hfront⟩, hback⟩

/-- The cancelled workers are the last ones of the report, and where there is one the leader is
cancelled as well. -/
theorem CutOff.suffix_of_report (h : CutOff o s) (hplaced : Placed c o s) (hstaffed : Staffed o s)
    (hgathered : Gathered s) {report : FleetReport} (hreport : s.report? = some report) :
    ∃ ran withheld, report.workers = ran ++ withheld ∧ (∀ r ∈ ran, r.status ≠ .cancelled) ∧
      (∀ r ∈ withheld, r.status = .cancelled) ∧
      (withheld ≠ [] → ∀ r, report.leader = some r → r.status = .cancelled) := by
  have hslots := (hgathered.slots_of_report hreport).1
  -- Behind a cancelled worker everybody is held back, so everybody's result says so.
  have hbehind : ∀ k r, report.workers[k]? = some r → r.status = .cancelled →
      (∀ j, k ≤ j → j < s.slots.length → s.Withheld (.worker j)) ∧
      (o.targets.leader.isSome = true → s.Withheld .leader) := by
    intro k r hr hstatus
    rw [← FleetReport.result?, hgathered.result?_eq hreport] at hr
    obtain ⟨_, hworkers, hleader⟩ := h.behind k ⟨r, hr, hstatus⟩
    exact ⟨fun j hkj hj => (heldBack_of_report hstaffed hreport _).1 (hworkers j hkj hj),
      fun hsome => (heldBack_of_report hstaffed hreport _).1 (hleader hsome)⟩
  obtain ⟨ran, withheld, hcut, hran, hwithheld⟩ :=
    exists_suffix (p := fun r : RunResult => r.status = .cancelled) report.workers (by
      intro j k r r' hjk hr hstatus hr'
      have hk : k < s.slots.length := by
        rw [hslots, List.length_map]
        exact (List.getElem?_eq_some_iff.1 hr').1
      obtain ⟨r'', hr'', hstatus'⟩ := (hbehind j r hr hstatus).1 k hjk hk
      rw [← hgathered.result?_eq hreport, FleetReport.result?, hr'] at hr''
      cases hr''
      exact hstatus')
  refine ⟨ran, withheld, hcut, hran, hwithheld, ?_⟩
  intro hsome leader hleader
  obtain ⟨r, rest, rfl⟩ := List.exists_cons_of_ne_nil hsome
  have hr : report.workers[ran.length]? = some r := by
    rw [hcut, List.getElem?_append_right (Nat.le_refl _), Nat.sub_self]
    rfl
  have hfits := hplaced.duty
  rw [finished_of_report hreport] at hfits
  have hlead := congrArg Option.isSome hfits.2
  rw [Option.isSome_map, Option.isSome_map, hleader] at hlead
  obtain ⟨r', hr', hstatus⟩ := (hbehind _ r hr (hwithheld r List.mem_cons_self)).2 hlead.symm
  rw [← hgathered.result?_eq hreport, FleetReport.result?, hleader] at hr'
  cases hr'
  exact hstatus

end Run

end FleetRun

/-! ## What a cancelling does -/

/-- What a cancelling does, in a run in which no task dies, whenever it comes.

A run is cancelled with its token, with a token that this one descends from, and when a result is
sent to a receiver that has left.  From then on nobody is started.  Those under way are no more than
the plan allows; they call if they have not called yet, nobody else does, and they have results of
their own in the report.  Those who were not started are reported as cancelled.

Whatever happens, the run can be brought to its end; the report says that an actor is cancelled
exactly if the actor was never called; and the cancelled workers are the last ones of the roster,
and where there is one the leader is cancelled as well. -/
theorem Dispatcher.cancelled_run_starts_nobody {Net Session Desk File : Type}
    (d : Dispatcher Net Session Desk File) {roster : HostRoster} {plan : FleetPlan}
    (hplan : plan.validate roster = .ok ()) (token : CancelToken) (flags : CancelFlags)
    (world : World Net Desk) (stream : Option ResultStream) :
    ∃ o, d.orders roster plan token = .ok o ∧ ∀ events s,
      (FleetRun.initial o flags world stream).LosesNone d.connector d.workstation o events →
      (FleetRun.initial o flags world stream).follow d.connector d.workstation o events = some s →
      (∀ cancelled : CancelToken, cancelled.flag ∈ token.flag :: token.ancestors →
        (s.cancel cancelled).isCancelled o = true) ∧
      (∀ result queue received t, s.duty = .sendWorker result ∨ s.duty = .sendLeader result →
        s.stream = some ⟨queue, received, false⟩ →
        s.move d.connector d.workstation o .coordinate = some t → t.isCancelled o = true) ∧
      (∃ (moves : List FleetMove) (t : FleetRun Net Session Desk File),
        (∀ m ∈ moves, m.isMishap = false) ∧
        s.follow d.connector d.workstation o (moves.map .move) = some t ∧
        (t.report?.isSome = true ∨ ∃ target job net, o.targets.leader = some (target, job) ∧
          (d.connector.connect target net).1 = .died)) ∧
      s.callers.Sublist s.underWay ∧ s.underWay.length ≤ plan.concurrency ∧
      (s.isCancelled o = true → ∀ later t,
        (FleetRun.initial o flags world stream).LosesNone d.connector d.workstation o
          (events ++ later) →
        s.follow d.connector d.workstation o later = some t →
        t.isCancelled o = true ∧ t.underWay ⊆ s.underWay ∧
        (s.calls d.connector d.workstation o later ++ t.callers).Perm s.callers ∧
        ∀ report, t.report? = some report →
          (∀ actor ∈ s.underWay, ∃ r, report.result? actor = some r ∧ o.Ran actor r ∧
            r.status ≠ .cancelled) ∧
          ∀ actor ∈ s.pending o, ∃ r, report.result? actor = some r ∧ r.status = .cancelled) ∧
      ∀ report, s.report? = some report →
        (∀ actor r, report.result? actor = some r →
          (r.status = .cancelled ↔
            actor ∉ (FleetRun.initial o flags world stream).calls d.connector d.workstation o
              events)) ∧
        ∃ ran withheld, report.workers = ran ++ withheld ∧ (∀ r ∈ ran, r.status ≠ .cancelled) ∧
          (∀ r ∈ withheld, r.status = .cancelled) ∧
          (withheld ≠ [] → ∀ r, report.leader = some r → r.status = .cancelled) := by
  obtain ⟨targets, hresolve, _⟩ := FleetPlan.exists_resolve_of_validate hplan d.credentials
  refine ⟨⟨plan, targets, d.echo, token⟩, by rw [orders, hresolve]; rfl, ?_⟩
  intro events s hnone hfollow
  have hplaced := FleetRun.placed_of_follow hfollow
  have hstaffed := FleetRun.staffed_of_follow hfollow
  refine ⟨?_, ?_, ?_, FleetRun.callers_sublist, ?_, ?_, ?_⟩
  · intro cancelled hmem
    exact CancelFlags.isCancelled_cancel.2 (.inl hmem)
  · intro result queue received t hduty hstream hmove
    have hchange := FleetRun.change_of_move hmove
    cases hchange with
    | sentWorker result desk flags stream hduty hsend =>
      exact (FleetRun.isCancelled_send hsend).2 queue received hstream
    | sentLeader result desk flags stream hduty hsend =>
      exact (FleetRun.isCancelled_send hsend).2 queue received hstream
    | _ => simp_all
  · obtain ⟨moves, t, hmoves, hrest, hover⟩ :=
      FleetRun.exists_follow_isOver d.connector d.workstation ⟨plan, targets, d.echo, token⟩ s
    exact ⟨moves, t, hmoves, hrest,
      (FleetRun.placed_of_follow (FleetRun.follow_trans hfollow hrest)).report_or_died hover⟩
  · exact Nat.le_trans hstaffed.length_underWay_le
      (Nat.le_of_eq (Nat.max_eq_left (FleetPlan.checked_of_validate hplan).1))
  · intro hcancelled later t hlosesNone hlater
    have hboth := FleetRun.follow_trans hfollow hlater
    refine ⟨FleetRun.isCancelled_of_follow hlater hcancelled,
      FleetRun.underWay_of_follow hlater hcancelled,
      FleetRun.callers_of_follow hcancelled (FleetRun.accounted_of_follow hfollow)
        (hlosesNone.after hfollow) hlater, ?_⟩
    intro report hreport
    have hstays := FleetRun.heldBack_of_follow hfollow hcancelled hlater
    have hend := FleetRun.heldBack_of_report (FleetRun.staffed_of_follow hboth) hreport
    have hresult := (FleetRun.gathered_of_follow hlosesNone hboth).result?_eq hreport
    constructor
    · intro actor hactor
      have herrand := FleetRun.isSome_errand?_of_underWay hplaced
        (hnone events s (List.prefix_refl _) hfollow) hactor
      obtain ⟨r, hr⟩ := (FleetRun.placed_of_follow hboth).exists_result hreport herrand
      have hr' := (hresult actor).symm.trans hr
      have hstatus : r.status ≠ .cancelled := fun hstatus =>
        FleetRun.not_heldBack_of_underWay hfollow hactor
          ((hstays actor).1 ((hend actor).2 ⟨r, hr', hstatus⟩))
      exact ⟨r, hr,
        ((FleetRun.outcomes_of_follow hboth).ran_of_result? hr').resolve_left hstatus, hstatus⟩
    · intro actor hactor
      obtain ⟨r, hr, hstatus⟩ := (hend actor).1 ((hstays actor).2 (.inl hactor))
      exact ⟨r, (hresult actor).trans hr, hstatus⟩
  · intro report hreport
    have hgathered := FleetRun.gathered_of_follow hnone hfollow
    refine ⟨?_, (FleetRun.cutOff_of_follow hfollow).suffix_of_report hplaced hstaffed hgathered
      hreport⟩
    intro actor r hr
    rw [FleetRun.called_iff hnone hfollow,
      FleetRun.hasCalled_of_report hstaffed hgathered hreport, hr]
    simp

/-- The first of three workers is started, and then the run is cancelled. -/
def trioBegun : List FleetEvent := [.move .coordinate, .move .coordinate, .cancel ⟨0, []⟩]

/-- What is left of a run with one worker under way. -/
def trioWindUp : List FleetMove :=
  List.replicate 4 .coordinate ++ List.replicate 7 (.advance 0) ++ List.replicate 5 .coordinate

/-- When a run over three hosts is cancelled with the first worker under way, it is that worker who
calls, and all others are reported as cancelled. -/
theorem Dispatcher.cancelled_run_starts_nobody_trio :
    trioPlan.validate trioRoster = .ok () ∧
    (FleetRun.initial trioOrders ⟨1, []⟩ ⟨{}, {}⟩ none).LosesNone trioDispatcher.connector
      trioDispatcher.workstation trioOrders (trioBegun ++ trioWindUp.map .move) ∧
    ∃ s t report, (FleetRun.initial trioOrders ⟨1, []⟩ ⟨{}, {}⟩ none).follow
        trioDispatcher.connector trioDispatcher.workstation trioOrders trioBegun = some s ∧
      s.isCancelled trioOrders = true ∧
      s.follow trioDispatcher.connector trioDispatcher.workstation trioOrders
        (trioWindUp.map .move) = some t ∧
      t.report? = some report ∧
      (s.calls trioDispatcher.connector trioDispatcher.workstation trioOrders
        (trioWindUp.map .move) ++ t.callers).Perm [.worker 0] ∧
      (∃ r, report.result? (.worker 0) = some r ∧ r.status ≠ .cancelled) ∧
      ∀ actor ∈ [.worker 1, .worker 2, .leader], ∃ r, report.result? actor = some r ∧
        r.status = .cancelled := by
  obtain ⟨o, horders, hall⟩ := trioDispatcher.cancelled_run_starts_nobody validate_trio ⟨0, []⟩
    ⟨1, []⟩ ⟨{}, {}⟩ none
  rw [orders_trio] at horders
  cases horders
  have hnone : (FleetRun.initial trioOrders ⟨1, []⟩ ⟨{}, {}⟩ none).LosesNone
      trioDispatcher.connector trioDispatcher.workstation trioOrders
        (trioBegun ++ trioWindUp.map .move) := by
    refine FleetRun.losesNone_of_alive (MockScript.connect_ne_died {}) ?_
      (FleetRun.placed_initial trioOrders _ _ _) (fun _ hdead => by cases hdead)
    simp [trioBegun, trioWindUp]
  have hbegun : ((FleetRun.initial trioOrders ⟨1, []⟩ ⟨{}, {}⟩ none).follow trioDispatcher.connector
      trioDispatcher.workstation trioOrders trioBegun).map
        (fun s => (s.isCancelled trioOrders, s.underWay, s.pending trioOrders, s.callers))
      = some (true, [.worker 0], [.worker 1, .worker 2, .leader], [.worker 0]) := by rfl
  obtain ⟨s, hs, hstate⟩ := Option.map_eq_some_iff.1 hbegun
  obtain ⟨hcancelled, hstate⟩ := Prod.mk.inj hstate
  obtain ⟨hunderWay, hstate⟩ := Prod.mk.inj hstate
  obtain ⟨hpending, hcallers⟩ := Prod.mk.inj hstate
  have hrun : ((FleetRun.initial trioOrders ⟨1, []⟩ ⟨{}, {}⟩ none).follow trioDispatcher.connector
      trioDispatcher.workstation trioOrders (trioBegun ++ trioWindUp.map .move)).map
        (·.report?.isSome) = some true := by rfl
  rw [FleetRun.follow_append, hs, Option.bind_some] at hrun
  obtain ⟨t, ht, hwritten⟩ := Option.map_eq_some_iff.1 hrun
  obtain ⟨report, hreport⟩ := Option.isSome_iff_exists.1 hwritten
  have hbefore : (FleetRun.initial trioOrders ⟨1, []⟩ ⟨{}, {}⟩ none).LosesNone
      trioDispatcher.connector trioDispatcher.workstation trioOrders trioBegun :=
    fun before u hstart hu => hnone before u (hstart.trans (List.prefix_append _ _)) hu
  obtain ⟨_, _, hcalls, hresults⟩ :=
    (hall trioBegun s hbefore hs).2.2.2.2.2.1 hcancelled (trioWindUp.map .move) t hnone ht
  obtain ⟨hran, hwithheld⟩ := hresults report hreport
  rw [hcallers] at hcalls
  rw [hpending] at hwithheld
  obtain ⟨r, hr, _, hstatus⟩ := hran (.worker 0) (by rw [hunderWay]; exact List.mem_cons_self)
  exact ⟨validate_trio, hnone, s, t, report, hs, hcancelled, ht, hreport, hcalls, ⟨r, hr, hstatus⟩,
    hwithheld⟩

end RemoteFleet
