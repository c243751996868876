import RemoteFleet.Proofs.Fleet.Places

/-!
# Runs in which no task dies

A task that dies leaves its slot empty, and the report says so in its place.  `LosesNone` says of a
run that none does, whether by itself or with its attempt to connect.  Then every slot is filled by
the time the workers are done, and the report has what is in the slots and nothing else
(`Gathered`).
-/

namespace RemoteFleet

namespace FleetRun

variable {Net Session Desk File : Type}

/-- No task that ended died. -/
def Unharmed (s : FleetRun Net Session Desk File) : Prop := ∀ slot, (slot, none) ∉ s.ended

/-- No task dies in the course of events. -/
def LosesNone (c : Connector Net Session) (ws : Workstation Desk File) (o : FleetOrders)
    (s : FleetRun Net Session Desk File) (events : List FleetEvent) : Prop :=
  ∀ before t, before <+: events → s.follow c ws o before = some t → t.Unharmed

/-- Every slot that nobody works on is filled, and when the workers are done, what is in the slots
is what is known of the workers and goes into the report. -/
structure Gathered (s : FleetRun Net Session Desk File) : Prop where
  filled : ∀ k, k < s.slots.length → k ∈ s.openPlaces ∨ ∃ r, s.slots[k]? = some (some r)
  workers : s.duty.inWorkerPhase = false → s.slots = s.workers.map some
  written : ∀ report, s.duty = .finished report →
    report.workers = s.workers ∧ report.leader = s.leader

variable {c : Connector Net Session} {ws : Workstation Desk File} {o : FleetOrders}
  {s t : FleetRun Net Session Desk File} {events : List FleetEvent}

/-! ## What such a run keeps -/

/-- What no change breaks by which no task dies holds along a run in which none does. -/
theorem follow_invariant_of_losesNone {P : FleetRun Net Session Desk File → Prop}
    (hchange : ∀ s m t, .move m ∈ events → s.Unharmed → t.Unharmed → Change c ws o s m t →
      P s → P t)
    (hcancel : ∀ s token, P s → P (s.cancel token)) (hnone : s.LosesNone c ws o events)
    (h : s.follow c ws o events = some t) (hs : P s) : P t := by
  refine follow_induction (P := fun _ s => P s) h hs ?_
  intro before u event v hbefore hfollow hstep hu
  have hunharmed := hnone before u ((List.prefix_append _ _).trans hbefore) hfollow
  cases event with
  | move m =>
    have hmem : .move m ∈ events := hbefore.subset (List.mem_append_right _ List.mem_cons_self)
    refine hchange u m v hmem hunharmed (hnone _ v hbefore ?_) (change_of_move hstep) hu
    exact follow_trans hfollow (by rw [follow, hstep]; rfl)
  | cancel token =>
    cases hstep
    exact hcancel u token hu

/-- A run that goes on from another one loses none, if both together lose none. -/
theorem LosesNone.after {later : List FleetEvent} (h : s.LosesNone c ws o (events ++ later))
    (hfollow : s.follow c ws o events = some t) : t.LosesNone c ws o later := by
  intro before u hbefore hu
  exact h (events ++ before) u ((List.prefix_append_right_inj events).2 hbefore)
    (follow_trans hfollow hu)

/-- No task dies where connecting does not and nobody makes one die. -/
theorem losesNone_of_alive (hconnect : ∀ target net, (c.connect target net).1 ≠ .died)
    (halive : ∀ slot, .move (.die slot) ∉ events) (hplaced : Placed c o s) (hs : s.Unharmed) :
    s.LosesNone c ws o events := by
  intro before t hbefore hfollow
  have hboth : Placed c o t ∧ t.Unharmed := by
    refine follow_invariant (P := fun s => Placed c o s ∧ s.Unharmed) ?_ ?_ hfollow ⟨hplaced, hs⟩
    · rintro s m t hmem hchange ⟨hplaced, hs⟩
      refine ⟨hplaced.change hchange, ?_⟩
      intro slot hdead
      cases hchange with
      | buried slot' ended desk hduty hended =>
        exact hs slot (hended ▸ List.mem_cons_of_mem _ hdead)
      | joined slot' result ended hduty hended =>
        exact hs slot (hended ▸ List.mem_cons_of_mem _ hdead)
      | ended before after task stage world htasks hadvance hover =>
        rcases List.mem_append.1 hdead with hold | hnew
        · exact hs slot hold
        · obtain ⟨_, hnone⟩ := Prod.mk.inj (List.mem_singleton.1 hnew)
          have hgoes := (hplaced.tasks task (by simp [htasks])).1
          cases stage with
          | dead => exact hconnect _ _ (Errand.died_of_advance hgoes hadvance)
          | done result => cases hnone
          | _ => cases hover
      | died before after task net htasks hnet => exact halive task.slot (hbefore.subset hmem)
      | _ => exact hs slot hdead
    · rintro s token ⟨hplaced, hs⟩
      exact ⟨{ hplaced with }, hs⟩
  exact hboth.2

/-! ## The slots and the report -/

theorem gathered_initial (o : FleetOrders) (flags : CancelFlags) (world : World Net Desk)
    (stream : Option ResultStream) :
    Gathered (initial o flags world stream : FleetRun Net Session Desk File) where
  filled k hk := by
    left
    simp only [initial, List.length_replicate] at hk
    simp only [openPlaces, initial, List.map_nil, List.append_nil, List.map_map]
    have hslots : (o.targets.workers.zipIdx.map fun entry => entry.2)
        = List.range' 0 o.targets.workers.length := List.zipIdx_map_snd 0 o.targets.workers
    have hmem : k ∈ List.range' 0 o.targets.workers.length := List.mem_range'_1.2 (by omega)
    rw [← hslots] at hmem
    exact hmem
  workers h := by cases h
  written report h := by cases h

/-- When nobody works any more and every slot is filled, `collect` finds the results there. -/
theorem Gathered.slots_eq_collect (h : Gathered s) (hplaced : Placed c o s)
    (hwaiting : s.waiting = []) (htasks : s.tasks = []) (hended : s.ended = []) :
    s.slots = (s.collect ws o).map some := by
  apply List.ext_getElem?
  intro k
  simp only [collect, List.getElem?_map, List.getElem?_zipWith]
  cases hslot : s.slots[k]? with
  | none =>
    cases o.targets.workers[k]? <;> rfl
  | some slot =>
    have hk : k < s.slots.length := (List.getElem?_eq_some_iff.1 hslot).1
    rcases h.filled k hk with hopen | ⟨r, hr⟩
    · simp [openPlaces, hwaiting, htasks, hended] at hopen
    · rw [hslot] at hr
      cases hr
      have htarget : k < o.targets.workers.length := hplaced.length_slots ▸ hk
      simp only [List.getElem?_eq_getElem htarget, Option.getD_some, Option.map_some]

/-- A slot stays filled, and one that nobody works on any more was just filled. -/
theorem Gathered.filled_change (h : Gathered s) (hunharmed : s.Unharmed) {m : FleetMove}
    (hc : Change c ws o s m t) :
    ∀ k, k < t.slots.length → k ∈ t.openPlaces ∨ ∃ r, t.slots[k]? = some (some r) := by
  intro k hk
  rcases places_of_change hc with ⟨hperm, hslots⟩ | ⟨slot, hperm, ⟨r, hslots⟩ | ⟨hdead, _⟩⟩
  · rw [hslots] at hk ⊢
    exact (h.filled k hk).imp_left hperm.mem_iff.1
  · rw [hslots] at hk ⊢
    rw [List.length_set] at hk
    by_cases heq : k = slot
    · exact .inr ⟨r, heq ▸ List.getElem?_set_self (heq ▸ hk)⟩
    · rw [List.getElem?_set_ne (Ne.symm heq)]
      refine (h.filled k hk).imp_left ?_
      intro hopen
      exact (List.mem_cons.1 (hperm.mem_iff.1 hopen)).resolve_left heq
  · exact absurd hdead (hunharmed slot)

/-- As long as the workers are not all done, nothing is known of them. -/
theorem Gathered.of_inWorkerPhase
    (hfilled : ∀ k, k < t.slots.length → k ∈ t.openPlaces ∨ ∃ r, t.slots[k]? = some (some r))
    (hphase : t.duty.inWorkerPhase = true) : Gathered t := by
  refine ⟨hfilled, ?_, ?_⟩
  · intro hdone
    rw [hphase] at hdone
    cases hdone
  · intro report hreport
    rw [hreport] at hphase
    cases hphase

/-- Until the report is written, nothing has to be said of it. -/
theorem Gathered.of_unwritten
    (hfilled : ∀ k, k < t.slots.length → k ∈ t.openPlaces ∨ ∃ r, t.slots[k]? = some (some r))
    (hworkers : t.slots = t.workers.map some) (hnone : ∀ report, t.duty ≠ .finished report) :
    Gathered t :=
  ⟨hfilled, fun _ => hworkers, fun report hreport => absurd hreport (hnone report)⟩

/-- What is gathered stays gathered. -/
theorem Gathered.change (h : Gathered s) (hplaced : Placed c o s) (hunharmed : s.Unharmed)
    {m : FleetMove} (hc : Change c ws o s m t) : Gathered t := by
  have hfilled := h.filled_change hunharmed hc
  cases hc with
  | announced now desk hduty => exact .of_inWorkerPhase hfilled rfl
  | joined slot result ended hduty hended => exact .of_inWorkerPhase hfilled rfl
  | withheld slot target waiting now hduty hwaiting hcancelled =>
    exact .of_inWorkerPhase hfilled rfl
  | sentWorker result desk flags stream hduty hsend => exact .of_inWorkerPhase hfilled rfl
  | workersDone hduty hwaiting htasks hended hleader =>
    exact .of_unwritten hfilled (h.slots_eq_collect hplaced hwaiting htasks hended) (by simp)
  | leaderWithheld target job now desk hduty hwaiting htasks hended hleader hwhy =>
    exact .of_unwritten hfilled (h.slots_eq_collect hplaced hwaiting htasks hended) (by simp)
  | leaderStarted target job hduty hwaiting htasks hended hleader hlive hstrict =>
    exact .of_unwritten hfilled (h.slots_eq_collect hplaced hwaiting htasks hended) (by simp)
  | sentLeader result desk flags stream hduty hsend =>
    exact .of_unwritten hfilled (h.workers (by rw [hduty]; rfl)) (by simp)
  | led errand stage stage' world hduty hadvance hgoes =>
    exact .of_unwritten hfilled (h.workers (by rw [hduty]; rfl)) (by simp)
  | leaderDone errand stage result world hduty hadvance =>
    exact .of_unwritten hfilled (h.workers (by rw [hduty]; rfl)) (by simp)
  | leaderDied errand stage world hduty hadvance =>
    exact .of_unwritten hfilled (h.workers (by rw [hduty]; rfl)) (by simp)
  | reported report desk hduty hworkers hleader hstart =>
    refine ⟨hfilled, fun _ => h.workers (by rw [hduty]; rfl), ?_⟩
    intro written hwritten
    cases hwritten
    exact ⟨hworkers, hleader⟩
  | _ => exact ⟨hfilled, h.workers, h.written⟩

theorem gathered_of_follow {flags : CancelFlags} {world : World Net Desk}
    {stream : Option ResultStream}
    (hnone : (initial o flags world stream).LosesNone c ws o events)
    (h : (initial o flags world stream).follow c ws o events = some s) : Gathered s := by
  have hboth : Placed c o s ∧ Gathered s := by
    refine follow_invariant_of_losesNone (P := fun s => Placed c o s ∧ Gathered s) ?_ ?_ hnone h
      ⟨placed_initial o flags world stream, gathered_initial o flags world stream⟩
    · intro s m t _ hunharmed _ hchange hs
      exact ⟨hs.1.change hchange, hs.2.change hs.1 hunharmed hchange⟩
    · intro s token hs
      exact ⟨{ hs.1 with }, ⟨hs.2.filled, hs.2.workers, hs.2.written⟩⟩
  exact hboth.2

/-- The report has what is in the slots. -/
theorem Gathered.slots_of_report (h : Gathered s) {report : FleetReport}
    (hreport : s.report? = some report) :
    s.slots = report.workers.map some ∧ report.leader = s.leader := by
  have hduty := finished_of_report hreport
  obtain ⟨hworkers, hleader⟩ := h.written _ hduty
  rw [hworkers]
  exact ⟨h.workers (by rw [hduty]; rfl), hleader⟩

end FleetRun

/-- Scripted hosts answer every attempt to connect. -/
theorem MockScript.connect_ne_died (m : MockScript) (target : RemoteTarget) (net : MockRecord) :
    (m.connector.connect target net).1 ≠ .died := by
  simp only [connector, connect]
  split <;> simp

end RemoteFleet
