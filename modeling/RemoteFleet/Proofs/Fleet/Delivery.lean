import RemoteFleet.Proofs.Fleet.Schedule
import RemoteFleet.Proofs.Fleet.Sessions
import RemoteFleet.Proofs.Fleet.Survival

/-!
# What a receiver gets

Results go out from three places: a worker that was joined, a worker that was cancelled, and the
leader.  `Delivered` counts what went out and what is just going out against what is in the slots:
the workers' results are those of the slots, in some order, and the leader's comes after them.  With
one worker at a time the slots are filled from the first to the last (`InLine`), so the order is
theirs.

`IsClosed` is where the receiver learns that nothing more comes.  A run whose receiver stays comes
to that point from wherever it stands.
-/

namespace RemoteFleet

/-- The result that is on its way into the stream. -/
def Duty.outgoing {Session File : Type} : Duty Session File → List RunResult
  | .sendWorker result | .sendLeader result => [result]
  | _ => []

/-! ## Filling a slot -/

section Slots

variable {slots : List (Option RunResult)} {k : Nat}

/-- The slots before an empty one, and those after it. -/
theorem slots_cut (h : slots[k]? = some none) :
    slots = slots.take k ++ none :: slots.drop (k + 1) := by
  obtain ⟨hk, hslot⟩ := List.getElem?_eq_some_iff.1 h
  rw [← hslot, List.getElem_cons_drop, List.take_append_drop]

theorem filterMap_of_empty (h : slots[k]? = some none) :
    slots.filterMap id = (slots.take k).filterMap id ++ (slots.drop (k + 1)).filterMap id := by
  have hcut := FleetRun.filterMap_cut id (slots.take k) none (slots.drop (k + 1))
  rw [← slots_cut h] at hcut
  rw [hcut, id, Option.toList_none, List.append_nil]

theorem filterMap_set (h : slots[k]? = some none) (r : RunResult) :
    (slots.set k (some r)).filterMap id
      = (slots.take k).filterMap id ++ [r] ++ (slots.drop (k + 1)).filterMap id := by
  rw [List.set_eq_take_append_cons_drop, if_pos (List.getElem?_eq_some_iff.1 h).1]
  exact FleetRun.filterMap_cut id (slots.take k) (some r) (slots.drop (k + 1))

/-- A slot that is filled adds its result to the others. -/
theorem perm_filterMap_set (h : slots[k]? = some none) (r : RunResult) :
    (slots.filterMap id ++ [r]).Perm ((slots.set k (some r)).filterMap id) := by
  rw [filterMap_of_empty h, filterMap_set h, List.append_assoc, List.append_assoc]
  exact List.perm_append_comm.append_left _

/-- The first of the empty slots adds its result behind the others. -/
theorem filterMap_set_of_first (h : slots[k]? = some none)
    (hempty : ∀ j, k < j → j < slots.length → slots[j]? = some none) (r : RunResult) :
    slots.filterMap id ++ [r] = (slots.set k (some r)).filterMap id := by
  have hafter : (slots.drop (k + 1)).filterMap id = [] := by
    refine List.filterMap_eq_nil_iff.2 ?_
    intro slot hmem
    obtain ⟨j, hj, rfl⟩ := List.mem_iff_getElem.1 hmem
    rw [List.length_drop] at hj
    have hnone := hempty (k + 1 + j) (by omega) (by omega)
    rw [List.getElem_drop]
    exact (List.getElem?_eq_some_iff.1 hnone).2
  rw [filterMap_of_empty h, filterMap_set h, hafter, List.append_nil, List.append_nil]

end Slots

namespace FleetRun

variable {Net Session Desk File : Type}

/-- What was sent so far: what was received, and what is on its way. -/
def sent (s : FleetRun Net Session Desk File) : List RunResult :=
  match s.stream with
  | none => []
  | some stream => stream.received ++ stream.queue

/-- The receiver has all that was sent, and the run is over: nothing more comes. -/
def IsClosed (s : FleetRun Net Session Desk File) : Prop :=
  s.duty.isOver = true ∧ s.stream = some ⟨[], s.received, true⟩

/-! ## One worker at a time -/

/-- With one worker at a time, it and those that wait are the last ones, in their order. -/
def InLine (o : FleetOrders) (s : FleetRun Net Session Desk File) : Prop :=
  o.plan.concurrency ≤ 1 → ∃ first,
    s.tasks.map (·.slot) ++ (s.ended.map (·.1) ++ s.waiting.map (·.1))
      = List.range' first (s.slots.length - first)

variable {c : Connector Net Session} {ws : Workstation Desk File} {o : FleetOrders}
  {s t : FleetRun Net Session Desk File}

theorem inLine_initial (o : FleetOrders) (flags : CancelFlags) (world : World Net Desk)
    (stream : Option ResultStream) :
    InLine o (initial o flags world stream : FleetRun Net Session Desk File) := by
  intro _
  refine ⟨0, ?_⟩
  simp only [initial, List.map_nil, List.nil_append, List.map_map, List.length_replicate]
  exact List.zipIdx_map_snd 0 o.targets.workers

/-- Where there is room for one, nobody is in flight. -/
theorem nobody_of_room (hone : o.plan.concurrency ≤ 1)
    (hroom : s.inFlight < max o.plan.concurrency 1) : s.tasks = [] ∧ s.ended = [] := by
  unfold inFlight at hroom
  exact ⟨List.length_eq_zero_iff.1 (by omega), List.length_eq_zero_iff.1 (by omega)⟩

/-- With one worker at a time, a task that ended is the only one in flight. -/
theorem Staffed.alone_of_ended (h : Staffed o s) (hone : o.plan.concurrency ≤ 1)
    {entry : Nat × Option RunResult} {ended : List (Nat × Option RunResult)}
    (hended : s.ended = entry :: ended) : s.tasks = [] ∧ ended = [] := by
  have hle := h.inFlight_le
  unfold inFlight at hle
  rw [hended, List.length_cons] at hle
  exact ⟨List.length_eq_zero_iff.1 (by omega), List.length_eq_zero_iff.1 (by omega)⟩

/-- With one worker at a time, nobody is to be joined while a task goes on. -/
theorem Staffed.ended_eq_nil_of_cut (h : Staffed o s) (hone : o.plan.concurrency ≤ 1)
    {before after : List (Task Session File)} {task : Task Session File}
    (htasks : s.tasks = before ++ task :: after) : s.ended = [] := by
  have hle := h.inFlight_le
  unfold inFlight at hle
  rw [htasks, List.length_append, List.length_cons] at hle
  exact List.length_eq_zero_iff.1 (by omega)

/-- A task that ends keeps its place in the line. -/
theorem InLine.of_ended (h : InLine o s) (hstaffed : Staffed o s)
    {before after : List (Task Session File)} {task : Task Session File} {world : World Net Desk}
    {result : Option RunResult} (htasks : s.tasks = before ++ task :: after) :
    InLine o
      { s with world, tasks := before ++ after, ended := s.ended ++ [(task.slot, result)] } := by
  intro hone
  obtain ⟨first, hline⟩ := h hone
  obtain ⟨rfl, rfl⟩ := hstaffed.alone hone htasks
  have hended := hstaffed.ended_eq_nil_of_cut hone htasks
  refine ⟨first, ?_⟩
  simp only [htasks, hended, List.map_cons, List.map_nil, List.nil_append,
    List.cons_append] at hline ⊢
  exact hline

/-- The line stays in order. -/
theorem InLine.change (h : InLine o s) (hstaffed : Staffed o s) {m : FleetMove}
    (hc : Change c ws o s m t) : InLine o t := by
  cases hc with
  | buried slot ended desk hduty hended =>
    intro hone
    obtain ⟨first, hline⟩ := h hone
    obtain ⟨htasks, rfl⟩ := hstaffed.alone_of_ended hone hended
    simp only [htasks, hended, List.map_nil, List.map_cons, List.nil_append,
      List.cons_append] at hline ⊢
    exact ⟨first + 1, (exists_line_tail hline).2⟩
  | joined slot result ended hduty hended =>
    intro hone
    obtain ⟨first, hline⟩ := h hone
    obtain ⟨htasks, rfl⟩ := hstaffed.alone_of_ended hone hended
    simp only [htasks, hended, List.map_nil, List.map_cons, List.nil_append, List.cons_append,
      List.length_set] at hline ⊢
    exact ⟨first + 1, (exists_line_tail hline).2⟩
  | withheld slot target waiting now hduty hwaiting hcancelled hroom =>
    intro hone
    obtain ⟨first, hline⟩ := h hone
    obtain ⟨htasks, hended⟩ := nobody_of_room hone hroom
    simp only [htasks, hended, hwaiting, List.map_nil, List.map_cons, List.nil_append,
      List.length_set] at hline ⊢
    exact ⟨first + 1, (exists_line_tail hline).2⟩
  | started slot target waiting hduty hwaiting hlive hroom =>
    intro hone
    obtain ⟨first, hline⟩ := h hone
    obtain ⟨htasks, hended⟩ := nobody_of_room hone hroom
    simp only [htasks, hended, hwaiting, List.map_nil, List.map_cons, List.nil_append,
      List.cons_append] at hline ⊢
    exact ⟨first, hline⟩
  | advanced before after task stage world htasks hadvance hgoes =>
    simp only [InLine, htasks, List.map_append, List.map_cons] at h ⊢
    exact h
  | ended before after task stage world htasks hadvance hover =>
    exact h.of_ended hstaffed htasks
  | died before after task net htasks hnet => exact h.of_ended hstaffed htasks
  | _ => exact h

/-- With one worker at a time, the slots behind one that is just filled are empty. -/
theorem InLine.empty_behind (h : InLine o s) (haccounted : Accounted s)
    (hone : o.plan.concurrency ≤ 1) {slot : Nat} {rest : List Nat}
    (hline : s.tasks.map (·.slot) ++ (s.ended.map (·.1) ++ s.waiting.map (·.1)) = slot :: rest) :
    s.slots[slot]? = some none ∧
      ∀ j, slot < j → j < s.slots.length → s.slots[j]? = some none := by
  obtain ⟨first, hrange⟩ := h hone
  have hopen : ∀ j, j ∈ slot :: rest → s.slots[j]? = some none := by
    intro j hj
    rw [← hline] at hj
    apply haccounted.empty
    simp only [openPlaces, List.mem_append] at hj ⊢
    tauto
  refine ⟨hopen slot List.mem_cons_self, ?_⟩
  intro j hlt hj
  refine hopen j ?_
  rw [hline] at hrange
  obtain ⟨rfl, _⟩ := exists_line_tail hrange
  rw [hrange, List.mem_range'_1]
  omega

/-! ## What went out -/

/-- The receiver is there.  What went out and what is just going out are the results in the slots,
and then the leader's. -/
structure Delivered (o : FleetOrders) (s : FleetRun Net Session Desk File) : Prop where
  stays : ∃ queue received, s.stream = some ⟨queue, received, true⟩
  emitted : ∃ workers, s.sent ++ s.duty.outgoing = workers ++ s.leader.toList ∧
    workers.Perm (s.slots.filterMap id) ∧
    (o.plan.concurrency ≤ 1 → workers = s.slots.filterMap id)

theorem delivered_initial (o : FleetOrders) (flags : CancelFlags) (world : World Net Desk) :
    Delivered o (initial o flags world (some {}) : FleetRun Net Session Desk File) where
  stays := ⟨[], [], rfl⟩
  emitted := by
    have hnone : ((List.replicate o.targets.workers.length none).filterMap id : List RunResult)
        = [] := by
      refine List.filterMap_eq_nil_iff.2 ?_
      intro slot hmem
      exact List.eq_of_mem_replicate hmem
    refine ⟨[], rfl, ?_, ?_⟩
    · simp only [initial, hnone]
      exact List.Perm.refl _
    · intro _
      exact hnone.symm

/-- What leaves the stream, the slots and the leader's result alone delivers nothing. -/
theorem Delivered.of_eq (h : Delivered o s) (hstream : t.stream = s.stream)
    (hslots : t.slots = s.slots) (hleader : t.leader = s.leader)
    (houtgoing : t.duty.outgoing = s.duty.outgoing) : Delivered o t := by
  refine ⟨hstream ▸ h.stays, ?_⟩
  unfold sent
  rw [hstream, hslots, hleader, houtgoing]
  exact h.emitted

/-- A worker's result goes out when its slot is filled. -/
theorem Delivered.fill (h : Delivered o s) (hunled : Unled s) {slot : Nat} {r : RunResult}
    (hduty : s.duty = .manage) (hempty : s.slots[slot]? = some none)
    (hfirst : o.plan.concurrency ≤ 1 →
      ∀ j, slot < j → j < s.slots.length → s.slots[j]? = some none)
    (hstream : t.stream = s.stream) (hslots : t.slots = s.slots.set slot (some r))
    (hleader : t.leader = s.leader) (hout : t.duty = .sendWorker r) : Delivered o t := by
  have hnone : s.leader = none := hunled (by rw [hduty]; rfl)
  obtain ⟨workers, hemitted, hperm, hsame⟩ := h.emitted
  simp only [hduty, Duty.outgoing, hnone, Option.toList_none, List.append_nil] at hemitted
  refine ⟨hstream ▸ h.stays, workers ++ [r], ?_, ?_, ?_⟩
  · unfold sent at hemitted ⊢
    simp only [hstream, hemitted, hout, Duty.outgoing, hleader, hnone, Option.toList_none,
      List.append_nil]
  · rw [hslots]
    exact (hperm.append_right [r]).trans (perm_filterMap_set hempty r)
  · intro hone
    rw [hslots, hsame hone]
    exact filterMap_set_of_first hempty (hfirst hone) r

/-- The leader's result goes out. -/
theorem Delivered.lead (h : Delivered o s) (hunled : Unled s) {r : RunResult}
    (hawaits : s.duty.awaitsLeader = true) (hnothing : s.duty.outgoing = [])
    (hstream : t.stream = s.stream) (hslots : t.slots = s.slots)
    (hleader : t.leader = some r) (hout : t.duty = .sendLeader r) : Delivered o t := by
  obtain ⟨workers, hemitted, hperm, hsame⟩ := h.emitted
  simp only [hnothing, hunled hawaits, Option.toList_none, List.append_nil] at hemitted
  refine ⟨hstream ▸ h.stays, workers, ?_, hslots ▸ hperm, hslots ▸ hsame⟩
  unfold sent at hemitted ⊢
  rw [hstream, hemitted, hout, hleader]
  rfl

/-- What is sent is sent behind everything else. -/
theorem Delivered.send (h : Delivered o s) {result : RunResult} {desk : Desk} {flags : CancelFlags}
    {stream : Option ResultStream} {duty : Duty Session File}
    (hsend : s.send ws o result = some { s with world := ⟨s.world.net, desk⟩, flags, stream })
    (hduty : s.duty.outgoing = [result]) (hnothing : duty.outgoing = []) :
    Delivered o { s with world := ⟨s.world.net, desk⟩, flags, stream, duty } := by
  obtain ⟨queue, received, hstream⟩ := h.stays
  have hnew : stream = some ⟨queue ++ [result], received, true⟩ := by
    simp only [FleetRun.send, hstream, if_true] at hsend
    split at hsend
    · exact (congrArg FleetRun.stream (Option.some.inj hsend)).symm
    · cases hsend
  refine ⟨⟨_, _, hnew⟩, ?_⟩
  have hemitted := h.emitted
  simp only [sent, hstream, hduty, List.append_assoc] at hemitted
  simp only [sent, hnew, hnothing, List.append_nil]
  exact hemitted

/-- Every result goes out once. -/
theorem Delivered.change (h : Delivered o s) (haccounted : Accounted s) (hunled : Unled s)
    (hstaffed : Staffed o s) (hline : InLine o s) {m : FleetMove} (hstay : m ≠ .dropReceiver)
    (hc : Change c ws o s m t) : Delivered o t := by
  cases hc with
  | announced now desk hduty =>
    exact h.of_eq rfl rfl rfl (by rw [hduty]; rfl)
  | joined slot result ended hduty hended =>
    refine h.fill hunled hduty (haccounted.empty slot ?_) ?_ rfl rfl rfl rfl
    · simp [openPlaces, hended]
    · intro hone
      obtain ⟨htasks, rfl⟩ := hstaffed.alone_of_ended hone hended
      exact (hline.empty_behind haccounted hone (by simp [htasks, hended]; rfl)).2
  | withheld slot target waiting now hduty hwaiting hcancelled hroom =>
    refine h.fill hunled hduty (haccounted.empty slot ?_) ?_ rfl rfl rfl rfl
    · simp [openPlaces, hwaiting]
    · intro hone
      obtain ⟨htasks, hended⟩ := nobody_of_room hone hroom
      exact (hline.empty_behind haccounted hone (by simp [htasks, hended, hwaiting]; rfl)).2
  | workersDone hduty hwaiting htasks hended hleader =>
    exact h.of_eq rfl rfl rfl (by rw [hduty]; rfl)
  | leaderWithheld target job now desk hduty hwaiting htasks hended hleader hwhy =>
    exact h.lead hunled (by rw [hduty]; rfl) (by rw [hduty]; rfl) rfl rfl rfl rfl
  | leaderStarted target job hduty hwaiting htasks hended hleader hlive hstrict =>
    exact h.of_eq rfl rfl rfl (by rw [hduty]; rfl)
  | sentWorker result desk flags stream hduty hsend =>
    exact h.send hsend (by rw [hduty]; rfl) rfl
  | sentLeader result desk flags stream hduty hsend =>
    exact h.send hsend (by rw [hduty]; rfl) rfl
  | led errand stage stage' world hduty hadvance hgoes =>
    exact h.of_eq rfl rfl rfl (by rw [hduty]; rfl)
  | leaderDone errand stage result world hduty hadvance =>
    exact h.lead hunled (by rw [hduty]; rfl) (by rw [hduty]; rfl) rfl rfl rfl rfl
  | leaderDied errand stage world hduty hadvance =>
    exact h.of_eq rfl rfl rfl (by rw [hduty]; rfl)
  | reported report desk hduty hworkers hleader hstart =>
    exact h.of_eq rfl rfl rfl (by rw [hduty]; rfl)
  | taken result queue received hstream =>
    refine ⟨⟨_, _, rfl⟩, ?_⟩
    have hemitted := h.emitted
    simp only [sent, hstream] at hemitted
    simp only [sent, List.append_assoc, List.cons_append, List.nil_append] at hemitted ⊢
    exact hemitted
  | left queue received hstream => exact absurd rfl hstay
  | _ => exact h.of_eq rfl rfl rfl rfl

/-! ## Along a run -/

theorem delivered_of_follow {events : List FleetEvent} {flags : CancelFlags}
    {world : World Net Desk} (hstay : .move .dropReceiver ∉ events)
    (h : (initial o flags world (some {})).follow c ws o events = some s) : Delivered o s := by
  have hall : (Accounted s ∧ Unled s) ∧ Staffed o s ∧ InLine o s ∧ Delivered o s := by
    refine follow_invariant
      (P := fun s => (Accounted s ∧ Unled s) ∧ Staffed o s ∧ InLine o s ∧ Delivered o s) ?_ ?_ h
      ⟨⟨accounted_initial o flags world _, fun _ => rfl⟩, staffed_initial o flags world _,
        inLine_initial o flags world _, delivered_initial o flags world⟩
    · rintro s m t hmem hchange ⟨⟨haccounted, hunled⟩, hstaffed, hline, hdelivered⟩
      refine ⟨⟨haccounted.change hchange, hunled.change hchange⟩, hstaffed.change hchange,
        hline.change hstaffed hchange,
        hdelivered.change haccounted hunled hstaffed hline ?_ hchange⟩
      intro hdrop
      exact hstay (hdrop ▸ hmem)
    · rintro s token ⟨⟨haccounted, hunled⟩, hstaffed, hline, hdelivered⟩
      exact ⟨⟨⟨haccounted.nodup, haccounted.empty⟩, hunled⟩,
        ⟨hstaffed.inFlight_le, hstaffed.allDone⟩, hline, ⟨hdelivered.stays, hdelivered.emitted⟩⟩
  exact hall.2.2.2

/-! ## The end of the stream -/

variable (c ws o) in
/-- The receiver can take all that is on its way. -/
theorem exists_follow_received {queue received : List RunResult}
    (hstream : s.stream = some ⟨queue, received, true⟩) :
    ∃ (moves : List FleetMove) (t : FleetRun Net Session Desk File),
      (∀ m ∈ moves, m.isMishap = false) ∧ s.follow c ws o (moves.map .move) = some t ∧
        t.duty = s.duty ∧ t.stream = some ⟨[], t.received, true⟩ := by
  induction queue generalizing s received with
  | nil =>
    refine ⟨[], s, by simp, rfl, rfl, ?_⟩
    simp only [FleetRun.received, hstream]
  | cons result queue ih =>
    obtain ⟨moves, t, hmoves, hfollow, hduty, hend⟩ :=
      ih (s := { s with stream := some ⟨queue, received ++ [result], true⟩ }) rfl
    refine ⟨.receive :: moves, t, List.forall_mem_cons.2 ⟨rfl, hmoves⟩, ?_, hduty, hend⟩
    simp only [List.map_cons, follow, step, move, receive, hstream, Option.bind_some]
    exact hfollow

/-- Where the stream is closed, nothing moves but a receiver that goes away. -/
theorem IsClosed.eq_dropReceiver (h : s.IsClosed) (hstaffed : Staffed o s) {m : FleetMove}
    (hmove : s.move c ws o m = some t) : m = .dropReceiver := by
  obtain ⟨hover, hstream⟩ := h
  have htasks : s.tasks = [] := by
    refine (hstaffed.allDone ?_).2.1
    cases hduty : s.duty <;> simp_all [Duty.isOver, Duty.inWorkerPhase]
  cases m with
  | coordinate => cases hduty : s.duty <;> simp_all [Duty.isOver, move, coordinate]
  | advance slot => simp [move, advance, htasks, Task.cutAt?] at hmove
  | die slot => simp [move, die, htasks, Task.cutAt?] at hmove
  | receive =>
    rw [move, receive, hstream] at hmove
    cases hmove
  | dropReceiver => rfl

/-- A schedule in which nothing makes the receiver leave is played to the end of the stream. -/
theorem Played.isClosed {env : Surroundings} {events : List FleetEvent} {flags : CancelFlags}
    {world : World Net Desk} (h : Played c ws o env (initial o flags world (some {})) events s)
    (hlimit : env.limit = none) : s.IsClosed := by
  obtain ⟨queue, taken, hstream⟩ :=
    (delivered_of_follow (h.allows.stays hlimit) h.follows).stays
  have htaken := h.taken
  cases queue with
  | nil => exact ⟨h.isOver, by rw [received, hstream]⟩
  | cons result queue =>
    rw [receive, hstream] at htaken
    cases htaken

end FleetRun

/-! ## The stream -/

/-- What a receiver gets that stays until nothing more comes, when no task dies.  From wherever the
run stands the stream comes to its end; nothing comes after it, and there is a report unless the
leader's attempt to connect died.  Once there is a report, what was received and what is on its way
are the results of the workers that the report has, each of them once, and then that of the leader
if there is one; at the end of the stream all of them were received.  With one worker at a time the
workers' results come in roster order.

What a dispatcher streams is such a run, up to the end of the stream if nothing makes the receiver
leave. -/
theorem Dispatcher.stream_delivers_report {Net Session Desk File : Type}
    (d : Dispatcher Net Session Desk File) {roster : HostRoster} {plan : FleetPlan}
    (hplan : plan.validate roster = .ok ()) (token : CancelToken) (flags : CancelFlags)
    (world : World Net Desk) :
    ∃ o, d.orders roster plan token = .ok o ∧
      d.Streams roster plan o flags world ∧
      (∀ (env : Surroundings) events s, env.limit = none →
        FleetRun.Played d.connector d.workstation o env
          (FleetRun.initial o flags world (some {})) events s →
        .move .dropReceiver ∉ events ∧ s.IsClosed) ∧
      ∀ events s,
        .move .dropReceiver ∉ events →
        (FleetRun.initial o flags world (some {})).LosesNone d.connector d.workstation o events →
        (FleetRun.initial o flags world (some {})).follow d.connector d.workstation o events
          = some s →
        (∃ (moves : List FleetMove) (t : FleetRun Net Session Desk File),
          (∀ m ∈ moves, m.isMishap = false) ∧
          s.follow d.connector d.workstation o (moves.map .move) = some t ∧ t.IsClosed) ∧
        (s.IsClosed →
          (∀ m t, s.move d.connector d.workstation o m = some t → m = .dropReceiver) ∧
          (s.report?.isSome = true ∨ ∃ target job net, o.targets.leader = some (target, job) ∧
            (d.connector.connect target net).1 = .died)) ∧
        ∀ report, s.report? = some report →
          report.leader.isSome = plan.leader.isSome ∧
          ∃ queue workers, s.stream = some ⟨queue, s.received, true⟩ ∧
            s.received ++ queue = workers ++ report.leader.toList ∧
            workers.Perm report.workers ∧
            (plan.concurrency = 1 → workers = report.workers) ∧
            (s.IsClosed → s.received = workers ++ report.leader.toList) := by
  obtain ⟨targets, hresolve, hworkers, hleader⟩ :=
    FleetPlan.exists_resolve_of_validate hplan d.credentials
  have horders : d.orders roster plan token = .ok ⟨plan, targets, d.echo, token⟩ := by
    rw [orders, hresolve]
    rfl
  refine ⟨⟨plan, targets, d.echo, token⟩, horders, d.streams_of_orders flags world horders,
    fun env events s hlimit hplayed => ⟨hplayed.allows.stays hlimit, hplayed.isClosed hlimit⟩, ?_⟩
  intro events s hstay hnone hfollow
  have hstaffed := FleetRun.staffed_of_follow hfollow
  have hplaced := FleetRun.placed_of_follow hfollow
  refine ⟨?_, fun hclosed => ⟨fun m t hmove => hclosed.eq_dropReceiver hstaffed hmove,
    hplaced.report_or_died hclosed.1⟩, ?_⟩
  · obtain ⟨moves, t, hmoves, hrest, hover⟩ :=
      FleetRun.exists_follow_isOver d.connector d.workstation ⟨plan, targets, d.echo, token⟩ s
    have hstill : .move .dropReceiver ∉ events ++ moves.map .move := by
      intro hmem
      rcases List.mem_append.1 hmem with hbefore | hafter
      · exact hstay hbefore
      · obtain ⟨m, hm, heq⟩ := List.mem_map.1 hafter
        cases heq
        cases hmoves _ hm
    obtain ⟨queue, received, hstream⟩ :=
      (FleetRun.delivered_of_follow hstill (FleetRun.follow_trans hfollow hrest)).stays
    obtain ⟨takes, u, htakes, hlast, hduty, hend⟩ := FleetRun.exists_follow_received d.connector
      d.workstation ⟨plan, targets, d.echo, token⟩ hstream
    refine ⟨moves ++ takes, u, ?_, ?_, hduty ▸ hover, hend⟩
    · intro m hm
      exact (List.mem_append.1 hm).elim (hmoves m) (htakes m)
    · rw [List.map_append]
      exact FleetRun.follow_trans hrest hlast
  · intro report hreport
    have hdelivered := FleetRun.delivered_of_follow hstay hfollow
    obtain ⟨hslots, hlead⟩ := (FleetRun.gathered_of_follow hnone hfollow).slots_of_report hreport
    have hdone := FleetRun.finished_of_report hreport
    refine ⟨?_, ?_⟩
    · have hfits := hplaced.duty
      rw [hdone] at hfits
      have hsome := congrArg Option.isSome hfits.2
      have hplanned := congrArg Option.isSome hleader
      rw [Option.isSome_map, Option.isSome_map] at hsome hplanned
      exact hsome.trans hplanned
    · obtain ⟨queue, received, hstream⟩ := hdelivered.stays
      obtain ⟨workers, hemitted, hperm, hsame⟩ := hdelivered.emitted
      have hreceived : s.received = received := by rw [FleetRun.received, hstream]
      have hall : s.slots.filterMap id = report.workers := by
        rw [hslots, List.filterMap_map]
        exact List.filterMap_some
      rw [hall] at hperm hsame
      simp only [FleetRun.sent, hstream, hdone, Duty.outgoing, List.append_nil, ← hlead]
        at hemitted
      refine ⟨queue, workers, hreceived ▸ hstream, hreceived ▸ hemitted, hperm,
        fun hone => hsame (Nat.le_of_eq hone), ?_⟩
      intro hclosed
      have hempty : queue = [] := by
        have hend := hclosed.2
        rw [hstream] at hend
        cases hend
        rfl
      rw [hreceived, ← hemitted, hempty, List.append_nil]

/-- The orders of a run that has a token of its own. -/
def trioStreamed : FleetOrders := { trioOrders with token := ⟨1, [0]⟩ }

/-- Two workers at once, of which the second ends first, then the third, then the leader. -/
def trioReceived : List FleetMove := trioInPairs ++ List.replicate 4 .receive

/-- The receiver of a run over three hosts gets the results of the three in some order, and then the
leader's. -/
theorem Dispatcher.stream_delivers_trio :
    trioPlan.validate trioRoster = .ok () ∧
    (∃ s, trioDispatcher.stream {} trioRoster trioPlan ⟨1, []⟩ ⟨{}, {}⟩ = .ok s ∧ s.IsClosed) ∧
    (FleetRun.initial trioStreamed ⟨2, []⟩ ⟨{}, {}⟩ (some {})).LosesNone trioDispatcher.connector
      trioDispatcher.workstation trioStreamed (trioReceived.map .move) ∧
    ∃ s report workers leader, (FleetRun.initial trioStreamed ⟨2, []⟩ ⟨{}, {}⟩ (some {})).follow
        trioDispatcher.connector trioDispatcher.workstation trioStreamed (trioReceived.map .move)
        = some s ∧
      s.IsClosed ∧ s.report? = some report ∧ report.leader = some leader ∧
      s.received = workers ++ [leader] ∧ workers.Perm report.workers := by
  obtain ⟨o, horders, hstreams, hplays, hall⟩ :=
    trioDispatcher.stream_delivers_report validate_trio ⟨1, [0]⟩ ⟨2, []⟩ ⟨{}, {}⟩
  have hstreamed : trioDispatcher.orders trioRoster trioPlan ⟨1, [0]⟩ = .ok trioStreamed :=
    eq_ok_of_toOption (by decide +kernel)
  rw [hstreamed] at horders
  cases horders
  have hstay : .move .dropReceiver ∉ trioReceived.map FleetEvent.move := by
    simp [trioReceived, trioInPairs]
  have hnone : (FleetRun.initial trioStreamed ⟨2, []⟩ ⟨{}, {}⟩ (some {})).LosesNone
      trioDispatcher.connector trioDispatcher.workstation trioStreamed
        (trioReceived.map .move) := by
    refine FleetRun.losesNone_of_alive (MockScript.connect_ne_died {}) ?_
      (FleetRun.placed_initial trioStreamed _ _ _) (fun _ hdead => by cases hdead)
    simp [trioReceived, trioInPairs]
  have hrun : ((FleetRun.initial trioStreamed ⟨2, []⟩ ⟨{}, {}⟩ (some {})).follow
      trioDispatcher.connector trioDispatcher.workstation trioStreamed
        (trioReceived.map .move)).map
        (fun s => (s.report?.isSome, s.stream.map (fun stream => (stream.queue, stream.isOpen))))
      = some (true, some ([], true)) := by rfl
  obtain ⟨s, hs, hend⟩ := Option.map_eq_some_iff.1 hrun
  obtain ⟨hwritten, hstream⟩ := Prod.mk.inj hend
  obtain ⟨report, hreport⟩ := Option.isSome_iff_exists.1 hwritten
  obtain ⟨hleader, queue, workers, hqueue, hreceived, hperm, _, hclosed⟩ :=
    (hall _ s hstay hnone hs).2.2 report hreport
  obtain ⟨leader, hlead⟩ := Option.isSome_iff_exists.1 hleader
  have hempty : queue = [] := by
    rw [hqueue] at hstream
    exact (Prod.mk.inj (Option.some.inj hstream)).1
  have hover : s.IsClosed := by
    refine ⟨?_, hempty ▸ hqueue⟩
    rw [FleetRun.finished_of_report hreport]
    rfl
  obtain ⟨played, last, hplayed, hgiven⟩ := hstreams {} ⟨1, []⟩ rfl
  refine ⟨validate_trio, ⟨last, hgiven, (hplays {} played last rfl hplayed).2⟩, hnone, s, report,
    workers, leader, hs, hover, hreport, hlead, ?_, hperm⟩
  rw [hclosed hover, hlead]
  rfl

end RemoteFleet
