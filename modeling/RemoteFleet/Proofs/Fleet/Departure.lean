import RemoteFleet.Proofs.Fleet.Delivery
import RemoteFleet.Proofs.Fleet.Leading

/-!
# When the receiver leaves

Nobody tells a run that its receiver has left.  It finds out when it sends a result and nobody is
there, and only then it is cancelled.  So whether the leader is kept back depends on what the
workers still have to send at that time.

* `missed` are the results of workers that found no receiver.  The first of them cancels the run,
  and a run that is cancelled before its workers are done spares its leader
  (`sparesLeader_of_missed`).
* `HasUnsent`: some worker's result is still to be sent.  Unless its task dies it is sent before the
  leader's turn, so a receiver that leaves at such a time is missed (`missed_ne_nil_or_hasUnsent`).
* Otherwise nobody misses the receiver before the leader's turn (`missed_eq_nil_of_not_hasUnsent`),
  and the leader is executed as if somebody were listening (`mem_calls_of_missed_eq_nil`).

What does not hold is that a receiver keeps the leader from starting whenever it leaves before the
leader's turn: with all workers' results sent, or without any worker, it does not
(`departure_unnoticed`).
-/

namespace RemoteFleet

namespace FleetRun

variable {Net Session Desk File : Type}

/-- The receiver has left. -/
def IsDeserted (s : FleetRun Net Session Desk File) : Prop :=
  ∃ queue received, s.stream = some ⟨queue, received, false⟩

/-- The result of a worker that is sent with an event and finds no receiver. -/
def misses? (s : FleetRun Net Session Desk File) : FleetEvent → Option RunResult
  | .move .coordinate =>
    match s.duty, s.stream with
    | .sendWorker result, some ⟨_, _, false⟩ => some result
    | _, _ => none
  | _ => none

/-- The results of workers that found no receiver in the course of events. -/
def missed (c : Connector Net Session) (ws : Workstation Desk File) (o : FleetOrders)
    (s : FleetRun Net Session Desk File) (events : List FleetEvent) : List RunResult :=
  s.observe misses? c ws o events

/-- A worker's result is still to be sent: the worker is not joined, or its result was not sent. -/
def HasUnsent (s : FleetRun Net Session Desk File) : Prop :=
  s.openPlaces ≠ [] ∨ ∃ result, s.duty = .sendWorker result

/-- In the course of events the leader's host is not called, and its command is not executed. -/
def SparesLeader (c : Connector Net Session) (ws : Workstation Desk File) (o : FleetOrders)
    (s : FleetRun Net Session Desk File) (events : List FleetEvent) : Prop :=
  .leader ∉ s.calls c ws o events ∧ ∀ run ∈ s.executed c ws o events, run.phase = .worker

variable {c : Connector Net Session} {ws : Workstation Desk File} {o : FleetOrders}
  {s t : FleetRun Net Session Desk File} {events : List FleetEvent}

/-! ## Nobody is there -/

theorem misses?_eq_some_iff {event : FleetEvent} {r : RunResult} :
    s.misses? event = some r ↔
      event = .move .coordinate ∧ s.duty = .sendWorker r ∧ s.IsDeserted := by
  constructor
  · intro h
    unfold misses? at h
    split at h
    · split at h
      · next hduty hstream =>
        cases h
        exact ⟨rfl, hduty, _, _, hstream⟩
      · cases h
    · cases h
  · rintro ⟨rfl, hduty, queue, received, hstream⟩
    simp only [misses?, hduty, hstream]

theorem misses?_of_duty {event : FleetEvent} (h : ∀ r, s.duty ≠ .sendWorker r) :
    s.misses? event = none := by
  rw [Option.eq_none_iff_forall_ne_some]
  intro r hr
  exact h r (misses?_eq_some_iff.1 hr).2.1

theorem missed_append_singleton {event : FleetEvent} (h : s.follow c ws o events = some t) :
    s.missed c ws o (events ++ [event])
      = s.missed c ws o events ++ (t.misses? event).toList :=
  observe_append_singleton h

/-- In states that go on and miss nobody, nobody is missed. -/
theorem missed_eq_nil_of_invariant {P : FleetRun Net Session Desk File → Prop}
    (hmisses : ∀ u event, P u → u.misses? event = none)
    (hstep : ∀ u event v, u.step c ws o event = some v → P u → P v)
    (h : s.follow c ws o events = some t) (hs : P s) : s.missed c ws o events = [] := by
  have hboth : s.missed c ws o events = [] ∧ P t := by
    refine follow_induction (P := fun events t => s.missed c ws o events = [] ∧ P t) h ⟨rfl, hs⟩ ?_
    rintro before u event v _ hfollow hnext ⟨hnone, hu⟩
    refine ⟨?_, hstep u event v hnext hu⟩
    rw [missed_append_singleton hfollow, hnone, hmisses u event hu]
    rfl
  exact hboth.1

/-- What is sent to nobody leaves the stream as it is. -/
theorem stream_send {result : RunResult} (h : s.send ws o result = some t) (hs : s.IsDeserted) :
    t.stream = s.stream := by
  obtain ⟨queue, received, hstream⟩ := hs
  unfold send at h
  simp only [hstream, Bool.false_eq_true, if_false] at h
  split at h
  · cases h
    rfl
  · cases h
    exact hstream.symm

/-- A receiver that has left does not come back. -/
theorem isDeserted_change {m : FleetMove} (hc : Change c ws o s m t) (hs : s.IsDeserted) :
    t.IsDeserted := by
  obtain ⟨queue, received, hstream⟩ := hs
  cases hc with
  | sentWorker result desk flags stream hduty hsend =>
    exact ⟨queue, received, (stream_send hsend ⟨queue, received, hstream⟩).trans hstream⟩
  | sentLeader result desk flags stream hduty hsend =>
    exact ⟨queue, received, (stream_send hsend ⟨queue, received, hstream⟩).trans hstream⟩
  | taken result rest taken hopen => cases hstream.symm.trans hopen
  | left rest taken hopen => cases hstream.symm.trans hopen
  | _ => exact ⟨queue, received, hstream⟩

theorem isDeserted_step {event : FleetEvent} (hstep : s.step c ws o event = some t)
    (hs : s.IsDeserted) : t.IsDeserted := by
  cases event with
  | cancel token =>
    cases hstep
    exact hs
  | move m => exact isDeserted_change (change_of_move hstep) hs

/-- As long as somebody is there, nobody is missed. -/
theorem missed_eq_nil_of_listened (h : s.follow c ws o events = some t) (ht : ¬t.IsDeserted) :
    s.missed c ws o events = [] := by
  refine follow_induction (P := fun events t => ¬t.IsDeserted → s.missed c ws o events = []) h
    (fun _ => rfl) ?_ ht
  intro before u event v _ hfollow hstep hbefore hv
  have hu : ¬u.IsDeserted := fun hdeserted => hv (isDeserted_step hstep hdeserted)
  rw [missed_append_singleton hfollow, hbefore hu]
  cases hmisses : u.misses? event with
  | none => rfl
  | some r => exact absurd (misses?_eq_some_iff.1 hmisses).2.2 hu

/-! ## The run is cancelled -/

/-- A run that has missed its receiver is cancelled. -/
theorem isCancelled_of_missed (h : s.follow c ws o events = some t)
    (hmissed : s.missed c ws o events ≠ []) : t.isCancelled o = true := by
  refine follow_induction (P := fun events t => s.missed c ws o events ≠ [] →
    t.isCancelled o = true) h (fun hnil => absurd rfl hnil) ?_ hmissed
  intro before u event v _ hfollow hstep hbefore hmissed
  rw [missed_append_singleton hfollow] at hmissed
  cases hmisses : u.misses? event with
  | none =>
    rw [hmisses, Option.toList_none, List.append_nil] at hmissed
    cases event with
    | cancel token =>
      cases hstep
      exact isCancelled_cancel token (hbefore hmissed)
    | move m => exact isCancelled_change (change_of_move hstep) (hbefore hmissed)
  | some r =>
    obtain ⟨rfl, hduty, queue, received, hstream⟩ := misses?_eq_some_iff.1 hmisses
    have hcoordinate : u.coordinate c ws o = some v := hstep
    simp only [coordinate, hduty] at hcoordinate
    obtain ⟨w, hsend, rfl⟩ := Option.map_eq_some_iff.1 hcoordinate
    exact (isCancelled_send hsend).2 queue received hstream

/-- When the workers are done, none of their results is left to find nobody there. -/
theorem missed_eq_nil_of_workersDone (hphase : s.duty.inWorkerPhase = false)
    (h : s.follow c ws o events = some t) : s.missed c ws o events = [] := by
  refine missed_eq_nil_of_invariant (P := fun u => u.duty.inWorkerPhase = false) ?_ ?_ h hphase
  · intro u event hu
    refine misses?_of_duty fun r hduty => ?_
    rw [hduty] at hu
    cases hu
  · exact fun u event v hstep hu => (workers_step hu hstep).1

/-- The move with which the workers' part ends sends no result. -/
theorem Decided.misses?_eq_none {first u v : FleetRun Net Session Desk File}
    (hdecided : Decided c ws o first events s u v) : u.misses? (.move .coordinate) = none := by
  refine misses?_of_duty fun r hduty => ?_
  have hstep : u.coordinate c ws o = some v := hdecided.step
  simp only [coordinate, hduty] at hstep
  obtain ⟨w, -, rfl⟩ := Option.map_eq_some_iff.1 hstep
  cases hdecided.done

/-- Whoever misses the receiver does so before the decision about the leader. -/
theorem Decided.exists_missed {first u v : FleetRun Net Session Desk File}
    (hdecided : Decided c ws o first events s u v) (h : first.follow c ws o events = some s) :
    ∃ before, before <+: events ∧ first.follow c ws o before = some u ∧
      first.missed c ws o before = first.missed c ws o events := by
  obtain ⟨before, after, rfl, hbefore⟩ := hdecided.moment
  refine ⟨before, List.prefix_append _ _, hbefore, ?_⟩
  rw [follow_append, hbefore, Option.bind_some, follow, hdecided.step, Option.bind_some] at h
  have hafter := missed_eq_nil_of_workersDone hdecided.done h
  simp only [missed] at hafter ⊢
  simp only [observe_append hbefore, observe, hdecided.misses?_eq_none, hdecided.step, hafter,
    Option.toList_none, List.append_nil]

/-! ## Nobody else cancels the run -/

/-- Whoever is there leaves the flags as they are. -/
theorem flags_send {result : RunResult} (h : s.send ws o result = some t) (hs : ¬s.IsDeserted) :
    t.flags = s.flags := by
  unfold send at h
  split at h
  · cases h
    rfl
  · next stream hstream =>
    split at h
    · split at h
      · cases h
        rfl
      · cases h
    · next hleft =>
      refine absurd ⟨stream.queue, stream.received, ?_⟩ hs
      rw [hstream, ← Bool.eq_false_iff.2 hleft]

/-- As long as the workers are not all done, a change that does not miss the receiver raises no
flag. -/
theorem flags_change {m : FleetMove} (hc : Change c ws o s m t)
    (hphase : s.duty.inWorkerPhase = true) (hmisses : s.misses? (.move m) = none) :
    t.flags = s.flags := by
  cases hc with
  | sentWorker result desk flags stream hduty hsend =>
    have hstay : ¬s.IsDeserted := by
      intro hdeserted
      rw [misses?_eq_some_iff.2 ⟨rfl, hduty, hdeserted⟩] at hmisses
      cases hmisses
    have hflags : flags = s.flags := flags_send hsend hstay
    exact hflags
  | sentLeader result desk flags stream hduty hsend =>
    rw [hduty] at hphase
    cases hphase
  | _ => rfl

/-- A run that nobody cancels and that does not miss its receiver has the flags that it had, up to
the leader's turn. -/
theorem flags_of_follow (h : s.follow c ws o events = some t)
    (hquiet : ∀ token, .cancel token ∉ events) (hmissed : s.missed c ws o events = [])
    (hphase : t.duty.inWorkerPhase = true) : t.flags = s.flags := by
  refine follow_induction (P := fun before t => s.missed c ws o before = [] →
    t.duty.inWorkerPhase = true → t.flags = s.flags) h (fun _ _ => rfl) ?_ hmissed hphase
  intro before u event v hpart hfollow hstep hbefore hmissed hv
  rw [missed_append_singleton hfollow] at hmissed
  obtain ⟨hnone, hmisses⟩ := List.append_eq_nil_iff.1 hmissed
  have hu : u.duty.inWorkerPhase = true := by
    cases hphase : u.duty.inWorkerPhase with
    | true => rfl
    | false => cases (workers_step hphase hstep).1.symm.trans hv
  cases event with
  | cancel token => exact absurd (hpart.subset (by simp)) (hquiet token)
  | move m =>
    have hsame := flags_change (change_of_move hstep) hu (Option.toList_eq_nil_iff.1 hmisses)
    exact hsame.trans (hbefore hnone hu)

/-! ## What is still to be sent -/

/-- Only the result of a worker that was not joined or not started comes to be sent. -/
theorem hasUnsent_of_sendWorker {m : FleetMove} (hc : Change c ws o s m t) {r : RunResult}
    (ht : t.duty = .sendWorker r) : s.HasUnsent := by
  cases hc with
  | joined slot result ended hduty hended => exact .inl (by simp [openPlaces, hended])
  | withheld slot target waiting now hduty hwaiting hcancelled hroom =>
    exact .inl (by simp [openPlaces, hwaiting])
  | announced now desk hduty => cases ht
  | workersDone hduty hwaiting htasks hended hleader => cases ht
  | leaderWithheld target job now desk hduty hwaiting htasks hended hleader hwhy => cases ht
  | leaderStarted target job hduty hwaiting htasks hended hleader hlive hstrict => cases ht
  | sentWorker result desk flags stream hduty hsend => cases ht
  | sentLeader result desk flags stream hduty hsend => cases ht
  | led errand stage stage' world hduty hadvance hgoes => cases ht
  | leaderDone errand stage result world hduty hadvance => cases ht
  | leaderDied errand stage world hduty hadvance => cases ht
  | reported report desk hduty hworkers hleader hstart => cases ht
  | _ => exact .inr ⟨r, ht⟩

/-- Nothing comes up that is to be sent when all is. -/
theorem hasUnsent_of_change {m : FleetMove} (hc : Change c ws o s m t) (ht : t.HasUnsent) :
    s.HasUnsent := by
  rcases ht with hopen | ⟨r, hduty⟩
  · refine .inl fun hnil => ?_
    rcases places_of_change hc with ⟨hperm, _⟩ | ⟨slot, hperm, _⟩
    · rw [hnil] at hperm
      exact hopen hperm.nil_eq.symm
    · rw [hnil] at hperm
      cases hperm.nil_eq
  · exact hasUnsent_of_sendWorker hc hduty

/-- What is to be sent is to be sent still, or is sent now. -/
theorem hasUnsent_change {m : FleetMove} (hunharmed : s.Unharmed) (hc : Change c ws o s m t)
    (hs : s.HasUnsent) : t.HasUnsent ∨ ∃ r, s.duty = .sendWorker r ∧ m = .coordinate := by
  cases hc with
  | joined slot result ended hduty hended => exact .inl (.inr ⟨result, rfl⟩)
  | withheld slot target waiting now hduty hwaiting hcancelled hroom => exact .inl (.inr ⟨_, rfl⟩)
  | sentWorker result desk flags stream hduty hsend => exact .inr ⟨result, hduty, rfl⟩
  | buried slot ended desk hduty hended =>
    exact absurd (hended ▸ List.mem_cons_self) (hunharmed slot)
  | started slot target waiting hduty hwaiting hlive hroom =>
    exact .inl (.inl (by simp [openPlaces]))
  | advanced before after task stage world htasks hadvance hgoes =>
    exact .inl (.inl (by simp [openPlaces]))
  | ended before after task stage world htasks hadvance hover =>
    exact .inl (.inl (by simp [openPlaces]))
  | died before after task net htasks hnet => exact .inl (.inl (by simp [openPlaces]))
  | workersDone hduty hwaiting htasks hended hleader =>
    simp [HasUnsent, openPlaces, hduty, hwaiting, htasks, hended] at hs
  | leaderWithheld target job now desk hduty hwaiting htasks hended hleader hwhy =>
    simp [HasUnsent, openPlaces, hduty, hwaiting, htasks, hended] at hs
  | leaderStarted target job hduty hwaiting htasks hended hleader hlive hstrict =>
    simp [HasUnsent, openPlaces, hduty, hwaiting, htasks, hended] at hs
  | announced now desk hduty => exact .inl (.inl (hs.resolve_right (by simp [hduty])))
  | sentLeader result desk flags stream hduty hsend =>
    exact .inl (.inl (hs.resolve_right (by simp [hduty])))
  | led errand stage stage' world hduty hadvance hgoes =>
    exact .inl (.inl (hs.resolve_right (by simp [hduty])))
  | leaderDone errand stage result world hduty hadvance =>
    exact .inl (.inl (hs.resolve_right (by simp [hduty])))
  | leaderDied errand stage world hduty hadvance =>
    exact .inl (.inl (hs.resolve_right (by simp [hduty])))
  | reported report desk hduty hworkers hleader hstart =>
    exact .inl (.inl (hs.resolve_right (by simp [hduty])))
  | taken result queue received hstream => exact .inl hs
  | left queue received hstream => exact .inl hs

/-- As long as something is to be sent, the workers are not all done. -/
theorem Staffed.inWorkerPhase_of_hasUnsent (h : Staffed o s) (hs : s.HasUnsent) :
    s.duty.inWorkerPhase = true := by
  cases hphase : s.duty.inWorkerPhase with
  | true => rfl
  | false =>
    obtain ⟨hwaiting, htasks, hended⟩ := h.allDone hphase
    rcases hs with hopen | ⟨r, hduty⟩
    · exact absurd (by simp [openPlaces, hwaiting, htasks, hended]) hopen
    · rw [hduty] at hphase
      cases hphase

/-- With all sent, nobody is missed any more. -/
theorem missed_eq_nil_of_not_hasUnsent (h : s.follow c ws o events = some t)
    (hs : ¬s.HasUnsent) : s.missed c ws o events = [] := by
  refine missed_eq_nil_of_invariant (P := fun u => ¬u.HasUnsent) ?_ ?_ h hs
  · exact fun u event hu => misses?_of_duty fun r hduty => hu (.inr ⟨r, hduty⟩)
  · intro u event v hstep hu
    cases event with
    | cancel token =>
      cases hstep
      exact hu
    | move m => exact mt (hasUnsent_of_change (change_of_move hstep)) hu

/-- Without a receiver, what is to be sent is to be sent still, or the receiver was missed. -/
theorem missed_ne_nil_or_hasUnsent (hleft : s.IsDeserted) (hs : s.HasUnsent)
    (hnone : s.LosesNone c ws o events) (h : s.follow c ws o events = some t) :
    s.missed c ws o events ≠ [] ∨ t.HasUnsent := by
  have hboth : t.IsDeserted ∧ (s.missed c ws o events ≠ [] ∨ t.HasUnsent) := by
    refine follow_induction (P := fun events t => t.IsDeserted ∧
      (s.missed c ws o events ≠ [] ∨ t.HasUnsent)) h ⟨hleft, .inr hs⟩ ?_
    rintro before u event v hpart hfollow hstep ⟨hdeserted, hu⟩
    refine ⟨isDeserted_step hstep hdeserted, ?_⟩
    rw [missed_append_singleton hfollow]
    rcases hu with hmissed | hunsent
    · exact .inl (List.append_ne_nil_of_left_ne_nil hmissed _)
    · cases event with
      | cancel token =>
        cases hstep
        exact .inr hunsent
      | move m =>
        -- What is to be sent goes away only when it is sent, and there is nobody to send it to.
        have hunharmed := hnone before u ((List.prefix_append _ _).trans hpart) hfollow
        rcases hasUnsent_change hunharmed (change_of_move hstep) hunsent with
          hstill | ⟨r, hduty, rfl⟩
        · exact .inr hstill
        · left
          rw [misses?_eq_some_iff.2 ⟨rfl, hduty, hdeserted⟩]
          exact List.append_ne_nil_of_right_ne_nil _ (List.cons_ne_nil r [])
  exact hboth.2

/-! ## The leader -/

section Run

variable {flags : CancelFlags} {world : World Net Desk} {stream : Option ResultStream}

/-- A leader that has not called is spared. -/
theorem sparesLeader_of_not_hasCalled
    (h : (initial o flags world stream).follow c ws o events = some s)
    (hcalled : ¬s.HasCalled .leader) :
    (initial o flags world stream).SparesLeader c ws o events := by
  refine ⟨fun hmem => hcalled ((leader_called_iff h).1 hmem), fun r hmem => ?_⟩
  cases hphase : r.phase with
  | worker => rfl
  | leader => exact absurd (hasCalled_of_executed h hmem hphase) hcalled

/-- A run that has missed its receiver spares its leader. -/
theorem sparesLeader_of_missed
    (h : (initial o flags world stream).follow c ws o events = some s) {target : RemoteTarget}
    {job : CommandJob} (hleader : o.targets.leader = some (target, job))
    (hmissed : (initial o flags world stream).missed c ws o events ≠ []) :
    (initial o flags world stream).SparesLeader c ws o events := by
  refine sparesLeader_of_not_hasCalled h ?_
  cases hphase : s.duty.inWorkerPhase with
  | true => exact not_hasCalled_of_inWorkerPhase hphase
  | false =>
    -- The receiver was missed before the decision, so that was made in a cancelled run.
    obtain ⟨u, v, hdecided⟩ := exists_decided_of_follow h hphase
    obtain ⟨before, _, hbefore, hsame⟩ := hdecided.exists_missed h
    have hcancelled : u.isCancelled o = true := isCancelled_of_missed hbefore (hsame ▸ hmissed)
    have hforbids : ¬v.PermitsLeader o := by
      intro hpermits
      have hlate := isCancelled_change (change_of_coordinate hdecided.step) hcancelled
      cases hlate.symm.trans hpermits.1
    obtain ⟨now, hknown⟩ := hdecided.held hforbids target job hleader
    exact not_hasCalled_of_known hphase rfl hknown

/-- A leader that nobody keeps back has called by the end of a run. -/
theorem mem_calls_of_missed_eq_nil
    (h : (initial o flags world stream).follow c ws o events = some s) {target : RemoteTarget}
    {job : CommandJob} (hleader : o.targets.leader = some (target, job))
    (hquiet : ∀ token, .cancel token ∉ events) (hlive : flags.isCancelled o.token = false)
    (hmissed : (initial o flags world stream).missed c ws o events = [])
    (hover : s.duty.isOver = true)
    (hworkers : o.plan.strictWorkers = false ∨ ∀ r ∈ s.workers, r.status = .succeeded) :
    .leader ∈ (initial o flags world stream).calls c ws o events := by
  have hphase : s.duty.inWorkerPhase = false := by
    cases hduty : s.duty <;> simp_all [Duty.isOver, Duty.inWorkerPhase]
  obtain ⟨u, v, hdecided⟩ := exists_decided_of_follow h hphase
  obtain ⟨before, hpart, hbefore, hsame⟩ := hdecided.exists_missed h
  -- Up to the decision nobody raised a flag.
  have hflags : v.flags = flags :=
    calc v.flags = u.flags := flags_change (change_of_coordinate hdecided.step) hdecided.working
          hdecided.misses?_eq_none
      _ = flags := flags_of_follow hbefore (fun token hmem => hquiet token (hpart.subset hmem))
          (hsame.trans hmissed) hdecided.working
  have hpermits : v.PermitsLeader o := by
    refine ⟨?_, hdecided.workers ▸ hworkers⟩
    rw [isCancelled, hflags]
    exact hlive
  refine (leader_called_iff h).2 (hasCalled_of_isLed hover (fun report hduty => ?_)
    (hdecided.led hpermits target job hleader))
  obtain ⟨r, _, hr⟩ := exists_leader_of_report h hduty hleader
  rw [hr]
  rfl

/-- From where its receiver leaves on a run is deserted, and what finds no receiver does so then. -/
theorem exists_missed_of_left {first u : FleetRun Net Session Desk File}
    {before after : List FleetEvent} (hbefore : first.follow c ws o before = some u)
    (h : first.follow c ws o (before ++ .move .dropReceiver :: after) = some s) :
    ∃ v, first.follow c ws o (before ++ [.move .dropReceiver]) = some v ∧
      v.follow c ws o after = some s ∧ v.IsDeserted ∧ (v.HasUnsent ↔ u.HasUnsent) ∧
      first.missed c ws o (before ++ .move .dropReceiver :: after) = v.missed c ws o after := by
  rw [follow_append, hbefore, Option.bind_some] at h
  obtain ⟨v, hstep, hafter⟩ := Option.bind_eq_some_iff.1 h
  have hfollow : first.follow c ws o (before ++ [.move .dropReceiver]) = some v := by
    rw [follow_append, hbefore, Option.bind_some, follow, hstep]
    rfl
  have hchange : Change c ws o u .dropReceiver v := change_of_move hstep
  cases hchange with
  | left queue received hstream =>
    have hlistened : ¬u.IsDeserted := by
      rintro ⟨_, _, hleft⟩
      cases hstream.symm.trans hleft
    refine ⟨_, hfollow, hafter, ⟨[], received, rfl⟩, Iff.rfl, ?_⟩
    have hnone := missed_eq_nil_of_listened hbefore hlistened
    rw [missed] at hnone
    rw [missed, observe_append hbefore, hnone, observe, hstep]
    rfl

end Run

end FleetRun

/-- What becomes of the leader when the receiver leaves, whatever the order of events.

If a worker's result finds no receiver, the leader is spared.  This happens whenever a worker's
result is still to be sent when the receiver leaves, unless a task dies.  But if all is sent by
then, nobody notices: the leader's host is called by the end of the run, unless the run is cancelled
otherwise or the leader is skipped because of a worker.  What a dispatcher streams is such a run. -/
theorem Dispatcher.departure_noticed_by_workers {Net Session Desk File : Type}
    (d : Dispatcher Net Session Desk File) {roster : HostRoster} {plan : FleetPlan}
    (hplan : plan.validate roster = .ok ()) (hleads : plan.leader.isSome = true)
    (token : CancelToken) (flags : CancelFlags) (world : World Net Desk) :
    ∃ o, d.orders roster plan token = .ok o ∧ d.Streams roster plan o flags world ∧
      ∀ events before after u s, events = before ++ .move .dropReceiver :: after →
        (FleetRun.initial o flags world (some {})).follow d.connector d.workstation o before
          = some u →
        (FleetRun.initial o flags world (some {})).follow d.connector d.workstation o events
          = some s →
        ((FleetRun.initial o flags world (some {})).missed d.connector d.workstation o events ≠ [] →
          (FleetRun.initial o flags world (some {})).SparesLeader d.connector d.workstation o
            events) ∧
        ((FleetRun.initial o flags world (some {})).LosesNone d.connector d.workstation o events →
          u.HasUnsent →
          (FleetRun.initial o flags world (some {})).SparesLeader d.connector d.workstation o
            events) ∧
        (¬u.HasUnsent → (∀ cancelled, .cancel cancelled ∉ events) →
          flags.isCancelled token = false → s.duty.isOver = true →
          (plan.strictWorkers = false ∨ ∀ r ∈ s.workers, r.status = .succeeded) →
          .leader ∈ (FleetRun.initial o flags world (some {})).calls d.connector d.workstation o
            events) := by
  obtain ⟨targets, hresolve, _, hleaders⟩ :=
    FleetPlan.exists_resolve_of_validate hplan d.credentials
  let o : FleetOrders := ⟨plan, targets, d.echo, token⟩
  have horders : d.orders roster plan token = .ok o := by
    rw [orders, hresolve]
    rfl
  refine ⟨o, horders, d.streams_of_orders flags world horders, ?_⟩
  have hsome : targets.leader.isSome = true := by
    have hsame := congrArg Option.isSome hleaders
    rw [Option.isSome_map, Option.isSome_map] at hsame
    exact hsame.trans hleads
  obtain ⟨⟨target, job⟩, hleader⟩ := Option.isSome_iff_exists.1 hsome
  intro events before after u s hevents hbefore hfollow
  obtain ⟨v, hv, hafter, hdeserted, hunsent, hmissed⟩ :=
    FleetRun.exists_missed_of_left hbefore (hevents ▸ hfollow)
  rw [← hevents] at hmissed
  refine ⟨FleetRun.sparesLeader_of_missed hfollow hleader, fun hnone hu => ?_, ?_⟩
  · have hlater : v.LosesNone d.connector d.workstation o after := by
      refine FleetRun.LosesNone.after ?_ hv
      rw [List.append_assoc]
      exact hevents ▸ hnone
    rcases FleetRun.missed_ne_nil_or_hasUnsent hdeserted (hunsent.2 hu) hlater hafter with
      hnoticed | hstill
    · exact FleetRun.sparesLeader_of_missed hfollow hleader (hmissed ▸ hnoticed)
    · refine FleetRun.sparesLeader_of_not_hasCalled hfollow fun hcalled => ?_
      refine FleetRun.not_hasCalled_of_inWorkerPhase ?_ hcalled
      exact (FleetRun.staffed_of_follow hfollow).inWorkerPhase_of_hasUnsent hstill
  · intro hsent hquiet hlive hover hworkers
    have hunnoticed := FleetRun.missed_eq_nil_of_not_hasUnsent hafter (mt hunsent.1 hsent)
    exact FleetRun.mem_calls_of_missed_eq_nil hfollow hleader hquiet hlive
      (hmissed.trans hunnoticed) hover hworkers

/-- Two workers are at work when the receiver leaves.  The second of them ends first. -/
def trioDeserted : List FleetMove :=
  [.coordinate, .coordinate, .coordinate, .dropReceiver,
    .advance 1, .advance 1, .advance 1, .advance 1, .advance 1, .advance 1, .advance 1,
    .coordinate, .coordinate, .coordinate, .coordinate,
    .advance 0, .advance 0, .advance 0, .advance 0, .advance 0, .advance 0, .advance 0,
    .coordinate, .coordinate, .coordinate, .coordinate, .coordinate]

/-- The receiver of a run over three hosts leaves while two workers are at work, and neither the
third worker nor the leader is called. -/
theorem Dispatcher.departure_noticed_by_workers_trio :
    ∃ u s, (FleetRun.initial trioStreamed ⟨2, []⟩ ⟨{}, {}⟩ (some {})).follow
        trioDispatcher.connector trioDispatcher.workstation trioStreamed
          [.move .coordinate, .move .coordinate, .move .coordinate] = some u ∧ u.HasUnsent ∧
      (FleetRun.initial trioStreamed ⟨2, []⟩ ⟨{}, {}⟩ (some {})).follow trioDispatcher.connector
        trioDispatcher.workstation trioStreamed (trioDeserted.map .move) = some s ∧
      s.duty.isOver = true ∧ s.world.net.connects = ["b", "a"] ∧
      (FleetRun.initial trioStreamed ⟨2, []⟩ ⟨{}, {}⟩ (some {})).SparesLeader
        trioDispatcher.connector trioDispatcher.workstation trioStreamed
          (trioDeserted.map .move) := by
  obtain ⟨o, horders, -, hall⟩ := trioDispatcher.departure_noticed_by_workers validate_trio rfl
    ⟨1, [0]⟩ ⟨2, []⟩ ⟨{}, {}⟩
  have hstreamed : trioDispatcher.orders trioRoster trioPlan ⟨1, [0]⟩ = .ok trioStreamed :=
    eq_ok_of_toOption (by decide +kernel)
  rw [hstreamed] at horders
  cases horders
  have hnone : (FleetRun.initial trioStreamed ⟨2, []⟩ ⟨{}, {}⟩ (some {})).LosesNone
      trioDispatcher.connector trioDispatcher.workstation trioStreamed
        (trioDeserted.map .move) := by
    refine FleetRun.losesNone_of_alive (MockScript.connect_ne_died {}) ?_
      (FleetRun.placed_initial trioStreamed _ _ _) (fun _ hdead => by cases hdead)
    simp [trioDeserted]
  have hbefore : ((FleetRun.initial trioStreamed ⟨2, []⟩ ⟨{}, {}⟩ (some {})).follow
      trioDispatcher.connector trioDispatcher.workstation trioStreamed
        [.move .coordinate, .move .coordinate, .move .coordinate]).map (·.openPlaces)
          = some [2, 0, 1] := by rfl
  have hrun : ((FleetRun.initial trioStreamed ⟨2, []⟩ ⟨{}, {}⟩ (some {})).follow
      trioDispatcher.connector trioDispatcher.workstation trioStreamed
        (trioDeserted.map .move)).map (fun s => (s.duty.isOver, s.world.net.connects))
          = some (true, ["b", "a"]) := by rfl
  obtain ⟨u, hu, hplaces⟩ := Option.map_eq_some_iff.1 hbefore
  obtain ⟨s, hs, hend⟩ := Option.map_eq_some_iff.1 hrun
  obtain ⟨hover, hconnects⟩ := Prod.mk.inj hend
  have hunsent : u.HasUnsent := .inl (by simp [hplaces])
  exact ⟨u, s, hu, hunsent, hs, hover, hconnects,
    (hall (trioDeserted.map .move) _ _ u s rfl hu hs).2.1 hnone hunsent⟩

/-- Nobody is prepared before the third host leads. -/
def trioUnprepared : FleetOrders :=
  { trioStreamed with
    plan := { trioPlan with selection := .nothing }
    targets := { trioOrders.targets with workers := [] } }

/-- The receiver leaves first, and then the coordinator does all that there is to do. -/
def unpreparedMoves : List FleetMove :=
  [.dropReceiver, .coordinate, .coordinate, .coordinate, .coordinate, .coordinate, .coordinate,
    .coordinate, .coordinate, .coordinate, .coordinate, .coordinate]

/-- The receiver leaves before the first move of a run without workers.  Nobody notices, and the
leader connects and executes its command. -/
theorem Dispatcher.departure_unnoticed :
    trioUnprepared.plan.validate trioRoster = .ok () ∧
    trioDispatcher.orders trioRoster trioUnprepared.plan ⟨1, [0]⟩ = .ok trioUnprepared ∧
    ∃ s, (FleetRun.initial trioUnprepared ⟨2, []⟩ ⟨{}, {}⟩ (some {})).follow
        trioDispatcher.connector trioDispatcher.workstation trioUnprepared
          (unpreparedMoves.map .move) = some s ∧
      s.duty.isOver = true ∧
      .leader ∈ (FleetRun.initial trioUnprepared ⟨2, []⟩ ⟨{}, {}⟩ (some {})).calls
        trioDispatcher.connector trioDispatcher.workstation trioUnprepared
          (unpreparedMoves.map .move) ∧
      s.world.net.connects = ["c"] ∧ s.world.net.runs = [("c", "bench")] := by
  have hrun : ((FleetRun.initial trioUnprepared ⟨2, []⟩ ⟨{}, {}⟩ (some {})).follow
      trioDispatcher.connector trioDispatcher.workstation trioUnprepared
        (unpreparedMoves.map .move)).map
          (fun s => (s.duty.isOver, s.world.net.connects, s.world.net.runs))
            = some (true, ["c"], [("c", "bench")]) := by decide +kernel
  have hcalls : (FleetRun.initial trioUnprepared ⟨2, []⟩ ⟨{}, {}⟩ (some {})).calls
      trioDispatcher.connector trioDispatcher.workstation trioUnprepared
        (unpreparedMoves.map .move) = [.leader] := by rfl
  obtain ⟨s, hs, hend⟩ := Option.map_eq_some_iff.1 hrun
  obtain ⟨hover, hnet⟩ := Prod.mk.inj hend
  obtain ⟨hconnects, hruns⟩ := Prod.mk.inj hnet
  exact ⟨eq_ok_of_toOption (by decide +kernel), eq_ok_of_toOption (by decide +kernel), s, hs, hover,
    by rw [hcalls]; exact List.mem_singleton_self _, hconnects, hruns⟩

end RemoteFleet
