import RemoteFleet.Proofs.Fleet.Departure
import RemoteFleet.Proofs.Fleet.Handling

/-!
# A run without its receiver

A receiver that leaves does not stop a run at once: workers are started until somebody's result is
joined and finds no receiver.

* `Crewed`: up to then nobody who was in flight is joined, so those who were and those who are
  started share the room that there is (`crewed_of_follow`).
* `CalledOff`: afterwards the run is cancelled, and the leader is not at work.  Nobody is started
  (`started_eq_nil_of_isCancelled`), those who were waiting are reported as cancelled without a call
  (`withheld_of_pending`), and the run ends with a report.
* Whoever opened a session has done with it by the end of the run (`handled_of_isOver`).
* The flag that is raised is that of the run's own token, so all other tokens are as they would be
  if the receiver had stayed (`isCancelled_of_other_token`).

What does not hold is that a command is run in every session that is open when the receiver leaves,
or that the leader is cancelled whichever result finds no receiver: a leader that is at work by then
may have to do without its capture file, and the result may be its own
(`departure_empties_session`).
-/

namespace RemoteFleet

namespace FleetRun

variable {Net Session Desk File : Type}

/-- Who is started with an event: who is under way after it and was not before. -/
def starts? (c : Connector Net Session) (ws : Workstation Desk File) (o : FleetOrders)
    (s : FleetRun Net Session Desk File) (event : FleetEvent) : Option Actor :=
  (s.step c ws o event).bind fun t => t.underWay.find? (· ∉ s.underWay)

/-- Who is started in the course of events. -/
def started (c : Connector Net Session) (ws : Workstation Desk File) (o : FleetOrders)
    (s : FleetRun Net Session Desk File) (events : List FleetEvent) : List Actor :=
  s.observe (starts? c ws o) c ws o events

/-- The result that is sent with an event and finds no receiver. -/
def refuses? (s : FleetRun Net Session Desk File) : FleetEvent → Option RunResult
  | .move .coordinate =>
    match s.duty, s.stream with
    | .sendWorker result, some ⟨_, _, false⟩ => some result
    | .sendLeader result, some ⟨_, _, false⟩ => some result
    | _, _ => none
  | _ => none

/-- The results that found no receiver in the course of events, the leader's among them. -/
def refused (c : Connector Net Session) (ws : Workstation Desk File) (o : FleetOrders)
    (s : FleetRun Net Session Desk File) (events : List FleetEvent) : List RunResult :=
  s.observe refuses? c ws o events

/-- There is room for so many workers, and that many are in flight, unless a result is about to find
no receiver or has done so. -/
structure Crewed (o : FleetOrders) (n : Nat) (s : FleetRun Net Session Desk File) : Prop where
  fits : n ≤ max o.plan.concurrency 1
  kept : s.isCancelled o = true ∨ (∃ r, s.duty = .sendWorker r) ∨ n ≤ s.inFlight

/-- A run that is cancelled while its leader is not at work. -/
structure CalledOff (o : FleetOrders) (s : FleetRun Net Session Desk File) : Prop where
  cancelled : s.isCancelled o = true
  idle : s.duty.actor? = none
  intact : s.duty ≠ .crashed

variable {c : Connector Net Session} {ws : Workstation Desk File} {o : FleetOrders}
  {s t : FleetRun Net Session Desk File} {events : List FleetEvent}

/-! ## Parts of a run -/

theorem follow_singleton {m : FleetMove} (h : s.move c ws o m = some t) :
    s.follow c ws o [.move m] = some t := by
  rw [follow, step, h]
  rfl

/-- What is to be seen at the end of a run is to be seen at the end of its second part. -/
theorem exists_of_map_follow {α : Type} {f : FleetRun Net Session Desk File → α} {x : α}
    {u : FleetRun Net Session Desk File} {later : List FleetEvent}
    (h : (s.follow c ws o (events ++ later)).map f = some x)
    (hu : s.follow c ws o events = some u) :
    ∃ t, u.follow c ws o later = some t ∧ f t = x := by
  rw [follow_append, hu] at h
  exact Option.map_eq_some_iff.1 h

/-! ## Who is started -/

theorem starts?_eq_none {event : FleetEvent} (hstep : s.step c ws o event = some t)
    (h : t.underWay ⊆ s.underWay) : s.starts? c ws o event = none := by
  rw [starts?, hstep, Option.bind_some, List.find?_eq_none]
  intro actor hmem
  simp [h hmem]

theorem eq_of_starts? {event : FleetEvent} (hstep : s.step c ws o event = some t) {actor : Actor}
    (h : t.underWay ⊆ actor :: s.underWay) :
    ∀ other, s.starts? c ws o event = some other → other = actor := by
  intro other hother
  rw [starts?, hstep, Option.bind_some] at hother
  have hnew := List.find?_some hother
  rcases List.mem_cons.1 (h (List.mem_of_find?_eq_some hother)) with heq | hold
  · exact heq
  · simp [hold] at hnew

/-- In a cancelled run nobody is started. -/
theorem started_eq_nil_of_isCancelled (hcancelled : s.isCancelled o = true)
    (h : s.follow c ws o events = some t) : s.started c ws o events = [] := by
  have hboth : s.started c ws o events = [] ∧ t.isCancelled o = true := by
    refine follow_induction (P := fun events t => s.started c ws o events = [] ∧
      t.isCancelled o = true) h ⟨rfl, hcancelled⟩ ?_
    rintro before u event v _ hfollow hstep ⟨hnone, hu⟩
    rw [started, observe_append_singleton hfollow, ← started, hnone]
    cases event with
    | cancel token =>
      have hsame : v.underWay ⊆ u.underWay := by
        cases hstep
        exact List.Subset.refl _
      rw [starts?_eq_none hstep hsame]
      cases hstep
      exact ⟨rfl, isCancelled_cancel token hu⟩
    | move m =>
      have hchange := change_of_move hstep
      rw [starts?_eq_none hstep (underWay_change hu hchange)]
      exact ⟨rfl, isCancelled_change hchange hu⟩
  exact hboth.1

/-! ## As long as nobody has missed the receiver -/

/-- Without a receiver, a change that starts nobody leaves as many in flight as there were, or a
result is about to find no receiver or does so. -/
theorem Crewed.change {n : Nat} (h : Crewed o n s) (hdeserted : s.IsDeserted)
    (hunharmed : s.Unharmed) {m : FleetMove} (hc : Change c ws o s m t) : Crewed o n t := by
  refine ⟨h.fits, ?_⟩
  rcases h.kept with hcancelled | hrest
  · exact .inl (isCancelled_change hc hcancelled)
  · obtain ⟨queue, received, hstream⟩ := hdeserted
    have hstays : (∀ r, s.duty ≠ .sendWorker r) → n ≤ s.inFlight := by
      intro hduty
      rcases hrest with ⟨r, hr⟩ | hle
      · exact absurd hr (hduty r)
      · exact hle
    cases hc with
    | sentWorker result desk flags stream hduty hsend =>
      exact .inl ((isCancelled_send hsend).2 queue received hstream)
    | sentLeader result desk flags stream hduty hsend =>
      exact .inl ((isCancelled_send hsend).2 queue received hstream)
    | buried slot ended desk hduty hended =>
      exact absurd (hended ▸ List.mem_cons_self) (hunharmed slot)
    | joined slot result ended hduty hended => exact .inr (.inl ⟨result, rfl⟩)
    | withheld slot target waiting now hduty hwaiting hcancelled hroom => exact .inl hcancelled
    | started slot target waiting hduty hwaiting hlive hroom =>
      have hle := hstays (by simp [hduty])
      refine .inr (.inr ?_)
      simp only [inFlight, List.length_append, List.length_cons, List.length_nil] at hle ⊢
      omega
    | advanced before after task stage world htasks hadvance hgoes =>
      refine .inr (hrest.imp_right fun hle => ?_)
      simpa [inFlight, htasks] using hle
    | ended before after task stage world htasks hadvance hover =>
      refine .inr (hrest.imp_right fun hle => ?_)
      simp only [inFlight, htasks, List.length_append, List.length_cons, List.length_nil]
        at hle ⊢
      omega
    | died before after task net htasks hnet =>
      refine .inr (hrest.imp_right fun hle => ?_)
      simp only [inFlight, htasks, List.length_append, List.length_cons, List.length_nil]
        at hle ⊢
      omega
    | taken result queue received hstream => exact .inr hrest
    | left queue received hstream => exact .inr hrest
    | announced now desk hduty => exact .inr (.inr (hstays (by simp [hduty])))
    | workersDone hduty hwaiting htasks hended hleader =>
      exact .inr (.inr (hstays (by simp [hduty])))
    | leaderWithheld target job now desk hduty hwaiting htasks hended hleader hwhy =>
      exact .inr (.inr (hstays (by simp [hduty])))
    | leaderStarted target job hduty hwaiting htasks hended hleader hlive hstrict =>
      exact .inr (.inr (hstays (by simp [hduty])))
    | led errand stage stage' world hduty hadvance hgoes =>
      exact .inr (.inr (hstays (by simp [hduty])))
    | leaderDone errand stage result world hduty hadvance =>
      exact .inr (.inr (hstays (by simp [hduty])))
    | leaderDied errand stage world hduty hadvance =>
      exact .inr (.inr (hstays (by simp [hduty])))
    | reported report desk hduty hworkers hleader hstart =>
      exact .inr (.inr (hstays (by simp [hduty])))

/-- A worker that is started is one more in flight. -/
theorem Crewed.step {n : Nat} (h : Crewed o n s) (hdeserted : s.IsDeserted)
    (hunharmed : s.Unharmed) (hstaffed : Staffed o s) {event : FleetEvent}
    (hstep : s.step c ws o event = some t) :
    Crewed o (n + (s.starts? c ws o event).toList.countP (· ≠ .leader)) t := by
  cases event with
  | cancel token =>
    have hsame : t.underWay ⊆ s.underWay := by
      cases hstep
      exact List.Subset.refl _
    rw [starts?_eq_none hstep hsame]
    cases hstep
    exact ⟨h.fits, h.kept.imp_left (isCancelled_cancel token)⟩
  | move m =>
    have hchange : Change c ws o s m t := change_of_move hstep
    have hstays := h.change hdeserted hunharmed hchange
    rcases underWay_of_change hchange with
      hsame | ⟨hlive, hduty, ⟨_, hduty', hmore⟩ | ⟨hleader, _⟩⟩
    · rw [starts?_eq_none hstep hsame]
      exact hstays
    · have hle : n ≤ s.inFlight := by
        rcases h.kept with hcancelled | ⟨r, hr⟩ | hle
        · rw [hlive] at hcancelled
          cases hcancelled
        · rw [hduty] at hr
          cases hr
        · exact hle
      have hroom := (hstaffed.change hchange).inFlight_le
      have hone : (s.starts? c ws o (.move m)).toList.countP (· ≠ .leader) ≤ 1 :=
        Nat.le_trans List.countP_le_length (by cases s.starts? c ws o (.move m) <;> simp)
      exact ⟨by omega, .inr (.inr (by omega))⟩
    · have hnone : (s.starts? c ws o (.move m)).toList.countP (· ≠ .leader) = 0 := by
        rw [List.countP_eq_zero]
        intro actor hmem
        simp [eq_of_starts? hstep hleader actor (Option.mem_toList.1 hmem)]
      rw [hnone]
      exact hstays

/-- The workers in flight when the receiver leaves, and those that are started afterwards, are no
more together than there is room for. -/
theorem crewed_of_follow (hdeserted : s.IsDeserted) (hstaffed : Staffed o s)
    (hnone : s.LosesNone c ws o events) (h : s.follow c ws o events = some t) :
    s.inFlight + (s.started c ws o events).countP (· ≠ .leader) ≤ max o.plan.concurrency 1 := by
  have hall : (t.IsDeserted ∧ Staffed o t) ∧
      Crewed o (s.inFlight + (s.started c ws o events).countP (· ≠ .leader)) t := by
    refine follow_induction (P := fun events t => (t.IsDeserted ∧ Staffed o t) ∧
      Crewed o (s.inFlight + (s.started c ws o events).countP (· ≠ .leader)) t) h
      ⟨⟨hdeserted, hstaffed⟩, hstaffed.inFlight_le, .inr (.inr (Nat.le_refl _))⟩ ?_
    rintro before u event v hbefore hfollow hstep ⟨⟨hu, hstaffed⟩, hcrewed⟩
    have hunharmed := hnone before u ((List.prefix_append _ _).trans hbefore) hfollow
    rw [started, observe_append_singleton hfollow, ← started, List.countP_append, ← Nat.add_assoc]
    refine ⟨⟨isDeserted_step hstep hu, ?_⟩, hcrewed.step hu hunharmed hstaffed hstep⟩
    cases event with
    | cancel token =>
      cases hstep
      exact ⟨hstaffed.inFlight_le, hstaffed.allDone⟩
    | move m => exact hstaffed.change (change_of_move hstep)
  exact hall.2.fits

/-! ## Once somebody has -/

theorem refuses?_eq_some {event : FleetEvent} {r : RunResult} (h : s.refuses? event = some r) :
    event = .move .coordinate ∧ (s.duty = .sendWorker r ∨ s.duty = .sendLeader r) ∧
      s.IsDeserted := by
  unfold refuses? at h
  split at h
  · split at h
    · next hduty hstream =>
      cases h
      exact ⟨rfl, .inl hduty, _, _, hstream⟩
    · next hduty hstream =>
      cases h
      exact ⟨rfl, .inr hduty, _, _, hstream⟩
    · cases h
  · cases h

/-- A result that finds no receiver calls the run off. -/
theorem calledOff_of_refuses {event : FleetEvent} {r : RunResult} (h : s.refuses? event = some r)
    (hstep : s.step c ws o event = some t) : CalledOff o t := by
  obtain ⟨rfl, hduty, queue, received, hstream⟩ := refuses?_eq_some h
  have hchange : Change c ws o s .coordinate t := change_of_move hstep
  cases hchange with
  | sentWorker result desk flags stream _ hsend =>
    exact ⟨(isCancelled_send hsend).2 queue received hstream, rfl, by simp⟩
  | sentLeader result desk flags stream _ hsend =>
    exact ⟨(isCancelled_send hsend).2 queue received hstream, rfl, by simp⟩
  | _ => simp_all

/-- A run that is called off stays so. -/
theorem CalledOff.change (h : CalledOff o s) {m : FleetMove} (hc : Change c ws o s m t) :
    CalledOff o t := by
  have hcancelled := isCancelled_change hc h.cancelled
  have hidle := h.idle
  cases hc with
  | leaderStarted target job hduty hwaiting htasks hended hleader hlive hstrict =>
    rw [h.cancelled] at hlive
    cases hlive
  | led errand stage stage' world hduty hadvance hgoes =>
    rw [hduty] at hidle
    cases hidle
  | leaderDone errand stage result world hduty hadvance =>
    rw [hduty] at hidle
    cases hidle
  | leaderDied errand stage world hduty hadvance =>
    rw [hduty] at hidle
    cases hidle
  | announced now desk hduty => exact ⟨hcancelled, rfl, by simp⟩
  | joined slot result ended hduty hended => exact ⟨hcancelled, rfl, by simp⟩
  | withheld slot target waiting now hduty hwaiting hcancelled' hroom =>
    exact ⟨hcancelled, rfl, by simp⟩
  | workersDone hduty hwaiting htasks hended hleader => exact ⟨hcancelled, rfl, by simp⟩
  | leaderWithheld target job now desk hduty hwaiting htasks hended hleader hwhy =>
    exact ⟨hcancelled, rfl, by simp⟩
  | sentWorker result desk flags stream hduty hsend => exact ⟨hcancelled, rfl, by simp⟩
  | sentLeader result desk flags stream hduty hsend => exact ⟨hcancelled, rfl, by simp⟩
  | reported report desk hduty hworkers hleader hstart => exact ⟨hcancelled, rfl, by simp⟩
  | _ => exact ⟨hcancelled, hidle, h.intact⟩

theorem CalledOff.cancel (h : CalledOff o s) (token : CancelToken) :
    CalledOff o (s.cancel token) :=
  ⟨isCancelled_cancel token h.cancelled, h.idle, h.intact⟩

theorem CalledOff.follow (h : CalledOff o s) (hfollow : s.follow c ws o events = some t) :
    CalledOff o t :=
  follow_invariant (fun _ _ _ _ hchange hs => hs.change hchange)
    (fun _ token hs => hs.cancel token) hfollow h

/-- A run in which a result found no receiver is called off. -/
theorem calledOff_of_refused (h : s.follow c ws o events = some t)
    (hrefused : s.refused c ws o events ≠ []) : CalledOff o t := by
  refine follow_induction (P := fun events t => s.refused c ws o events ≠ [] → CalledOff o t) h
    (fun hnil => absurd rfl hnil) ?_ hrefused
  intro before u event v _ hfollow hstep hbefore hrefused
  rw [refused, observe_append_singleton hfollow, ← refused] at hrefused
  cases hrefuses : u.refuses? event with
  | some r => exact calledOff_of_refuses hrefuses hstep
  | none =>
    rw [hrefuses, Option.toList_none, List.append_nil] at hrefused
    have hu := hbefore hrefused
    cases event with
    | cancel token =>
      cases hstep
      exact hu.cancel token
    | move m => exact hu.change (change_of_move hstep)

/-- A run that is called off ends with a report. -/
theorem CalledOff.exists_report (h : CalledOff o s) (hover : s.duty.isOver = true) :
    ∃ report, s.report? = some report := by
  cases hduty : s.duty with
  | finished report => exact ⟨report, by rw [report?, hduty]⟩
  | crashed => exact absurd hduty h.intact
  | _ => simp [hduty, Duty.isOver] at hover

section Run

variable {flags : CancelFlags} {world : World Net Desk} {stream : Option ResultStream}

/-- Whoever was never called is reported as cancelled. -/
theorem withheld_of_not_called (hnone : (initial o flags world stream).LosesNone c ws o events)
    (h : (initial o flags world stream).follow c ws o events = some s) {report : FleetReport}
    (hreport : s.report? = some report) {actor : Actor} (herrand : (o.errand? actor).isSome = true)
    (hcalls : actor ∉ (initial o flags world stream).calls c ws o events) :
    ∃ r, report.result? actor = some r ∧ r.status = .cancelled := by
  obtain ⟨r, hr⟩ := (placed_of_follow h).exists_result hreport herrand
  rw [called_iff hnone h, hasCalled_of_report (staffed_of_follow h) (gathered_of_follow hnone h)
    hreport] at hcalls
  exact ⟨r, hr, not_not.1 fun hstatus => hcalls ⟨r, hr, hstatus⟩⟩

/-- Whoever was not started when the run was cancelled is never called, and is reported as
cancelled. -/
theorem withheld_of_pending {later : List FleetEvent}
    (hs : (initial o flags world stream).follow c ws o events = some s)
    (hcancelled : s.isCancelled o = true) {actor : Actor} (hactor : actor ∈ s.pending o)
    (hnone : (initial o flags world stream).LosesNone c ws o (events ++ later))
    (h : s.follow c ws o later = some t) {report : FleetReport}
    (hreport : t.report? = some report) :
    actor ∉ (initial o flags world stream).calls c ws o (events ++ later) ∧
      ∃ r, report.result? actor = some r ∧ r.status = .cancelled := by
  have hboth := follow_trans hs h
  have hstaffed := staffed_of_follow hboth
  have hgathered := gathered_of_follow hnone hboth
  have hheld := (heldBack_of_follow hs hcancelled h actor).2 (.inl hactor)
  obtain ⟨r, hr, hstatus⟩ := (heldBack_of_report hstaffed hreport actor).1 hheld
  have hresult := (hgathered.result?_eq hreport actor).trans hr
  refine ⟨?_, r, hresult, hstatus⟩
  rw [called_iff hnone hboth, hasCalled_of_report hstaffed hgathered hreport, hresult]
  simp [hstatus]

end Run

/-! ## Other tokens -/

/-- Sending raises no flag but that of the run's own token. -/
theorem flags_of_send {result : RunResult} (h : s.send ws o result = some t) :
    t.flags = s.flags ∨ t.flags = s.flags.cancel o.token := by
  unfold send at h
  split at h
  · cases h
    exact .inl rfl
  · split at h
    · split at h
      · cases h
        exact .inl rfl
      · cases h
    · split at h
      · cases h
        exact .inl rfl
      · cases h
        exact .inr rfl

theorem flags_of_change {m : FleetMove} (hc : Change c ws o s m t) :
    t.flags = s.flags ∨ t.flags = s.flags.cancel o.token := by
  cases hc with
  | sentWorker result desk flags stream hduty hsend =>
    have hflags := flags_of_send hsend
    exact hflags
  | sentLeader result desk flags stream hduty hsend =>
    have hflags := flags_of_send hsend
    exact hflags
  | _ => exact .inl rfl

/-- A token that does not descend from the run's own is cancelled only by those who cancel it or one
that it descends from. -/
theorem isCancelled_of_other_token {token : CancelToken}
    (htoken : o.token.flag ∉ token.flag :: token.ancestors)
    (h : s.follow c ws o events = some t) :
    t.flags.isCancelled token = true ↔ s.flags.isCancelled token = true ∨
      ∃ cancelled, .cancel cancelled ∈ events ∧
        cancelled.flag ∈ token.flag :: token.ancestors := by
  refine follow_induction (P := fun events t => t.flags.isCancelled token = true ↔
    s.flags.isCancelled token = true ∨ ∃ cancelled, .cancel cancelled ∈ events ∧
      cancelled.flag ∈ token.flag :: token.ancestors) h (by simp) ?_
  intro before u event v _ _ hstep hbefore
  cases event with
  | cancel cancelled =>
    cases hstep
    have hcancel : (u.cancel cancelled).flags = u.flags.cancel cancelled := rfl
    rw [hcancel, CancelFlags.isCancelled_cancel, hbefore]
    simp only [List.mem_append, List.mem_singleton, FleetEvent.cancel.injEq, or_and_right,
      exists_or, exists_eq_left]
    rw [or_comm, or_assoc]
  | move m =>
    have hsame : v.flags.isCancelled token = u.flags.isCancelled token := by
      rcases flags_of_change (change_of_move hstep) with hflags | hflags
      · rw [hflags]
      · rw [hflags, Bool.eq_iff_iff, CancelFlags.isCancelled_cancel]
        exact or_iff_right htoken
    rw [hsame, hbefore]
    simp

end FleetRun

/-- What becomes of a run whose receiver leaves, whenever it leaves, if no task dies.

The workers in flight at that time and those that are started afterwards are no more together than
the plan allows.  Once a result finds no receiver nobody is started, and the run ends with a report.
There everybody who was not started then is cancelled, and so is the leader if that result was a
worker's; none of them is ever called.

Whoever opened a session runs the command there and closes it, once each; only a leader whose
capture file cannot be created closes it without a command.  The token of the dispatcher, and those
of its other runs, are cancelled only by those who would have done so anyway.

The run is one that the dispatcher streams, with a token of its own. -/
theorem Dispatcher.departure_winds_down {Net Session Desk File : Type}
    (d : Dispatcher Net Session Desk File) {roster : HostRoster} {plan : FleetPlan}
    (hplan : plan.validate roster = .ok ()) (flags : CancelFlags)
    (hknown : ∀ flag ∈ d.token.flag :: d.token.ancestors, flag < flags.count)
    (world : World Net Desk) :
    ∃ (o : FleetOrders) (first : FleetRun Net Session Desk File),
      d.orders roster plan (flags.childOf d.token).1 = .ok o ∧
      first = FleetRun.initial o (flags.childOf d.token).2 world (some {}) ∧
      d.Streams roster plan o (flags.childOf d.token).2 world ∧
      ∀ events before after later u v s t,
        events = before ++ .move .dropReceiver :: (after ++ later) →
        first.LosesNone d.connector d.workstation o events →
        first.follow d.connector d.workstation o before = some u →
        u.move d.connector d.workstation o .dropReceiver = some v →
        v.follow d.connector d.workstation o after = some s →
        s.follow d.connector d.workstation o later = some t →
        u.inFlight + (v.started d.connector d.workstation o after).countP (· ≠ .leader)
          ≤ plan.concurrency ∧
        (v.refused d.connector d.workstation o after ≠ [] →
          s.started d.connector d.workstation o later = [] ∧
          (t.duty.isOver = true → ∃ report, t.report? = some report ∧
            ∀ actor, actor ∈ s.pending o ∨ actor = .leader ∧ plan.leader.isSome = true ∧
                v.missed d.connector d.workstation o after ≠ [] →
              actor ∉ first.calls d.connector d.workstation o events ∧
              ∃ r, report.result? actor = some r ∧ r.status = .cancelled)) ∧
        (t.duty.isOver = true → ∀ actor e, o.errand? actor = some e →
          first.handled actor d.connector d.workstation o
            (before ++ .move .dropReceiver :: after) ≠ [] →
          first.handled actor d.connector d.workstation o events = e.wholeSession ∨
            actor = .leader ∧
            first.handled actor d.connector d.workstation o events = e.emptySession ∧
            ∃ r, t.result? actor = some r ∧ e.LacksCapture r) ∧
        (∀ token, token = d.token ∨ (∃ other : CancelFlags, other.count ≠ flags.count ∧
            token = (other.childOf d.token).1) →
          (t.flags.isCancelled token = true ↔ flags.isCancelled token = true ∨
            ∃ cancelled, .cancel cancelled ∈ events ∧
              cancelled.flag ∈ token.flag :: token.ancestors)) ∧
        ∃ (moves : List FleetMove) (last : FleetRun Net Session Desk File),
          (∀ m ∈ moves, m.isMishap = false) ∧
          t.follow d.connector d.workstation o (moves.map .move) = some last ∧
          last.duty.isOver = true := by
  obtain ⟨targets, hresolve, _, hleaders⟩ :=
    FleetPlan.exists_resolve_of_validate hplan d.credentials
  obtain ⟨hconcurrency, hcapture, _⟩ := FleetPlan.checked_of_validate hplan
  let o : FleetOrders := ⟨plan, targets, d.echo, (flags.childOf d.token).1⟩
  have horders : d.orders roster plan (flags.childOf d.token).1 = .ok o := by
    rw [orders, hresolve]
    rfl
  refine ⟨o, _, horders, rfl, d.streams_of_orders _ world horders, ?_⟩
  intro events before after later u v s t hevents hnone hu hleave hv hs
  have hchange : FleetRun.Change d.connector d.workstation o u .dropReceiver v :=
    FleetRun.change_of_move hleave
  -- The run up to the moments at which it is looked at.
  have hdrop := FleetRun.follow_trans hu (FleetRun.follow_singleton hleave)
  have hmid := FleetRun.follow_trans hdrop hv
  have hend := FleetRun.follow_trans hmid hs
  have hcut : events = before ++ [.move .dropReceiver] ++ after ++ later := by simp [hevents]
  rw [← hcut] at hend
  have hnoneAfter : v.LosesNone d.connector d.workstation o after := by
    refine FleetRun.LosesNone.after (fun before' w hpart => hnone before' w (hpart.trans ?_)) hdrop
    rw [hcut]
    exact List.prefix_append _ _
  obtain ⟨hdeserted, hflight⟩ : v.IsDeserted ∧ v.inFlight = u.inFlight := by
    cases hchange with
    | left queue received hstream => exact ⟨⟨[], received, rfl⟩, rfl⟩
  refine ⟨?_, fun hrefused => ⟨?_, fun hover => ?_⟩, fun hover actor e herrand hopened => ?_, ?_,
    ?_⟩
  · have hroom := FleetRun.crewed_of_follow hdeserted (FleetRun.staffed_of_follow hdrop) hnoneAfter
      hv
    rw [hflight] at hroom
    exact Nat.le_trans hroom (Nat.le_of_eq (Nat.max_eq_left hconcurrency))
  · exact FleetRun.started_eq_nil_of_isCancelled
      (FleetRun.calledOff_of_refused hv hrefused).cancelled hs
  · have hoff := FleetRun.calledOff_of_refused hv hrefused
    obtain ⟨report, hreport⟩ := (hoff.follow hs).exists_report hover
    refine ⟨report, hreport, ?_⟩
    rintro actor (hpending | ⟨rfl, hsome, hmissed⟩)
    · rw [hcut] at hnone ⊢
      exact FleetRun.withheld_of_pending hmid hoff.cancelled hpending hnone hs hreport
    · have hsame := congrArg Option.isSome hleaders
      rw [Option.isSome_map, Option.isSome_map] at hsame
      obtain ⟨⟨target, job⟩, hleader⟩ := Option.isSome_iff_exists.1 (hsame.trans hsome)
      have hspares := FleetRun.sparesLeader_of_missed hend hleader (by
        rw [hcut, FleetRun.missed, FleetRun.observe_append hmid, FleetRun.observe_append hdrop]
        exact List.append_ne_nil_of_left_ne_nil (List.append_ne_nil_of_right_ne_nil _ hmissed) _)
      refine ⟨hspares.1, FleetRun.withheld_of_not_called hnone hend hreport ?_ hspares.1⟩
      simp [FleetOrders.errand?, o, hleader]
  · rcases FleetRun.handled_of_isOver hnone hend hover herrand (by
        rw [hcut, FleetRun.handled, FleetRun.observe_append hmid]
        refine List.append_ne_nil_of_left_ne_nil ?_ _
        rwa [List.append_assoc]) with
      hwhole | ⟨hempty, r, hr, hlacks⟩
    · exact .inl hwhole
    · exact .inr ⟨FleetRun.eq_leader_of_lacksCapture hcapture herrand hlacks, hempty, r, hr, hlacks⟩
  · intro token htoken
    refine FleetRun.isCancelled_of_other_token ?_ hend
    have hfresh : flags.count ∉ d.token.flag :: d.token.ancestors := fun hmem =>
      Nat.lt_irrefl _ (hknown _ hmem)
    rcases htoken with rfl | ⟨other, hother, rfl⟩
    · exact hfresh
    · exact List.not_mem_cons_of_ne_of_not_mem (Ne.symm hother) hfresh
  · exact FleetRun.exists_follow_isOver d.connector d.workstation o t

/-- Two workers are at work, and the first has opened its session. -/
def trioOpened : List FleetMove := [.coordinate, .coordinate, .coordinate, .advance 0, .advance 0]

/-- The second worker ends, and its result is sent. -/
def trioNoticed : List FleetMove :=
  [.advance 1, .advance 1, .advance 1, .advance 1, .advance 1, .advance 1, .advance 1, .coordinate,
    .coordinate]

/-- The third worker is reported as cancelled, the first ends, and the leader is cancelled. -/
def trioWoundDown : List FleetMove :=
  [.coordinate, .coordinate, .advance 0, .advance 0, .advance 0, .advance 0, .advance 0,
    .coordinate, .coordinate, .coordinate, .coordinate, .coordinate]

/-- The receiver leaves while the first of three workers has its session open and the second is at
work too.  The first goes on to the end; the third worker and the leader are cancelled, but not the
dispatcher's token. -/
theorem Dispatcher.departure_winds_down_trio :
    ∃ (first u v s t : FleetRun MockRecord MockSession LocalDesk FileStore.OpenFile) (report : _),
      first = .initial trioStreamed ⟨2, []⟩ ⟨{}, {}⟩ (some {}) ∧
      first.follow trioDispatcher.connector trioDispatcher.workstation trioStreamed
        (trioOpened.map .move) = some u ∧ u.inFlight = 2 ∧
      u.move trioDispatcher.connector trioDispatcher.workstation trioStreamed .dropReceiver
        = some v ∧
      v.follow trioDispatcher.connector trioDispatcher.workstation trioStreamed
        (trioNoticed.map .move) = some s ∧
      s.follow trioDispatcher.connector trioDispatcher.workstation trioStreamed
        (trioWoundDown.map .move) = some t ∧
      s.started trioDispatcher.connector trioDispatcher.workstation trioStreamed
        (trioWoundDown.map .move) = [] ∧
      t.report? = some report ∧
      (∀ actor ∈ [.worker 2, .leader], ∃ r, report.result? actor = some r ∧
        r.status = .cancelled) ∧
      (∃ e, trioStreamed.errand? (.worker 0) = some e ∧
        first.handled (.worker 0) trioDispatcher.connector trioDispatcher.workstation trioStreamed
          ((trioOpened ++ .dropReceiver :: (trioNoticed ++ trioWoundDown)).map .move)
            = e.wholeSession) ∧
      t.flags.isCancelled trioDispatcher.token = false := by
  obtain ⟨o, first, horders, hfirst, -, hall⟩ := trioDispatcher.departure_winds_down validate_trio
    ⟨1, []⟩ (by decide) ⟨{}, {}⟩
  have hstreamed : trioDispatcher.orders trioRoster trioPlan ⟨1, [0]⟩ = .ok trioStreamed :=
    eq_ok_of_toOption (by decide +kernel)
  cases hstreamed.symm.trans horders
  have hinitial : first = .initial trioStreamed ⟨2, []⟩ ⟨{}, {}⟩ (some {}) := hfirst
  have hnone : first.LosesNone trioDispatcher.connector trioDispatcher.workstation trioStreamed
      ((trioOpened ++ .dropReceiver :: (trioNoticed ++ trioWoundDown)).map .move) := by
    rw [hinitial]
    refine FleetRun.losesNone_of_alive (MockScript.connect_ne_died {}) ?_
      (FleetRun.placed_initial trioStreamed _ _ _) (fun _ hdead => by cases hdead)
    simp [trioOpened, trioNoticed, trioWoundDown]
  have hopened : (first.follow trioDispatcher.connector trioDispatcher.workstation trioStreamed
      (trioOpened.map .move)).map (·.inFlight) = some 2 := by
    rw [hinitial]
    rfl
  have hleft : (first.follow trioDispatcher.connector trioDispatcher.workstation trioStreamed
      (trioOpened.map .move ++ [.move .dropReceiver])).map (fun v =>
        (v.refused trioDispatcher.connector trioDispatcher.workstation trioStreamed
          (trioNoticed.map .move)).length) = some 1 := by
    rw [hinitial]
    rfl
  have hnoticed : (first.follow trioDispatcher.connector trioDispatcher.workstation trioStreamed
      (trioOpened.map .move ++ [.move .dropReceiver] ++ trioNoticed.map .move)).map
        (·.pending trioStreamed) = some [.worker 2, .leader] := by
    rw [hinitial]
    rfl
  have hended : (first.follow trioDispatcher.connector trioDispatcher.workstation trioStreamed
      (trioOpened.map .move ++ [.move .dropReceiver] ++ trioNoticed.map .move
        ++ trioWoundDown.map .move)).map (·.duty.isOver) = some true := by
    rw [hinitial]
    rfl
  have hsession : first.handled (.worker 0) trioDispatcher.connector trioDispatcher.workstation
      trioStreamed (trioOpened.map .move ++ .move .dropReceiver :: trioNoticed.map .move)
        = [.connect ⟨1, "a", "ec2-user", none, 22⟩] := by
    rw [hinitial]
    rfl
  obtain ⟨u, hu, hflight⟩ := Option.map_eq_some_iff.1 hopened
  obtain ⟨v, hv, hrefused⟩ := FleetRun.exists_of_map_follow hleft hu
  have hleave : u.move trioDispatcher.connector trioDispatcher.workstation trioStreamed
      .dropReceiver = some v := by
    obtain ⟨v', hmove, hsame⟩ := Option.bind_eq_some_iff.1 hv
    cases hsame
    exact hmove
  obtain ⟨s, hs, hpending⟩ := FleetRun.exists_of_map_follow hnoticed (FleetRun.follow_trans hu hv)
  obtain ⟨t, ht, hover⟩ := FleetRun.exists_of_map_follow hended
    (FleetRun.follow_trans (FleetRun.follow_trans hu hv) hs)
  obtain ⟨_, hcancelled, hsessions, htokens, _⟩ :=
    hall _ _ (trioNoticed.map .move) (trioWoundDown.map .move) u v s t (by simp) hnone hu hleave hs
      ht
  obtain ⟨hstarted, hreports⟩ := hcancelled (by rw [← List.length_pos_iff, hrefused]; decide)
  obtain ⟨report, hreport, hwithheld⟩ := hreports hover
  refine ⟨first, u, v, s, t, report, hinitial, hu, hflight, hleave, hs, ht, hstarted, hreport,
    ?_, ?_, ?_⟩
  · intro actor hmem
    exact (hwithheld actor (.inl (hpending ▸ hmem))).2
  · refine ⟨_, rfl, ?_⟩
    have hdone := hsessions hover (.worker 0) _ rfl (by rw [hsession]; simp)
    exact hdone.resolve_right fun hleader => by cases hleader.1
  · rw [Bool.eq_false_iff]
    intro htoken
    rcases (htokens _ (.inl rfl)).1 htoken with hbefore | ⟨cancelled, hmem, _⟩
    · cases hbefore
    · simp [trioOpened, trioNoticed, trioWoundDown] at hmem

/-- The first host is prepared, and then the third leads, with a capture file in a directory that is
not there. -/
def trioMisplaced : FleetOrders :=
  let job := { trioBench with capture := .file "missing/bench.log" }
  { trioStreamed with
    plan := { trioPlan with selection := .below 2, leader := some ⟨3, job⟩ }
    targets := ⟨trioRoster.select (.below 2) {}, (trioRoster.target? {} 3).map (·, job)⟩ }

/-- The worker ends, its result is received, and the leader opens its session. -/
def misplacedOpened : List FleetMove :=
  [.coordinate, .coordinate, .advance 0, .advance 0, .advance 0, .advance 0, .advance 0, .advance 0,
    .advance 0, .coordinate, .coordinate, .receive, .coordinate, .coordinate, .coordinate]

/-- There is no capture file, so the leader closes its session, and its result is sent. -/
def misplacedClosed : List FleetMove :=
  [.coordinate, .coordinate, .coordinate, .coordinate, .coordinate]

/-- The receiver leaves while the leader has its session open and nobody else is at work.  The
session is closed without a command, because the capture file cannot be created; and the result that
finds no receiver is the leader's own, which is not cancelled. -/
theorem Dispatcher.departure_empties_session :
    trioMisplaced.plan.validate trioRoster = .ok () ∧
    trioDispatcher.orders trioRoster trioMisplaced.plan ⟨1, [0]⟩ = .ok trioMisplaced ∧
    ∃ (first u v s : FleetRun MockRecord MockSession LocalDesk FileStore.OpenFile) (e : Errand),
      first = .initial trioMisplaced ⟨2, []⟩ ⟨{}, {}⟩ (some {}) ∧
      first.LosesNone trioDispatcher.connector trioDispatcher.workstation trioMisplaced
        ((misplacedOpened ++ .dropReceiver :: misplacedClosed).map .move) ∧
      trioMisplaced.errand? .leader = some e ∧
      first.follow trioDispatcher.connector trioDispatcher.workstation trioMisplaced
        (misplacedOpened.map .move) = some u ∧ u.inFlight = 0 ∧
      first.handled .leader trioDispatcher.connector trioDispatcher.workstation trioMisplaced
        (misplacedOpened.map .move) = [.connect e.target] ∧
      u.move trioDispatcher.connector trioDispatcher.workstation trioMisplaced .dropReceiver
        = some v ∧
      v.follow trioDispatcher.connector trioDispatcher.workstation trioMisplaced
        (misplacedClosed.map .move) = some s ∧ s.duty.isOver = true ∧
      first.handled .leader trioDispatcher.connector trioDispatcher.workstation trioMisplaced
        ((misplacedOpened ++ .dropReceiver :: misplacedClosed).map .move)
          = [.connect e.target, .close e.target] ∧
      s.world.net.connects = ["a", "c"] ∧ s.world.net.runs = [("a", "uptime")] ∧
      v.refused trioDispatcher.connector trioDispatcher.workstation trioMisplaced
        (misplacedClosed.map .move) ≠ [] ∧
      ∃ r, s.leader = some r ∧ r.status = .failed := by
  let first : FleetRun MockRecord MockSession LocalDesk FileStore.OpenFile :=
    .initial trioMisplaced ⟨2, []⟩ ⟨{}, {}⟩ (some {})
  have hnone : first.LosesNone trioDispatcher.connector trioDispatcher.workstation trioMisplaced
      ((misplacedOpened ++ .dropReceiver :: misplacedClosed).map .move) := by
    refine FleetRun.losesNone_of_alive (MockScript.connect_ne_died {}) ?_
      (FleetRun.placed_initial trioMisplaced _ _ _) (fun _ hdead => by cases hdead)
    simp [misplacedOpened, misplacedClosed]
  have hopened : (first.follow trioDispatcher.connector trioDispatcher.workstation trioMisplaced
      (misplacedOpened.map .move)).map (·.inFlight) = some 0 := by rfl
  have hleft : (first.follow trioDispatcher.connector trioDispatcher.workstation trioMisplaced
      (misplacedOpened.map .move ++ [.move .dropReceiver])).map (fun v =>
        (v.refused trioDispatcher.connector trioDispatcher.workstation trioMisplaced
          (misplacedClosed.map .move)).length) = some 1 := by rfl
  have hclosed : (first.follow trioDispatcher.connector trioDispatcher.workstation trioMisplaced
      (misplacedOpened.map .move ++ [.move .dropReceiver] ++ misplacedClosed.map .move)).map
        (fun s => (s.duty.isOver, s.world.net.connects, s.world.net.runs,
          s.leader.map (·.status)))
      = some (true, ["a", "c"], [("a", "uptime")], some .failed) := by decide +kernel
  obtain ⟨u, hu, hflight⟩ := Option.map_eq_some_iff.1 hopened
  obtain ⟨v, hv, hrefused⟩ := FleetRun.exists_of_map_follow hleft hu
  obtain ⟨v', hleave, hsame⟩ := Option.bind_eq_some_iff.1 hv
  cases hsame
  obtain ⟨s, hs, hend⟩ := FleetRun.exists_of_map_follow hclosed (FleetRun.follow_trans hu hv)
  obtain ⟨hover, hend⟩ := Prod.mk.inj hend
  obtain ⟨hconnects, hend⟩ := Prod.mk.inj hend
  obtain ⟨hruns, hstatus⟩ := Prod.mk.inj hend
  obtain ⟨r, hleader, hfailed⟩ := Option.map_eq_some_iff.1 hstatus
  exact ⟨eq_ok_of_toOption (by decide +kernel), eq_ok_of_toOption (by decide +kernel), first, u, v,
    s, _, rfl, hnone, rfl, hu, hflight, by rfl, hleave, hs, hover, by rfl, hconnects, hruns,
    by rw [← List.length_pos_iff, hrefused]; decide, r, hleader, hfailed⟩

end RemoteFleet
