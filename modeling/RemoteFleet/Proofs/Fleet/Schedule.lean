import RemoteFleet.Proofs.Fleet.Moves
import RemoteFleet.Proofs.Text.Reading

/-!
# The schedule plays a run to its end

A dispatcher plays one order of the moves of a run, `FleetRun.play`, and stops when none of the
moves that it wishes for is possible.  That it stops only where nothing is left to do is not plain:
it does not let an actor go on while its host is silent, and it lets time pass only to the end of
the first silence.

* `Paced`: whoever is silent has an errand to go on with, and is silent once.  So when nobody who is
  awake can do anything, somebody can when the first silence ends (`exists_wish`).
* Every move of the schedule keeps this (`Paced.next`), and a schedule that stops is at the end of
  the run, where the receiver has taken everything (`over_of_next_eq_none`, `Paced.exists_played`).
* `Dispatcher.run_follows`, `Dispatcher.streams_of_orders`: what a dispatcher plays is one of the
  runs, from the first state to the last.
-/

namespace RemoteFleet

theorem Timeline.isAwake_iff {line : Timeline} {actor : Actor} :
    line.isAwake actor = true ↔ ∀ ms, (actor, ms) ∈ line.silent → ms ≤ line.nowMs := by
  simp only [isAwake, List.all_eq_true, Bool.or_eq_true, decide_eq_true_eq, Prod.forall]
  constructor
  · intro h ms hmem
    exact (h actor ms hmem).resolve_left (by simp)
  · intro h who ms hmem
    by_cases hwho : who = actor
    · exact .inr (h ms (hwho ▸ hmem))
    · exact .inl hwho

/-- The first silence that ends is one that has not ended yet. -/
theorem Timeline.exists_of_nextWake? {line : Timeline} {ms : Nat} (h : line.nextWake? = some ms) :
    (∃ actor, (actor, ms) ∈ line.silent) ∧ line.nowMs < ms := by
  obtain ⟨hmem, hlater⟩ := List.mem_filter.1 (List.min?_mem h)
  obtain ⟨⟨actor, _⟩, hsilent, rfl⟩ := List.mem_map.1 hmem
  exact ⟨⟨actor, hsilent⟩, of_decide_eq_true hlater⟩

theorem Timeline.exists_nextWake? {line : Timeline} {actor : Actor} {ms : Nat}
    (hmem : (actor, ms) ∈ line.silent) (hlater : line.nowMs < ms) :
    ∃ first, line.nextWake? = some first := by
  have hends : ms ∈ (line.silent.map (·.2)).filter (line.nowMs < ·) :=
    List.mem_filter.2 ⟨List.mem_map.2 ⟨_, hmem, rfl⟩, decide_eq_true hlater⟩
  refine Option.isSome_iff_exists.1 ?_
  rw [nextWake?, List.isSome_min?_iff]
  exact List.ne_nil_of_mem hends

/-- What does not happen in a schedule: no task is made to die, and unless the surroundings say so
nothing is cancelled and the receiver stays. -/
structure Surroundings.Allows (env : Surroundings) (events : List FleetEvent) : Prop where
  alive : ∀ slot, .move (.die slot) ∉ events
  quiet : env.interrupt = none → ∀ token, .cancel token ∉ events
  stays : env.limit = none → .move .dropReceiver ∉ events

theorem Surroundings.Allows.append {env : Surroundings} {events later : List FleetEvent}
    (h : env.Allows events) (hlater : env.Allows later) : env.Allows (events ++ later) where
  alive slot hmem := (List.mem_append.1 hmem).elim (h.alive slot) (hlater.alive slot)
  quiet hnone token hmem :=
    (List.mem_append.1 hmem).elim (h.quiet hnone token) (hlater.quiet hnone token)
  stays hnone hmem := (List.mem_append.1 hmem).elim (h.stays hnone) (hlater.stays hnone)

theorem Surroundings.Allows.nil (env : Surroundings) : env.Allows [] where
  alive _ := List.not_mem_nil
  quiet _ _ := List.not_mem_nil
  stays _ := List.not_mem_nil

theorem Surroundings.Allows.move {env : Surroundings} {m : FleetMove}
    (hlives : ∀ slot, m ≠ .die slot) (hstays : env.limit = none → m ≠ .dropReceiver) :
    env.Allows [.move m] where
  alive slot hmem := hlives slot (FleetEvent.move.inj (List.mem_singleton.1 hmem)).symm
  quiet _ token hmem := by cases List.mem_singleton.1 hmem
  stays hnone hmem := hstays hnone (FleetEvent.move.inj (List.mem_singleton.1 hmem)).symm

namespace FleetRun

variable {Net Session Desk File : Type} {c : Connector Net Session} {ws : Workstation Desk File}
  {o : FleetOrders} {env : Surroundings} {line line' : Timeline}
  {s t : FleetRun Net Session Desk File}

/-! ## Who has something to do -/

/-- Whether an actor has an errand to go on with. -/
def Engages (s : FleetRun Net Session Desk File) : Actor → Prop
  | .leader => ∃ errand stage, s.duty = .lead errand stage
  | .worker slot => ∃ task ∈ s.tasks, task.slot = slot

/-- The tasks of other slots are not the one that is cut out. -/
theorem mem_rest_of_slot_ne {before after : List (Task Session File)}
    {task task' : Task Session File} (htasks : s.tasks = before ++ task :: after)
    (hmem : task' ∈ s.tasks) (hother : task'.slot ≠ task.slot) : task' ∈ before ++ after := by
  rw [htasks] at hmem
  rcases List.mem_append.1 hmem with hbefore | hrest
  · exact List.mem_append_left _ hbefore
  · rcases List.mem_cons.1 hrest with rfl | hafter
    · exact absurd rfl hother
    · exact List.mem_append_right _ hafter

/-- A move leaves the errands of the others where they are. -/
theorem engages_of_move {m : FleetMove} (h : s.move c ws o m = some t)
    (hlives : ∀ slot, m ≠ .die slot) {actor : Actor} (hother : m.actor? ≠ some actor)
    (hactor : s.Engages actor) : t.Engages actor := by
  cases change_of_move h with
  | died before after task => exact absurd rfl (hlives task.slot)
  | taken | left =>
    cases actor <;> exact hactor
  | advanced before after task stage world htasks _ hgoes =>
    cases actor with
    | leader => exact hactor
    | worker slot =>
      obtain ⟨task', hmem, rfl⟩ := hactor
      have hslot : task'.slot ≠ task.slot := fun heq => hother (by rw [FleetMove.actor?, heq])
      have hrest := mem_rest_of_slot_ne htasks hmem hslot
      exact ⟨task', ((List.sublist_cons_self _ after).append_left before).subset hrest, rfl⟩
  | ended before after task stage world htasks _ hover =>
    cases actor with
    | leader => exact hactor
    | worker slot =>
      obtain ⟨task', hmem, rfl⟩ := hactor
      have hslot : task'.slot ≠ task.slot := fun heq => hother (by rw [FleetMove.actor?, heq])
      exact ⟨task', mem_rest_of_slot_ne htasks hmem hslot, rfl⟩
  | started slot target waiting =>
    cases actor with
    | leader => exact absurd rfl hother
    | worker slot' =>
      obtain ⟨task, hmem, hslot⟩ := hactor
      exact ⟨task, List.mem_append_left _ hmem, hslot⟩
  | _ =>
    cases actor with
    | leader => exact absurd rfl hother
    | worker slot => exact hactor

/-! ## Who is silent -/

/-- Whoever is silent has an errand to go on with, and is silent once. -/
structure Paced (line : Timeline) (s : FleetRun Net Session Desk File) : Prop where
  engaged : ∀ actor ms, (actor, ms) ∈ line.silent → line.nowMs < ms → s.Engages actor
  once : ∀ actor ms ms', (actor, ms) ∈ line.silent → (actor, ms') ∈ line.silent →
    line.nowMs < ms → line.nowMs < ms' → ms = ms'

theorem paced_begin (s : FleetRun Net Session Desk File) : Paced {} s where
  engaged _ _ hmem := absurd hmem List.not_mem_nil
  once _ _ _ hmem := absurd hmem List.not_mem_nil

/-- Time may pass. -/
theorem Paced.later (h : Paced line s) (hsilent : line'.silent = line.silent)
    (hlater : line.nowMs ≤ line'.nowMs) : Paced line' s where
  engaged actor ms hmem hms :=
    h.engaged actor ms (hsilent ▸ hmem) (Nat.lt_of_le_of_lt hlater hms)
  once actor ms ms' hmem hmem' hms hms' :=
    h.once actor ms ms' (hsilent ▸ hmem) (hsilent ▸ hmem') (Nat.lt_of_le_of_lt hlater hms)
      (Nat.lt_of_le_of_lt hlater hms')

/-- Somebody who was awake may fall silent. -/
theorem Paced.hush (h : Paced line s) {actor : Actor} (hawake : line.isAwake actor = true)
    (hactor : s.Engages actor) (ms : Nat) : Paced (line.hush actor ms) s := by
  rw [Timeline.isAwake_iff] at hawake
  unfold Timeline.hush
  split
  · exact h
  · constructor
    · intro who end_ hmem hend
      rcases List.mem_cons.1 hmem with heq | hmem
      · cases heq
        exact hactor
      · exact h.engaged who end_ hmem hend
    · intro who end_ end' hmem hmem' hend hend'
      rcases List.mem_cons.1 hmem with heq | hmem <;> rcases List.mem_cons.1 hmem' with heq' | hmem'
      · cases heq
        cases heq'
        rfl
      · cases heq
        exact absurd (hawake end' hmem') (Nat.not_le.2 hend')
      · cases heq'
        exact absurd (hawake end_ hmem) (Nat.not_le.2 hend)
      · exact h.once who end_ end' hmem hmem' hend hend'

/-- The silence after a move is that of its actor, who goes on with an errand. -/
theorem silence_cases (line : Timeline) (t : FleetRun Net Session Desk File) (m : FleetMove) :
    t.silence line m = line ∨
      ∃ actor ms, m.actor? = some actor ∧ t.Engages actor ∧
        t.silence line m = line.hush actor ms := by
  cases m with
  | coordinate =>
    cases hduty : t.duty with
    | lead errand stage =>
      exact .inr ⟨.leader, stage.silence, rfl, ⟨errand, stage, hduty⟩, by simp [silence, hduty]⟩
    | _ => exact .inl (by simp [silence, hduty])
  | advance slot =>
    cases hcut : Task.cutAt? slot t.tasks with
    | none => exact .inl (by simp [silence, hcut])
    | some cut =>
      obtain ⟨before, task, after⟩ := cut
      obtain ⟨htasks, hslot⟩ := Task.eq_of_cutAt? hcut
      exact .inr ⟨.worker slot, task.stage.silence, rfl, ⟨task, by simp [htasks], hslot⟩,
        by simp [silence, hcut]⟩
  | _ => exact .inl rfl

/-- A move of somebody who is awake keeps it. -/
theorem Paced.move (h : Paced line s) {m : FleetMove} (hmove : s.move c ws o m = some t)
    (hlives : ∀ slot, m ≠ .die slot) (hawake : ∀ actor, m.actor? = some actor →
      line.isAwake actor = true) : Paced (t.silence line m) t := by
  have hkept : Paced line t := by
    refine ⟨fun actor ms hmem hms => ?_, h.once⟩
    refine engages_of_move hmove hlives (fun hactor => ?_) (h.engaged actor ms hmem hms)
    exact absurd (Timeline.isAwake_iff.1 (hawake actor hactor) ms hmem) (Nat.not_le.2 hms)
  rcases silence_cases line t m with hsame | ⟨actor, ms, hactor, hengages, hhush⟩
  · rw [hsame]
    exact hkept
  · rw [hhush]
    exact hkept.hush (hawake actor hactor) hengages ms

/-! ## What is wished for -/

/-- Those who are to move at once are awake. -/
theorem prompt_spec {m : FleetMove} (h : (m, line') ∈ s.prompt line) :
    (m = .coordinate ∨ ∃ slot, m = .advance slot) ∧ line'.silent = line.silent ∧
      line'.nowMs = line.nowMs ∧ ∀ actor, m.actor? = some actor → line.isAwake actor = true := by
  have hadvance : ∀ slots : List Nat, (∀ slot ∈ slots, slot ∈ s.awake line) →
      (m, line') ∈ slots.head?.toList.map
        (fun slot => (FleetMove.advance slot, { line with turn := slots })) →
      ∃ slot, line.isAwake (.worker slot) = true ∧ m = .advance slot ∧
        line' = { line with turn := slots } := by
    intro slots hslots hmem
    obtain ⟨slot, hhead, heq⟩ := List.mem_map.1 hmem
    obtain ⟨rfl, rfl⟩ := Prod.mk.inj heq
    have hslot := hslots slot (List.mem_of_head? (Option.mem_toList.1 hhead))
    exact ⟨slot, (List.mem_filter.1 hslot).2, rfl, rfl⟩
  rw [prompt, List.mem_append, List.mem_append] at h
  rcases h with (hturn | hleader) | hall
  · obtain ⟨slot, hawake, rfl, rfl⟩ := hadvance _ (fun slot hslot => by
      simpa using (List.mem_filter.1 hslot).2) hturn
    refine ⟨.inr ⟨slot, rfl⟩, rfl, rfl, fun actor hactor => ?_⟩
    cases hactor
    exact hawake
  · split at hleader
    · next hawake =>
      cases List.mem_singleton.1 hleader
      refine ⟨.inl rfl, rfl, rfl, fun actor hactor => ?_⟩
      cases hactor
      exact hawake
    · cases hleader
  · obtain ⟨slot, hawake, rfl, rfl⟩ := hadvance _ (fun _ => id) hall
    refine ⟨.inr ⟨slot, rfl⟩, rfl, rfl, fun actor hactor => ?_⟩
    cases hactor
    exact hawake

/-- Time passes only forwards, and whoever is to move is awake by then. -/
theorem wishes_spec {m : FleetMove} (h : (m, line') ∈ s.wishes env line) :
    env.Allows [.move m] ∧ line'.silent = line.silent ∧ line.nowMs ≤ line'.nowMs ∧
      ∀ actor, m.actor? = some actor → line'.isAwake actor = true := by
  have hprompt : ∀ base : Timeline, base.silent = line.silent → line.nowMs ≤ base.nowMs →
      (m, line') ∈ s.prompt base → env.Allows [.move m] ∧ line'.silent = line.silent ∧
        line.nowMs ≤ line'.nowMs ∧
        ∀ actor, m.actor? = some actor → line'.isAwake actor = true := by
    intro base hsilent hlater hmem
    obtain ⟨hkind, hsame, hnow, hawake⟩ := prompt_spec hmem
    refine ⟨?_, hsame.trans hsilent, hnow ▸ hlater, fun actor hactor => ?_⟩
    · rcases hkind with rfl | ⟨slot, rfl⟩ <;> exact .move (by simp) (by simp)
    · rw [Timeline.isAwake_iff, hsame, hnow, ← Timeline.isAwake_iff]
      exact hawake actor hactor
  simp only [wishes, List.mem_append] at h
  rcases h with (((hdrop | htake) | hnow) | htake) | hlater
  · split at hdrop
    · next hlimit =>
      cases List.mem_singleton.1 hdrop
      exact ⟨.move (by simp) (by simp [hlimit]), rfl, Nat.le_refl _, by simp [FleetMove.actor?]⟩
    · cases hdrop
  · split at htake
    · cases List.mem_singleton.1 htake
      exact ⟨.move (by simp) (by simp), rfl, Nat.le_refl _, by simp [FleetMove.actor?]⟩
    · cases htake
  · exact hprompt { line with isTaking := false } rfl (Nat.le_refl _) hnow
  · cases List.mem_singleton.1 htake
    exact ⟨.move (by simp) (by simp), rfl, Nat.le_refl _, by simp [FleetMove.actor?]⟩
  · split at hlater
    · cases hlater
    · next ms hms =>
      exact hprompt { line with isTaking := false, nowMs := ms, turn := [] } rfl
        (Nat.le_of_lt (Timeline.exists_of_nextWake? hms).2) hlater

/-- The next move keeps it. -/
theorem Paced.next (h : Paced line s) (hnext : s.next c ws o env line = some (line', t)) :
    Paced line' t := by
  obtain ⟨⟨m, base⟩, hwish, hm⟩ := List.exists_of_findSome?_eq_some hnext
  obtain ⟨u, hu, heq⟩ := Option.map_eq_some_iff.1 hm
  cases heq
  obtain ⟨hallows, hsilent, hlater, hawake⟩ := wishes_spec hwish
  have hlives : ∀ slot, m ≠ .die slot := fun slot heq => hallows.alive slot (by simp [heq])
  have hthen : Paced base (s.interrupted env m) := by
    have hbase := h.later hsilent hlater
    unfold interrupted
    split
    · exact ⟨fun actor => by cases actor <;> exact hbase.engaged _, hbase.once⟩
    · exact hbase
  exact hthen.move hu hlives hawake

/-! ## The schedule does not stop too early -/

/-- Whether a move is possible, with what happens just before it. -/
def CanMove (c : Connector Net Session) (ws : Workstation Desk File) (o : FleetOrders)
    (env : Surroundings) (s : FleetRun Net Session Desk File) (m : FleetMove) : Prop :=
  ∃ t, (s.interrupted env m).move c ws o m = some t

theorem canMove_of_lead {errand : Errand} {stage : Stage Session File}
    (hduty : s.duty = .lead errand stage) : CanMove c ws o env s .coordinate := by
  have hsame : (s.interrupted env .coordinate).duty = .lead errand stage := by
    unfold interrupted
    split <;> exact hduty
  exact ⟨_, by rw [move, coordinate, hsame]⟩

theorem canMove_of_coordinate (h : s.coordinate c ws o = some t) :
    CanMove c ws o env s .coordinate := by
  cases hduty : s.duty with
  | lead errand stage => exact canMove_of_lead hduty
  | _ =>
    have hsame : s.interrupted env .coordinate = s := by simp [interrupted, connectsTo?, hduty]
    exact ⟨t, by rw [hsame]; exact h⟩

theorem exists_cutAt? {slot : Nat} {tasks : List (Task Session File)}
    (h : slot ∈ tasks.map (·.slot)) : ∃ cut, Task.cutAt? slot tasks = some cut := by
  induction tasks with
  | nil => cases h
  | cons task tasks ih =>
    rw [Task.cutAt?]
    split
    · exact ⟨_, rfl⟩
    · next hother =>
      rw [List.map_cons, List.mem_cons] at h
      obtain ⟨cut, hcut⟩ := ih (h.resolve_left (Ne.symm hother))
      exact ⟨_, by rw [hcut]; rfl⟩

theorem canMove_of_mem_tasks {slot : Nat} (h : slot ∈ s.tasks.map (·.slot)) :
    CanMove c ws o env s (.advance slot) := by
  have hsame : (s.interrupted env (.advance slot)).tasks = s.tasks := by
    unfold interrupted
    split <;> rfl
  obtain ⟨cut, hcut⟩ := exists_cutAt? h
  rw [← hsame] at hcut
  simp only [CanMove, move, advance, hcut]
  split <;> exact ⟨_, rfl⟩

variable (c ws o env) in
/-- Somebody who is awake and has an errand can go on with it. -/
theorem exists_prompt_of_awake {actor : Actor} (hactor : s.Engages actor)
    (hawake : line.isAwake actor = true) :
    ∃ m line', (m, line') ∈ s.prompt line ∧ CanMove c ws o env s m := by
  cases actor with
  | leader =>
    obtain ⟨errand, stage, hduty⟩ := hactor
    refine ⟨.coordinate, { line with turn := [] }, ?_, canMove_of_lead hduty⟩
    simp [prompt, hawake]
  | worker slot =>
    obtain ⟨task, hmem, rfl⟩ := hactor
    have hslot : task.slot ∈ s.awake line :=
      List.mem_filter.2 ⟨List.mem_map_of_mem hmem, hawake⟩
    cases hall : s.awake line with
    | nil => simp [hall] at hslot
    | cons first rest =>
      have hfirst : first ∈ s.awake line := hall ▸ List.mem_cons_self
      refine ⟨.advance first, { line with turn := s.awake line }, ?_,
        canMove_of_mem_tasks (List.mem_filter.1 hfirst).1⟩
      simp [prompt, hall]

/-- As long as something is left to do, something that is wished for is possible. -/
theorem exists_wish (h : Paced line s) (hgoes : s.duty.isOver = false) :
    ∃ m line', (m, line') ∈ s.wishes env line ∧ CanMove c ws o env s m := by
  have hnow : ∀ {m line'}, (m, line') ∈ s.prompt { line with isTaking := false } →
      (m, line') ∈ s.wishes env line := by
    intro m line' hmem
    simp [wishes, hmem]
  -- When somebody is silent, whoever's silence ends first goes on after it.
  have hwoken : ∀ {actor}, line.isAwake actor = false →
      ∃ m line', (m, line') ∈ s.wishes env line ∧ CanMove c ws o env s m := by
    intro actor hsilent
    obtain ⟨ms, hmem, hms⟩ : ∃ ms, (actor, ms) ∈ line.silent ∧ line.nowMs < ms := by
      by_contra hnone
      refine Bool.eq_false_iff.1 hsilent (Timeline.isAwake_iff.2 fun ms hmem => ?_)
      exact Nat.le_of_not_lt fun hms => hnone ⟨ms, hmem, hms⟩
    obtain ⟨first, hfirst⟩ := Timeline.exists_nextWake? hmem hms
    obtain ⟨⟨who, hwho⟩, hlater⟩ := Timeline.exists_of_nextWake? hfirst
    have hawake : Timeline.isAwake { line with isTaking := false, nowMs := first, turn := [] } who
        = true := by
      refine Timeline.isAwake_iff.2 fun ms hmem => ?_
      by_cases hpast : ms ≤ line.nowMs
      · exact Nat.le_trans hpast (Nat.le_of_lt hlater)
      · exact Nat.le_of_eq (h.once who ms first hmem hwho (Nat.lt_of_not_le hpast) hlater)
    obtain ⟨m, line', hprompt, hmove⟩ :=
      exists_prompt_of_awake c ws o env (h.engaged who first hwho hlater) hawake
    exact ⟨m, line', by simp [wishes, hfirst, hprompt], hmove⟩
  obtain ⟨m, t, hlives, hmove⟩ := exists_move c ws o hgoes
  cases m with
  | coordinate =>
    cases hawake : line.isAwake .leader with
    | false => exact hwoken hawake
    | true =>
      refine ⟨.coordinate, { line with isTaking := false, turn := [] }, hnow ?_,
        canMove_of_coordinate hmove⟩
      have hrested : Timeline.isAwake { line with isTaking := false } .leader = true := hawake
      simp [prompt, hrested]
  | advance slot =>
    have hengages : s.Engages (.worker slot) := by
      cases hcut : Task.cutAt? slot s.tasks with
      | none => simp [move, advance, hcut] at hmove
      | some cut =>
        obtain ⟨before, task, after⟩ := cut
        obtain ⟨htasks, hslot⟩ := Task.eq_of_cutAt? hcut
        exact ⟨task, by simp [htasks], hslot⟩
    cases hawake : line.isAwake (.worker slot) with
    | false => exact hwoken hawake
    | true =>
      have hrested : Timeline.isAwake { line with isTaking := false } (.worker slot) = true :=
        hawake
      obtain ⟨m, line', hprompt, hmove⟩ := exists_prompt_of_awake c ws o env hengages hrested
      exact ⟨m, line', hnow hprompt, hmove⟩
  | receive => exact ⟨.receive, { line with isTaking := true }, by simp [wishes], t, hmove⟩
  | die slot => cases hlives
  | dropReceiver => cases hlives

/-- A schedule that stops is at the end of the run, and the receiver has taken everything. -/
theorem over_of_next_eq_none (h : Paced line s) (hnext : s.next c ws o env line = none) :
    s.duty.isOver = true ∧ s.receive = none := by
  have hstuck : ∀ {m line'}, (m, line') ∈ s.wishes env line → ¬CanMove c ws o env s m := by
    rintro m line' hwish ⟨t, ht⟩
    have hnone := List.findSome?_eq_none_iff.1 hnext _ hwish
    simp [ht] at hnone
  constructor
  · by_contra hgoes
    obtain ⟨m, line', hwish, hmove⟩ := exists_wish h (Bool.eq_false_iff.2 hgoes)
    exact hstuck hwish hmove
  · have hwish : (.receive, { line with isTaking := true }) ∈ s.wishes env line := by simp [wishes]
    by_contra htakes
    obtain ⟨t, ht⟩ := Option.ne_none_iff_exists'.1 htakes
    exact hstuck hwish ⟨t, ht⟩

/-! ## The schedule is one of the runs -/

/-- What happens from outside just before a connection. -/
def interruption (env : Surroundings) : Option RemoteTarget → List FleetEvent
  | none => []
  | some target =>
    match env.interrupt with
    | some (token, isFatal) => if isFatal target then [.cancel token] else []
    | none => []

theorem allows_interruption (env : Surroundings) (target? : Option RemoteTarget) :
    env.Allows (interruption env target?) := by
  cases target? with
  | none => exact .nil env
  | some target =>
    rw [interruption]
    split
    · next token isFatal hinterrupt =>
      split
      · exact ⟨by simp, by simp [hinterrupt], by simp⟩
      · exact .nil env
    · exact .nil env

theorem follow_interruption (m : FleetMove) :
    s.follow c ws o (interruption env (s.connectsTo? m)) = some (s.interrupted env m) := by
  unfold interrupted
  cases s.connectsTo? m with
  | none => rfl
  | some target =>
    rw [interruption]
    split
    · next token isFatal hinterrupt =>
      simp only [Surroundings.meet, hinterrupt]
      split <;> rfl
    · next hnone => simp [Surroundings.meet, hnone, follow]

/-- A move of the schedule, with what happens just before it. -/
theorem follow_interruption_move {m : FleetMove}
    (h : (s.interrupted env m).move c ws o m = some t) :
    s.follow c ws o (interruption env (s.connectsTo? m) ++ [.move m]) = some t := by
  refine follow_trans (follow_interruption m) ?_
  simp only [follow, step, h, Option.bind_some]

theorem next_follows (h : s.next c ws o env line = some (line', t)) :
    ∃ events, s.follow c ws o events = some t ∧ env.Allows events := by
  obtain ⟨⟨m, base⟩, hwish, hm⟩ := List.exists_of_findSome?_eq_some h
  obtain ⟨u, hu, heq⟩ := Option.map_eq_some_iff.1 hm
  cases heq
  exact ⟨_, follow_interruption_move hu, (allows_interruption env _).append (wishes_spec hwish).1⟩

theorem play_of_next_eq_none (h : s.next c ws o env line = none) : s.play c ws o env line = s := by
  rw [play]
  split
  · rfl
  · next hsome => simp [h] at hsome

theorem play_of_next (h : s.next c ws o env line = some (line', t)) :
    s.play c ws o env line = t.play c ws o env line' := by
  rw [play]
  split
  · next hnone => simp [h] at hnone
  · next line'' t' hsome =>
    rw [h] at hsome
    cases hsome
    rfl

/-- What has been played when a schedule stops: some events, to the end of the run, after which the
receiver has taken everything. -/
structure Played (c : Connector Net Session) (ws : Workstation Desk File) (o : FleetOrders)
    (env : Surroundings) (s : FleetRun Net Session Desk File) (events : List FleetEvent)
    (t : FleetRun Net Session Desk File) : Prop where
  follows : s.follow c ws o events = some t
  allows : env.Allows events
  isOver : t.duty.isOver = true
  taken : t.receive = none

/-- A schedule that begins in order plays a run to its end. -/
theorem Paced.exists_played (h : Paced line s) :
    ∃ events, Played c ws o env s events (s.play c ws o env line) := by
  induction line, s using play.induct c ws o env with
  | case1 line s hnext =>
    obtain ⟨hover, htaken⟩ := over_of_next_eq_none h hnext
    rw [play_of_next_eq_none hnext]
    exact ⟨[], rfl, .nil env, hover, htaken⟩
  | case2 line s line' t hnext ih =>
    obtain ⟨first, hfirst, hallows⟩ := next_follows hnext
    obtain ⟨rest, hrest⟩ := ih (h.next hnext)
    rw [play_of_next hnext]
    exact ⟨first ++ rest, follow_trans hfirst hrest.follows, hallows.append hrest.allows,
      hrest.isOver, hrest.taken⟩

/-- The schedule, if it comes to its end within a number of moves. -/
def playWithin (c : Connector Net Session) (ws : Workstation Desk File) (o : FleetOrders)
    (env : Surroundings) : Nat → Timeline → FleetRun Net Session Desk File →
    Option (FleetRun Net Session Desk File)
  | 0, _, _ => none
  | moves + 1, line, s =>
    match s.next c ws o env line with
    | none => some s
    | some (line, t) => playWithin c ws o env moves line t

theorem play_of_playWithin {moves : Nat} (h : playWithin c ws o env moves line s = some t) :
    s.play c ws o env line = t := by
  induction moves generalizing line s with
  | zero => cases h
  | succ moves ih =>
    rw [playWithin] at h
    split at h
    · next hnone =>
      cases h
      exact play_of_next_eq_none hnone
    · next line' u hsome =>
      rw [play_of_next hsome]
      exact ih h

end FleetRun

/-! ## Dispatchers -/

namespace Dispatcher

variable {Net Session Desk File : Type} (d : Dispatcher Net Session Desk File) (env : Surroundings)
  {roster : HostRoster} {plan : FleetPlan} {o : FleetOrders} (flags : CancelFlags)
  (world : World Net Desk)

/-- A dispatcher's run is played to its end, and the outcome is that of its last state. -/
theorem run_follows (h : d.orders roster plan d.token = .ok o) :
    ∃ events s, FleetRun.Played d.connector d.workstation o env
        (FleetRun.initial o flags world none) events s ∧
      d.run env roster plan flags world = (s.outcome o, s.flags, s.world) := by
  obtain ⟨events, hplayed⟩ := (FleetRun.paced_begin
    (FleetRun.initial o flags world none)).exists_played (c := d.connector)
  exact ⟨events, _, hplayed, by simp only [run, h]⟩

/-- What is streamed, with a token and flags of its own, is a run that is played to its end: what
the dispatcher gives is the last state of it. -/
def Streams (roster : HostRoster) (plan : FleetPlan) (o : FleetOrders) (flags : CancelFlags)
    (world : World Net Desk) : Prop :=
  ∀ (env : Surroundings) (parent : CancelFlags), parent.childOf d.token = (o.token, flags) →
    ∃ events s, FleetRun.Played d.connector d.workstation o env
        (FleetRun.initial o flags world (some {})) events s ∧
      d.stream env roster plan parent world = .ok s

theorem streams_of_orders {token : CancelToken} (h : d.orders roster plan token = .ok o) :
    d.Streams roster plan o flags world := by
  intro env parent hchild
  have htoken : token = o.token := by
    obtain ⟨targets, _, rfl⟩ := Text.map_eq_ok_iff.1 h
    rfl
  obtain ⟨events, hplayed⟩ := (FleetRun.paced_begin
    (FleetRun.initial o flags world (some {}))).exists_played (c := d.connector)
  refine ⟨events, _, hplayed, ?_⟩
  simp only [stream, hchild, ← htoken, h]
  rfl

end Dispatcher

end RemoteFleet
