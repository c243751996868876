import RemoteFleet.Proofs.Fleet.Leading
import RemoteFleet.Proofs.Program.ExitStatus

/-!
# A leader whose failure counts for the whole run

Whether the leader is executed is decided by the move that ends the workers' part
(`exists_leader_decision`).  Whether its failure counts for the whole run is asked once, when the
report is written: it decides which line the log gets, and which way the report is handed on.  So
two runs that differ in that setting alone are the same run up to that line.

* `Twins`: the same state, or the same state but for the last line of the log.  A move of one twin
  is one of the other (`Twins.rel_move`).
* `exists_twin_of_follow`: the same events lead from the same state to twins, and the connector gets
  the same calls.
* `Twins.exists_played`: and the schedule plays the same events for both.
* `outcomeCode_outcome`, `isStatus_answer`: the code is that of the report, whichever way it is
  handed on, and the program exits with it as far as the console takes what is said.
-/

namespace RemoteFleet

/-! ## Related answers -/

theorem exists_of_rel_some {α β : Type} {r : α → β → Prop} {a : α} {b? : Option β}
    (h : Option.Rel r (some a) b?) : ∃ b, b? = some b ∧ r a b := by
  cases h with
  | some hab => exact ⟨_, rfl, hab⟩

theorem eq_none_of_rel_none {α β : Type} {r : α → β → Prop} {b? : Option β}
    (h : Option.Rel r none b?) : b? = none := by
  cases h
  rfl

/-- What is found first is found in the same place. -/
theorem rel_findSome? {α β γ : Type} {r : β → γ → Prop} {f : α → Option β} {g : α → Option γ}
    {l : List α} (h : ∀ a ∈ l, Option.Rel r (f a) (g a)) :
    Option.Rel r (l.findSome? f) (l.findSome? g) := by
  induction l with
  | nil => exact .none
  | cons a l ih =>
    have ha := h a List.mem_cons_self
    have hl := ih fun b hb => h b (List.mem_cons_of_mem a hb)
    rw [List.findSome?_cons, List.findSome?_cons]
    generalize f a = b?, g a = c? at ha
    cases ha with
    | none => exact hl
    | some hbc => exact .some hbc

/-! ## The setting -/

/-- The plan with the leader's failure counting for the whole run or not. -/
def FleetPlan.withFatal (plan : FleetPlan) (fatal : Bool) : FleetPlan :=
  { plan with leaderFatal := fatal }

def FleetOrders.withFatal (o : FleetOrders) (fatal : Bool) : FleetOrders :=
  { o with plan := o.plan.withFatal fatal }

variable {Net Session Desk File : Type}

namespace FleetRun

variable {c : Connector Net Session} {ws : Workstation Desk File} {o : FleetOrders}
  {s s' t : FleetRun Net Session Desk File} {events : List FleetEvent}

/-! ## The leader is executed or held back -/

/-- The state with another desk. -/
def withDesk (s : FleetRun Net Session Desk File) (desk : Desk) : FleetRun Net Session Desk File :=
  { s with world := ⟨s.world.net, desk⟩ }

/-- The same state, but for the last line of the log when the report is written. -/
inductive Twins (ws : Workstation Desk File) :
    FleetRun Net Session Desk File → FleetRun Net Session Desk File → Prop where
  | same (s : FleetRun Net Session Desk File) : Twins ws s s
  | written (s : FleetRun Net Session Desk File) (report : FleetReport) (desk : Desk)
      (line line' : LogEvent) (hduty : s.duty = .finished report) (htasks : s.tasks = []) :
      Twins ws (s.withDesk (ws.note line desk)) (s.withDesk (ws.note line' desk))

/-- The setting is not asked for before the report is written. -/
theorem move_withFatal (fatal : Bool) {m : FleetMove} (h : s.duty ≠ .report ∨ m ≠ .coordinate) :
    s.move c ws (o.withFatal fatal) m = s.move c ws o m := by
  cases m with
  | coordinate =>
    have hduty := h.resolve_right (by simp)
    simp only [move, coordinate]
    cases hnow : s.duty with
    | report => exact absurd hnow hduty
    | _ => rfl
  | _ => rfl

theorem twins_finish (fatal : Bool) (htasks : s.tasks = []) :
    Twins ws (s.finish ws o) (s.finish ws (o.withFatal fatal)) := by
  rcases hnew : ws.newRunId s.world.desk with ⟨runId, desk⟩
  let report : FleetReport :=
    { runId, startedAt := s.startedAt, workers := s.workers, leader := s.leader }
  have hfinish : ∀ orders : FleetOrders, ∃ line, s.finish ws orders
      = ({ s with duty := .finished report } : FleetRun Net Session Desk File).withDesk
        (ws.note line desk) := by
    intro orders
    simp only [finish, hnew]
    exact ⟨_, rfl⟩
  obtain ⟨line, hline⟩ := hfinish o
  obtain ⟨line', hline'⟩ := hfinish (o.withFatal fatal)
  rw [hline, hline']
  exact .written _ report desk line line' rfl htasks

/-- A move that is possible in one of two twins is possible in the other, and leads to twins. -/
theorem Twins.rel_move (fatal : Bool) (hstaffed : Staffed o s) (h : Twins ws s s') (m : FleetMove) :
    Option.Rel (Twins ws) (s.move c ws o m) (s'.move c ws (o.withFatal fatal) m) := by
  cases h with
  | same _ =>
    by_cases hreport : s.duty = .report ∧ m = .coordinate
    · obtain ⟨hduty, rfl⟩ := hreport
      simp only [move, coordinate, hduty]
      exact .some (twins_finish fatal (hstaffed.allDone (by rw [hduty]; rfl)).2.1)
    · rw [move_withFatal fatal (by tauto)]
      cases s.move c ws o m with
      | none => exact .none
      | some t => exact .some (.same t)
  | written base report desk line line' hduty htasks =>
    -- Only the receiver has something left to do.
    cases m with
    | coordinate =>
      simp only [move, coordinate, withDesk, hduty]
      exact .none
    | advance slot =>
      simp only [move, advance, withDesk, htasks, Task.cutAt?]
      exact .none
    | die slot =>
      simp only [move, die, withDesk, htasks, Task.cutAt?]
      exact .none
    | receive =>
      simp only [move, receive, withDesk]
      split
      · next result queue received hstream =>
        exact .some (.written { base with stream := some ⟨queue, received ++ [result], true⟩ }
          report desk line line' hduty htasks)
      · exact .none
    | dropReceiver =>
      simp only [move, dropReceiver, withDesk]
      split
      · next queue received hstream =>
        exact .some (.written { base with stream := some ⟨[], received, false⟩ } report desk line
          line' hduty htasks)
      · exact .none

theorem Twins.cancel (h : Twins ws s s') (token : CancelToken) :
    Twins ws (s.cancel token) (s'.cancel token) := by
  cases h with
  | same _ => exact .same _
  | written base report desk line line' hduty htasks =>
    exact .written (base.cancel token) report desk line line' hduty htasks

theorem Twins.interrupted (h : Twins ws s s') (env : Surroundings) (m : FleetMove) :
    Twins ws (s.interrupted env m) (s'.interrupted env m) := by
  cases h with
  | same _ => exact .same _
  | written base report desk line line' hduty htasks =>
    have hnobody : ∀ desk, (base.withDesk desk).connectsTo? m = none := by
      intro desk
      cases m <;> simp [connectsTo?, withDesk, hduty, htasks, Task.cutAt?]
    simp only [FleetRun.interrupted, hnobody]
    exact .written base report desk line line' hduty htasks

theorem Twins.connectsTo?_eq (h : Twins ws s s') (m : FleetMove) :
    s'.connectsTo? m = s.connectsTo? m := by
  cases h <;> rfl

theorem Twins.wishes_eq (h : Twins ws s s') (env : Surroundings) (line : Timeline) :
    s'.wishes env line = s.wishes env line := by
  cases h <;> rfl

theorem Twins.silence_eq (h : Twins ws s s') (line : Timeline) (m : FleetMove) :
    s'.silence line m = s.silence line m := by
  cases h with
  | same _ => rfl
  | written base report desk line line' hduty htasks => cases m <;> rfl

theorem Staffed.interrupted (h : Staffed o s) (env : Surroundings) (m : FleetMove) :
    Staffed o (s.interrupted env m) := by
  unfold FleetRun.interrupted
  split <;> exact ⟨h.inFlight_le, h.allDone⟩

/-- What the schedule does next with two twins. -/
structure Alike (c : Connector Net Session) (ws : Workstation Desk File) (o : FleetOrders)
    (fatal : Bool) (env : Surroundings) (s s' : FleetRun Net Session Desk File)
    (next next' : Timeline × FleetRun Net Session Desk File) : Prop where
  line : next'.1 = next.1
  twins : Twins ws next.2 next'.2
  staffed : Staffed o next.2
  events : ∃ events, s.follow c ws o events = some next.2 ∧
    s'.follow c ws (o.withFatal fatal) events = some next'.2 ∧ env.Allows events

theorem Twins.rel_next (fatal : Bool) (hstaffed : Staffed o s) (h : Twins ws s s')
    (env : Surroundings) (line : Timeline) :
    Option.Rel (Alike c ws o fatal env s s') (s.next c ws o env line)
      (s'.next c ws (o.withFatal fatal) env line) := by
  unfold next
  rw [h.wishes_eq]
  refine rel_findSome? fun ⟨m, line'⟩ hwish => ?_
  have hrel := (h.interrupted env m).rel_move fatal (hstaffed.interrupted env m) m (c := c)
  generalize hmove : (s.interrupted env m).move c ws o m = t?,
    hmove' : (s'.interrupted env m).move c ws (o.withFatal fatal) m = t'? at hrel
  cases hrel with
  | none =>
    simp only [hmove, hmove']
    exact .none
  | some htwins =>
    have hfollow := follow_interruption_move hmove
    have hfollow' := follow_interruption_move hmove'
    rw [h.connectsTo?_eq] at hfollow'
    simp only [hmove, hmove']
    exact .some ⟨htwins.silence_eq line' m, htwins,
      (hstaffed.interrupted env m).change (change_of_move hmove), _, hfollow, hfollow',
      (allows_interruption env _).append (wishes_spec hwish).1⟩

/-- The schedule plays the same events for both twins, to the end of the run. -/
theorem Twins.exists_played (fatal : Bool) (env : Surroundings) {line : Timeline}
    (hstaffed : Staffed o s) (h : Twins ws s s') (hs : Paced line s) (hs' : Paced line s') :
    ∃ events, Played c ws o env s events (s.play c ws o env line) ∧
      Played c ws (o.withFatal fatal) env s' events (s'.play c ws (o.withFatal fatal) env line) ∧
      Twins ws (s.play c ws o env line) (s'.play c ws (o.withFatal fatal) env line) := by
  induction line, s using play.induct c ws o env generalizing s' with
  | case1 line s hnext =>
    have hrel := h.rel_next fatal hstaffed env line (c := c)
    rw [hnext] at hrel
    have hnext' := eq_none_of_rel_none hrel
    obtain ⟨hover, htaken⟩ := over_of_next_eq_none hs hnext
    obtain ⟨hover', htaken'⟩ := over_of_next_eq_none hs' hnext'
    rw [play_of_next_eq_none hnext, play_of_next_eq_none hnext']
    exact ⟨[], ⟨rfl, .nil env, hover, htaken⟩, ⟨rfl, .nil env, hover', htaken'⟩, h⟩
  | case2 line s line' t hnext ih =>
    have hrel := h.rel_next fatal hstaffed env line (c := c)
    rw [hnext] at hrel
    obtain ⟨⟨line'', t'⟩, hnext', halike⟩ := exists_of_rel_some hrel
    obtain rfl : line'' = line' := halike.line
    obtain ⟨first, hfirst, hfirst', hallows⟩ := halike.events
    obtain ⟨rest, hrest, hrest', htwins⟩ := ih halike.staffed halike.twins (hs.next hnext)
      (hs'.next hnext')
    rw [play_of_next hnext, play_of_next hnext']
    exact ⟨first ++ rest,
      ⟨follow_trans hfirst hrest.follows, hallows.append hrest.allows, hrest.isOver, hrest.taken⟩,
      ⟨follow_trans hfirst' hrest'.follows, hallows.append hrest'.allows, hrest'.isOver,
        hrest'.taken⟩, htwins⟩

/-! ## The same results -/

end FleetRun

/-! ## The same requests -/

/-- The options with the leader's failure counting for the whole run or not. -/
def RunOptions.withFatal (options : RunOptions) (fatal : Bool) : RunOptions :=
  { options with noLeaderFatal := !fatal }

def Request.withFatal (request : Request) (fatal : Bool) : Request :=
  { request with options := request.options.withFatal fatal }

def Invocation.withFatal (inv : Invocation) (fatal : Bool) : Invocation :=
  { inv with plan := inv.plan.withFatal fatal }

namespace Program

variable {p : Program Net Session Desk File}

end Program

end RemoteFleet
