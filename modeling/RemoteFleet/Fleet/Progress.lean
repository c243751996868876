import RemoteFleet.Fleet.Run

/-!
# Progress

Every move brings a run nearer to its end.  `work` counts what is left to do, chunks of output
aside; a move lowers it, or keeps it and lowers `backlog`, the number of chunks and results that
are still to be taken.  So no order of moves goes on for ever.
-/

namespace RemoteFleet

/-! ## Errands -/

namespace Stage

variable {Net Session Desk File : Type}

/-- How many steps are left, chunks aside. -/
def steps : Stage Session File → Nat
  | .waiting => 7
  | .connecting _ => 6
  | .connected _ _ => 5
  | .ready _ _ _ => 4
  | .listening _ _ _ _ => 3
  | .closing _ _ _ => 2
  | .settling _ _ => 1
  | .done _ => 0
  | .dead => 0

/-- A step lowers the number of steps, or takes a chunk. -/
theorem advance_lowers (c : Connector Net Session) (ws : Workstation Desk File) (e : Errand)
    (stage : Stage Session File) (w : World Net Desk) (h : stage.isOver = false) :
    (stage.advance c ws e w).1.steps < stage.steps ∨
      (stage.advance c ws e w).1.steps = stage.steps ∧
        (stage.advance c ws e w).1.pending.length < stage.pending.length := by
  cases stage with
  | waiting => left; simp [advance, Errand.begin, steps]
  | connecting start =>
    left
    simp only [advance, Errand.connect]
    split <;> simp [steps, Errand.report]
  | connected start session =>
    left
    simp only [advance, Errand.openCapture]
    split
    · simp [steps]
    · split <;> simp [steps]
  | ready start session capture => left; simp [advance, Errand.run, steps]
  | listening start session capture transcript =>
    simp only [advance, Errand.listen]
    split
    · left; simp [steps]
    · next chunk chunks hc => right; simp [steps, pending, hc]
  | closing start session aftermath => left; simp [advance, Errand.close, steps]
  | settling start aftermath =>
    left
    simp only [advance, Errand.settle]
    split <;> simp [steps, Errand.report]
  | done result => simp [isOver] at h
  | dead => simp [isOver] at h

end Stage

/-! ## Runs -/

section Runs

variable {Net Session Desk File : Type}

/-- How many moves are left for the coordinator. -/
def Duty.work : Duty Session File → Nat
  | .announce => 12
  | .manage => 11
  | .sendWorker _ => 12
  | .lead _ stage => stage.steps + 3
  | .sendLeader _ => 2
  | .report => 1
  | .finished _ => 0
  | .crashed => 0

/-- The chunks that the leader has still to take. -/
def Duty.backlog : Duty Session File → Nat
  | .lead _ stage => stage.pending.length
  | _ => 0

def ResultStream.work (stream : ResultStream) : Nat := if stream.isOpen then 1 else 0

namespace FleetRun

/-- The sum of a count over tasks. -/
def total (count : Stage Session File → Nat) : List (Task Session File) → Nat
  | [] => 0
  | task :: tasks => count task.stage + total count tasks

theorem total_append (count : Stage Session File → Nat) (tasks rest : List (Task Session File)) :
    total count (tasks ++ rest) = total count tasks + total count rest := by
  induction tasks with
  | nil => simp [total]
  | cons task tasks ih => simp only [List.cons_append, total, ih]; omega

/-- What is left to do, chunks and received results aside. -/
def work (s : FleetRun Net Session Desk File) : Nat :=
  s.duty.work + 20 * s.waiting.length + total (·.steps + 5) s.tasks
    + 4 * s.ended.length + (s.stream.map ResultStream.work).getD 0

/-- The chunks and the results that are still to be taken. -/
def backlog (s : FleetRun Net Session Desk File) : Nat :=
  s.duty.backlog + total (·.pending.length) s.tasks
    + (s.stream.map (·.queue.length)).getD 0

/-- A run that is nearer to its end. -/
def Nearer (t s : FleetRun Net Session Desk File) : Prop :=
  t.work < s.work ∨ t.work = s.work ∧ t.backlog < s.backlog

variable {c : Connector Net Session} {ws : Workstation Desk File} {o : FleetOrders}
  {s t : FleetRun Net Session Desk File}

/-- Sending changes what is left to do only in the stream, and no more there than a result. -/
theorem send_parts {result : RunResult} (h : s.send ws o result = some t) :
    t.duty = s.duty ∧ t.waiting = s.waiting ∧ t.tasks = s.tasks ∧ t.ended = s.ended ∧
      t.stream.map ResultStream.work = s.stream.map ResultStream.work := by
  unfold send at h
  split at h
  · cases h; simp
  · next stream hs =>
    split at h
    · next ho =>
      split at h
      · cases h; simp [hs, ResultStream.work]
      · cases h
    · split at h
      · cases h; simp [hs]
      · cases h; simp [hs, note]

theorem join_work_lt (h : s.join ws = some t) (hd : s.duty = .manage) : t.work < s.work := by
  unfold join at h
  split at h
  · cases h
  · next he => cases h; simp only [work, note, hd, he, List.length_cons]; omega
  · next he =>
    cases h; simp only [work, hd, he, List.length_cons, Duty.work]; omega

theorem start_work_lt {slot : Nat} {target : RemoteTarget} {waiting : List (Nat × RemoteTarget)}
    (hw : s.waiting = (slot, target) :: waiting) (hd : s.duty = .manage) :
    (s.start ws o slot target waiting).work < s.work := by
  unfold start
  split
  · simp only [work, hd, hw, List.length_cons, Duty.work]; omega
  · have hnew : (Stage.waiting : Stage Session File).steps = 7 := rfl
    simp only [work, hd, hw, total_append, total, hnew, List.length_cons, Duty.work]; omega

theorem endWorkers_work_lt (hd : s.duty = .manage) : (s.endWorkers ws o).work < s.work := by
  simp only [endWorkers]
  split
  · simp only [work, hd, Duty.work]; omega
  · simp only [startLeader]
    split
    · simp only [settleLeader, work, hd, Duty.work]; omega
    · split
      · simp only [settleLeader, note, work, hd, Duty.work]; omega
      · simp only [work, hd, Duty.work, Stage.steps]; omega

theorem advanceLeader_nearer {errand : Errand} {stage : Stage Session File}
    (hd : s.duty = .lead errand stage) : (s.advanceLeader c ws errand stage).Nearer s := by
  have hl := stage.advance_lowers c ws errand s.world
  simp only [advanceLeader]
  split
  · left; simp only [settleLeader, work, hd, Duty.work]; omega
  · left; simp only [work, hd, Duty.work]; omega
  · next r hdone hdead =>
    cases hover : stage.isOver with
    | false =>
      rcases hl hover with hlt | ⟨heq, hlt⟩
      · left; simp only [work, hd, Duty.work]; omega
      · right
        exact ⟨by simp only [work, hd, Duty.work]; omega,
          by simp only [backlog, hd, Duty.backlog]; omega⟩
    | true =>
      cases stage with
      | done result => exact absurd rfl (hdone result)
      | dead => exact absurd rfl hdead
      | _ => simp [Stage.isOver] at hover

theorem coordinate_nearer (h : s.coordinate c ws o = some t) : t.Nearer s := by
  unfold coordinate at h
  split at h
  · next hd => cases h; left; simp only [work, note, hd, Duty.work]; omega
  · next hd =>
    split at h
    · exact Or.inl (join_work_lt h hd)
    · split at h
      · cases h; exact Or.inl (endWorkers_work_lt hd)
      · next hw => cases h; exact Or.inl (start_work_lt hw hd)
  · next hd =>
    obtain ⟨u, hu, rfl⟩ := Option.map_eq_some_iff.1 h
    obtain ⟨_, hwait, htasks, hended, hstream⟩ := send_parts hu
    left; simp only [work, hd, hwait, htasks, hended, hstream, Duty.work]; omega
  · next hd => cases h; exact advanceLeader_nearer hd
  · next hd =>
    obtain ⟨u, hu, rfl⟩ := Option.map_eq_some_iff.1 h
    obtain ⟨_, hwait, htasks, hended, hstream⟩ := send_parts hu
    left; simp only [work, hd, hwait, htasks, hended, hstream, Duty.work]; omega
  · next hd => cases h; left; simp only [finish, note, work, hd, Duty.work]; omega
  · cases h
  · cases h

theorem advance_nearer {slot : Nat} (h : s.advance c ws slot = some t) : t.Nearer s := by
  unfold advance at h
  split at h
  · cases h
  · next before task after hcut =>
    obtain ⟨htasks, _⟩ := Task.eq_of_cutAt? hcut
    have hl := task.stage.advance_lowers c ws task.errand s.world
    rcases hadvance : task.stage.advance c ws task.errand s.world with ⟨stage, world⟩
    rw [hadvance] at h hl
    simp only at h hl
    split at h
    · cases h
      left
      simp only [work, htasks, total_append, total,
        List.length_append, List.length_cons, List.length_nil]
      omega
    · next hover =>
      cases h
      cases hbefore : task.stage.isOver with
      | true =>
        cases hs : task.stage <;> rw [hs] at hbefore hadvance <;> simp [Stage.isOver] at hbefore
          <;> cases hadvance <;> simp [Stage.isOver] at hover
      | false =>
        rcases hl hbefore with hlt | ⟨heq, hlt⟩
        · left
          simp only [work, htasks, total_append, total]
          omega
        · right
          constructor
          · simp only [work, htasks, total_append, total]
            omega
          · simp only [backlog, htasks, total_append, total]
            omega

theorem die_nearer {slot : Nat} (h : s.die c slot = some t) : t.Nearer s := by
  unfold die at h
  split at h
  · cases h
  · next before task after hcut =>
    obtain ⟨htasks, _⟩ := Task.eq_of_cutAt? hcut
    cases h
    left
    simp only [work, htasks, total_append, total,
      List.length_append, List.length_cons, List.length_nil]
    omega

theorem receive_nearer (h : s.receive = some t) : t.Nearer s := by
  unfold receive at h
  split at h
  · next hs =>
    cases h
    right
    constructor
    · simp [work, hs, ResultStream.work]
    · simp [backlog, hs]
  · cases h

theorem dropReceiver_nearer (h : s.dropReceiver = some t) : t.Nearer s := by
  unfold dropReceiver at h
  split at h
  · next hs => cases h; left; simp [work, hs, ResultStream.work]
  · cases h

/-- Every move brings a run nearer to its end. -/
theorem move_nearer {m : FleetMove} (h : s.move c ws o m = some t) : t.Nearer s := by
  cases m with
  | coordinate => exact coordinate_nearer h
  | advance slot => exact advance_nearer h
  | die slot => exact die_nearer h
  | receive => exact receive_nearer h
  | dropReceiver => exact dropReceiver_nearer h

end FleetRun

end Runs

end RemoteFleet
