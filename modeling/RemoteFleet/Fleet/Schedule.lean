import RemoteFleet.Fleet.Progress

/-!
# A schedule

One order of the moves of a run, as a single thread would take them.  The tasks that can go on do so
one after the other, each until its host is silent or its errand is over; then the coordinator does
all it can; when nobody can go on, the receiver takes all that was sent, and goes away as soon as it
has enough; and when there is nothing to take either, the clock moves on to the moment when the
first silence ends.
-/

namespace RemoteFleet

/-- Who may have to wait for a host. -/
inductive Actor where
  | leader
  | worker (slot : Nat)
  deriving DecidableEq

/-- What happens to a run from outside. -/
structure Surroundings where
  /-- A token, and the targets such that it is cancelled just before a connection to them. -/
  interrupt : Option (CancelToken × (RemoteTarget → Bool)) := none
  /-- After how many results the receiver goes away. -/
  limit : Option Nat := none

/-- The flags when a connection to a target begins. -/
def Surroundings.meet (env : Surroundings) (target : RemoteTarget) (flags : CancelFlags) :
    CancelFlags :=
  match env.interrupt with
  | some (token, isFatal) => if isFatal target then flags.cancel token else flags
  | none => flags

/-- Where a schedule stands. -/
structure Timeline where
  nowMs : Nat := 0
  /-- Until when the hosts of actors are silent. -/
  silent : List (Actor × Nat) := []
  /-- The tasks that are to go on before the coordinator does. -/
  turn : List Nat := []
  /-- Whether the receiver is taking results. -/
  isTaking : Bool := false
  deriving DecidableEq

namespace Timeline

/-- Whether an actor can go on. -/
def isAwake (line : Timeline) (actor : Actor) : Bool :=
  line.silent.all fun (who, until_) => who ≠ actor || until_ ≤ line.nowMs

/-- Makes an actor wait when its host falls silent. -/
def hush (line : Timeline) (actor : Actor) (ms : Nat) : Timeline :=
  if ms = 0 then line else { line with silent := (actor, line.nowMs + ms) :: line.silent }

/-- The moment when the first silence ends. -/
def nextWake? (line : Timeline) : Option Nat :=
  ((line.silent.map (·.2)).filter (line.nowMs < ·)).min?

end Timeline

namespace FleetRun

variable {Net Session Desk File : Type}

/-- The tasks that can go on. -/
def awake (s : FleetRun Net Session Desk File) (line : Timeline) : List Nat :=
  (s.tasks.map (·.slot)).filter fun slot => line.isAwake (.worker slot)

/-- Moves in order of preference, as far as no time has to pass. -/
def prompt (s : FleetRun Net Session Desk File) (line : Timeline) :
    List (FleetMove × Timeline) :=
  let awake := s.awake line
  let onTurn := line.turn.filter awake.contains
  let advance (slots : List Nat) : List (FleetMove × Timeline) :=
    slots.head?.toList.map fun slot => (.advance slot, { line with turn := slots })
  advance onTurn
    ++ (if line.isAwake .leader then [(.coordinate, { line with turn := [] })] else [])
    ++ advance awake

/-- Moves in order of preference.  The first that is possible is taken.  When time passes, the tasks
take their turns anew. -/
def wishes (s : FleetRun Net Session Desk File) (env : Surroundings) (line : Timeline) :
    List (FleetMove × Timeline) :=
  let rested := { line with isTaking := false }
  (if env.limit = some s.received.length then [(.dropReceiver, rested)] else [])
    ++ (if line.isTaking then [(.receive, line)] else [])
    ++ s.prompt rested
    ++ [(.receive, { line with isTaking := true })]
    ++ match line.nextWake? with
      | none => []
      | some ms => s.prompt { rested with nowMs := ms, turn := [] }

/-- The target that a move is about to connect to. -/
def connectsTo? (s : FleetRun Net Session Desk File) : FleetMove → Option RemoteTarget
  | .coordinate =>
    match s.duty with
    | .lead errand (.connecting _) => some errand.target
    | _ => none
  | .advance slot =>
    match Task.cutAt? slot s.tasks with
    | some (_, ⟨_, errand, .connecting _⟩, _) => some errand.target
    | _ => none
  | _ => none

/-- What happens just before a move. -/
def interrupted (s : FleetRun Net Session Desk File) (env : Surroundings) (m : FleetMove) :
    FleetRun Net Session Desk File :=
  match s.connectsTo? m with
  | some target => { s with flags := env.meet target s.flags }
  | none => s

/-- How long the host of a move's actor is silent after it. -/
def silence (s : FleetRun Net Session Desk File) (line : Timeline) : FleetMove → Timeline
  | .coordinate =>
    match s.duty with
    | .lead _ stage => line.hush .leader stage.silence
    | _ => line
  | .advance slot =>
    match Task.cutAt? slot s.tasks with
    | some (_, task, _) => line.hush (.worker slot) task.stage.silence
    | none => line
  | _ => line

section Play

variable (c : Connector Net Session) (ws : Workstation Desk File) (o : FleetOrders)
  (env : Surroundings)

/-- The next move of the schedule. -/
def next (line : Timeline) (s : FleetRun Net Session Desk File) :
    Option (Timeline × FleetRun Net Session Desk File) :=
  (s.wishes env line).findSome? fun (m, line) =>
    ((s.interrupted env m).move c ws o m).map fun t => (t.silence line m, t)

theorem interrupted_parts (s : FleetRun Net Session Desk File) (m : FleetMove) :
    (s.interrupted env m).work = s.work ∧ (s.interrupted env m).backlog = s.backlog := by
  unfold interrupted
  split <;> exact ⟨rfl, rfl⟩

theorem next_nearer {line line' : Timeline} {s t : FleetRun Net Session Desk File}
    (h : s.next c ws o env line = some (line', t)) : t.Nearer s := by
  obtain ⟨⟨m, l⟩, _, hm⟩ := List.exists_of_findSome?_eq_some h
  obtain ⟨u, hu, he⟩ := Option.map_eq_some_iff.1 hm
  cases he
  obtain ⟨hwork, hbacklog⟩ := s.interrupted_parts env m
  have hnear := move_nearer hu
  unfold Nearer at hnear ⊢
  omega

/-- Plays the schedule to its end. -/
def play (line : Timeline) (s : FleetRun Net Session Desk File) : FleetRun Net Session Desk File :=
  match _ : s.next c ws o env line with
  | none => s
  | some (line, t) => play line t
termination_by (s.work, s.backlog)
decreasing_by exact Prod.lex_def.2 (next_nearer c ws o env (by assumption))

end Play

end FleetRun

end RemoteFleet
