/-!
# Cancel tokens

Every token has a flag of its own.  A token is cancelled when its own flag is raised, or that of a
token it descends from; so a cancel reaches every descendant and nothing else.  A token is the
number of its flag together with the numbers of its ancestors' flags, and `CancelFlags` says which
flags are raised.
-/

namespace RemoteFleet

/-- A token: its own flag, and the flags of its ancestors. -/
structure CancelToken where
  flag : Nat
  ancestors : List Nat
  deriving DecidableEq

/-- The flags handed out so far, and those raised. -/
structure CancelFlags where
  count : Nat
  raised : List Nat
  deriving DecidableEq

namespace CancelFlags

/-- No flag is handed out. -/
def initial : CancelFlags := ⟨0, []⟩

/-- A token without ancestors. -/
def newToken (f : CancelFlags) : CancelToken × CancelFlags :=
  (⟨f.count, []⟩, ⟨f.count + 1, f.raised⟩)

/-- A token that descends from `t`. -/
def childOf (t : CancelToken) (f : CancelFlags) : CancelToken × CancelFlags :=
  (⟨f.count, t.flag :: t.ancestors⟩, ⟨f.count + 1, f.raised⟩)

/-- Raises the flag of a token. -/
def cancel (t : CancelToken) (f : CancelFlags) : CancelFlags := ⟨f.count, t.flag :: f.raised⟩

/-- Whether a token is cancelled. -/
def isCancelled (f : CancelFlags) (t : CancelToken) : Bool :=
  (t.flag :: t.ancestors).any f.raised.contains

end CancelFlags

/-! ## Sequences of operations -/

/-- An operation on the tokens made so far, which are numbered from 0. -/
inductive CancelStep where
  | new
  | child (token : Nat)
  | clone (token : Nat)
  | cancel (token : Nat)
  deriving DecidableEq

/-- The tokens made so far and their flags. -/
structure CancelState where
  tokens : List CancelToken
  flags : CancelFlags
  deriving DecidableEq

namespace CancelState

/-- One token, not cancelled. -/
def initial : CancelState := ⟨[⟨0, []⟩], ⟨1, []⟩⟩

/-- Takes one step.  A step on a token that does not exist does nothing. -/
def step (s : CancelState) : CancelStep → CancelState
  | .new =>
    let (t, flags) := s.flags.newToken
    ⟨s.tokens ++ [t], flags⟩
  | .child i =>
    match s.tokens[i]? with
    | none => s
    | some t =>
      let (t, flags) := s.flags.childOf t
      ⟨s.tokens ++ [t], flags⟩
  | .clone i =>
    match s.tokens[i]? with
    | none => s
    | some t => ⟨s.tokens ++ [t], s.flags⟩
  | .cancel i =>
    match s.tokens[i]? with
    | none => s
    | some t => ⟨s.tokens, s.flags.cancel t⟩

/-- Whether each of the tokens is cancelled. -/
def cancelled (s : CancelState) : List Bool := s.tokens.map s.flags.isCancelled

end CancelState

end RemoteFleet
