import RemoteFleet.Selection.IndexSet

/-!
# Selections

A selection is a predicate on roster indices.  It never looks at addresses.
-/

namespace RemoteFleet

/-- One end of a range of indices. -/
inductive Bound where
  | unbounded
  | included (index : UInt32)
  | excluded (index : UInt32)
  deriving DecidableEq

/-- Whether `i` is not below the lower end. -/
def Bound.allowsFrom : Bound → UInt32 → Bool
  | .unbounded, _ => true
  | .included k, i => k ≤ i
  | .excluded k, i => k < i

/-- Whether `i` is not above the upper end. -/
def Bound.allowsUpTo : Bound → UInt32 → Bool
  | .unbounded, _ => true
  | .included k, i => i ≤ k
  | .excluded k, i => i < k

/-- Which indices of a roster are meant. -/
inductive Selection where
  | all
  | nothing
  | range (lower upper : Bound)
  | only (members : IndexSet)
  | except (members : IndexSet)
  deriving DecidableEq

namespace Selection

instance : Inhabited Selection := ⟨.all⟩

/-- Every index below `k`. -/
def below (k : UInt32) : Selection := .range .unbounded (.excluded k)

/-- Every index from `k` on. -/
def fromIndex (k : UInt32) : Selection := .range (.included k) .unbounded

/-- Whether the selection holds of an index. -/
def holds : Selection → UInt32 → Bool
  | .all, _ => true
  | .nothing, _ => false
  | .range lower upper, i => lower.allowsFrom i && upper.allowsUpTo i
  | .only s, i => s.contains i
  | .except s, i => !s.contains i

end Selection

end RemoteFleet
