/-!
# Sets of roster indices

A set is the ascending list of its members, so equal sets are equal values and a set is written in
one way only.  `insert` keeps the order, and `mem_ofList` says that building a set from a list
changes neither its members nor anything else that shows.
-/

namespace RemoteFleet

/-- A finite set of indices, kept as a strictly ascending list. -/
structure IndexSet where
  toList : List UInt32
  ascending : toList.Pairwise (· < ·)
  deriving DecidableEq

namespace IndexSet

/-- Puts `i` into its place in an ascending list, unless it is there. -/
def insertInto (i : UInt32) : List UInt32 → List UInt32
  | [] => [i]
  | j :: s => if i < j then i :: j :: s else if i = j then j :: s else j :: insertInto i s

theorem mem_insertInto {i j : UInt32} {s : List UInt32} :
    j ∈ insertInto i s ↔ j = i ∨ j ∈ s := by
  induction s with
  | nil => simp [insertInto]
  | cons k s ih =>
    simp only [insertInto]
    split
    · simp
    · split
      · next h => subst h; simp
      · simp only [List.mem_cons, ih]
        exact or_left_comm

theorem ascending_insertInto {i : UInt32} {s : List UInt32} (h : s.Pairwise (· < ·)) :
    (insertInto i s).Pairwise (· < ·) := by
  induction s with
  | nil => simp [insertInto]
  | cons k s ih =>
    obtain ⟨hk, hs⟩ := List.pairwise_cons.1 h
    simp only [insertInto]
    split
    · next hik =>
      refine List.pairwise_cons.2 ⟨fun j hj => ?_, h⟩
      rcases List.mem_cons.1 hj with rfl | hj
      · exact hik
      · exact UInt32.lt_trans hik (hk j hj)
    · split
      · exact h
      · next hik hne =>
        refine List.pairwise_cons.2 ⟨fun j hj => ?_, ih hs⟩
        rcases mem_insertInto.1 hj with rfl | hj
        · exact UInt32.lt_of_le_of_ne (UInt32.not_lt.1 hik) (Ne.symm hne)
        · exact hk j hj

/-- The set without members. -/
def empty : IndexSet := ⟨[], List.Pairwise.nil⟩

/-- The set with `i` put in. -/
def insert (i : UInt32) (s : IndexSet) : IndexSet :=
  ⟨insertInto i s.toList, ascending_insertInto s.ascending⟩

/-- The set of the members of a list. -/
def ofList (l : List UInt32) : IndexSet := l.foldr insert empty

instance : Membership UInt32 IndexSet := ⟨fun s i => i ∈ s.toList⟩

/-- Whether `i` is a member. -/
def contains (s : IndexSet) (i : UInt32) : Bool := s.toList.contains i

theorem contains_iff {s : IndexSet} {i : UInt32} : s.contains i = true ↔ i ∈ s := by
  simp [contains, Membership.mem]

theorem mem_ofList {i : UInt32} {l : List UInt32} : i ∈ ofList l ↔ i ∈ l := by
  induction l with
  | nil => simp [ofList, empty, Membership.mem]
  | cons j l ih =>
    have h : i ∈ ofList (j :: l) ↔ i = j ∨ i ∈ ofList l := mem_insertInto
    rw [h, ih, List.mem_cons]

end IndexSet

end RemoteFleet
