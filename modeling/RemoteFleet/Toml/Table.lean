import RemoteFleet.Toml.Value

/-!
# Filling tables

A document fills its tables from the top.  A header names a table for the first and only time,
unless it only stood on the way to others so far; double brackets add a table to a list; a key may
be dotted, and then goes through tables that dotted keys alone have made.
-/

namespace RemoteFleet.Toml

/-- The table with a new value under a name. -/
def replaceMember (name : String) (v : Value) : Members → Members
  | [] => []
  | (n, w) :: members =>
    if n = name then (n, v) :: members else (n, w) :: replaceMember name v members

/-- The table without a name. -/
def eraseMember (name : String) (members : Members) : Members := members.filter (·.1 ≠ name)

/-- Changes the table that a path leads to.  Tables that are missing on the way are made.  A table
of a header is closed to the path of a key. -/
def changeAt (byKey : Bool) (change : TableKind → Members → Option Members) :
    (path : List String) → (kind : TableKind) → Members → Option Members
  | [], kind, members => change kind members
  | name :: path, _, members =>
    match members.lookup name with
    | none => do
      let kind := if byKey then TableKind.dotted else TableKind.implied
      let inner ← changeAt byKey change path kind []
      return members ++ [(name, .table kind inner)]
    | some (.table kind inner) =>
      if kind = .inline ∨ (byKey ∧ kind = .headed) then none
      else do
        let inner ← changeAt byKey change path kind inner
        return replaceMember name (.table kind inner) members
    | some (.tables elements) =>
      match elements.getLast? with
      | none => none
      | some last => do
        let inner ← changeAt byKey change path .headed last
        return replaceMember name (.tables (elements.dropLast ++ [inner])) members
    | some _ => none

/-- Gives the last name of a dotted key its value.  The table it goes into must have been made by a
dotted key as well, or be the one that is being filled. -/
def putKey (path : List String) (name : String) (v : Value) (kind : TableKind) (members : Members) :
    Option Members :=
  changeAt true (fun kind members =>
    if kind = .dotted ↔ path = [] then none
    else if (members.lookup name).isSome then none
    else some (members ++ [(name, v)])) path kind members

/-- Opens the table of a header in its parent.  If it only stood on the way to others so far, it
moves to the end. -/
def openTable (name : String) (members : Members) : Option Members :=
  match members.lookup name with
  | none => some (members ++ [(name, .table .headed [])])
  | some (.table .implied inner) =>
    some (eraseMember name members ++ [(name, .table .headed inner)])
  | some _ => none

/-- Adds a table to a list of tables in its parent. -/
def addTable (name : String) (members : Members) : Option Members :=
  match members.lookup name with
  | none => some (members ++ [(name, .tables [[]])])
  | some (.tables elements) => some (replaceMember name (.tables (elements ++ [[]])) members)
  | some _ => none

end RemoteFleet.Toml
