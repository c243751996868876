import RemoteFleet.Json.Basic

/-!
# Reading typed values

A record stands as an object with a member for each field, or as an array of the fields in order.
Members of other names are passed over; an array must not be longer than the record.  A field is
required, or has a default for its absence, or is optional: then null stands for nothing, and in an
object so does absence.
-/

namespace RemoteFleet.Json

/-! ## Plain values -/

def string? : Json → Option String
  | .string s => some s
  | _ => none

/-- A whole number from 0 to `limit`. -/
def natural? (limit : Nat) : Json → Option Nat
  | .integer n => if 0 ≤ n ∧ n ≤ limit then some n.toNat else none
  | _ => none

def uint16? (j : Json) : Option UInt16 := (natural? 0xFFFF j).map Nat.toUInt16

def uint32? (j : Json) : Option UInt32 := (natural? 0xFFFFFFFF j).map Nat.toUInt32

def uint64? (j : Json) : Option UInt64 := (natural? 0xFFFFFFFFFFFFFFFF j).map Nat.toUInt64

def int32? : Json → Option Int32
  | .integer n => if -0x80000000 ≤ n ∧ n ≤ 0x7FFFFFFF then some (Int32.ofInt n) else none
  | _ => none

def list? (read : Json → Option α) : Json → Option (List α)
  | .array values => values.mapM read
  | _ => none

/-- Null, or a value. -/
def nullable? (read : Json → Option α) : Json → Option (Option α)
  | .null => some none
  | j => (read j).map some

/-- One of several names, as a string or as the only member of an object, over null. -/
def choice? (choices : List (String × α)) : Json → Option α
  | .string s => choices.lookup s
  | .object [(s, .null)] => choices.lookup s
  | _ => none

/-! ## Records -/

/-- The fields of a record that are there. -/
structure Fields where
  byName : Bool
  values : List (String × Json)

/-- The fields of a record with these names. -/
def fields? (names : List String) : Json → Option Fields
  | .object members => some ⟨true, members⟩
  | .array values => if values.length ≤ names.length then some ⟨false, names.zip values⟩ else none
  | _ => none

namespace Fields

def required (f : Fields) (name : String) (read : Json → Option α) : Option α :=
  f.values.lookup name >>= read

def withDefault (f : Fields) (name : String) (value : α) (read : Json → Option α) : Option α :=
  match f.values.lookup name with
  | none => some value
  | some j => read j

def optional (f : Fields) (name : String) (read : Json → Option α) : Option (Option α) :=
  match f.values.lookup name with
  | none => if f.byName then some none else none
  | some j => nullable? read j

end Fields

end RemoteFleet.Json
