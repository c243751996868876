import RemoteFleet.Selection.Parser
import RemoteFleet.Toml.Value

/-!
# Reading typed values from TOML

A record stands as a table, or as an array of its fields in order.  The parts that are there are
read in the order in which they stand, and what is missing is looked for after that; so of two
misfits the earlier one is reported.  Names that the record does not know are passed over.
-/

namespace RemoteFleet.Toml

/-- Why a document does not say what was wanted. -/
inductive Misfit where
  | missingField (name : String)
  /-- An array has no element for a field. -/
  | missingElement (position : Nat) (wanted : String)
  | wrongType (found wanted : String)
  | outOfRange (value : Int) (wanted : String)
  | selection (input : String) (fault : Selection.Fault)
  deriving DecidableEq

def Misfit.message : Misfit → String
  | .missingField name => "missing field \x60" ++ name ++ "\x60"
  | .missingElement position wanted =>
    "invalid length " ++ Text.decimalString position ++ ", expected " ++ wanted
  | .wrongType found wanted => "invalid type: " ++ found ++ ", expected " ++ wanted
  | .outOfRange value wanted =>
    "invalid value: integer \x60" ++ Text.integerString value ++ "\x60, expected " ++ wanted
  | .selection input fault =>
    "invalid selection " ++ Text.quoteString input ++ ": " ++ fault.message

/-- What reads a value as something of a type. -/
abbrev Decoder (α : Type) := Value → Except Misfit α

namespace Decoder

def text (wanted : String) : Decoder String
  | .string s => .ok s
  | v => .error (.wrongType v.found wanted)

def string : Decoder String := text "a string"

def path : Decoder String := text "path string"

/-- A whole number from 0 to `limit`. -/
def natural (limit : Nat) (wanted : String) : Decoder Nat
  | .integer n => if 0 ≤ n ∧ n ≤ limit then .ok n.toNat else .error (.outOfRange n wanted)
  | v => .error (.wrongType v.found wanted)

def uint16 : Decoder UInt16 := fun v => (natural 0xFFFF "u16" v).map Nat.toUInt16

def uint32 : Decoder UInt32 := fun v => (natural 0xFFFFFFFF "u32" v).map Nat.toUInt32

def uint64 : Decoder UInt64 := fun v => (natural 0xFFFFFFFFFFFFFFFF "u64" v).map Nat.toUInt64

/-- A number of things, which the machine can count with 64 bits. -/
def count : Decoder Nat := natural 0xFFFFFFFFFFFFFFFF "usize"

def selection : Decoder Selection := fun v => do
  let input ← string v
  match Selection.parse input with
  | .ok s => return s
  | .error fault => throw (.selection input fault)

def list (element : Decoder α) : Decoder (List α)
  | .array values => values.mapM element
  | .tables elements => elements.mapM fun members => element (.table .headed members)
  | v => .error (.wrongType v.found "a sequence")

/-- The name under which a date stands when a table is wanted. -/
def datetimeKey : String := "$__toml_private_datetime"

/-- The values under all names of a table. -/
def entries (element : Decoder α) : Decoder (List (String × α))
  | .table _ members => members.mapM fun (name, v) => (element v).map (name, ·)
  | .datetime text => (element (.string text)).map fun a => [(datetimeKey, a)]
  | v => .error (.wrongType v.found "a map")

end Decoder

/-! ## Records -/

/-- A kind of record: its name in messages, and the names of its fields in order. -/
structure RecordShape where
  name : String
  fields : List String

/-- The parts of a record that are there. -/
structure Parts where
  byName : Bool
  members : Members

/-- The parts of a record in a value. -/
def RecordShape.parts (shape : RecordShape) : Value → Except Misfit Parts
  | .table _ members => .ok ⟨true, members⟩
  | .datetime text => .ok ⟨true, [(Decoder.datetimeKey, .string text)]⟩
  | .array values => .ok ⟨false, shape.fields.zip values⟩
  | .tables elements => .ok ⟨false, shape.fields.zip (elements.map (.table .headed))⟩
  | v => .error (.wrongType v.found ("struct " ++ shape.name))

/-- The misfit of a record without a field that it must have. -/
def RecordShape.missing (shape : RecordShape) (parts : Parts) (field : String) : Misfit :=
  if parts.byName then .missingField field
  else
    .missingElement (shape.fields.idxOf field)
      ("struct " ++ shape.name ++ " with " ++ Text.decimalString shape.fields.length ++ " elements")

/-- Reads a record: `part` takes one part in, and `finish` looks for what is missing. -/
def RecordShape.decode (shape : RecordShape) (start : ρ)
    (part : String → Value → ρ → Except Misfit ρ)
    (finish : (missing : String → Misfit) → ρ → Except Misfit α) : Decoder α := fun v => do
  let parts ← shape.parts v
  let draft ← parts.members.foldlM (fun draft (name, v) => part name v draft) start
  finish (shape.missing parts) draft

/-- A field that must be there. -/
def required (missing : String → Misfit) (name : String) : Option α → Except Misfit α
  | some a => .ok a
  | none => .error (missing name)

end RemoteFleet.Toml
