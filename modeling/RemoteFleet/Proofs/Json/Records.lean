import RemoteFleet.Json.Record
import RemoteFleet.Proofs.Json.Reading

/-!
# Typed values, written and read back

`Keeps read j a`: a typed reader takes `j` for `a`, and `j` itself comes back from its text.  So `a`
comes back from the text (`Keeps.compact`, `Keeps.pretty`).

A record is read name by name (`required_of_lookup`, `optional_of_lookup`).  A member that stands
only when it has a value (`memberOf`) is found under its own name and under no other, so what is
missing is read as nothing (`readMissing_map`).
-/

namespace RemoteFleet.Json

/-- A typed reader takes a JSON value for `a`, and the JSON value comes back from its text. -/
structure Keeps {α : Type} (read : Json → Option α) (j : Json) (a : α) : Prop where
  reads : read j = some a
  readable : j.Readable

/-- Reads a typed value from a text. -/
def decode? {α : Type} (read : Json → Option α) (text : String) : Option α :=
  (read? text.toList).bind read

variable {α β : Type} {read : Json → Option α} {write : β → Json} {a : α} {j : Json}

theorem Keeps.compact (h : Keeps read j a) : decode? read j.compact = some a := by
  rw [decode?, h.readable.read?_compact]
  exact h.reads

theorem Keeps.pretty (h : Keeps read j a) : decode? read j.pretty = some a := by
  rw [decode?, h.readable.read?_pretty]
  exact h.reads

/-! ## Plain values -/

theorem keeps_string (s : String) : Keeps string? (.string s) s := ⟨rfl, .string s⟩

theorem string_ne_null (s : String) : string s ≠ .null := nofun

theorem ofNat_ne_null (n : Nat) : ofNat n ≠ .null := nofun

/-- Natural numbers within 64 bits are written as integers. -/
theorem readable_ofNat {n : Nat} (h : n < 0x10000000000000000) : (ofNat n).Readable :=
  .integer n ⟨by omega, by omega⟩

theorem keeps_uint16 (n : UInt16) : Keeps uint16? (.ofNat n.toNat) n := by
  have hlt := n.toNat_lt
  refine ⟨?_, readable_ofNat (by omega)⟩
  simp [uint16?, natural?, ofNat]
  omega

theorem keeps_uint32 (n : UInt32) : Keeps uint32? (.ofNat n.toNat) n := by
  have hlt := n.toNat_lt
  refine ⟨?_, readable_ofNat (by omega)⟩
  simp [uint32?, natural?, ofNat]
  omega

theorem keeps_uint64 (n : UInt64) : Keeps uint64? (.ofNat n.toNat) n := by
  have hlt := n.toNat_lt
  refine ⟨?_, readable_ofNat (by omega)⟩
  simp [uint64?, natural?, ofNat]
  omega

theorem keeps_int32 (n : Int32) : Keeps int32? (.integer n.toInt) n := by
  have hlow := n.le_toInt
  have hhigh := n.toInt_lt
  refine ⟨?_, .integer _ ⟨by omega, by omega⟩⟩
  simp [int32?]
  omega

theorem keeps_list {f : β → α} {l : List β} (h : ∀ b ∈ l, Keeps read (write b) (f b)) :
    Keeps (list? read) (.array (l.map write)) (l.map f) := by
  refine ⟨?_, .array _ (List.forall_mem_map.2 fun b hb => (h b hb).readable)⟩
  rw [list?]
  induction l with
  | nil => rfl
  | cons b l ih =>
    obtain ⟨hb, hl⟩ := List.forall_mem_cons.1 h
    simp [hb.reads, ih hl]

theorem keeps_strings (l : List String) : Keeps (list? string?) (.ofStrings l) l := by
  have hlist := keeps_list (f := id) fun s (_ : s ∈ l) => keeps_string s
  rwa [List.map_id] at hlist

/-- What may be null comes back, if nothing but null is written as null. -/
theorem nullable?_of_keeps (h : Keeps read j a) (hnull : j ≠ .null) :
    nullable? read j = some (some a) := by
  rw [nullable?]
  · rw [h.reads, Option.map_some]
  · exact hnull

theorem keeps_ofOption {f : β → α} {o : Option β} (h : ∀ b, Keeps read (write b) (f b))
    (hnull : ∀ b, write b ≠ .null) :
    Keeps (nullable? read) (ofOption write o) (o.map f) := by
  cases o with
  | none => exact ⟨rfl, .null⟩
  | some b => exact ⟨nullable?_of_keeps (h b) (hnull b), (h b).readable⟩

/-! ## Members -/

theorem lookup_memberOf (name key : String) (write : β → Json) (o : Option β) :
    (memberOf name write o).lookup key = if key = name then o.map write else none := by
  cases o with
  | none => simp [memberOf]
  | some b =>
    by_cases h : key = name
    · simp [memberOf, h]
    · have hne : (key == name) = false := beq_eq_false_iff_ne.2 h
      simp [memberOf, List.lookup_cons, h, hne]

theorem forall_mem_memberOf {P : String × Json → Prop} {name : String} {write : β → Json}
    {o : Option β} : (∀ m ∈ memberOf name write o, P m) ↔ ∀ b ∈ o, P (name, write b) := by
  cases o <;> simp [memberOf]

theorem names_memberOf (name : String) (write : β → Json) (o : Option β) :
    ((memberOf name write o).map (·.1)).Sublist [name] := by
  cases o <;> simp [memberOf]

/-- A record can be written so that it comes back, if no two of its fields have one name. -/
theorem readable_object {members : List (String × Json)} (names : List String)
    (hsublist : (members.map (·.1)).Sublist names) (hnames : names.Nodup)
    (h : ∀ m ∈ members, m.2.Readable) : (object members).Readable :=
  .object members (hnames.sublist hsublist) h

/-- What the value under a name, or its absence, is read as. -/
def readMissing (value : α) (read : Json → Option α) : Option Json → Option α
  | none => some value
  | some j => read j

theorem withDefault_eq (f : Fields) (name : String) (value : α) (read : Json → Option α) :
    f.withDefault name value read = readMissing value read (f.values.lookup name) := by
  rw [Fields.withDefault]
  cases f.values.lookup name <;> rfl

theorem optional_eq (values : List (String × Json)) (name : String) (read : Json → Option α) :
    Fields.optional ⟨true, values⟩ name read
      = readMissing none (nullable? read) (values.lookup name) := by
  rw [Fields.optional]
  cases values.lookup name <;> rfl

theorem readMissing_map {f : β → α} (h : ∀ b, Keeps read (write b) (f b))
    (hnull : ∀ b, write b ≠ .null) (o : Option β) :
    readMissing none (nullable? read) (o.map write) = some (o.map f) := by
  cases o with
  | none => rfl
  | some b => exact nullable?_of_keeps (h b) (hnull b)

/-! ## Fields -/

theorem required_of_lookup {values : List (String × Json)} {name : String}
    (h : values.lookup name = some j) (hread : read j = some a) :
    Fields.required ⟨true, values⟩ name read = some a := by
  rw [Fields.required, h]
  exact hread

theorem optional_of_lookup {values : List (String × Json)} {name : String} {f : β → α}
    {o : Option β} (h : values.lookup name = o.map write)
    (hkeeps : ∀ b, Keeps read (write b) (f b)) (hnull : ∀ b, write b ≠ .null) :
    Fields.optional ⟨true, values⟩ name read = some (o.map f) := by
  rw [optional_eq, h]
  exact readMissing_map hkeeps hnull o

end RemoteFleet.Json
