import RemoteFleet.Roster.Target
import RemoteFleet.Selection.Basic
import RemoteFleet.Text.Classes
import RemoteFleet.Text.Numeral
import RemoteFleet.Text.Quoted
import RemoteFleet.Text.Split

/-!
# Rosters

A roster is a non-empty list of hosts in ascending index, each index at most once and from 1 on, no
address blank.  `ofEntries` builds one from entries in any order and refuses the first entry that
does not fit; `parseInline` reads the short form `1=10.0.0.1,2=10.0.0.2`.
-/

namespace RemoteFleet

/-- Whether an entry may stand in a roster. -/
def HostEntry.Sound (e : HostEntry) : Prop :=
  e.index ≠ 0 ∧ Text.isAllBlank e.address.toList = false

instance (e : HostEntry) : Decidable e.Sound := inferInstanceAs (Decidable (_ ∧ _))

/-- A fleet of hosts, ascending by index. -/
structure HostRoster where
  entries : List HostEntry
  ascending : (entries.map (·.index)).Pairwise (· < ·)
  sound : ∀ e ∈ entries, e.Sound
  ne_nil : entries ≠ []
  deriving DecidableEq

namespace HostRoster

/-- Why entries are no roster. -/
inductive Fault where
  | noEntries
  | zeroIndex (address : String)
  | duplicateIndex (index : UInt32)
  | emptyAddress (index : UInt32)
  | badIndex (item : String) (cause : Text.NumeralError)
  deriving DecidableEq

def Fault.message : Fault → String
  | .noEntries => "roster is empty"
  | .zeroIndex address => "roster index must be 1-based, got 0 for " ++ address
  | .duplicateIndex k => "duplicate roster index " ++ Text.decimalString k.toNat
  | .emptyAddress k => "roster index " ++ Text.decimalString k.toNat ++ " has an empty address"
  | .badIndex item cause =>
    "cannot parse roster --hosts: bad index in " ++ Text.quoteString item ++ ": " ++ cause.message

/-! ## Building a roster -/

/-- Puts an entry before the first one with a greater index. -/
def place (e : HostEntry) : List HostEntry → List HostEntry
  | [] => [e]
  | f :: l => if e.index < f.index then e :: f :: l else f :: place e l

/-- Places entries one after another and stops at the first that does not fit. -/
def collect : List HostEntry → (placed : List HostEntry) → Except Fault (List HostEntry)
  | [], placed => .ok placed
  | e :: es, placed =>
    if e.index = 0 then .error (.zeroIndex e.address)
    else if Text.isAllBlank e.address.toList then .error (.emptyAddress e.index)
    else if placed.any (·.index = e.index) then .error (.duplicateIndex e.index)
    else collect es (place e placed)

theorem mem_place {e f : HostEntry} {l : List HostEntry} : f ∈ place e l ↔ f = e ∨ f ∈ l := by
  induction l with
  | nil => simp [place]
  | cons g l ih =>
    simp only [place]
    split
    · simp
    · simp only [List.mem_cons, ih]
      exact or_left_comm

theorem ascending_place {e : HostEntry} {l : List HostEntry}
    (h : (l.map (·.index)).Pairwise (· < ·)) (he : ∀ f ∈ l, f.index ≠ e.index) :
    ((place e l).map (·.index)).Pairwise (· < ·) := by
  induction l with
  | nil => simp [place]
  | cons g l ih =>
    rw [List.map_cons, List.pairwise_cons] at h
    obtain ⟨hg, hl⟩ := h
    simp only [place]
    split
    · next heg =>
      rw [List.map_cons, List.pairwise_cons]
      refine ⟨fun i hi => ?_, List.pairwise_cons.2 ⟨hg, hl⟩⟩
      rcases List.mem_cons.1 hi with rfl | hi
      · exact heg
      · exact UInt32.lt_trans heg (hg i hi)
    · next heg =>
      rw [List.map_cons, List.pairwise_cons]
      refine ⟨fun i hi => ?_, ih hl fun f hf => he f (List.mem_cons_of_mem _ hf)⟩
      obtain ⟨f, hf, rfl⟩ := List.mem_map.1 hi
      rcases mem_place.1 hf with rfl | hf
      · exact UInt32.lt_of_le_of_ne (UInt32.not_lt.1 heg) (he g List.mem_cons_self)
      · exact hg _ (List.mem_map_of_mem hf)

/-- What `collect` returns is ascending and sound if what was placed before is. -/
theorem collect_kept {es placed l : List HostEntry} (h : collect es placed = .ok l)
    (ha : (placed.map (·.index)).Pairwise (· < ·)) (hs : ∀ e ∈ placed, e.Sound) :
    (l.map (·.index)).Pairwise (· < ·) ∧ ∀ e ∈ l, e.Sound := by
  induction es generalizing placed with
  | nil => cases h; exact ⟨ha, hs⟩
  | cons e es ih =>
    simp only [collect] at h
    split at h
    · cases h
    · next h0 =>
      split at h
      · cases h
      · next hb =>
        split at h
        · cases h
        · next hd =>
          refine ih h (ascending_place ha fun f hf heq => hd ?_) fun f hf => ?_
          · exact List.any_eq_true.2 ⟨f, hf, by simpa using heq⟩
          · rcases mem_place.1 hf with rfl | hf
            · exact ⟨h0, by simpa using hb⟩
            · exact hs f hf

/-- The roster of these entries, in whatever order they are given. -/
def ofEntries (es : List HostEntry) : Except Fault HostRoster :=
  match h : collect es [] with
  | .error fault => .error fault
  | .ok l =>
    if hl : l = [] then .error .noEntries
    else
      have kept := collect_kept h List.Pairwise.nil fun _ he => nomatch he
      .ok ⟨l, kept.1, kept.2, hl⟩

/-- The roster of bare addresses, numbered from 1. -/
def ofAddresses (addresses : List String) : Except Fault HostRoster :=
  ofEntries (addresses.mapIdx fun k address => ⟨(k + 1).toUInt32, address, none, none, none⟩)

/-! ## The inline form -/

/-- Reads one item of the inline form, `index=address` or an address alone. -/
def readItem (position : Nat) (item : List Char) : Except Fault HostEntry :=
  match Text.cutOnce? ['='] item with
  | none => .ok { index := (position + 1).toUInt32, address := String.ofList item }
  | some (before, after) =>
    match Text.readUInt32 (Text.trim before) with
    | .ok index => .ok { index, address := String.ofList (Text.trim after) }
    | .error cause => .error (.badIndex (String.ofList item) cause)

/-- The items of the inline form, without blanks around them and without empty ones. -/
def inlineItems (s : List Char) : List (List Char) :=
  ((Text.pieces ',' s).map Text.trim).filter (· ≠ [])

/-- Reads items, numbering them from `position`. -/
def readItems (position : Nat) : List (List Char) → Except Fault (List HostEntry)
  | [] => .ok []
  | item :: items => do
    let e ← readItem position item
    let es ← readItems (position + 1) items
    return e :: es

/-- The entries of the inline form, not yet checked against each other. -/
def readInline (text : String) : Except Fault (List HostEntry) :=
  readItems 0 (inlineItems text.toList)

/-- Reads a roster in its inline form. -/
def parseInline (text : String) : Except Fault HostRoster := readInline text >>= ofEntries

/-! ## Looking hosts up -/

def size (r : HostRoster) : Nat := r.entries.length

def isEmpty (r : HostRoster) : Bool := r.entries.isEmpty

/-- The indices, ascending. -/
def indices (r : HostRoster) : List UInt32 := r.entries.map (·.index)

/-- The entry at an index. -/
def get? (r : HostRoster) (i : UInt32) : Option HostEntry := r.entries.find? (·.index = i)

def contains (r : HostRoster) (i : UInt32) : Bool := r.entries.any (·.index = i)

/-- The target at an index. -/
def target? (r : HostRoster) (credentials : Credentials) (i : UInt32) : Option RemoteTarget :=
  (r.get? i).map fun e => RemoteTarget.resolve e credentials

/-- The targets that a selection picks, ascending by index. -/
def select (r : HostRoster) (s : Selection) (credentials : Credentials) : List RemoteTarget :=
  (r.entries.filter fun e => s.holds e.index).map fun e => RemoteTarget.resolve e credentials

end HostRoster

end RemoteFleet
