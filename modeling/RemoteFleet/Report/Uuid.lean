import RemoteFleet.Text.Numeral

/-!
# Run identifiers

A run is named by 32 hexadecimal digits.  They are written in five groups with hyphens between them;
they are read also without hyphens, in braces, or behind `urn:uuid:`, in letters of either case.
-/

namespace RemoteFleet

/-- An identifier of 32 hexadecimal digits. -/
structure Uuid where
  digits : List (Fin 16)
  length_eq : digits.length = 32
  deriving DecidableEq

namespace Uuid

/-- The identifier whose digits are all zero. -/
def zero : Uuid := ⟨List.replicate 32 ⟨0, by decide⟩, rfl⟩

instance : Inhabited Uuid := ⟨zero⟩

/-- The last `width` hexadecimal digits of a number. -/
def lastDigits (width n : Nat) : List (Fin 16) :=
  (List.range width).map fun k => ⟨n / Nat.pow 16 (width - 1 - k) % 16, Nat.mod_lt _ (by decide)⟩

theorem length_lastDigits (width n : Nat) : (lastDigits width n).length = width := by
  simp [lastDigits]

/-- An identifier of version 7: milliseconds since 1970, and a count. -/
def timed (ms count : Nat) : Uuid where
  digits := lastDigits 12 ms ++ lastDigits 5 0x70008 ++ lastDigits 15 count
  length_eq := by simp [length_lastDigits]

/-- The digit that says how the identifier was made. -/
def version (u : Uuid) : Nat := (u.digits[12]?.map Fin.val).getD 0

/-- How many digits each group has. -/
def groups : List Nat := [8, 4, 4, 4, 12]

/-- Cuts digits into groups of the given lengths, with hyphens between them. -/
def writeGroups : List Nat → List Char → List Char
  | [], _ => []
  | [n], s => s.take n
  | n :: ns, s => s.take n ++ '-' :: writeGroups ns (s.drop n)

def write (u : Uuid) : List Char := writeGroups groups (u.digits.map Text.hexChar)

/-- Reads digits without hyphens. -/
def readPlain? (s : List Char) : Option Uuid := do
  let digits ← s.mapM Text.hexValue?
  if h : digits.length = 32 then some ⟨digits, h⟩ else none

/-- Takes the hyphens between groups out. -/
def joinGroups? : List Nat → List Char → Option (List Char)
  | [], s => if s = [] then some [] else none
  | [n], s => if s.length = n then some s else none
  | n :: ns, s =>
    match s.drop n with
    | '-' :: rest => (joinGroups? ns rest).map (s.take n ++ ·)
    | _ => none

/-- Reads digits in their five groups. -/
def readGrouped? (s : List Char) : Option Uuid := joinGroups? groups s >>= readPlain?

/-- Takes the braces off a text. -/
def cutBraces? (s : List Char) : Option (List Char) :=
  match s, s.getLast? with
  | '\x7b' :: rest, some '\x7d' => some rest.dropLast
  | _, _ => none

/-- Takes the name of the scheme off a text. -/
def cutScheme? (s : List Char) : Option (List Char) :=
  let scheme := ['u', 'r', 'n', ':', 'u', 'u', 'i', 'd', ':']
  if (s.take scheme.length).map Char.toLower = scheme then some (s.drop scheme.length) else none

/-- Reads an identifier in any of its forms. -/
def read? (s : List Char) : Option Uuid :=
  match readPlain? s with
  | some u => some u
  | none =>
    match cutBraces? s with
    | some inside => readGrouped? inside
    | none =>
      match cutScheme? s with
      | some rest => readGrouped? rest
      | none => readGrouped? s

end Uuid

end RemoteFleet
