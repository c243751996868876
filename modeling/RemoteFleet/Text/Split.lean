/-!
# Cutting texts apart

Prefixes, first occurrences and separators, all on lists of characters.  `cutPrefix?` takes a known
beginning off, `cutOnce?` cuts at the first occurrence of a separator, and `pieces` cuts at every
occurrence of one character.
-/

namespace RemoteFleet.Text

/-- The rest of `s` after `p`, or `none` when `s` does not begin with `p`. -/
def cutPrefix? : (p s : List Char) → Option (List Char)
  | [], s => some s
  | _ :: _, [] => none
  | a :: p, b :: s => if a = b then cutPrefix? p s else none

theorem cutPrefix?_eq_some_iff {p s r : List Char} : cutPrefix? p s = some r ↔ s = p ++ r := by
  induction p generalizing s with
  | nil => simp [cutPrefix?, eq_comm]
  | cons a p ih =>
    cases s with
    | nil => simp [cutPrefix?]
    | cons b s =>
      by_cases h : a = b
      · simp [cutPrefix?, h, ih]
      · simp [cutPrefix?, h, Ne.symm h]

/-- What stands before and after the first occurrence of `sep`, or `none` when it does not occur. -/
def cutOnce? (sep : List Char) : List Char → Option (List Char × List Char)
  | [] => if sep = [] then some ([], []) else none
  | c :: s =>
    match cutPrefix? sep (c :: s) with
    | some rest => some ([], rest)
    | none => (cutOnce? sep s).map fun (before, after) => (c :: before, after)

theorem eq_of_cutOnce? {sep s before after : List Char}
    (h : cutOnce? sep s = some (before, after)) : s = before ++ sep ++ after := by
  induction s generalizing before with
  | nil =>
    simp only [cutOnce?] at h
    split at h
    · next hs => cases h; simp [hs]
    · cases h
  | cons c s ih =>
    simp only [cutOnce?] at h
    split at h
    · next rest hr => cases h; simpa using cutPrefix?_eq_some_iff.1 hr
    · obtain ⟨⟨b, a⟩, hb, he⟩ := Option.map_eq_some_iff.1 h
      cases he
      simp [ih hb]

/-- The pieces of a text between the occurrences of `c`.  There is always at least one. -/
def pieces (c : Char) : List Char → List (List Char)
  | [] => [[]]
  | x :: s =>
    if x = c then [] :: pieces c s
    else match pieces c s with
      | [] => [[x]]
      | first :: rest => (x :: first) :: rest

theorem pieces_ne_nil (c : Char) (s : List Char) : pieces c s ≠ [] := by
  cases s with
  | nil => simp [pieces]
  | cons x s =>
    simp only [pieces]
    split
    · simp
    · split <;> simp

/-- Whether `needle` occurs in a text. -/
def occurs (needle s : List Char) : Bool := (cutOnce? needle s).isSome

end RemoteFleet.Text
