/-!
# Lines

A line ends with a line feed, and a carriage return right before that belongs to the ending.  The
last line need not end; an empty one does not count.
-/

namespace RemoteFleet.Text

/-- The lines of a text with their line feeds. -/
def rawLines : List Char → List (List Char)
  | [] => []
  | c :: s =>
    if c = '\n' then ['\n'] :: rawLines s
    else match rawLines s with
      | [] => [[c]]
      | first :: rest => (c :: first) :: rest

/-- A line without its ending. -/
def chopLine (l : List Char) : List Char :=
  match l.reverse with
  | '\n' :: '\r' :: r => r.reverse
  | '\n' :: r => r.reverse
  | _ => l

/-- The lines of a text without their endings. -/
def lines (s : List Char) : List (List Char) := (rawLines s).map chopLine

theorem flatten_rawLines (s : List Char) : (rawLines s).flatten = s := by
  induction s with
  | nil => rfl
  | cons c s ih =>
    simp only [rawLines]
    split
    · next h => simp [h, ih]
    · split
      · next h => rw [h] at ih; simp at ih; simp [← ih]
      · next h => rw [h] at ih; simpa using ih

end RemoteFleet.Text
