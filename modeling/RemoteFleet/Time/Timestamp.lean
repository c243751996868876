import RemoteFleet.Text.Classes
import RemoteFleet.Text.Numeral
import RemoteFleet.Text.Split
import RemoteFleet.Time.Calendar

/-!
# Points in time

A timestamp is a minute of a day in UTC, a second from 0 to 60 and a nanosecond; a second 60 is a
leap second.  `write` gives its one text.  `read?` takes any offset from UTC and is lenient about
blanks, signs and separators.
-/

namespace RemoteFleet

/-- A point in time, in UTC. -/
structure Timestamp where
  date : Date
  minuteOfDay : Nat
  second : Nat
  nanosecond : Nat
  minuteOfDay_lt : minuteOfDay < 1440
  second_le : second ≤ 60
  nanosecond_lt : nanosecond < 1000000000
  deriving DecidableEq

namespace Timestamp

/-- The start of the year 1970. -/
def epoch : Timestamp :=
  ⟨⟨1970, 1, 1, by decide, by decide, by decide⟩, 0, 0, 0, by decide, by decide, by decide⟩

instance : Inhabited Timestamp := ⟨epoch⟩

/-! ## Writing -/

/-- A number in decimal with zeros in front, `width` characters at least. -/
def padded (width n : Nat) : List Char :=
  let digits := Text.decimal n
  List.replicate (width - digits.length) '0' ++ digits

/-- A year outside four digits has a sign. -/
def writeYear (year : Int) : List Char :=
  if 0 ≤ year ∧ year ≤ 9999 then padded 4 year.toNat
  else (if year < 0 then '-' else '+') :: padded 4 year.natAbs

/-- A fraction has no, three, six or nine digits: the fewest that are exact. -/
def writeFraction (nanosecond : Nat) : List Char :=
  if nanosecond = 0 then []
  else if nanosecond % 1000000 = 0 then '.' :: padded 3 (nanosecond / 1000000)
  else if nanosecond % 1000 = 0 then '.' :: padded 6 (nanosecond / 1000)
  else '.' :: padded 9 nanosecond

/-- The text of a timestamp. -/
def write (t : Timestamp) : List Char :=
  writeYear t.date.year ++ '-' :: padded 2 t.date.month ++ '-' :: padded 2 t.date.day
    ++ 'T' :: padded 2 (t.minuteOfDay / 60) ++ ':' :: padded 2 (t.minuteOfDay % 60)
    ++ ':' :: padded 2 t.second ++ writeFraction t.nanosecond ++ ['Z']

/-! ## Reading

A reader takes its part off the front of a text and gives the rest with it.
-/

/-- At most `width` digits, at least one. -/
def readNumber? (width : Nat) (s : List Char) : Option (Nat × List Char) :=
  let digits := (s.take width).takeWhile Char.isDigit
  if digits = [] then none else some (Text.digitsValue digits, s.drop digits.length)

/-- A year: four digits at most, or any number of them after a sign. -/
def readYear? (s : List Char) : Option (Int × List Char) :=
  match Text.trimStart s with
  | '-' :: s => (readNumber? s.length s).map fun (n, rest) => (-(n : Int), rest)
  | '+' :: s => (readNumber? s.length s).map fun (n, rest) => ((n : Int), rest)
  | s => (readNumber? 4 s).map fun (n, rest) => ((n : Int), rest)

/-- Two digits at most, after blanks. -/
def readTwo? (s : List Char) : Option (Nat × List Char) := readNumber? 2 (Text.trimStart s)

/-- One character, after blanks. -/
def readMark? (mark : Char) (s : List Char) : Option (List Char) :=
  Text.cutPrefix? [mark] (Text.trimStart s)

/-- A fraction of a second.  Digits after the ninth do not count. -/
def readFraction? : List Char → Option (Nat × List Char)
  | '.' :: s =>
    let digits := (s.take 9).takeWhile Char.isDigit
    if digits = [] then none
    else
      some (Text.digitsValue digits * Nat.pow 10 (9 - digits.length),
        (s.drop digits.length).dropWhile Char.isDigit)
  | s => some (0, s)

/-- Two digits, exactly. -/
def readPair? : List Char → Option (Nat × List Char)
  | a :: b :: s =>
    if a.isDigit ∧ b.isDigit then some (Text.digitsValue [a, b], s) else none
  | _ => none

/-- Whether a text begins with a word, in upper or lower case. -/
def cutWord? : (word s : List Char) → Option (List Char)
  | [], s => some s
  | _ :: _, [] => none
  | a :: word, c :: s => if c = a ∨ c = a.toLower then cutWord? word s else none

/-- Hours and minutes, with colons or blanks between them, as minutes. -/
def readOffsetMinutes? (s : List Char) : Option (Nat × List Char) := do
  let (hours, s) ← readPair? s
  let (minutes, s) ← readPair? (s.dropWhile fun c => c = ':' || Text.isBlank c)
  if hours < 24 ∧ minutes < 60 then some (60 * hours + minutes, s) else none

/-- The offset from UTC in minutes, east positive. -/
def readOffset? (s : List Char) : Option (Int × List Char) :=
  match cutWord? ['U', 'T', 'C'] s with
  | some rest => some (0, rest)
  | none =>
    match s with
    | 'Z' :: rest | 'z' :: rest => some (0, rest)
    | '+' :: s => (readOffsetMinutes? s).map fun (n, rest) => ((n : Int), rest)
    | '-' :: s | '−' :: s => (readOffsetMinutes? s).map fun (n, rest) => (-(n : Int), rest)
    | _ => none

/-- A year, a month and a day with hyphens between them. -/
def readDate? (s : List Char) : Option (Date × List Char) := do
  let (year, s) ← readYear? s
  let s ← readMark? '-' s
  let (month, s) ← readTwo? s
  let s ← readMark? '-' s
  let (day, s) ← readTwo? s
  let date ← Date.ofCivil? year month day
  return (date, s)

/-- What stands between the date and the time of day. -/
def readSeparator? : List Char → Option (List Char)
  | 'T' :: s | 't' :: s | ' ' :: s => some s
  | _ => none

/-- The same point in time `offset` minutes further west. -/
def moveWest? (date : Date) (minuteOfDay : Nat) (offset : Int) : Option (Date × Nat) :=
  let total := (minuteOfDay : Int) - offset
  if total < 0 then date.previous?.map (·, (total + 1440).toNat)
  else if 1440 ≤ total then date.next?.map (·, (total - 1440).toNat)
  else some (date, total.toNat)

/-- Reads a timestamp. -/
def read? (s : List Char) : Option Timestamp := do
  let (date, s) ← readDate? s
  let s ← readSeparator? s
  let (hour, s) ← readTwo? s
  let s ← readMark? ':' s
  let (minute, s) ← readTwo? s
  let s ← readMark? ':' s
  let (second, s) ← readTwo? s
  let (nanosecond, s) ← readFraction? s
  let (offset, s) ← readOffset? (Text.trimStart s)
  let (date, minuteOfDay) ← moveWest? date (60 * hour + minute) offset
  if h : minuteOfDay < 1440 ∧ second ≤ 60 ∧ nanosecond < 1000000000 then
    if hour < 24 ∧ minute < 60 ∧ Text.trimStart s = [] then
      some ⟨date, minuteOfDay, second, nanosecond, h.1, h.2.1, h.2.2⟩
    else none
  else none

end Timestamp

end RemoteFleet
