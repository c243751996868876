/-!
# Calendar dates

Dates of the Gregorian calendar, extended to years before 1 and beyond 9999.  A date holds the proof
that its day exists; `next?` and `previous?` step over the ends of months and years.
-/

namespace RemoteFleet

/-- Whether a year has a 29 February. -/
def isLeapYear (year : Int) : Bool := year % 4 = 0 && (year % 100 ≠ 0 || year % 400 = 0)

/-- How many days a month has. -/
def daysInMonth (year : Int) (month : Nat) : Nat :=
  if month = 2 then (if isLeapYear year then 29 else 28)
  else if month = 4 ∨ month = 6 ∨ month = 9 ∨ month = 11 then 30
  else 31

/-- The first year a date may have. -/
def firstYear : Int := -262143

/-- The last year a date may have. -/
def lastYear : Int := 262142

/-- A day of the calendar. -/
structure Date where
  year : Int
  month : Nat
  day : Nat
  year_mem : firstYear ≤ year ∧ year ≤ lastYear
  month_mem : 1 ≤ month ∧ month ≤ 12
  day_mem : 1 ≤ day ∧ day ≤ daysInMonth year month
  deriving DecidableEq

namespace Date

/-- The date of a year, a month and a day, if there is one. -/
def ofCivil? (year : Int) (month day : Nat) : Option Date :=
  if h : (firstYear ≤ year ∧ year ≤ lastYear) ∧ (1 ≤ month ∧ month ≤ 12) ∧
      (1 ≤ day ∧ day ≤ daysInMonth year month) then
    some ⟨year, month, day, h.1, h.2.1, h.2.2⟩
  else none

theorem ofCivil?_self (d : Date) : ofCivil? d.year d.month d.day = some d := by
  simp only [ofCivil?]
  rw [dif_pos ⟨d.year_mem, d.month_mem, d.day_mem⟩]

/-- The day after. -/
def next? (d : Date) : Option Date :=
  if d.day < daysInMonth d.year d.month then ofCivil? d.year d.month (d.day + 1)
  else if d.month < 12 then ofCivil? d.year (d.month + 1) 1
  else ofCivil? (d.year + 1) 1 1

/-- The day before. -/
def previous? (d : Date) : Option Date :=
  if 1 < d.day then ofCivil? d.year d.month (d.day - 1)
  else if 1 < d.month then ofCivil? d.year (d.month - 1) (daysInMonth d.year (d.month - 1))
  else ofCivil? (d.year - 1) 12 31

end Date

end RemoteFleet
