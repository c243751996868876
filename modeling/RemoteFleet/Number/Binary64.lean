import RemoteFleet.Text.Numeral

/-!
# Binary floating point numbers as text

A finite binary64 number is `m * 2 ^ q`.  `nearest?` finds the number nearest to a decimal fraction,
and `shortest` the fewest decimal digits that only this number is nearest to.  All arithmetic is
exact, on natural numbers.
-/

namespace RemoteFleet

/-- A positive binary64 number, `significand * 2 ^ power`. -/
structure Binary64 where
  significand : Nat
  power : Int
  deriving DecidableEq

namespace Binary64

/-- A power of two. -/
def twoTo (k : Nat) : Nat := Nat.pow 2 k

/-- A power of ten. -/
def tenTo (k : Nat) : Nat := Nat.pow 10 k

/-- The least power of two. -/
def leastPower : Int := -1074

/-- The greatest power of two. -/
def greatestPower : Int := 971

/-- `a / b` rounded to the nearest whole number, a half to the even one. -/
def roundDiv (a b : Nat) : Nat :=
  let quotient := a / b
  let rest := 2 * (a % b)
  if rest < b then quotient
  else if b < rest then quotient + 1
  else if quotient % 2 = 0 then quotient
  else quotient + 1

/-- The number of binary digits of the whole part of `a / b`, or less for a small fraction. -/
def binaryLength (a b : Nat) : Int := (Nat.log2 a : Int) - Nat.log2 b

/-- `a / b / 2 ^ power`, rounded. -/
def scaled (a b : Nat) (power : Int) : Nat :=
  roundDiv (a * twoTo (-power).toNat) (b * twoTo power.toNat)

/-- The number nearest to `a / b`.  There is none below half the least number, nor beyond the
greatest. -/
def nearest? (a b : Nat) : Option Binary64 :=
  let guess := max leastPower (binaryLength a b - 53)
  let power := if twoTo 53 ≤ scaled a b guess then guess + 1 else guess
  let significand := scaled a b power
  let (significand, power) :=
    if twoTo 53 ≤ significand then (significand / 2, power + 1) else (significand, power)
  if greatestPower < power then none else some ⟨significand, power⟩

/-- A decimal number: `digits * 10 ^ exponent`. -/
structure Digits where
  digits : Nat
  exponent : Int
  deriving DecidableEq

/-- Whether `n * 10 ^ e`, in quarters of `2 ^ power`, lies between `low` and `high`. -/
def liesBetween (low high : Nat) (inclusive : Bool) (power : Int) (n : Nat) (e : Int) : Bool :=
  let left := 4 * n * tenTo e.toNat * twoTo (-power).toNat
  let unit := tenTo (-e).toNat * twoTo power.toNat
  if inclusive then low * unit ≤ left && left ≤ high * unit
  else low * unit < left && left < high * unit

/-- How far `n * 10 ^ e` is from the number, on a scale that depends on `e` alone. -/
def distance (x : Binary64) (n : Nat) (e : Int) : Nat :=
  let left := n * tenTo e.toNat * twoTo (-x.power).toNat
  let right := x.significand * tenTo (-e).toNat * twoTo x.power.toNat
  if left ≤ right then right - left else left - right

/-- The neighbours of the number among the multiples of `10 ^ e` that are nearest to it alone, the
closer one first, and of two that are as close the greater one. -/
def candidate? (x : Binary64) (e : Int) : Option Digits :=
  let low := if x.significand = twoTo 52 ∧ leastPower < x.power then 4 * x.significand - 1
    else 4 * x.significand - 2
  let high := 4 * x.significand + 2
  let inclusive := x.significand % 2 = 0
  let floor := x.significand * twoTo x.power.toNat * tenTo (-e).toNat
    / (twoTo (-x.power).toNat * tenTo e.toNat)
  let fits (n : Nat) := liesBetween low high inclusive x.power n e
  match fits floor, fits (floor + 1) with
  | true, true =>
    some ⟨if distance x (floor + 1) e ≤ distance x floor e then floor + 1 else floor, e⟩
  | true, false => some ⟨floor, e⟩
  | false, true => some ⟨floor + 1, e⟩
  | false, false => none

/-- The exponents to try, from the coarsest grid to the finest. -/
def exponents (x : Binary64) : List Int :=
  let top := ((Nat.log2 x.significand : Int) + x.power) * 30103 / 100000 + 1
  (List.range 20).map fun (k : Nat) => top - k

/-- The fewest digits that only this number is nearest to. -/
def shortest (x : Binary64) : Digits :=
  (x.exponents.findSome? (candidate? x)).getD ⟨0, 0⟩

/-- A decimal number without an exponent.  A whole number has one zero behind its point. -/
def Digits.positional (d : Digits) : List Char :=
  let digits := Text.decimal d.digits
  if 0 ≤ d.exponent then digits ++ List.replicate d.exponent.toNat '0' ++ ['.', '0']
  else
    let places := (-d.exponent).toNat
    let padded := List.replicate (places + 1 - digits.length) '0' ++ digits
    padded.take (padded.length - places) ++ '.' :: padded.drop (padded.length - places)

end Binary64

end RemoteFleet
