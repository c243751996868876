/-!
# Numerals

Whole numbers are written in decimal with the fewest digits, and a negative one with a minus sign in
front.

A numeral that is read is one or more ASCII digits, with any number of leading zeros and at most one
sign `+` in front.  `readNumeral` reads one from left to right and refuses a value above a bound, so
of two faults the one further left is reported.
-/

namespace RemoteFleet.Text

/-! ## Decimal digits -/

/-- The digits of a natural number. -/
def decimal (n : Nat) : List Char := Nat.toDigits 10 n

/-- The digits of an integer, with its sign if it is negative. -/
def integer (n : Int) : List Char := if n < 0 then '-' :: decimal n.natAbs else decimal n.natAbs

/-- The number that digits stand for. -/
def digitsValue (digits : List Char) : Nat :=
  digits.foldl (fun n c => 10 * n + (c.toNat - '0'.toNat)) 0

/-- `decimal` as a string. -/
def decimalString (n : Nat) : String := String.ofList (decimal n)

/-- `integer` as a string. -/
def integerString (n : Int) : String := String.ofList (integer n)

/-! ## Hexadecimal digits -/

/-- The lower-case digit of a value. -/
def hexChar (d : Fin 16) : Char :=
  if d.val < 10 then Char.ofNat ('0'.toNat + d.val) else Char.ofNat ('a'.toNat + (d.val - 10))

/-- The value of a digit in either case. -/
def hexValue? (c : Char) : Option (Fin 16) :=
  if c.isDigit then some (Fin.ofNat 16 (c.toNat - '0'.toNat))
  else if 'a' ≤ c ∧ c ≤ 'f' then some (Fin.ofNat 16 (c.toNat - 'a'.toNat + 10))
  else if 'A' ≤ c ∧ c ≤ 'F' then some (Fin.ofNat 16 (c.toNat - 'A'.toNat + 10))
  else none

/-- The number that digits stand for, the first one leading. -/
def hexNumber (digits : List (Fin 16)) : Nat := digits.foldl (fun n d => 16 * n + d.val) 0

/-! ## Numerals within a bound -/

/-- Why a text is no numeral within the bound. -/
inductive NumeralError where
  | empty
  | invalidDigit
  | tooLarge
  deriving DecidableEq, Repr

def NumeralError.message : NumeralError → String
  | .empty => "cannot parse integer from empty string"
  | .invalidDigit => "invalid digit found in string"
  | .tooLarge => "number too large to fit in target type"

/-- The value of an ASCII digit. -/
def digit? (c : Char) : Option Nat :=
  if c.isDigit then some (c.toNat - '0'.toNat) else none

/-- Reads digits onto the value `acc` read so far. -/
def readDigits (limit : Nat) : (acc : Nat) → List Char → Except NumeralError Nat
  | acc, [] => .ok acc
  | acc, c :: s =>
    match digit? c with
    | none => .error .invalidDigit
    | some d => if limit < 10 * acc + d then .error .tooLarge else readDigits limit (10 * acc + d) s

/-- Reads a numeral whose value is at most `limit`. -/
def readNumeral (limit : Nat) : List Char → Except NumeralError Nat
  | [] => .error .empty
  | ['+'] => .error .invalidDigit
  | '+' :: s => readDigits limit 0 s
  | s => readDigits limit 0 s

/-- A 32-bit unsigned numeral. -/
def readUInt32 (s : List Char) : Except NumeralError UInt32 :=
  (readNumeral 0xFFFFFFFF s).map Nat.toUInt32

/-- A numeral that may have a sign `-` as well, if its value is not below 0. -/
def readSigned (limit : Nat) : List Char → Except NumeralError Nat
  | '-' :: c :: s =>
    match readNumeral 0 (c :: s) with
    | .ok n => if c = '+' then .error .invalidDigit else .ok n
    | .error e => .error e
  | s => readNumeral limit s

end RemoteFleet.Text
