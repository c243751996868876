import RemoteFleet.Text.Numeral
import RemoteFleet.Text.Split
import RemoteFleet.Time.Calendar
import RemoteFleet.Toml.Value

/-!
# Strings, numbers and dates of TOML

Every reader takes its part off the front of a text and gives the rest with it.
-/

namespace RemoteFleet.Toml

/-! ## Blanks, ends of lines and comments -/

def isSpace (c : Char) : Bool := c = ' ' || c = '\t'

def skipSpaces (s : List Char) : List Char := s.dropWhile isSpace

/-- Takes the end of a line off. -/
def cutNewline? : List Char → Option (List Char)
  | '\n' :: s => some s
  | '\r' :: '\n' :: s => some s
  | _ => none

/-- Whether a character may stand in a text as it is, quotes and backslashes apart. -/
def isPlain (c : Char) : Bool := c = '\t' || (0x20 ≤ c.toNat && c.toNat ≠ 0x7F)

/-- Takes a comment off, if there is one. -/
def skipComment : List Char → List Char
  | '#' :: s => s.dropWhile isPlain
  | s => s

/-- Takes blanks, line ends and comments off.  A comment must end with its line. -/
def skipLines : (fuel : Nat) → List Char → Option (List Char)
  | 0, s => some s
  | fuel + 1, s =>
    match skipSpaces s with
    | '#' :: s => cutNewline? (s.dropWhile isPlain) >>= skipLines fuel
    | s =>
      match cutNewline? s with
      | some rest => skipLines fuel rest
      | none => some s

/-! ## Strings -/

/-- A character by the hexadecimal digits of its code point. -/
def readCodePoint? (width : Nat) (s : List Char) : Option (Char × List Char) := do
  let digits ← (s.take width).mapM Text.hexValue?
  let n := Text.hexNumber digits
  if digits.length = width ∧ (n < 0xD800 ∨ (0xDFFF < n ∧ n ≤ 0x10FFFF)) then
    some (Char.ofNat n, s.drop width)
  else none

/-- What stands behind a backslash. -/
def readEscape? : List Char → Option (Char × List Char)
  | 'b' :: s => some ('\x08', s)
  | 'f' :: s => some ('\x0c', s)
  | 'n' :: s => some ('\n', s)
  | 'r' :: s => some ('\r', s)
  | 't' :: s => some ('\t', s)
  | '"' :: s => some ('"', s)
  | '\\' :: s => some ('\\', s)
  | 'u' :: s => readCodePoint? 4 s
  | 'U' :: s => readCodePoint? 8 s
  | _ => none

/-- The rest of a string on one line, behind its opening quote. -/
def readBasic? : (fuel : Nat) → List Char → Option (List Char × List Char)
  | 0, _ => none
  | _ + 1, [] => none
  | _ + 1, '"' :: s => some ([], s)
  | fuel + 1, '\\' :: s => do
    let (c, s) ← readEscape? s
    let (chars, s) ← readBasic? fuel s
    return (c :: chars, s)
  | fuel + 1, c :: s => do
    if !isPlain c then none
    let (chars, s) ← readBasic? fuel s
    return (c :: chars, s)

/-- The rest of a literal string on one line. -/
def readLiteral? : List Char → Option (List Char × List Char)
  | [] => none
  | '\'' :: s => some ([], s)
  | c :: s =>
    if isPlain c then (readLiteral? s).map fun (chars, s) => (c :: chars, s) else none

/-- The quotes at the front of a text. -/
def quotesAhead (quote : Char) (s : List Char) : Nat := (s.takeWhile (· = quote)).length

/-- Takes blanks and line ends off. -/
def skipBlankLines : List Char → List Char
  | [] => []
  | '\r' :: '\n' :: s => skipBlankLines s
  | c :: s => if isSpace c || c = '\n' then skipBlankLines s else c :: s

/-- The line end behind a backslash, and the blanks and line ends after it. -/
def cutLineJoin? (s : List Char) : Option (List Char) :=
  (cutNewline? (skipSpaces s)).map skipBlankLines

/-- The rest of a string over several lines, behind its opening quotes.  With `escapes`, a backslash
has its meaning. -/
def readLong? (quote : Char) (escapes : Bool) : (fuel : Nat) → List Char →
    Option (List Char × List Char)
  | 0, _ => none
  | _ + 1, [] => none
  | fuel + 1, c :: s =>
    if c = quote then
      let n := quotesAhead quote (c :: s)
      if n < 3 then
        (readLong? quote escapes fuel ((c :: s).drop n)).map fun (chars, s) =>
          (List.replicate n quote ++ chars, s)
      else
        let kept := min (n - 3) 2
        some (List.replicate kept quote, (c :: s).drop (kept + 3))
    else if escapes && c = '\\' then
      match cutLineJoin? s with
      | some s => readLong? quote escapes fuel s
      | none => do
        let (c, s) ← readEscape? s
        let (chars, s) ← readLong? quote escapes fuel s
        return (c :: chars, s)
    else
      match cutNewline? (c :: s) with
      | some s => (readLong? quote escapes fuel s).map fun (chars, s) => ('\n' :: chars, s)
      | none =>
        if isPlain c then
          (readLong? quote escapes fuel s).map fun (chars, s) => (c :: chars, s)
        else none

/-- A line end right behind the opening quotes does not count. -/
def skipFirstNewline (s : List Char) : List Char := (cutNewline? s).getD s

/-- A string in any of its four forms. -/
def readString? (s : List Char) : Option (List Char × List Char) :=
  match s with
  | '"' :: '"' :: '"' :: s => readLong? '"' true (s.length + 1) (skipFirstNewline s)
  | '\'' :: '\'' :: '\'' :: s => readLong? '\'' false (s.length + 1) (skipFirstNewline s)
  | '"' :: s => readBasic? (s.length + 1) s
  | '\'' :: s => readLiteral? s
  | _ => none

/-! ## Numbers -/

/-- The digits after a first one: underscores may stand between digits, each with a digit behind it.
The underscores are left out. -/
def readMoreDigits (isDigit : Char → Bool) : List Char → List Char × List Char
  | '_' :: c :: s =>
    if isDigit c then
      let (digits, rest) := readMoreDigits isDigit s
      (c :: digits, rest)
    else ([], '_' :: c :: s)
  | c :: s =>
    if isDigit c then
      let (digits, rest) := readMoreDigits isDigit s
      (c :: digits, rest)
    else ([], c :: s)
  | [] => ([], [])

/-- One or more digits. -/
def readDigits? (isDigit : Char → Bool) : List Char → Option (List Char × List Char)
  | c :: s =>
    if isDigit c then
      let (digits, rest) := readMoreDigits isDigit s
      some (c :: digits, rest)
    else none
  | [] => none

/-- A sign, and whether it is a minus sign. -/
def cutSign : List Char → Bool × List Char
  | '+' :: s => (false, s)
  | '-' :: s => (true, s)
  | s => (false, s)

/-- A whole number in decimal, without zeros in front of it. -/
def readWhole? : List Char → Option (List Char × List Char)
  | '0' :: s => some (['0'], s)
  | s => readDigits? Char.isDigit s

def isHexDigit (c : Char) : Bool := (Text.hexValue? c).isSome
def isOctalDigit (c : Char) : Bool := '0' ≤ c && c ≤ '7'
def isBinaryDigit (c : Char) : Bool := c = '0' || c = '1'

/-- The number that digits stand for in a base. -/
def valueIn (base : Nat) (digits : List Char) : Nat :=
  digits.foldl (fun n c => base * n + ((Text.hexValue? c).map (·.val)).getD 0) 0

/-- An integer, if it fits into 64 bits. -/
def integer? (n : Int) : Option Value :=
  if -0x8000000000000000 ≤ n ∧ n < 0x8000000000000000 then some (.integer n) else none

def readInteger? (s : List Char) : Option (Value × List Char) :=
  let inBase (base : Nat) (isDigit : Char → Bool) (s : List Char) : Option (Value × List Char) := do
    let (digits, s) ← readDigits? isDigit s
    let v ← integer? (valueIn base digits)
    return (v, s)
  match s with
  | '0' :: 'x' :: s => inBase 16 isHexDigit s
  | '0' :: 'o' :: s => inBase 8 isOctalDigit s
  | '0' :: 'b' :: s => inBase 2 isBinaryDigit s
  | s => do
    let (negative, s) := cutSign s
    let (digits, s) ← readWhole? s
    let n : Int := valueIn 10 digits
    let v ← integer? (if negative then -n else n)
    return (v, s)

/-- The point and the digits behind it. -/
def readFraction? : List Char → Option (List Char × List Char)
  | '.' :: s => readDigits? Char.isDigit s
  | _ => none

/-- An exponent. -/
def readExponent? : List Char → Option (Int × List Char)
  | c :: s =>
    if c = 'e' ∨ c = 'E' then do
      let (negative, s) := cutSign s
      let (digits, s) ← readDigits? Char.isDigit s
      let n : Int := valueIn 10 digits
      return (if negative then -n else n, s)
    else none
  | [] => none

/-- The number `digits * 10 ^ exponent` in binary.  Too great a number is infinite. -/
def numberOf (negative : Bool) (digits : List Char) (exponent : Int) : Number :=
  let n := valueIn 10 digits
  let size : Int := (Text.decimal n).length + exponent
  if n = 0 ∨ size < -400 then .zero negative
  else if 400 < size then .infinite negative
  else
    let numerator := n * Binary64.tenTo exponent.toNat
    match Binary64.nearest? numerator (Binary64.tenTo (-exponent).toNat) with
    | none => .infinite negative
    | some x => if x.significand = 0 then .zero negative else .finite negative x

/-- `inf` and `nan`. -/
def readSpecial? (negative : Bool) : List Char → Option (Number × List Char)
  | 'i' :: 'n' :: 'f' :: s => some (.infinite negative, s)
  | 'n' :: 'a' :: 'n' :: s => some (.nan, s)
  | _ => none

/-- A number with a fraction or an exponent.  A positive one must not be too great. -/
def readFloat? (s : List Char) : Option (Value × List Char) :=
  let (negative, s) := cutSign s
  match readSpecial? negative s with
  | some (x, s) => some (.float x, s)
  | none => do
    let (whole, s) ← readWhole? s
    let finish (fraction : List Char) (exponent : Int) (s : List Char) :
        Option (Value × List Char) :=
      let x := numberOf negative (whole ++ fraction) (exponent - fraction.length)
      if x = .infinite false then none else some (.float x, s)
    match readFraction? s with
    | some (fraction, s) =>
      match readExponent? s with
      | some (exponent, s) => finish fraction exponent s
      | none => finish fraction 0 s
    | none =>
      let (exponent, s) ← readExponent? s
      finish [] exponent s

/-! ## Dates and times -/

/-- Exactly `width` digits. -/
def readFixed? (width : Nat) (s : List Char) : Option (Nat × List Char) :=
  let digits := s.take width
  if digits.length = width ∧ digits.all Char.isDigit then
    some (Text.digitsValue digits, s.drop width)
  else none

/-- Exactly two digits for a number up to `limit`. -/
def readTwo? (limit : Nat) (s : List Char) : Option (List Char × List Char) := do
  let (n, rest) ← readFixed? 2 s
  if n ≤ limit then some (s.take 2, rest) else none

/-- A date.  Its text comes back. -/
def readDate? (s : List Char) : Option (List Char × List Char) := do
  let (year, rest) ← readFixed? 4 s
  let rest ← Text.cutPrefix? ['-'] rest
  let (month, rest) ← readFixed? 2 rest
  let rest ← Text.cutPrefix? ['-'] rest
  let (day, rest) ← readFixed? 2 rest
  if 1 ≤ month ∧ month ≤ 12 ∧ 1 ≤ day ∧ day ≤ daysInMonth year month then some (s.take 10, rest)
  else none

/-- A fraction of a second, with nine digits at most and no zeros at its end. -/
def readSecondFraction : List Char → Option (List Char × List Char)
  | '.' :: s =>
    match s.takeWhile Char.isDigit with
    | [] => none
    | digits =>
      let kept := (((digits.take 9).reverse).dropWhile (· = '0')).reverse
      some (if kept = [] then [] else '.' :: kept, s.dropWhile Char.isDigit)
  | s => some ([], s)

/-- A time of day. -/
def readTime? (s : List Char) : Option (List Char × List Char) := do
  let (hour, s) ← readTwo? 23 s
  let s ← Text.cutPrefix? [':'] s
  let (minute, s) ← readTwo? 59 s
  let s ← Text.cutPrefix? [':'] s
  let (second, s) ← readTwo? 60 s
  let (fraction, s) ← readSecondFraction s
  return (hour ++ ':' :: minute ++ ':' :: second ++ fraction, s)

/-- An offset from UTC. -/
def readOffset? : List Char → Option (List Char × List Char)
  | 'Z' :: s | 'z' :: s => some (['Z'], s)
  | c :: s =>
    if c = '+' ∨ c = '-' then do
      let (hour, s) ← readTwo? 23 s
      let s ← Text.cutPrefix? [':'] s
      let (minute, s) ← readTwo? 59 s
      let sign := if hour = ['0', '0'] ∧ minute = ['0', '0'] then '+' else c
      return (sign :: hour ++ ':' :: minute, s)
    else none
  | [] => none

/-- A date, a time of day, or a date with a time of day and perhaps an offset. -/
def readDatetime? (s : List Char) : Option (Value × List Char) :=
  match readDate? s with
  | none => (readTime? s).map fun (time, s) => (.datetime (String.ofList time), s)
  | some (date, s) =>
    let alone := (Value.datetime (String.ofList date), s)
    match s with
    | c :: rest =>
      if c = 'T' ∨ c = 't' ∨ c = ' ' then
        match readTime? rest with
        | none => some alone
        | some (time, s) =>
          let (offset, s) := (readOffset? s).getD ([], s)
          some (.datetime (String.ofList (date ++ 'T' :: time ++ offset)), s)
      else some alone
    | [] => some alone

end RemoteFleet.Toml
