import RemoteFleet.Json.Basic
import RemoteFleet.Text.Numeral

/-!
# Reading JSON

A reader takes its part off the front of a text and gives the rest with it.  Containers are
read to a bounded depth; the length of the text is bound enough, since every bracket is a character.
-/

namespace RemoteFleet.Json

def isSpace (c : Char) : Bool := c = ' ' || c = '\n' || c = '\r' || c = '\t'

def skipSpaces (s : List Char) : List Char := s.dropWhile isSpace

/-! ## Strings -/

/-- Four hexadecimal digits. -/
def readUnit? : List Char → Option (Nat × List Char)
  | a :: b :: c :: d :: s => do
    let digits ← [a, b, c, d].mapM Text.hexValue?
    return (Text.hexNumber digits, s)
  | _ => none

/-- The code point behind `\u`: one unit, or a high and a low surrogate. -/
def readCodePoint? (s : List Char) : Option (Char × List Char) := do
  let (unit, s) ← readUnit? s
  if 0xD800 ≤ unit ∧ unit < 0xDC00 then
    match s with
    | '\\' :: 'u' :: s =>
      let (low, s) ← readUnit? s
      if 0xDC00 ≤ low ∧ low < 0xE000 then
        some (Char.ofNat (0x10000 + (unit - 0xD800) * 0x400 + (low - 0xDC00)), s)
      else none
    | _ => none
  else if 0xDC00 ≤ unit ∧ unit < 0xE000 then none
  else some (Char.ofNat unit, s)

/-- The character that a letter behind a backslash stands for. -/
def escape? : Char → Option Char
  | '"' => some '"'
  | '\\' => some '\\'
  | '/' => some '/'
  | 'b' => some '\x08'
  | 'f' => some '\x0c'
  | 'n' => some '\n'
  | 'r' => some '\r'
  | 't' => some '\t'
  | _ => none

/-- Reads the characters of a string up to its closing quote. -/
def readChars? : (fuel : Nat) → List Char → Option (List Char × List Char)
  | 0, _ => none
  | _ + 1, [] => none
  | _ + 1, '"' :: s => some ([], s)
  | fuel + 1, '\\' :: 'u' :: s => do
    let (c, s) ← readCodePoint? s
    let (chars, s) ← readChars? fuel s
    return (c :: chars, s)
  | fuel + 1, '\\' :: c :: s => do
    let c ← escape? c
    let (chars, s) ← readChars? fuel s
    return (c :: chars, s)
  | fuel + 1, c :: s => do
    if c.toNat < 0x20 ∨ c = '\\' then none
    let (chars, s) ← readChars? fuel s
    return (c :: chars, s)

/-- Reads a string behind its opening quote. -/
def readString? (s : List Char) : Option (String × List Char) :=
  (readChars? (s.length + 1) s).map fun (chars, s) => (String.ofList chars, s)

/-! ## Numbers -/

/-- The digits at the front. -/
def cutDigits (s : List Char) : List Char × List Char :=
  (s.takeWhile Char.isDigit, s.dropWhile Char.isDigit)

/-- The digits before the point: no zero in front of others. -/
def readWhole? (s : List Char) : Option (List Char × List Char) :=
  match cutDigits s with
  | ([], _) => none
  | ('0' :: _ :: _, _) => none
  | (digits, rest) => some (digits, rest)

/-- The point and the digits behind it, or nothing. -/
def readFraction? : List Char → Option (List Char × List Char)
  | '.' :: s =>
    match cutDigits s with
    | ([], _) => none
    | (digits, rest) => some ('.' :: digits, rest)
  | s => some ([], s)

/-- The sign of an exponent. -/
def cutSign : List Char → List Char × List Char
  | '+' :: s => (['+'], s)
  | '-' :: s => (['-'], s)
  | s => ([], s)

/-- The exponent, or nothing. -/
def readExponent? : List Char → Option (List Char × List Char)
  | c :: s =>
    if c = 'e' ∨ c = 'E' then
      let (sign, s) := cutSign s
      match cutDigits s with
      | ([], _) => none
      | (digits, rest) => some (c :: sign ++ digits, rest)
    else some ([], c :: s)
  | [] => some ([], [])

/-- The number of these parts. -/
def numberOf (negative : Bool) (whole fraction exponent : List Char) : Json :=
  let n := Text.digitsValue whole
  if fraction = [] ∧ exponent = [] ∧ negative = false ∧ n < 0x10000000000000000 then .integer n
  else if fraction = [] ∧ exponent = [] ∧ negative = true ∧ 0 < n ∧ n ≤ 0x8000000000000000 then
    .integer (-n)
  else .decimal ((if negative then ['-'] else []) ++ whole ++ fraction ++ exponent)

def readNumber? (s : List Char) : Option (Json × List Char) := do
  let (negative, s) := match s with
    | '-' :: s => (true, s)
    | s => (false, s)
  let (whole, s) ← readWhole? s
  let (fraction, s) ← readFraction? s
  let (exponent, s) ← readExponent? s
  return (numberOf negative whole fraction exponent, s)

/-! ## Values -/

/-- What reads a value at the front of a text. -/
abbrev ValueReader := List Char → Option (Json × List Char)

/-- Reads elements up to the closing bracket. -/
def readElements? (read : ValueReader) : (fuel : Nat) → List Char → Option (List Json × List Char)
  | 0, _ => none
  | fuel + 1, s => do
    let (v, s) ← read (skipSpaces s)
    match skipSpaces s with
    | ',' :: s =>
      let (values, s) ← readElements? read fuel s
      return (v :: values, s)
    | ']' :: s => return ([v], s)
    | _ => none

/-- Reads members up to the closing brace.  A name that stands twice has its last value. -/
def readMembers? (read : ValueReader) : (fuel : Nat) → (before : List (String × Json)) →
    List Char → Option (List (String × Json) × List Char)
  | 0, _, _ => none
  | fuel + 1, before, s => do
    let '"' :: s := skipSpaces s | none
    let (name, s) ← readString? s
    let ':' :: s := skipSpaces s | none
    let (v, s) ← read (skipSpaces s)
    match skipSpaces s with
    | ',' :: s => readMembers? read fuel (putMember name v before) s
    | '\x7d' :: s => return (putMember name v before, s)
    | _ => none

/-- Reads a value that stands at the front, inside at most `depth` further containers. -/
def readValue? : (depth : Nat) → ValueReader
  | 0, _ => none
  | depth + 1, s =>
    match s with
    | 'n' :: 'u' :: 'l' :: 'l' :: s => some (.null, s)
    | 't' :: 'r' :: 'u' :: 'e' :: s => some (.bool true, s)
    | 'f' :: 'a' :: 'l' :: 's' :: 'e' :: s => some (.bool false, s)
    | '"' :: s => (readString? s).map fun (text, s) => (.string text, s)
    | '[' :: s =>
      match skipSpaces s with
      | ']' :: s => some (.array [], s)
      | s =>
        (readElements? (readValue? depth) (s.length + 1) s).map fun (values, s) =>
          (.array values, s)
    | '\x7b' :: s =>
      match skipSpaces s with
      | '\x7d' :: s => some (.object [], s)
      | s =>
        (readMembers? (readValue? depth) (s.length + 1) [] s).map fun (members, s) =>
          (.object members, s)
    | s => readNumber? s

/-- Reads a text that holds one value and nothing else but blanks. -/
def read? (s : List Char) : Option Json :=
  match readValue? (s.length + 1) (skipSpaces s) with
  | some (j, rest) => if skipSpaces rest = [] then some j else none
  | none => none

end RemoteFleet.Json
