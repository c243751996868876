import RemoteFleet.Json.Basic
import RemoteFleet.Text.Numeral

/-!
# Writing JSON

`compact` writes a value without blanks.  `pretty` puts each element and each member on a line of
its own, two spaces further in than its container; an empty container stays on its line.
-/

namespace RemoteFleet.Json

/-- The digits of `n` in base 16, two at least. -/
def hexPair (n : Nat) : List Char :=
  let digits := Nat.toDigits 16 n
  List.replicate (2 - digits.length) '0' ++ digits

/-- How a character is written inside a string. -/
def writeChar (c : Char) : List Char :=
  if c = '"' then ['\\', '"']
  else if c = '\\' then ['\\', '\\']
  else if c = '\n' then ['\\', 'n']
  else if c = '\r' then ['\\', 'r']
  else if c = '\t' then ['\\', 't']
  else if c = '\x08' then ['\\', 'b']
  else if c = '\x0c' then ['\\', 'f']
  else if c.toNat < 0x20 then ['\\', 'u', '0', '0'] ++ hexPair c.toNat
  else [c]

def writeString (s : String) : List Char := '"' :: s.toList.flatMap writeChar ++ ['"']

def writeBool (b : Bool) : List Char :=
  if b then ['t', 'r', 'u', 'e'] else ['f', 'a', 'l', 's', 'e']

/-- Texts with a separator between them. -/
def joinWith (separator : List Char) : List (List Char) → List Char
  | [] => []
  | [text] => text
  | text :: texts => text ++ separator ++ joinWith separator texts

mutual

/-- A value without blanks. -/
def writeCompact : Json → List Char
  | .null => ['n', 'u', 'l', 'l']
  | .bool b => writeBool b
  | .integer n => Text.integer n
  | .decimal text => text
  | .string s => writeString s
  | .array values => '[' :: joinWith [','] (compactElements values) ++ [']']
  | .object members => '\x7b' :: joinWith [','] (compactMembers members) ++ ['\x7d']

def compactElements : List Json → List (List Char)
  | [] => []
  | v :: values => writeCompact v :: compactElements values

def compactMembers : List (String × Json) → List (List Char)
  | [] => []
  | (name, v) :: members => (writeString name ++ ':' :: writeCompact v) :: compactMembers members

end

/-- The start of a line at a depth. -/
def lineStart (depth : Nat) : List Char := '\n' :: List.replicate (2 * depth) ' '

/-- Lines between brackets, or the brackets alone. -/
def enclose (opening closing : Char) (depth : Nat) (lines : List (List Char)) : List Char :=
  if lines.isEmpty then [opening, closing]
  else
    opening :: lineStart (depth + 1) ++ joinWith (',' :: lineStart (depth + 1)) lines
      ++ lineStart depth ++ [closing]

mutual

/-- A value over several lines, inside `depth` containers. -/
def writePretty (depth : Nat) : Json → List Char
  | .null => ['n', 'u', 'l', 'l']
  | .bool b => writeBool b
  | .integer n => Text.integer n
  | .decimal text => text
  | .string s => writeString s
  | .array values => enclose '[' ']' depth (prettyElements (depth + 1) values)
  | .object members => enclose '\x7b' '\x7d' depth (prettyMembers (depth + 1) members)

def prettyElements (depth : Nat) : List Json → List (List Char)
  | [] => []
  | v :: values => writePretty depth v :: prettyElements depth values

def prettyMembers (depth : Nat) : List (String × Json) → List (List Char)
  | [] => []
  | (name, v) :: members =>
    (writeString name ++ ':' :: ' ' :: writePretty depth v) :: prettyMembers depth members

end

/-- A value on one line. -/
def compact (j : Json) : String := String.ofList j.writeCompact

/-- A value over several lines. -/
def pretty (j : Json) : String := String.ofList (j.writePretty 0)

end RemoteFleet.Json
