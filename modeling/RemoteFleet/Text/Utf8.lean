/-!
# Bytes and characters

Remote output is bytes.  `decodeLossy` reads them as UTF-8 and puts U+FFFD for each longest
beginning of a character that the following byte, or the end, breaks off.  It is a fold of `feed`,
so a text can be read in parts; a byte below `0x80` always ends what was pending.
-/

namespace RemoteFleet

abbrev Bytes := List UInt8

namespace Text

/-- The UTF-8 bytes of a string. -/
def encode (s : String) : Bytes := s.toUTF8.toList

/-- The string whose UTF-8 bytes these are, if there is one. -/
def decode? (bytes : Bytes) : Option String := String.fromUTF8? ⟨bytes.toArray⟩

/-- What stands for bytes that are no character. -/
def replacement : Char := '\ufffd'

/-- A character whose bytes have not all been read. -/
structure Pending where
  /-- The bits read so far. -/
  value : Nat
  /-- How many bytes are missing. -/
  missing : Nat
  /-- The least next byte that continues the character. -/
  least : UInt8
  /-- The greatest next byte that continues the character. -/
  greatest : UInt8
  deriving DecidableEq, Repr

/-- Reads a byte with nothing pending. -/
def start (b : UInt8) : List Char × Option Pending :=
  if b < 0x80 then ([Char.ofNat b.toNat], none)
  else if b < 0xC2 then ([replacement], none)
  else if b < 0xE0 then ([], some ⟨b.toNat % 0x20, 1, 0x80, 0xBF⟩)
  else if b < 0xF0 then
    ([], some ⟨b.toNat % 0x10, 2, if b = 0xE0 then 0xA0 else 0x80, if b = 0xED then 0x9F else 0xBF⟩)
  else if b < 0xF5 then
    ([], some ⟨b.toNat % 0x08, 3, if b = 0xF0 then 0x90 else 0x80, if b = 0xF4 then 0x8F else 0xBF⟩)
  else ([replacement], none)

/-- Reads one byte: the characters it completes, and what is pending after it. -/
def feed : Option Pending → UInt8 → List Char × Option Pending
  | none, b => start b
  | some p, b =>
    if p.least ≤ b ∧ b ≤ p.greatest then
      let value := p.value * 0x40 + b.toNat % 0x40
      if p.missing ≤ 1 then ([Char.ofNat value], none)
      else ([], some ⟨value, p.missing - 1, 0x80, 0xBF⟩)
    else
      let (chars, next) := start b
      (replacement :: chars, next)

/-- Reads bytes with something pending, up to the end. -/
def decodeFrom : Option Pending → Bytes → List Char
  | none, [] => []
  | some _, [] => [replacement]
  | p, b :: bytes => (feed p b).1 ++ decodeFrom (feed p b).2 bytes

/-- Reads bytes as UTF-8, with U+FFFD where they are none. -/
def decodeLossy (bytes : Bytes) : List Char := decodeFrom none bytes

end Text

end RemoteFleet
