import RemoteFleet.Text.Classes

/-!
# Quoted text

Messages show a text between double quotes.  Inside, quote and backslash stand behind a backslash,
the common controls have a letter, and what has no visible form of its own, or joins the character
before it, is written as its code point in braces.

`Shell.quoteWord` writes a text so that a shell reads it back as one word.  A text without special
characters stands as it is; any other goes between single quotes, where only the single quote
itself needs care.
-/

namespace RemoteFleet

namespace Text

/-- The lower-case hexadecimal digits of a number. -/
def hexDigits (n : Nat) : List Char := Nat.toDigits 16 n

/-- How one character is written between quotes. -/
def quoteChar (c : Char) : List Char :=
  if c = '"' then ['\\', '"']
  else if c = '\\' then ['\\', '\\']
  else if c = '\n' then ['\\', 'n']
  else if c = '\r' then ['\\', 'r']
  else if c = '\t' then ['\\', 't']
  else if c = '\x00' then ['\\', '0']
  else if isExtending c || isUnprintable c then ['\\', 'u', '\x7b'] ++ hexDigits c.toNat ++ ['\x7d']
  else [c]

/-- A text between double quotes. -/
def quote (s : List Char) : List Char := '"' :: s.flatMap quoteChar ++ ['"']

/-- `quote` on strings. -/
def quoteString (s : String) : String := String.ofList (quote s.toList)

end Text

namespace Shell

/-- The characters that a shell would not take for themselves. -/
def isSpecial (c : Char) : Bool :=
  ['\n', '\'', '|', '&', ';', '<', '>', '(', ')', '$', '\x60', '\\', '"', ' ', '\t', '*', '?', '[',
    '#', '~', '=', '%'].contains c

/-- One character between single quotes. -/
def quoteInside (c : Char) : List Char := if c = '\'' then ['\'', '\\', '\'', '\''] else [c]

/-- A text as one word of a shell line. -/
def quoteWord (s : List Char) : List Char :=
  if s = [] then ['\'', '\'']
  else if s.any isSpecial then '\'' :: s.flatMap quoteInside ++ ['\'']
  else s

end Shell

end RemoteFleet
