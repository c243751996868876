import RemoteFleet.Number.Binary64
import RemoteFleet.Text.Quoted

/-!
# TOML values

A document is a table.  Its members keep the order in which they were defined, and every table
remembers how it came about, since that decides what may still be added to it.
-/

namespace RemoteFleet.Toml

/-- A floating point number. -/
inductive Number where
  | nan
  | infinite (negative : Bool)
  | zero (negative : Bool)
  | finite (negative : Bool) (magnitude : Binary64)
  deriving DecidableEq

/-- The text of a number, with a point if it is finite. -/
def Number.text : Number → List Char
  | .nan => ['N', 'a', 'N']
  | .infinite negative => (if negative then ['-'] else []) ++ ['i', 'n', 'f']
  | .zero negative => (if negative then ['-'] else []) ++ ['0', '.', '0']
  | .finite negative x => (if negative then ['-'] else []) ++ x.shortest.positional

/-- How a table came about. -/
inductive TableKind where
  /-- Written between braces. -/
  | inline
  /-- Named by a header of its own. -/
  | headed
  /-- On the way to the table of a header. -/
  | implied
  /-- On the way of a dotted key. -/
  | dotted
  deriving DecidableEq

/-- A TOML value. -/
inductive Value where
  | string (s : String)
  | integer (n : Int)
  | float (x : Number)
  | boolean (b : Bool)
  /-- A date, a time of day or both, in its one text. -/
  | datetime (text : String)
  | array (values : List Value)
  | table (kind : TableKind) (members : List (String × Value))
  /-- The tables of double brackets. -/
  | tables (elements : List (List (String × Value)))
  deriving Inhabited

/-- The members of a table in the order of their definition. -/
abbrev Members := List (String × Value)

/-- What a message says was found where something else was wanted. -/
def Value.found : Value → String
  | .string s => "string " ++ Text.quoteString s
  | .integer n => "integer \x60" ++ Text.integerString n ++ "\x60"
  | .float x => "floating point \x60" ++ String.ofList x.text ++ "\x60"
  | .boolean b => "boolean \x60" ++ (if b then "true" else "false") ++ "\x60"
  | .datetime _ => "map"
  | .array _ => "sequence"
  | .table _ _ => "map"
  | .tables _ => "sequence"

end RemoteFleet.Toml
