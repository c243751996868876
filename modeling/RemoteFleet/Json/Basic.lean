/-!
# JSON values

A whole number within 64 bits, signed or not, is an integer; any other number is kept as its text.
The members of an object keep their order.
-/

namespace RemoteFleet

/-- A JSON value. -/
inductive Json where
  | null
  | bool (b : Bool)
  | integer (n : Int)
  /-- A number that is not a whole one within 64 bits. -/
  | decimal (text : List Char)
  | string (s : String)
  | array (values : List Json)
  | object (members : List (String × Json))
  deriving Inhabited

namespace Json

/-- Gives a member its value, in its place if the name is there, and last if it is not. -/
def putMember (name : String) (value : Json) : List (String × Json) → List (String × Json)
  | [] => [(name, value)]
  | (n, v) :: members =>
    if n = name then (n, value) :: members else (n, v) :: putMember name value members

/-- The value under a name in an object. -/
def member? (name : String) : Json → Option Json
  | .object members => members.lookup name
  | _ => none

/-- Null for nothing. -/
def ofOption (write : α → Json) : Option α → Json
  | none => .null
  | some a => write a

/-- A member that stands only when there is a value. -/
def memberOf (name : String) (write : α → Json) : Option α → List (String × Json)
  | none => []
  | some a => [(name, write a)]

def ofNat (n : Nat) : Json := .integer n

def ofChars (s : List Char) : Json := .string (String.ofList s)

def ofStrings (l : List String) : Json := .array (l.map .string)

end Json

end RemoteFleet
