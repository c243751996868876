import RemoteFleet.Toml.Scalar
import RemoteFleet.Toml.Table

/-!
# Reading TOML

`read?` reads a document of version 1.0.  It refuses what is not well formed, a name defined twice
and a number out of range, without saying which.
-/

namespace RemoteFleet.Toml

/-- How deep containers may nest, and how many parts a key may have, less one. -/
def depthLimit : Nat := 79

/-! ## Keys -/

def isBareKeyChar (c : Char) : Bool := c.isAlphanum || c = '_' || c = '-'

/-- One part of a key. -/
def readKeyPart? (s : List Char) : Option (String × List Char) :=
  match s with
  | '"' :: s => (readBasic? (s.length + 1) s).map fun (chars, s) => (String.ofList chars, s)
  | '\'' :: s => (readLiteral? s).map fun (chars, s) => (String.ofList chars, s)
  | s =>
    match s.takeWhile isBareKeyChar with
    | [] => none
    | chars => some (String.ofList chars, s.dropWhile isBareKeyChar)

/-- The parts of a key with dots between them, and blanks around each. -/
def readKeyParts? : (fuel : Nat) → List Char → Option (List String × List Char)
  | 0, _ => none
  | fuel + 1, s => do
    let (part, s) ← readKeyPart? (skipSpaces s)
    match skipSpaces s with
    | '.' :: s =>
      let (parts, s) ← readKeyParts? fuel s
      return (part :: parts, s)
    | s => return ([part], s)

/-- A key: the names on the way, the last name, and the rest. -/
def readKey? (s : List Char) : Option (List String × String × List Char) := do
  let (parts, s) ← readKeyParts? depthLimit s
  let last ← parts.getLast?
  return (parts.dropLast, last, s)

/-! ## Values -/

/-- A boolean. -/
def readBoolean? : List Char → Option (Value × List Char)
  | 't' :: 'r' :: 'u' :: 'e' :: s => some (.boolean true, s)
  | 'f' :: 'a' :: 'l' :: 's' :: 'e' :: s => some (.boolean false, s)
  | _ => none

/-- A value that holds no others. -/
def readScalar? (s : List Char) : Option (Value × List Char) :=
  match s with
  | '"' :: _ | '\'' :: _ => (readString? s).map fun (chars, s) => (.string (String.ofList chars), s)
  | _ =>
    match readBoolean? s with
    | some answer => some answer
    | none =>
      match readDatetime? s with
      | some answer => some answer
      | none =>
        match readFloat? s with
        | some answer => some answer
        | none => readInteger? s

/-- What reads a value at the front of a text. -/
abbrev ValueReader := List Char → Option (Value × List Char)

/-- The elements of an array up to its closing bracket. -/
def readElements? (read : ValueReader) : (fuel : Nat) → List Char → Option (List Value × List Char)
  | 0, _ => none
  | fuel + 1, s => do
    let s ← skipLines (s.length + 1) s
    if let ']' :: s := s then return ([], s)
    let (v, s) ← read s
    match ← skipLines (s.length + 1) s with
    | ',' :: s =>
      let (values, s) ← readElements? read fuel s
      return (v :: values, s)
    | ']' :: s => return ([v], s)
    | _ => none

/-- The members of a table in braces up to its closing brace. -/
def readMembers? (read : ValueReader) : (fuel : Nat) → (before : Members) → List Char →
    Option (Members × List Char)
  | 0, _, _ => none
  | fuel + 1, before, s => do
    let (path, name, s) ← readKey? s
    let s ← Text.cutPrefix? ['='] s
    let (v, s) ← read (skipSpaces s)
    let members ← putKey path name v .headed before
    match skipSpaces s with
    | ',' :: s => readMembers? read fuel members s
    | '\x7d' :: s => return (members, s)
    | _ => none

/-- A value, inside at most `depth` further containers. -/
def readValue? : (depth : Nat) → ValueReader
  | 0, s => readScalar? s
  | depth + 1, s =>
    match s with
    | '[' :: s =>
      (readElements? (readValue? depth) (s.length + 1) s).map fun (values, s) => (.array values, s)
    | '\x7b' :: s =>
      match skipSpaces s with
      | '\x7d' :: s => some (.table .inline [], s)
      | s =>
        (readMembers? (readValue? depth) (s.length + 1) [] s).map fun (members, s) =>
          (.table .inline members, s)
    | s => readScalar? s

/-! ## Documents -/

/-- What has been read of a document, and the table that keys go into. -/
structure Draft where
  root : Members
  current : List String

/-- Blanks and a comment, up to the end of the line. -/
def endLine? (s : List Char) : Option (List Char) :=
  match skipComment (skipSpaces s) with
  | [] => some []
  | s => cutNewline? s

/-- A line with a header of one bracket or two. -/
def readHeader? (d : Draft) (s : List Char) : Option (Draft × List Char) := do
  let (double, s) := match s with
    | '[' :: s => (true, s)
    | s => (false, s)
  let (path, name, s) ← readKey? s
  let s ← Text.cutPrefix? (if double then [']', ']'] else [']']) s
  let s ← endLine? s
  let change := if double then addTable name else openTable name
  let root ← changeAt false (fun _ members => change members) path .headed d.root
  return (⟨root, path ++ [name]⟩, s)

/-- A line with a key and its value. -/
def readPair? (d : Draft) (s : List Char) : Option (Draft × List Char) := do
  let (path, name, rest) ← readKey? s
  let rest ← Text.cutPrefix? ['='] rest
  let (v, rest) ← readValue? depthLimit (skipSpaces rest)
  let rest ← endLine? rest
  let root ← changeAt false (putKey path name v) d.current .headed d.root
  return (⟨root, d.current⟩, rest)

/-- Reads line after line. -/
def readLines? : (fuel : Nat) → Draft → List Char → Option Members
  | 0, _, _ => none
  | fuel + 1, d, s =>
    match skipSpaces s with
    | [] => some d.root
    | '#' :: s => endLine? ('#' :: s) >>= readLines? fuel d
    | '[' :: s => do
      let (d, s) ← readHeader? d s
      readLines? fuel d s
    | s =>
      match cutNewline? s with
      | some s => readLines? fuel d s
      | none => do
        let (d, s) ← readPair? d s
        readLines? fuel d s

/-- A mark of byte order at the front of a text does not count. -/
def skipByteOrderMark : List Char → List Char
  | '\ufeff' :: s => s
  | s => s

/-- Reads a document. -/
def read? (s : List Char) : Option Members :=
  readLines? (s.length + 1) ⟨[], []⟩ (skipByteOrderMark s)

end RemoteFleet.Toml
