import RemoteFleet.Text.Split
import RemoteFleet.Text.Utf8

/-!
# Files

A store holds directories and regular files, most of them below one working directory.  A path leads
from there, or from the root when it begins with a slash; the root holds a directory for devices,
with a device that is always full in it, and one for temporary files.  Every operation says in
`FileError` why it cannot be done, and then changes nothing.
-/

namespace RemoteFleet

/-- Why a file operation failed. -/
inductive FileError where
  | notFound
  | permissionDenied
  | notADirectory
  | isADirectory
  | invalidArgument
  | noSpace
  | nameTooLong
  | nulInName
  | notUtf8
  | other (message : String)
  deriving DecidableEq

def FileError.message : FileError → String
  | .notFound => "No such file or directory (os error 2)"
  | .permissionDenied => "Permission denied (os error 13)"
  | .notADirectory => "Not a directory (os error 20)"
  | .isADirectory => "Is a directory (os error 21)"
  | .invalidArgument => "Invalid argument (os error 22)"
  | .noSpace => "No space left on device (os error 28)"
  | .nameTooLong => "File name too long (os error 36)"
  | .nulInName => "file name contained an unexpected NUL byte"
  | .notUtf8 => "stream did not contain valid UTF-8"
  | .other message => message

/-- The names that lead to a place from the working directory.  A first name `/` stands for the
root, and each name `..` at the beginning for a step out of the working directory. -/
abbrev Place := List String

/-- The directories and files that were made. -/
structure FileStore where
  directories : List Place
  files : List (Place × Bytes)
  deriving DecidableEq

namespace FileStore

/-- Nothing but what is always there. -/
def empty : FileStore := ⟨[], []⟩

/-! ## Paths -/

/-- What a path leads to. -/
inductive Location where
  | file (place : Place)
  | directory (place : Place)
  /-- Nothing is there, but its directory is. -/
  | vacant (place : Place)
  /-- The device that is always full. -/
  | fullDevice
  deriving DecidableEq

/-- The names of a path between its slashes. -/
def pathNames (path : String) : List String :=
  (Text.pieces '/' path.toList).map String.ofList

/-- The places at the root that are always directories. -/
def rootDirectories : List Place := [["/"], ["/", "dev"], ["/", "tmp"]]

/-- The place of the device that is always full. -/
def fullDevice : Place := ["/", "dev", "full"]

/-- The place above another.  Nothing is above the root. -/
def above (place : Place) : Place :=
  if place = ["/"] then place
  else if place.all (· = "..") then place ++ [".."]
  else place.dropLast

/-- What stands at a place whose directory exists.  The working directory and those around it are
there. -/
def look (store : FileStore) (place : Place) : Location :=
  if place.all (· = "..") ∨ place ∈ rootDirectories ∨ place ∈ store.directories then
    .directory place
  else if place = fullDevice then .fullDevice
  else if (store.files.lookup place).isSome then .file place
  else .vacant place

/-- Follows a name from a location. -/
def follow (store : FileStore) (from_ : Location) (name : String) : Except FileError Location :=
  match from_ with
  | .file _ => .error .notADirectory
  | .vacant _ => .error .notFound
  | .fullDevice => .error .notADirectory
  | .directory place =>
    if name = "" ∨ name = "." then .ok (.directory place)
    else if name = ".." then .ok (.directory (above place))
    else if 255 < name.utf8ByteSize then .error .nameTooLong
    else .ok (store.look (place ++ [name]))

/-- Why a path cannot lead anywhere. -/
def pathFault? (path : String) : Option FileError :=
  if path.toList.contains '\x00' then some .nulInName
  else if path = "" then some .notFound
  else if 4096 ≤ path.utf8ByteSize then some .nameTooLong
  else none

/-- Where the names of a path lead. -/
def walk (store : FileStore) (path : String) (names : List String) : Except FileError Location :=
  match pathFault? path with
  | some e => .error e
  | none =>
    let start : Place := if path.toList.head? = some '/' then ["/"] else []
    names.foldlM store.follow (.directory start)

/-- Where a path leads. -/
def locate (store : FileStore) (path : String) : Except FileError Location :=
  store.walk path (pathNames path)

/-! ## Reading and writing -/

/-- Gives a file its content, at its old place in the list or at the end. -/
def put (place : Place) (content : Bytes) : List (Place × Bytes) → List (Place × Bytes)
  | [] => [(place, content)]
  | (p, b) :: files =>
    if p = place then (p, content) :: files else (p, b) :: put place content files

/-- The store with a file. -/
def write (store : FileStore) (place : Place) (content : Bytes) : FileStore :=
  { store with files := put place content store.files }

/-- The content of a file.  The full device has none. -/
def read (store : FileStore) (path : String) : Except FileError Bytes :=
  match store.locate path with
  | .error e => .error e
  | .ok (.file place) => .ok ((store.files.lookup place).getD [])
  | .ok (.vacant _) => .error .notFound
  | .ok (.directory _) => .error .isADirectory
  | .ok .fullDevice => .error .invalidArgument

/-- The content of a file as text. -/
def readText (store : FileStore) (path : String) : Except FileError String :=
  match store.read path with
  | .error e => .error e
  | .ok bytes =>
    match Text.decode? bytes with
    | some text => .ok text
    | none => .error .notUtf8

/-- Whether the last name of a path is empty, so that it must be a directory. -/
def endsInSlash (path : String) : Bool := path.toList.getLast? = some '/'

/-- The names before the last one that is not empty, and an empty one for the directory itself. -/
def namesAbove (path : String) : List String :=
  ((pathNames path).reverse.dropWhile (· = "")).tail.reverse ++ [""]

/-- A file that is open for writing. -/
inductive OpenFile where
  | regular (place : Place)
  | fullDevice
  deriving DecidableEq

/-- Creates a file, or empties it if it is there.  A path that ends in a slash names a directory,
whatever its last name is. -/
def create (store : FileStore) (path : String) : Except FileError (OpenFile × FileStore) :=
  if endsInSlash path then
    match store.walk path (namesAbove path) with
    | .error e => .error e
    | .ok _ => .error .isADirectory
  else match store.locate path with
    | .error e => .error e
    | .ok (.directory _) => .error .isADirectory
    | .ok .fullDevice => .ok (.fullDevice, store)
    | .ok (.file place) | .ok (.vacant place) => .ok (.regular place, store.write place [])

/-- Adds bytes at the end of an open file.  The full device takes none. -/
def append (store : FileStore) (bytes : Bytes) : OpenFile → Except FileError FileStore
  | .fullDevice => if bytes = [] then .ok store else .error .noSpace
  | .regular place => .ok (store.write place ((store.files.lookup place).getD [] ++ bytes))

/-- Waits until an open file is on disk.  A device has no disk. -/
def sync : OpenFile → Option FileError
  | .fullDevice => some .invalidArgument
  | .regular _ => none

/-- The store with a directory and those above it. -/
def makeDirectory (store : FileStore) (place : Place) : FileStore :=
  let places := (List.range place.length).map fun k => place.take (k + 1)
  { store with directories := store.directories ++ places.filter (· ∉ store.directories) }

end FileStore

/-- The texts that can be read, by path. -/
abbrev TextReader := String → Except FileError String

end RemoteFleet
