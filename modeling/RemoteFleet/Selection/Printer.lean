import RemoteFleet.Selection.Basic
import RemoteFleet.Text.Numeral

/-!
# Writing selections

Every selection has a text.  A lower end is always written as the first index it lets through, so an
excluded lower end and the included one after it look the same.
-/

namespace RemoteFleet

/-- The next index, or the greatest one if there is none. -/
def nextIndex (k : UInt32) : UInt32 := if k = 0xFFFFFFFF then k else k + 1

namespace Selection

def writeLower : Bound → List Char
  | .unbounded => []
  | .included k => Text.decimal k.toNat
  | .excluded k => Text.decimal (nextIndex k).toNat

def writeUpper : Bound → List Char
  | .unbounded => []
  | .included k => '=' :: Text.decimal k.toNat
  | .excluded k => Text.decimal k.toNat

/-- The members with commas between them. -/
def writeSet (s : IndexSet) : List Char :=
  [','].intercalate (s.toList.map fun k => Text.decimal k.toNat)

def write : Selection → List Char
  | .all => ['a', 'l', 'l']
  | .nothing => ['n', 'o', 'n', 'e']
  | .range lower upper => writeLower lower ++ ['.', '.'] ++ writeUpper upper
  | .only s => writeSet s
  | .except s => ['!', '=', ' '] ++ writeSet s

/-- The text of a selection. -/
def display (s : Selection) : String := String.ofList s.write

end Selection

end RemoteFleet
