import RemoteFleet.Text.Lines
import RemoteFleet.Text.Utf8

/-!
# Remote output

What a command wrote to its two streams, byte for byte.  The tail is its last lines as text.
-/

namespace RemoteFleet

/-- The bytes of the two streams. -/
structure RemoteOutput where
  stdout : Bytes := []
  stderr : Bytes := []
  deriving DecidableEq

namespace RemoteOutput

/-- The standard output and then the standard error. -/
def combined (o : RemoteOutput) : Bytes := o.stdout ++ o.stderr

def isEmpty (o : RemoteOutput) : Bool := o.stdout.isEmpty && o.stderr.isEmpty

/-- The lines of the combined output, read as text. -/
def lines (o : RemoteOutput) : List (List Char) := Text.lines (Text.decodeLossy o.combined)

/-- The last `n` lines of the combined output. -/
def tail (o : RemoteOutput) (n : Nat) : String :=
  String.ofList (['\n'].intercalate (o.lines.drop (o.lines.length - n)))

end RemoteOutput

end RemoteFleet
