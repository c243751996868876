import RemoteFleet.Roster.Target
import RemoteFleet.Text.Classes
import RemoteFleet.Text.Quoted
import RemoteFleet.Text.Split

/-!
# Patterns

A text may hold placeholders: a name between double braces, with blanks around it or not.
`Pattern.ofText` cuts a text at its placeholders once and for all.  `Pattern.check` says whether
each of them is known, and `Pattern.fill` puts a target's values in their places; a value that looks
like a placeholder is not looked at again.
-/

namespace RemoteFleet

/-- What a placeholder may stand for. -/
inductive Placeholder where
  | index
  | address
  | user
  deriving DecidableEq

namespace Placeholder

def name : Placeholder → List Char
  | .index => ['i', 'n', 'd', 'e', 'x']
  | .address => ['a', 'd', 'd', 'r', 'e', 's', 's']
  | .user => ['u', 's', 'e', 'r']

/-- The placeholders in the order in which messages list them. -/
def known : List Placeholder := [.index, .address, .user]

/-- The placeholder of a name. -/
def ofName? (name : List Char) : Option Placeholder := known.find? (·.name = name)

/-- What stands in the place of a placeholder. -/
def value (t : RemoteTarget) : Placeholder → List Char
  | .index => Text.decimal t.index.toNat
  | .address => t.address.toList
  | .user => t.user.toList

end Placeholder

def openBraces : List Char := ['\x7b', '\x7b']

def closeBraces : List Char := ['\x7d', '\x7d']

/-- A text cut at its placeholders. -/
inductive Pattern where
  /-- Nothing opens. -/
  | plain (text : List Char)
  /-- The first opening braces of the text are never closed. -/
  | unclosed (text : List Char)
  /-- `before`, then `inside` between braces, then the rest. -/
  | hole (before inside : List Char) (rest : Pattern)
  deriving DecidableEq

namespace Pattern

/-- Cuts a text at its placeholders, from the left. -/
def ofText (s : List Char) : Pattern :=
  match _hopen : Text.cutOnce? openBraces s with
  | none => .plain s
  | some (before, after) =>
    match _hclose : Text.cutOnce? closeBraces after with
    | none => .unclosed s
    | some (inside, rest) => .hole before inside (ofText rest)
termination_by s.length
decreasing_by
  rw [Text.eq_of_cutOnce? _hopen, Text.eq_of_cutOnce? _hclose]
  simp only [List.length_append, openBraces, closeBraces, List.length_cons]
  omega

/-- Why a text cannot be filled in. -/
inductive Fault where
  | unclosedPlaceholder
  | unknownPlaceholder (name : List Char)
  deriving DecidableEq

/-- The placeholders of a text in their order, or the first thing wrong with one. -/
def check : Pattern → Except Fault (List Placeholder)
  | .plain _ => .ok []
  | .unclosed _ => .error .unclosedPlaceholder
  | .hole _ inside rest =>
    match Placeholder.ofName? (Text.trim inside) with
    | none => .error (.unknownPlaceholder (Text.trim inside))
    | some p => rest.check.map (p :: ·)

/-- What stands for one hole.  An unknown name stays, without the blanks around it. -/
def fillHole (t : RemoteTarget) (inside : List Char) : List Char :=
  match Placeholder.ofName? (Text.trim inside) with
  | some p => p.value t
  | none => openBraces ++ Text.trim inside ++ closeBraces

/-- The text with a target's values in the places of its placeholders. -/
def fill (t : RemoteTarget) : Pattern → List Char
  | .plain text => text
  | .unclosed text => text
  | .hole before inside rest => before ++ fillHole t inside ++ rest.fill t

end Pattern

/-- Fills a text in for a target. -/
def substitute (s : List Char) (t : RemoteTarget) : List Char := (Pattern.ofText s).fill t

end RemoteFleet
