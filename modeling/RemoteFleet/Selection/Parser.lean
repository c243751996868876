import RemoteFleet.Selection.Basic
import RemoteFleet.Text.Classes
import RemoteFleet.Text.Numeral
import RemoteFleet.Text.Quoted
import RemoteFleet.Text.Split

/-!
# Reading selections

A selection is written as a phrase, with an optional keyword `index` in front that means nothing.

* `all`, `*` and `none`;
* a comparison `< k`, `<= k`, `> k`, `>= k` or `== k`;
* a range `a..b`, `a..=b`, `a..`, `..b` or `..=b`;
* a list `1,3,5` of the members, or `!= 1,3,5` of the indices left out.

Blanks may stand around every part.
-/

namespace RemoteFleet.Selection

/-- Why a text is no selection. -/
inductive Fault where
  | emptyPredicate
  | notAnIndex (found : String)
  | openRange
  deriving DecidableEq

def Fault.message : Fault → String
  | .emptyPredicate => "empty predicate"
  | .notAnIndex found => "expected a roster index, found " ++ Text.quoteString found
  | .openRange => "open range needs at least one bound, use \x60all\x60"

/-- Reads an index with blanks around it. -/
def readIndex (s : List Char) : Except Fault UInt32 :=
  match Text.readUInt32 (Text.trim s) with
  | .ok k => .ok k
  | .error _ => .error (.notAnIndex (String.ofList (Text.trim s)))

/-- Reads indices with commas between them. -/
def readSet (s : List Char) : Except Fault IndexSet :=
  ((Text.pieces ',' s).mapM readIndex).map IndexSet.ofList

/-- The comparisons that a phrase may begin with. -/
inductive Comparison where
  | atMost
  | atLeast
  | equal
  | below
  | above

namespace Comparison

def sign : Comparison → List Char
  | .atMost => ['<', '=']
  | .atLeast => ['>', '=']
  | .equal => ['=', '=']
  | .below => ['<']
  | .above => ['>']

/-- The comparisons in the order of trial: a sign comes before its own beginnings. -/
def inOrder : List Comparison := [.atMost, .atLeast, .equal, .below, .above]

/-- The indices that stand in the comparison to `k`. -/
def selection (k : UInt32) : Comparison → Selection
  | .atMost => .range .unbounded (.included k)
  | .atLeast => .range (.included k) .unbounded
  | .equal => .only (IndexSet.ofList [k])
  | .below => .range .unbounded (.excluded k)
  | .above => .range (.excluded k) .unbounded

end Comparison

/-- The comparison that a phrase begins with, and what follows its sign. -/
def cutComparison? (s : List Char) : Option (Comparison × List Char) :=
  Comparison.inOrder.findSome? fun c => (Text.cutPrefix? c.sign s).map (c, ·)

/-- Reads the lower end of a range. -/
def readLower (s : List Char) : Except Fault Bound :=
  match Text.trim s with
  | [] => .ok .unbounded
  | s => (readIndex s).map .included

/-- Reads the upper end of a range. -/
def readUpper (s : List Char) : Except Fault Bound :=
  match Text.trim s with
  | [] => .ok .unbounded
  | '=' :: s => (readIndex s).map .included
  | s => (readIndex s).map .excluded

/-- Reads a range from what stands before and after its dots. -/
def readRange (before after : List Char) : Except Fault Selection := do
  let lower ← readLower before
  let upper ← readUpper after
  if lower = .unbounded ∧ upper = .unbounded then .error .openRange
  else .ok (.range lower upper)

/-- The phrase without blanks around it and without the keyword. -/
def cutKeyword (input : List Char) : List Char :=
  match Text.cutPrefix? ['i', 'n', 'd', 'e', 'x'] (Text.trim input) with
  | some rest => Text.trimStart rest
  | none => Text.trim input

/-- Reads a phrase that stands without keyword and blanks around it. -/
def readPhrase (s : List Char) : Except Fault Selection :=
  if s = [] then .error .emptyPredicate
  else if s = ['a', 'l', 'l'] ∨ s = ['*'] then .ok .all
  else if s = ['n', 'o', 'n', 'e'] then .ok .nothing
  else
    match Text.cutPrefix? ['!', '='] s with
    | some rest => (readSet rest).map .except
    | none =>
      match cutComparison? s with
      | some (c, rest) => (readIndex rest).map c.selection
      | none =>
        match Text.cutOnce? ['.', '.'] s with
        | some (before, after) => readRange before after
        | none => (readSet s).map .only

/-- Reads a selection. -/
def parse (input : String) : Except Fault Selection := readPhrase (cutKeyword input.toList)

end RemoteFleet.Selection
