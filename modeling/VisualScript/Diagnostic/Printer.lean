import VisualScript.Diagnostic.Snippet

/-!
# Printing diagnostics

With the text of a program and the nodes that wrote its lines, a diagnostic
points at the first line of its node. All others take one line each.
-/

namespace VisualScript

/-- A program with the node that wrote each line. -/
structure Listing where
  source : List Char
  owners : List (Option NodeId)
  deriving Repr, Inhabited

/-- How diagnostics are printed. -/
structure Printer where
  listing : Option Listing := none
  path : Option String := none
  colored : Bool := false

namespace Listing

/-- The index of the first line that a node wrote, counted from zero. -/
def firstLine? (listing : Listing) (id : NodeId) : Option Nat :=
  listing.owners.findIdx? (· = some id)

/-- What is left of the program from a line on. -/
def fromLine (listing : Listing) (index : Nat) : List Char :=
  ((Text.endedPieces listing.source).drop index).flatten

/-- The bytes of the program that a diagnostic points at, first and last: the
first line of its node, or one byte of the ending of an empty line. -/
def range? (listing : Listing) (diagnostic : Diagnostic) : Option (Nat × Nat) := do
  let index ← listing.firstLine? (← diagnostic.node)
  let start := Text.byteLength ((Text.endedPieces listing.source).take index).flatten
  let line := ((Text.lines (listing.fromLine index)).head?).getD []
  return (start, start + max (Text.byteLength line) 1)

/-- The bytes that a diagnostic points at, if they lie in the program. -/
def located? (listing : Listing) (diagnostic : Diagnostic) : Option (Nat × Nat) := do
  let range ← listing.range? diagnostic
  if range.2 ≤ Text.byteLength listing.source then some range else none

/-- The line that a node is pointed at by. The mark on an empty line reaches up
to the next line if there is one and the ending is just a newline. -/
def mark (listing : Listing) (index : Nat) : Snippet.Mark :=
  let rest := (Text.endedPieces listing.source).drop index
  let line := (rest.head?.map Text.dropEnding).getD []
  { number := index + 1
    line := line
    next := if rest.head? = some ['\n'] then (rest.drop 1).head?.map Text.dropEnding else none }

end Listing

namespace Printer

/-- The text of one diagnostic. -/
def print (printer : Printer) (diagnostic : Diagnostic) : String :=
  let placed := do
    let listing ← printer.listing
    let id ← diagnostic.node
    let index ← listing.firstLine? id
    let _ ← listing.located? diagnostic
    return (listing.mark index, "emitted by node " ++ id.text)
  match placed with
  | some (mark, label) =>
      Snippet.rowsText printer.colored (Snippet.rows diagnostic printer.path mark label)
  | none => diagnostic.text

/-- The text of diagnostics, one below the other. -/
def printAll (printer : Printer) (diagnostics : Diagnostics) : String :=
  "\n".intercalate (diagnostics.map printer.print)

end Printer

end VisualScript
