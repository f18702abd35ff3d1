import VisualScript.Diagnostic.HostReport
import VisualScript.Diagnostic.Printer
import VisualScript.Pass.Traversal

/-!
# Compilations

What comes out of a pass: the lines of a program with the nodes that wrote them,
the modules it requires and what is wrong. A program with errors is not
submitted.
-/

namespace VisualScript

/-- What comes out of a pass. -/
structure Compilation where
  lines : List Line
  modules : List String
  diagnostics : Diagnostics
  /-- What happened in the pass, in order. -/
  journal : List Event := []
  deriving Repr, Inhabited

namespace Event

/-- What an event reports. -/
def diagnostic? : Event → Option Diagnostic
  | reported diagnostic => some diagnostic
  | _ => none

def modules : Event → List String
  | required modules => modules
  | _ => []

/-- The node whose own value an event puts to use. -/
def usedSource? : Event → Option NodeId
  | resolved resolution => if resolution.ofSource then some resolution.source else none
  | _ => none

end Event

namespace Compilation

/-- The lines that require modules, with an empty line behind them if there are any. -/
def header (modules : List String) : List Line :=
  if modules.isEmpty then []
  else modules.map (fun name => ⟨"require " ++ name, none⟩) ++ [⟨"", none⟩]

/-- The diagnostics of used nodes that the pass never reached. -/
def unreached (journal : List Event) (reached : List NodeId) : Diagnostics :=
  ((distinct (journal.filterMap Event.usedSource?)).filter (· ∉ reached)).map fun id =>
    Diagnostic.of .nodeNotProcessed (some id) none

/-- The compilation of what a pass wrote. -/
def ofPass (written : List Written) (pass : Pass) : Compilation :=
  let journal := pass.events.reverse
  let modules := distinct (journal.flatMap Event.modules)
  { lines := header modules ++ written.flatMap Written.lines
    modules := modules
    diagnostics := journal.filterMap Event.diagnostic? ++ unreached journal pass.reached
    journal := journal }

/-- The text of the program, every line ended by a newline. -/
def code (compilation : Compilation) : String :=
  String.join (compilation.lines.map fun line => line.text ++ "\n")

/-- The nodes that wrote the lines. -/
def owners (compilation : Compilation) : List (Option NodeId) := compilation.lines.map Line.node

/-- The node that wrote a line, counted from one. -/
def nodeAtLine? (compilation : Compilation) (line : Nat) : Option NodeId :=
  match line with
  | 0 => none
  | index + 1 => compilation.owners[index]?.join

/-- The first line that a node wrote, counted from one. -/
def firstLineOf? (compilation : Compilation) (id : NodeId) : Option Nat :=
  (compilation.owners.findIdx? (· = some id)).map (· + 1)

/-- Whether nothing keeps the program from being submitted. -/
def isValid (compilation : Compilation) : Bool := !compilation.diagnostics.hasErrors

/-- The text to submit to the host compiler, if nothing keeps it from that. -/
def submission? (compilation : Compilation) : Option String :=
  if compilation.isValid then some compilation.code else none

/-- Add a report to the diagnostics, and to the number of those added, if it is about a file. -/
def note (file : String) (counted : Nat × Compilation) (report : HostReport) : Nat × Compilation :=
  let (count, compilation) := counted
  if report.concerns file then
    (count + 1, { compilation with
      diagnostics := compilation.diagnostics ++ [report.diagnostic compilation.owners] })
  else counted

/-- Add the reports about a file to the diagnostics, and tell how many there were. -/
def attachCounted (compilation : Compilation) (reports : List HostReport) (file : String) :
    Nat × Compilation :=
  reports.foldl (note file) (0, compilation)

/-- Add the reports about a file to the diagnostics. -/
def attach (compilation : Compilation) (reports : List HostReport) (file : String) : Compilation :=
  (compilation.attachCounted reports file).2

/-- The program as diagnostics are printed with it. -/
def listing (compilation : Compilation) : Listing :=
  ⟨compilation.code.toList, compilation.owners⟩

/-- Blanks behind a text up to a width. -/
def padded (width : Nat) (text : String) : List Char :=
  text.toList ++ List.replicate (width - text.length) ' '

/-- A line of a dump: its number, the node that wrote it, and its text. -/
def dumpLine (index : Nat) (text : List Char) (owner : Option NodeId) : String :=
  let name := match owner with
    | some id => id.text
    | none => "-"
  String.ofList (Text.trimEnd (padded 3 (toString (index + 1)) ++ ' ' :: padded 4 name ++ ' ' ::
    text.flatMap Text.expandTab)) ++ "\n"

/-- The program with numbered lines and the node that wrote each. -/
def dump (compilation : Compilation) : String :=
  String.join (((Text.lines compilation.code.toList).zip compilation.owners).zipIdx.map
    fun ((text, owner), index) => dumpLine index text owner)

end Compilation

end VisualScript
