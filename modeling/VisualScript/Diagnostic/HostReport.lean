import VisualScript.Diagnostic.Basic
import VisualScript.Json.Reader

/-!
# Reports of the host compiler

Errors that the host compiler finds in a program are led back to the nodes that
wrote the lines they are on.
-/

namespace VisualScript

structure HostReport where
  file : String := ""
  /-- The line in the program, counted from one. -/
  line : Nat := 0
  message : String := ""
  fixme : String := ""
  extra : String := ""
  deriving Repr, DecidableEq, Inhabited

namespace HostReport

open Json (Reader Fault)
open Json.Reader (RecordField text natural list record)

/-- The largest line number of a report, `2 ^ 64 - 1`. -/
def largestLine : Nat := 0xFFFFFFFFFFFFFFFF

def fields : List (RecordField HostReport) :=
  [{ name := "file", required := true, read := fun r => return { r with file := ← text } },
   { name := "line", required := true,
     read := fun r => return { r with line := ← natural largestLine } },
   { name := "message", required := true, read := fun r => return { r with message := ← text } },
   { name := "fixme", read := fun r => return { r with fixme := ← text } },
   { name := "extra", read := fun r => return { r with extra := ← text } }]

def parseList (document : String) : Except Fault (List HostReport) :=
  Json.readDocument (list (record fields {})) document

/-- What is left of a path behind the last separator of either kind. -/
def lastPart (path : List Char) : List Char :=
  (path.reverse.takeWhile fun c => c ≠ '/' && c ≠ '\\').reverse

/-- Whether the report is about a file with the given name. -/
def concerns (report : HostReport) (file : String) : Bool :=
  lastPart report.file.toList = file.toList

/-- The hints of a report: what to do about it, and more, as far as it says so. -/
def hints (report : HostReport) : List String :=
  (if report.fixme.isEmpty then [] else ["fixme: " ++ report.fixme]) ++
    (if report.extra.isEmpty then [] else ["extra: " ++ report.extra])

/-- The node that wrote the line of a report. -/
def owner? (report : HostReport) (owners : List (Option NodeId)) : Option NodeId :=
  match report.line with
  | 0 => none
  | index + 1 => owners[index]?.join

/-- The diagnostic of a report, given who wrote the lines of the program. -/
def diagnostic (report : HostReport) (owners : List (Option NodeId)) : Diagnostic :=
  { Diagnostic.of .hostError (report.owner? owners) (some report.message) with
    hints := report.hints }

end HostReport

end VisualScript
