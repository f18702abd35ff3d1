import VisualScript.Graph.Basic
import VisualScript.OrderedSet

/-!
# Diagnostics

What is wrong with a graph, piled up while it is compiled so that one pass tells
everything. Reports of the host compiler join later and never block a program.
-/

namespace VisualScript

/-- How grave a diagnostic is. -/
inductive Severity where
  | error
  | warning
  deriving Repr, DecidableEq, Inhabited

def Severity.text : Severity → String
  | error => "error"
  | warning => "warning"

/-- What a diagnostic is about, in the order in which a pass meets it. -/
inductive DiagnosticKind where
  /-- The language has no such component. -/
  | unknownComponent
  /-- Something required was left out. -/
  | inputExpected
  | thenBranchExpected
  | argumentTypeExpected
  /-- Something was entered that does not fit. -/
  | invalidLiteral
  | unsupportedArgument
  | duplicateArgument
  /-- The order of execution does not work out. -/
  | flowCycle
  | dataCycle
  | usedBeforeExecuted
  | valueOutOfScope
  | nodeNotProcessed
  /-- Told by the host compiler. -/
  | hostError
  deriving Repr, DecidableEq, Inhabited

namespace DiagnosticKind

/-- All kinds, in their order. -/
def all : List DiagnosticKind :=
  [unknownComponent, inputExpected, thenBranchExpected, argumentTypeExpected, invalidLiteral,
    unsupportedArgument, duplicateArgument, flowCycle, dataCycle, usedBeforeExecuted,
    valueOutOfScope, nodeNotProcessed, hostError]

/-- The place of a kind in the order. -/
def rank (kind : DiagnosticKind) : Nat := all.idxOf kind

/-- How grave a kind is. What the host compiler tells blocks nothing. -/
def severity : DiagnosticKind → Severity
  | hostError => .warning
  | _ => .error

/-- What is said where there is no detail to tell. -/
def fallback : DiagnosticKind → String
  | unknownComponent => "unknown component"
  | inputExpected => "input expected"
  | thenBranchExpected => "then exit expected"
  | argumentTypeExpected => "argument type expected"
  | invalidLiteral => "invalid literal"
  | unsupportedArgument => "unsupported argument"
  | duplicateArgument => "duplicate argument name"
  | flowCycle => "execution flow loops back into this node"
  | dataCycle => "value depends on itself"
  | usedBeforeExecuted => "value used before its node is executed"
  | valueOutOfScope => "value is bound in a scope this node cannot see"
  | nodeNotProcessed => "node is not processed"
  | hostError => "host compiler error"

/-- What is said in front of and behind a detail. -/
def frame : DiagnosticKind → String × String
  | unknownComponent => ("`", "` is not a known component")
  | inputExpected => ("input `", "` expected")
  | argumentTypeExpected => ("argument `", "` has no type")
  | unsupportedArgument => ("unsupported argument type: `", "`")
  | duplicateArgument => ("duplicate argument name: `", "`")
  | usedBeforeExecuted => ("value of node ", " used before it is executed")
  | valueOutOfScope => ("value of node ", " is bound in another scope")
  | hostError => ("", "")
  | kind => (kind.fallback ++ ": ", "")

/-- The frame around a mark for the detail. -/
def template (kind : DiagnosticKind) : String := kind.frame.1 ++ "\x7b\x7d" ++ kind.frame.2

/-- The message with or without a detail. -/
def message (kind : DiagnosticKind) : Option String → String
  | none => kind.fallback
  | some detail => kind.frame.1 ++ detail ++ kind.frame.2

end DiagnosticKind

/-- Something that is wrong, with the node it is wrong with, if it is a node's fault. -/
structure Diagnostic where
  kind : DiagnosticKind
  node : Option NodeId
  message : String
  hints : List String := []
  deriving Repr, DecidableEq, Inhabited

namespace Diagnostic

/-- A diagnostic of a kind with or without a detail. -/
def of (kind : DiagnosticKind) (node : Option NodeId) (detail : Option String) : Diagnostic :=
  { kind := kind, node := node, message := kind.message detail }

def severity (diagnostic : Diagnostic) : Severity := diagnostic.kind.severity

/-- Whether a diagnostic keeps a program from being submitted. -/
def isError (diagnostic : Diagnostic) : Bool := diagnostic.severity = .error

/-- A diagnostic on one line. -/
def text (diagnostic : Diagnostic) : String :=
  diagnostic.severity.text ++ ": " ++
    (match diagnostic.node with
      | some id => "node " ++ id.text ++ ": "
      | none => "") ++
    diagnostic.message ++
    String.join (diagnostic.hints.map fun hint => " (hint: " ++ hint ++ ")")

end Diagnostic

/-- Diagnostics in the order of their report. -/
abbrev Diagnostics := List Diagnostic

namespace Diagnostics

/-- Whether one of the diagnostics is an error. -/
def hasErrors (diagnostics : Diagnostics) : Bool := diagnostics.any Diagnostic.isError

def errorCount (diagnostics : Diagnostics) : Nat := diagnostics.countP Diagnostic.isError

def forNode (diagnostics : Diagnostics) (id : NodeId) : Diagnostics :=
  diagnostics.filter fun diagnostic => diagnostic.node = some id

/-- The diagnostics by node, in the order in which the nodes first come up. -/
def byNode (diagnostics : Diagnostics) : List (Option NodeId × Diagnostics) :=
  (distinct (diagnostics.map Diagnostic.node)).map fun node =>
    (node, diagnostics.filter fun diagnostic => diagnostic.node = node)

end Diagnostics

end VisualScript
