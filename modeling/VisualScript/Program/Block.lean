import VisualScript.Program.Expression
import VisualScript.Text.Blank
import VisualScript.Text.Line

/-!
# Statements and blocks

A block is one lexical scope while it is written. The blocks inside it are
written on their own and laid into it when they are complete, one tab deeper.
The path of a block leads to it from the outside: the place of its root among
the roots, then its place among the children at each level.
-/

namespace VisualScript

/-- A statement of a program, or the header of a nested block. -/
inductive Statement where
  /-- A call for what it does. -/
  | run (call : Expression)
  /-- Bind the value of a node to its local. -/
  | bind (node : NodeId) (value : Expression)
  /-- Declare the local of a variable with a value to start with. -/
  | declare (node : NodeId) (value : Expression)
  /-- Declare the local of a variable with a type only. -/
  | declareTyped (node : NodeId) (type : String)
  | ifHeader (condition : Expression)
  | elseHeader
  | whileHeader (condition : Expression)
  /-- The mark of a function that other programs may call. -/
  | exportMark
  /-- The header of a function with its declared parameters. -/
  | definition (name : String) (parameters : List String)
  /-- A block that does nothing. -/
  | pass
  /-- Code as it stands. -/
  | code (text : String)
  | blank
  deriving Repr, Inhabited

namespace Statement

/-- The text of a statement, which may run over several lines. -/
def text : Statement → String
  | run call => call.text
  | bind node value => "let " ++ node.localName ++ " = " ++ value.text
  | declare node value => "var " ++ node.localName ++ " = " ++ value.text
  | declareTyped node type => "var " ++ node.localName ++ ": " ++ type
  | ifHeader condition => "if (" ++ condition.text ++ ")"
  | elseHeader => "else"
  | whileHeader condition => "while (" ++ condition.text ++ ")"
  | exportMark => "[export]"
  | definition name parameters => "def " ++ name ++ "(" ++ "; ".intercalate parameters ++ ")"
  | pass => "pass"
  | code text => text
  | blank => ""

end Statement

/-- The way from the outside to a scope. -/
abbrev ScopePath := List Nat

/-- A statement with the scope it was written into and the node that wrote it. -/
structure Written where
  scope : ScopePath
  node : NodeId
  statement : Statement
  deriving Repr, Inhabited

/-- A line of a program with the node that wrote it, if one did. -/
structure Line where
  text : String
  node : Option NodeId
  deriving Repr, DecidableEq, Inhabited

/-- The lines of a statement: one for each piece of its text, with a tab for
each scope around its own. Empty pieces stay empty. -/
def Written.lines (written : Written) : List Line :=
  (Text.pieces written.statement.text.toList).map fun piece =>
    let tabs := if piece.isEmpty then [] else List.replicate (written.scope.length - 1) '\t'
    ⟨String.ofList (tabs ++ piece), some written.node⟩

/-- A scope that is being written. -/
structure Block where
  path : ScopePath
  /-- The number of blocks opened inside. -/
  children : Nat := 0
  /-- What was written, nested blocks that are complete included. -/
  content : List Written := []
  deriving Repr, Inhabited

namespace Block

/-- The root of a program with a place among the roots. -/
def root (index : Nat) : Block := { path := [index] }

/-- The next block inside a block. -/
def child (block : Block) : Block := { path := block.path ++ [block.children] }

/-- The block after a block inside was opened. -/
def opened (block : Block) : Block := { block with children := block.children + 1 }

/-- Whether names bound in a scope can be seen in the block. -/
def sees (block : Block) (scope : ScopePath) : Bool := scope.isPrefixOf block.path

/-- Whether nothing but blanks was written. -/
def isBlank (block : Block) : Bool :=
  block.content.all fun written => Text.allBlank written.statement.text

/-- Lay a complete block into the one around it. -/
def splice (block inner : Block) : Block :=
  { block with content := block.content ++ inner.content }

end Block

end VisualScript
