import VisualScript.Component.Catalog
import VisualScript.Diagnostic.Basic
import VisualScript.OrderedSet
import VisualScript.Program.Block

/-!
# Passes

The state of a pass over a graph: what is known of each node, the block being
written, and a journal of what happened. Only going too deep ends a pass early;
all else that is wrong is reported in the journal.
-/

namespace VisualScript

/-- When a value is put in place of its uses instead of being bound to a name.
Only values that can be copied are ever bound. -/
inductive InlineStrategy where
  /-- Always bind. -/
  | never
  /-- Bind values with more than one use. -/
  | singleUse
  /-- Never bind. -/
  | always
  deriving Repr, DecidableEq, Inhabited

/-- How a graph is compiled. -/
structure CompileOptions where
  inlining : InlineStrategy := .singleUse
  /-- How many emissions may be under way at a time. -/
  maxDepth : Nat := 1024
  /-- Whether functions are marked for other programs. -/
  exportMarks : Bool := true
  deriving Repr, DecidableEq, Inhabited

/-- What a pass reads. -/
structure Context where
  graph : Graph
  registry : Registry
  catalog : Catalog
  options : CompileOptions
  /-- How the types that components name are found. -/
  typeOf? : String → Option LanguageType := registry.get?

/-- An input that found a value. -/
structure Resolution where
  consumer : NodeId
  input : String
  /-- The scope in which the value is used. -/
  scope : ScopePath
  source : NodeId
  value : Expression
  /-- Whether the value is that of the source itself, and not one of its parameters. -/
  ofSource : Bool
  deriving Repr, Inhabited

/-- Something that happened in a pass. -/
inductive Event where
  /-- A block was opened. -/
  | opened (scope : ScopePath)
  /-- The emission of a node into a scope began. -/
  | entered (node : NodeId) (scope : ScopePath)
  /-- The emission of a node ended. -/
  | finished (node : NodeId)
  /-- A literal was made the default of a parameter. -/
  | claimed (definition literal : NodeId) (parameter : String)
  | resolved (resolution : Resolution)
  | wrote (written : Written)
  /-- Modules were required. -/
  | required (modules : List String)
  | reported (diagnostic : Diagnostic)
  deriving Repr, Inhabited

/-- The state of a pass. -/
structure Pass where
  /-- What stands for the value of a node that is not bound to its local. -/
  results : OrderedMap NodeId Expression := .empty
  /-- The nodes whose value was asked for. -/
  initiated : List NodeId := []
  /-- The nodes that were reached. -/
  reached : List NodeId := []
  /-- The nodes whose emission is under way. -/
  emitting : List NodeId := []
  /-- The scope that each node was last emitted into. -/
  scopes : OrderedMap NodeId ScopePath := .empty
  /-- The block being written. -/
  block : Block
  /-- What happened, latest first. -/
  events : List Event := []
  deriving Repr

namespace Pass

/-- Write into the journal. -/
def log (pass : Pass) (event : Event) : Pass := { pass with events := event :: pass.events }

/-- Report something wrong with a node. -/
def report (pass : Pass) (kind : DiagnosticKind) (node : NodeId) (detail : Option String) : Pass :=
  pass.log (.reported (Diagnostic.of kind (some node) detail))

def require (pass : Pass) (modules : List String) : Pass := pass.log (.required modules)

/-- Write a statement into the block on behalf of a node. -/
def write (pass : Pass) (node : NodeId) (statement : Statement) : Pass :=
  let written : Written := ⟨pass.block.path, node, statement⟩
  { pass with block := { pass.block with content := pass.block.content ++ [written] } }.log
    (.wrote written)

def openBlock (pass : Pass) (block : Block) : Pass :=
  { pass with block := block }.log (.opened block.path)

/-- Open a block inside the current one. -/
def openChild (pass : Pass) : Pass := pass.openBlock pass.block.child

/-- Go back to a block once the one opened inside it is complete. -/
def backTo (pass : Pass) (outer : Block) : Pass := { pass with block := outer.opened }

/-- Lay a complete block into the current one. -/
def splice (pass : Pass) (inner : Block) : Pass := { pass with block := pass.block.splice inner }

/-- Let an expression stand for the value of a node. -/
def setResult (pass : Pass) (node : NodeId) (value : Expression) : Pass :=
  { pass with results := pass.results.insert node value }

/-- Let the local of a node stand for its value again. -/
def dropResult (pass : Pass) (node : NodeId) : Pass :=
  { pass with results := pass.results.erase node }

/-- What stands for the value of a node: its result, else its local. -/
def valueOf (pass : Pass) (node : NodeId) : Expression :=
  (pass.results.get? node).getD (.name node)

/-- Whether what a node bound last can be seen in the current block. -/
def inScope (pass : Pass) (node : NodeId) : Bool :=
  (pass.scopes.get? node).all pass.block.sees

/-- Ask for the value of a node. -/
def initiate (pass : Pass) (node : NodeId) : Pass :=
  { pass with initiated := node :: pass.initiated }

def reach (pass : Pass) (node : NodeId) : Pass := { pass with reached := node :: pass.reached }

/-- Begin the emission of a node into the current block. -/
def enter (pass : Pass) (node : NodeId) : Pass :=
  { pass with
    emitting := node :: pass.emitting
    scopes := pass.scopes.insert node pass.block.path }.log (.entered node pass.block.path)

/-- End the emission of a node. -/
def leave (pass : Pass) (node : NodeId) : Pass :=
  { pass with emitting := pass.emitting.filter (· ≠ node) }.log (.finished node)

/-- Make a literal the default of a parameter of a function. It counts as emitted,
and its local, which is the parameter, stands for it. -/
def claim (pass : Pass) (definition literal : NodeId) : Pass :=
  (((pass.reach literal).initiate literal).setResult literal
    (.parameter definition literal.localName)).log (.claimed definition literal literal.localName)

end Pass

/-- Why a pass ends early. -/
inductive PassError where
  /-- Too many emissions were under way at a time. -/
  | tooDeep
  deriving Repr, DecidableEq, Inhabited

/-- A step of a pass. -/
abbrev Emit (α : Type) := StateT Pass (Except PassError) α

namespace Emit

def log (event : Event) : Emit Unit := modify (·.log event)

def report (kind : DiagnosticKind) (node : NodeId) (detail : Option String) : Emit Unit :=
  modify (·.report kind node detail)

def require (modules : List String) : Emit Unit := modify (·.require modules)

def write (node : NodeId) (statement : Statement) : Emit Unit := modify (·.write node statement)

/-- Do something in a new block inside the current one. The block is handed back
to be laid into the current one or to be dropped. -/
def inChild (body : Emit Unit) : Emit Block := do
  let outer := (← get).block
  modify Pass.openChild
  body
  let inner := (← get).block
  modify (·.backTo outer)
  return inner

def splice (inner : Block) : Emit Unit := modify (·.splice inner)

end Emit

namespace Context

/-- The component of a node, if the graph has the node and the catalog the component. -/
def component? (context : Context) (id : NodeId) : Option Component :=
  (context.graph.node? id).bind fun node => context.catalog.get? node.name

/-- The type whose literals a node stands for. -/
def literalType? (context : Context) (id : NodeId) : Option LanguageType :=
  match (context.component? id).map Component.kind with
  | some (.literal type) => context.typeOf? type
  | _ => none

/-- Whether a value with a number of uses is bound to a name. -/
def binds (context : Context) (copyable : Bool) (uses : Nat) : Bool :=
  copyable &&
    match context.options.inlining with
    | .never => true
    | .singleUse => 1 < uses
    | .always => false

/-- The number of uses of a node's result. -/
def uses (context : Context) (id : NodeId) : Nat :=
  (context.graph.outgoing id keys.result).length

end Context

end VisualScript
