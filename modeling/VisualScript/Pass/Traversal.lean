import VisualScript.Pass.Emission

/-!
# Traversal

A pass starts at every top-level node, in the order of the graph, each with a
root block of its own. Emissions nest no deeper than the options allow.
-/

namespace VisualScript

namespace Context

/-- Emit a node of a known component, with the way to emit nodes one level
deeper. Without one the pass has gone too deep. -/
def emitNode (context : Context) (deeper : Option Visit) (onChain : List NodeId)
    (component : Component) (node : Node) : Emit (Option NodeId) := do
  match deeper with
  | none => throw .tooDeep
  | some visit =>
      modify (·.enter node.id)
      Surroundings.emit ⟨context, visit, onChain⟩ component.kind node
      modify (·.leave node.id)
      if component.kind.continuesFlow then
        return (context.graph.firstOutgoing? node.id keys.flowOut).map Connection.target
      else return none

/-- Reach a node and emit it if its component is known. -/
def reach (context : Context) (deeper : Option Visit) : Visit := fun onChain id => do
  match context.graph.node? id with
  | none => return none
  | some node =>
      modify (·.reach id)
      match context.catalog.get? node.name with
      | none =>
          Emit.report .unknownComponent id (some node.name)
          return none
      | some component => context.emitNode deeper onChain component node

/-- Emit a node where so many more emissions may nest. -/
def visit (context : Context) : Nat → Visit
  | 0 => context.reach none
  | depth + 1 => context.reach (some (context.visit depth))

/-- The top-level nodes. -/
def roots (context : Context) : List NodeId :=
  (context.graph.nodes.filter fun node =>
    (context.catalog.get? node.name).any (·.kind.isTopLevel)).map Node.id

/-- Emit top-level nodes, the first of them as the root with the given index.
The answer is what they wrote. -/
def emitRoots (context : Context) (index : Nat) : List NodeId → Emit (List Written)
  | [] => return []
  | id :: rest => do
      modify (·.openBlock (Block.root index))
      Surroundings.chain (context.visit context.options.maxDepth)
        (Surroundings.chainBound context.graph) [] id
      let written := (← get).block.content
      return written ++ (← context.emitRoots (index + 1) rest)

/-- Run a pass: what was written, and the state at the end. -/
def run (context : Context) : Except PassError (List Written × Pass) :=
  (context.emitRoots 0 context.roots).run { block := Block.root 0 }

end Context

end VisualScript
