import VisualScript.Component.Ports
import VisualScript.Graph.Edit

/-!
# Fitting ports to data

After a node's data or connections changed, its ports are fitted to them again:
numbered ports come and go with their count, and an output that hands on an input
takes the type that flows into it.
-/

namespace VisualScript

/-- A run of edits on a graph. What was done before a refused edit stays done. -/
abbrev Editing (α : Type) := ExceptT GraphError (StateM Graph) α

namespace Editing

/-- The node with an identity, which has to be there. -/
def requireNode (id : NodeId) : Editing Node := do
  match (← get).node? id with
  | some node => return node
  | none => throw (.unknownNode id)

def modifyNode (id : NodeId) (change : Node → Node) : Editing Unit :=
  modify fun graph => graph.modifyNode id change

/-- The type that flows into an input, the selected one where nothing does, and
whether a connection was severed. A type whose values cannot be copied is turned
away: its connection is severed and the wildcard stands in. -/
def incomingType (registry : Registry) (id : NodeId) (key : String) (selected : Option String) :
    Editing (Option LanguageType × Bool) := do
  let graph ← get
  match graph.firstIncoming? id key with
  | none => return (registry.getOrAny? selected, false)
  | some connection =>
      let port := graph.output? connection.source connection.output
      match port.bind fun port => registry.get? port.socket.typeName with
      | none => return (registry.anyType?, false)
      | some type =>
          if type.isCopyable || type.isAny then return (some type, false)
          else
            set (graph.disconnect connection.number)
            return (registry.anyType?, true)

/-- Give an output a socket. Whether that changed anything. -/
def retype (id : NodeId) (key : String) (socket : Socket) : Editing Bool := do
  let graph ← get
  if (graph.output? id key).map Port.socket = some socket then return false
  let (_, graph) ← graph.setOutputSocket id key socket
  set graph
  return true

/-- The socket of a type, the wildcard where there is none. -/
def socketOf (registry : Registry) (type : Option LanguageType) : Socket :=
  (type.map LanguageType.socket).getD registry.anySocket

/-- Fit the exits of a sequence to their count. -/
def syncSequence (id : NodeId) : Editing Bool := do
  let node ← requireNode id
  let wanted := node.count keys.exitCount
  let present := numberedCount keys.exit node.outputs
  modifyNode id (·.addExits present wanted)
  (List.range' wanted (present - wanted)).forM fun index =>
    modify fun graph => (graph.removeOutput id (numbered keys.exit index)).2
  return present != wanted

/-- Fit the output that hands on an argument to what flows into it. The name of
its type, and whether anything changed. -/
def syncArgument (registry : Registry) (id : NodeId) (index : Nat) : Editing (String × Bool) := do
  let selected := ((← get).node? id).bind (·.textAt? keys.typeName index)
  let (type, severed) ← incomingType registry id (numbered keys.argument index) selected
  let socket := socketOf registry type
  let retyped ← retype id (numbered keys.exit index) socket
  return (socket.typeName, severed || retyped)

/-- Fit the arguments of a function to their count and to what flows into them. -/
def syncFunction (registry : Registry) (id : NodeId) : Editing Bool := do
  let node ← requireNode id
  let wanted := node.count keys.argumentCount
  let present := numberedCount keys.argument node.inputs
  modifyNode id (·.addArguments registry present wanted)
  (List.range' wanted (present - wanted)).forM fun index => do
    modify fun graph => (graph.removeInput id (numbered keys.argument index)).2
    modify fun graph => (graph.removeOutput id (numbered keys.exit index)).2
  let synced ← (List.range wanted).mapM (syncArgument registry id)
  let types := synced.map fun (name, _) => Json.string name
  modifyNode id (·.setData keys.typeName (.array types))
  return present != wanted || synced.any Prod.snd

/-- Fit the output of a variable to what flows into it. -/
def syncVariable (registry : Registry) (id : NodeId) : Editing Bool := do
  let node ← requireNode id
  let (type, severed) ← incomingType registry id keys.value (node.text? keys.typeName)
  let socket := socketOf registry type
  let retyped ← retype id keys.result socket
  modifyNode id (·.setData keys.typeName (.string socket.typeName))
  return severed || retyped

end Editing

/-- Fit the ports of a node of a component to its data. Whether anything changed. -/
def ComponentKind.sync (kind : ComponentKind) (registry : Registry) (id : NodeId) :
    Editing Bool :=
  match kind with
  | sequence => Editing.syncSequence id
  | definition => Editing.syncFunction registry id
  | localVariable => Editing.syncVariable registry id
  | _ => return false

end VisualScript
