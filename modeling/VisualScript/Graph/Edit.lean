import VisualScript.Graph.Basic

/-!
# Editing graphs

Every edit keeps the order of the nodes and connections it leaves in place.
Edits that cannot be done say why and give no graph.
-/

namespace VisualScript.Graph

/-- Give out the next identity. The count has no end here; in 32 bits it ends with
`NodeId.largest`. -/
def nextId (graph : Graph) : NodeId × Graph :=
  (⟨graph.lastNode + 1⟩, { graph with lastNode := graph.lastNode + 1 })

/-- Add a node with the identity it has. -/
def insert (graph : Graph) (node : Node) : Except GraphError Graph :=
  if (graph.node? node.id).isSome then .error (.duplicateNode node.id)
  else
    .ok { graph with
      nodes := graph.nodes ++ [node]
      lastNode := max graph.lastNode node.id.number }

/-- Change the node with an identity. The change has to leave the identity alone. -/
def modifyNode (graph : Graph) (id : NodeId) (change : Node → Node) : Graph :=
  { graph with nodes := graph.nodes.map fun node => if node.id = id then change node else node }

/-- Remove a node and all connections that touch it. -/
def remove (graph : Graph) (id : NodeId) : Graph :=
  { graph with
    nodes := graph.nodes.filter (·.id ≠ id)
    connections := graph.connections.filter fun c => c.source ≠ id && c.target ≠ id }

/-- A port that has to be there. -/
def requirePort (graph : Graph) (id : NodeId) (key : String)
    (ports : Node → OrderedMap String Port) : Except GraphError Port :=
  match graph.node? id with
  | none => .error (.unknownNode id)
  | some node =>
      match (ports node).get? key with
      | none => .error (.unknownPort id key)
      | some port => .ok port

/-- Connect an output to an input that it may feed. The answer holds the new
connection. -/
def connect (graph : Graph) (source : NodeId) (output : String) (target : NodeId)
    (input : String) : Except GraphError (Connection × Graph) := do
  let producer ← graph.requirePort source output Node.outputs
  let consumer ← graph.requirePort target input Node.inputs
  if !producer.socket.feeds consumer.socket then
    throw (.incompatible producer.socket consumer.socket)
  let connection : Connection := ⟨graph.lastConnection + 1, source, output, target, input⟩
  return (connection, { graph with
    connections := graph.connections ++ [connection]
    lastConnection := connection.number })

/-- Remove the connections that pass a test. The answer holds them, oldest first. -/
def sever (graph : Graph) (test : Connection → Bool) : List Connection × Graph :=
  (graph.connections.filter test,
    { graph with connections := graph.connections.filter fun c => !test c })

/-- Take the connection with a number out. The answer holds it, if there was one. -/
def takeConnection (graph : Graph) (number : Nat) : Option Connection × Graph :=
  (graph.connection? number, (graph.sever fun c => c.number = number).2)

/-- The graph that is left where a connection is taken out. -/
def disconnect (graph : Graph) (number : Nat) : Graph := (graph.takeConnection number).2

/-- Remove an input and the connections into it, which the answer holds. -/
def removeInput (graph : Graph) (id : NodeId) (key : String) : List Connection × Graph :=
  let (severed, graph) := graph.sever fun c => c.target = id && c.input = key
  (severed, graph.modifyNode id fun node => { node with inputs := node.inputs.erase key })

/-- Remove an output and the connections out of it, which the answer holds. -/
def removeOutput (graph : Graph) (id : NodeId) (key : String) : List Connection × Graph :=
  let (severed, graph) := graph.sever fun c => c.source = id && c.output = key
  (severed, graph.modifyNode id fun node => { node with outputs := node.outputs.erase key })

/-- Whether a socket may feed the input that a connection leads to. -/
def fitsInto (graph : Graph) (socket : Socket) (connection : Connection) : Bool :=
  match graph.input? connection.target connection.input with
  | some consumer => socket.feeds consumer.socket
  | none => false

/-- Give an output another socket. Connections that it may not feed any more are
severed; the answer holds them. -/
def setOutputSocket (graph : Graph) (id : NodeId) (key : String) (socket : Socket) :
    Except GraphError (List Connection × Graph) := do
  let port ← graph.requirePort id key Node.outputs
  if port.socket = socket then return ([], graph)
  let graph := graph.modifyNode id fun node =>
    { node with outputs := node.outputs.modify key fun port => { port with socket := socket } }
  return graph.sever fun c => c.source = id && c.output = key && !graph.fitsInto socket c

end VisualScript.Graph
