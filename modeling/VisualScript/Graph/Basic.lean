import VisualScript.Json.Basic
import VisualScript.Json.Shortest
import VisualScript.OrderedMap
import VisualScript.Socket
import VisualScript.Text.Count

/-!
# Graphs of nodes

Nodes with named ports and data that the user entered, joined by connections
from outputs to inputs. Nodes and connections are listed oldest first.
-/

namespace VisualScript

/-- The identity of a node. A number has 32 bits where a document gives it, and no limit where
it is counted on from there. -/
structure NodeId where
  number : Nat
  deriving Repr, DecidableEq, Inhabited, Ord

/-- The largest number that a document may give a node, and the largest of 32 bits. -/
def NodeId.largest : Nat := 0xFFFFFFFF

/-- How the identity of a node is shown. -/
def NodeId.text (id : NodeId) : String := "#" ++ toString id.number

/-- The name of the local that holds the value of a node. -/
def NodeId.localName (id : NodeId) : String := "_" ++ toString id.number

/-- A port, without the key that it goes by. -/
structure Port where
  label : String
  socket : Socket
  deriving Repr, DecidableEq, Inhabited

def Port.flow : Port := ⟨"", .flow⟩

/-- A place in the plane, as the bits of two singles. -/
abbrev Position := UInt32 × UInt32

abbrev DataFields := OrderedMap String Json

/-- A node: an instance of the component it names. -/
structure Node where
  id : NodeId
  name : String
  data : DataFields := .empty
  inputs : OrderedMap String Port := .empty
  outputs : OrderedMap String Port := .empty
  position : Option Position := none
  deriving Repr, Inhabited

/-- The text of a data value, if it is text, a number or a truth value. -/
def Json.plainText? : Json → Option String
  | .string value => some value
  | .number value => some value.text
  | .bool value => some (if value then "true" else "false")
  | _ => none

namespace Node

/-- A data field as text. -/
def text? (node : Node) (key : String) : Option String := (node.data.get? key).bind Json.plainText?

/-- An item of a data field that is an array, as text. -/
def textAt? (node : Node) (key : String) (index : Nat) : Option String :=
  match node.data.get? key with
  | some (.array items) => items[index]?.bind Json.plainText?
  | _ => none

/-- A data field as a count, zero if it is none. -/
def count (node : Node) (key : String) : Nat :=
  match node.data.get? key with
  | some (.number value) => value.toNat?.getD 0
  | some (.string value) => (Text.count? (Text.trim value.toList)).getD 0
  | _ => 0

/-- Add an input, or replace the one with its key. -/
def addInput (node : Node) (key : String) (port : Port) : Node :=
  { node with inputs := node.inputs.insert key port }

/-- Add an output, or replace the one with its key. -/
def addOutput (node : Node) (key : String) (port : Port) : Node :=
  { node with outputs := node.outputs.insert key port }

def setData (node : Node) (key : String) (value : Json) : Node :=
  { node with data := node.data.insert key value }

/-- Set a data field unless it is there. -/
def setNewData (node : Node) (key : String) (value : Json) : Node :=
  { node with data := node.data.insertNew key value }

def eraseData (node : Node) (key : String) : Node := { node with data := node.data.erase key }

end Node

/-- A connection from an output to an input. -/
structure Connection where
  /-- The number of the connection, larger than those of all older ones. -/
  number : Nat
  source : NodeId
  output : String
  target : NodeId
  input : String
  deriving Repr, DecidableEq, Inhabited

/-- Why an edit of a graph is refused. -/
inductive GraphError where
  | unknownNode (node : NodeId)
  | unknownPort (node : NodeId) (port : String)
  | duplicateNode (node : NodeId)
  | incompatible (output input : Socket)
  deriving Repr, DecidableEq, Inhabited

/-- What is said about a refused edit. -/
def GraphError.message : GraphError → String
  | unknownNode node => "node " ++ node.text ++ " does not exist"
  | unknownPort node port => "node " ++ node.text ++ " has no port `" ++ port ++ "`"
  | duplicateNode node => "node " ++ node.text ++ " already exists"
  | incompatible output input => "cannot connect `" ++ output.text ++ "` to `" ++ input.text ++ "`"

structure Graph where
  nodes : List Node := []
  connections : List Connection := []
  /-- The largest number that a node was given. -/
  lastNode : Nat := 0
  /-- The largest number that a connection was given. -/
  lastConnection : Nat := 0
  deriving Repr, Inhabited

namespace Graph

def empty : Graph := {}

def size (graph : Graph) : Nat := graph.nodes.length

def node? (graph : Graph) (id : NodeId) : Option Node := graph.nodes.find? (·.id = id)

theorem id_of_node? {graph : Graph} {id : NodeId} {node : Node}
    (h : graph.node? id = some node) : node.id = id := by
  simpa using List.find?_some h

theorem mem_of_node? {graph : Graph} {id : NodeId} {node : Node}
    (h : graph.node? id = some node) : node ∈ graph.nodes := List.mem_of_find?_eq_some h

def input? (graph : Graph) (id : NodeId) (key : String) : Option Port :=
  (graph.node? id).bind (·.inputs.get? key)

def output? (graph : Graph) (id : NodeId) (key : String) : Option Port :=
  (graph.node? id).bind (·.outputs.get? key)

def connection? (graph : Graph) (number : Nat) : Option Connection :=
  graph.connections.find? (·.number = number)

/-- The connections into an input, oldest first. -/
def incoming (graph : Graph) (node : NodeId) (input : String) : List Connection :=
  graph.connections.filter fun c => c.target = node && c.input = input

/-- The connection whose value an input takes: the oldest one. -/
def firstIncoming? (graph : Graph) (node : NodeId) (input : String) : Option Connection :=
  (graph.incoming node input).head?

/-- The connections out of an output, oldest first. -/
def outgoing (graph : Graph) (node : NodeId) (output : String) : List Connection :=
  graph.connections.filter fun c => c.source = node && c.output = output

/-- The connection that flow out of an output takes: the oldest one. -/
def firstOutgoing? (graph : Graph) (node : NodeId) (output : String) : Option Connection :=
  (graph.outgoing node output).head?

end Graph

end VisualScript
