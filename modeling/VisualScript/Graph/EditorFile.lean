import VisualScript.Graph.Basic
import VisualScript.Json.Reader
import VisualScript.OrderedSet

/-!
# Editor files

The form in which an editor keeps a graph. Every connection is listed twice,
under the output it leaves and under the input it enters. The list of the
outputs counts first; what only an input lists is kept for older files.
-/

namespace VisualScript

/-- A connection as a file tells it. -/
structure Link where
  source : NodeId
  output : String
  target : NodeId
  input : String
  deriving Repr, DecidableEq, Inhabited

/-- The far end of a connection: a node and the key of one of its ports. -/
structure LinkEnd where
  node : Nat := 0
  port : String := ""
  deriving Repr, DecidableEq, Inhabited

/-- The connections listed under a port. -/
structure FilePort where
  connections : List LinkEnd := []
  deriving Repr, DecidableEq, Inhabited

/-- A node as a file tells it. -/
structure FileNode where
  id : Nat := 0
  name : String := ""
  data : DataFields := .empty
  inputs : OrderedMap String FilePort := .empty
  outputs : OrderedMap String FilePort := .empty
  position : Option Position := none
  deriving Repr, Inhabited

/-- What a file holds. -/
structure EditorFile where
  id : String := ""
  nodes : OrderedMap String FileNode := .empty
  deriving Repr, Inhabited

open Json (Reader Fault)
open Json.Reader (RecordField text natural list map optional pair record single)

/-- The fields of the far end of a connection, whose port goes by the given name. -/
def LinkEnd.fields (port : String) : List (RecordField LinkEnd) :=
  [{ name := "node", required := true,
     read := fun l => return { l with node := ← natural NodeId.largest } },
   { name := port, required := true, read := fun l => return { l with port := ← text } }]

/-- The fields of a port, where the far ends call their port by the given name. -/
def FilePort.fields (port : String) : List (RecordField FilePort) :=
  [{ name := "connections",
     read := fun p => return { p with connections := ← list (record (LinkEnd.fields port) {}) } }]

def FileNode.fields : List (RecordField FileNode) :=
  [{ name := "id", required := true,
     read := fun n => return { n with id := ← natural NodeId.largest } },
   { name := "name", required := true, read := fun n => return { n with name := ← text } },
   { name := "data", read := fun n => return { n with data := ← map Json.Reader.value } },
   { name := "inputs",
     read := fun n => return { n with inputs := ← map (record (FilePort.fields "output") {}) } },
   { name := "outputs",
     read := fun n => return { n with outputs := ← map (record (FilePort.fields "input") {}) } },
   { name := "position",
     read := fun n => return { n with position := ← optional (pair single) } }]

namespace EditorFile

def fields : List (RecordField EditorFile) :=
  [{ name := "id", read := fun f => return { f with id := ← text } },
   { name := "nodes",
     read := fun f => return { f with nodes := ← map (record FileNode.fields {}) } }]

def parse (document : String) : Except Fault EditorFile :=
  Json.readDocument (record fields {}) document

/-- The connections listed under the outputs of a node. -/
def outputLinks (node : FileNode) : List Link :=
  node.outputs.entries.flatMap fun (key, port) =>
    port.connections.map fun far => ⟨⟨node.id⟩, key, ⟨far.node⟩, far.port⟩

/-- The connections listed under the inputs of a node. -/
def inputLinks (node : FileNode) : List Link :=
  node.inputs.entries.flatMap fun (key, port) =>
    port.connections.map fun far => ⟨⟨far.node⟩, far.port, ⟨node.id⟩, key⟩

/-- Every connection once: those listed under outputs first, in the order of the
file. -/
def links (file : EditorFile) : List Link :=
  distinct (file.nodes.values.flatMap outputLinks ++ file.nodes.values.flatMap inputLinks)

end EditorFile

end VisualScript
