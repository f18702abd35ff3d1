import VisualScript.Graph.EditorFile
import VisualScript.Language

/-!
# Restoring graphs from files

A graph is built again from an editor file: the nodes with fresh ports, then the
connections as far as they still fit, then every node fitted to its data. What
is lost on the way is noticed.
-/

namespace VisualScript

/-- Something lost while a graph is restored. -/
inductive RestoreNotice where
  /-- The node stays, but without ports. -/
  | unknownComponent (node : NodeId) (name : String)
  /-- The connection does not fit any more. -/
  | dropped (link : Link) (reason : GraphError)
  deriving Repr, DecidableEq, Inhabited

namespace Language

/-- A node of a file with the ports of its component. -/
def restoreNode (language : Language) (file : FileNode) : Node :=
  let node : Node :=
    { id := ⟨file.id⟩, name := file.name, data := file.data, position := file.position }
  match language.catalog.get? file.name with
  | some component => component.kind.build language.registry node
  | none => node

/-- The nodes of a file whose components the language lacks. -/
def unknownNodes (language : Language) (file : EditorFile) : List RestoreNotice :=
  (file.nodes.values.filter fun node => !language.catalog.contains node.name).map fun node =>
    .unknownComponent ⟨node.id⟩ node.name

/-- Insert the nodes of a file. -/
def restoreNodes (language : Language) (file : EditorFile) : Except GraphError Graph :=
  file.nodes.values.foldlM (fun graph node => graph.insert (language.restoreNode node)) .empty

/-- Make the connections that fit. The others are noticed. -/
def restoreLinks : List Link → Graph → List RestoreNotice × Graph
  | [], graph => ([], graph)
  | link :: rest, graph =>
      match graph.connect link.source link.output link.target link.input with
      | .ok (_, graph) => restoreLinks rest graph
      | .error reason =>
          let (notices, graph) := restoreLinks rest graph
          (.dropped link reason :: notices, graph)

/-- Fit nodes to their data, leaving out those of unknown components. -/
def syncKnown (language : Language) : List Node → Graph → Except LanguageError Graph
  | [], graph => .ok graph
  | node :: rest, graph =>
      if language.catalog.contains node.name then
        match language.sync node.id graph with
        | (.ok _, graph) => language.syncKnown rest graph
        | (.error error, _) => .error error
      else language.syncKnown rest graph

/-- The graph of a file and what was lost. -/
def restore (language : Language) (file : EditorFile) :
    Except LanguageError (Graph × List RestoreNotice) := do
  let graph ← (language.restoreNodes file).mapError .refused
  let (dropped, graph) := restoreLinks file.links graph
  let graph ← language.syncKnown graph.nodes graph
  return (graph, language.unknownNodes file ++ dropped)

/-- The graph of a document and what was lost. -/
def load (language : Language) (document : String) :
    Except LanguageError (Graph × List RestoreNotice) := do
  language.restore (← (EditorFile.parse document).mapError .unreadable)

end Language

end VisualScript
