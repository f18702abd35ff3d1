import VisualScript.Compilation
import VisualScript.Component.Sync
import VisualScript.Language.Document

/-!
# Languages

A language is its registry and the catalog that follows from it. It places new
nodes in graphs, fits nodes to their data and compiles graphs.
-/

namespace VisualScript

/-- A language: what nodes there can be and how they are compiled. -/
structure Language where
  registry : Registry
  catalog : Catalog
  deriving Inhabited

/-- Why something that was asked of a language is not done. -/
inductive LanguageError where
  /-- A document cannot be read. -/
  | unreadable (fault : Json.Fault)
  /-- A graph refuses an edit. -/
  | refused (error : GraphError)
  | unknownComponent (name : String)
  /-- Emissions nest deeper than allowed. -/
  | tooDeep
  deriving Repr, DecidableEq, Inhabited

/-- What is said about an error. -/
def LanguageError.message : LanguageError → String
  | unreadable .ended => "the document ends early"
  | unreadable .malformed => "the text is no document"
  | unreadable .mismatched => "the document has the wrong shape"
  | refused error => error.message
  | unknownComponent name => "unknown component `" ++ name ++ "`"
  | tooDeep => "recursion limit exceeded"

namespace Language

/-- The language that the descriptions of a core and of its users make, with the engine
that reads its patterns. -/
def build (core : CoreDescription) (user : UserDescription)
    (engine : Pattern.Engine := Pattern.ofText?) : Language :=
  let registry := Registry.build core user engine
  ⟨registry, Catalog.build registry⟩

/-- What is noticed while a language is built, in order. -/
def notices (core : CoreDescription) (user : UserDescription)
    (engine : Pattern.Engine := Pattern.ofText?) : List LanguageNotice :=
  (Registry.draft core user engine).notices ++ Catalog.notices (Registry.build core user engine)

/-- Read the descriptions of a core and of its users, in this order. -/
def readDescriptions (core user : String) :
    Except LanguageError (CoreDescription × UserDescription) := do
  let core ← (CoreDescription.parse core).mapError .unreadable
  let user ← (UserDescription.parse user).mapError .unreadable
  return (core, user)

/-- The component with a name, which has to be there. -/
def requireComponent (language : Language) (name : String) : Except LanguageError Component :=
  match language.catalog.get? name with
  | some component => .ok component
  | none => .error (.unknownComponent name)

/-- Place a new node of a component in a graph, step by step, with the ports that its data
asks for. The identity is given out before the graph takes the node. -/
def place (language : Language) (name : String) (data : DataFields)
    (typeOf? : String → Option LanguageType := language.registry.get?) :
    ExceptT LanguageError (StateM Graph) NodeId := do
  let component ← liftM (language.requireComponent name)
  let id ← modifyGet Graph.nextId
  match (← get).insert (component.kind.build language.registry { id, name, data } typeOf?) with
  | .ok graph =>
      set graph
      return id
  | .error reason => throw (.refused reason)

/-- Where no component has the name, nothing is done. -/
theorem run_place_unknown {language : Language} {name : String}
    (h : language.catalog.get? name = none) (data : DataFields)
    (typeOf? : String → Option LanguageType) (graph : Graph) :
    (language.place name data typeOf?).run graph = (.error (.unknownComponent name), graph) := by
  unfold place requireComponent
  rw [h]
  rfl

/-- Where the node is refused, its identity has been given out all the same. -/
theorem run_place_known {language : Language} {name : String} {component : Component}
    (h : language.catalog.get? name = some component) (data : DataFields)
    (typeOf? : String → Option LanguageType) (graph : Graph) :
    (language.place name data typeOf?).run graph =
      match graph.nextId.2.insert (component.kind.build language.registry
        { id := graph.nextId.1, name, data } typeOf?) with
      | .ok placed => (.ok graph.nextId.1, placed)
      | .error reason => (.error (.refused reason), graph.nextId.2) := by
  have hrun : (language.place name data typeOf?).run graph =
      (match graph.nextId.2.insert (component.kind.build language.registry
        { id := graph.nextId.1, name, data } typeOf?) with
      | .ok placed => do
          set placed
          return graph.nextId.1
      | .error reason => throw (.refused reason) :
        ExceptT LanguageError (StateM Graph) NodeId).run graph.nextId.2 := by
    unfold place requireComponent
    rw [h]
    rfl
  rw [hrun]
  cases graph.nextId.2.insert (component.kind.build language.registry
      { id := graph.nextId.1, name, data } typeOf?) with
  | ok placed => rfl
  | error reason => rfl

/-- Place a new node of a component in a graph. The answer holds the node's identity. -/
def spawn (language : Language) (graph : Graph) (name : String) (data : DataFields)
    (typeOf? : String → Option LanguageType := language.registry.get?) :
    Except LanguageError (NodeId × Graph) :=
  match (language.place name data typeOf?).run graph with
  | (.ok id, graph) => .ok (id, graph)
  | (.error error, _) => .error error

/-- Fit the ports of a node to its data: whether anything changed, and the graph,
in which the edits made before a refused one stay. -/
def sync (language : Language) (id : NodeId) (graph : Graph) :
    Except LanguageError Bool × Graph :=
  match graph.node? id with
  | none => (.ok false, graph)
  | some node =>
      match language.requireComponent node.name with
      | .error error => (.error error, graph)
      | .ok component =>
          let (answer, graph) := (component.kind.sync language.registry id).run graph
          (answer.mapError .refused, graph)

/-- What a pass over a graph reads. -/
def context (language : Language) (options : CompileOptions) (graph : Graph)
    (typeOf? : String → Option LanguageType := language.registry.get?) : Context :=
  ⟨graph, language.registry, language.catalog, options, typeOf?⟩

def compile (language : Language) (options : CompileOptions) (graph : Graph)
    (typeOf? : String → Option LanguageType := language.registry.get?) :
    Except LanguageError Compilation :=
  match (language.context options graph typeOf?).run with
  | .ok (written, pass) => .ok (Compilation.ofPass written pass)
  | .error .tooDeep => .error .tooDeep

end Language

end VisualScript
