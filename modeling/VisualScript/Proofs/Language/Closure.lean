import Mathlib.Data.List.Basic
import VisualScript.Proofs.Language.Resolution

/-!
# Languages are closed

No node is placed and no graph is compiled with a type missing: both come to the same if
the types that components name are looked up in a way that always finds one. What the data
of a node selects may be any name and is looked up in the registry as ever.
-/

namespace VisualScript

variable {typeOf? : String → Option LanguageType} {registry : Registry} {kind : ComponentKind}
  {node : Node}

/-- A way to look up types that finds every registered type. Under other names it may find
any type. -/
def Registry.Completes (registry : Registry) (typeOf? : String → Option LanguageType) : Prop :=
  ∀ name type, registry.get? name = some type → typeOf? name = some type

/-- The registered type of a name, else another one. -/
def Registry.getOr (registry : Registry) (other : LanguageType) (name : String) : LanguageType :=
  (registry.get? name).getD other

theorem Registry.completes_getOr (registry : Registry) (other : LanguageType) :
    registry.Completes fun name => some (registry.getOr other name) := by
  intro name type h
  simp [getOr, h]

theorem Registry.completes_get? (registry : Registry) : registry.Completes registry.get? :=
  fun _ _ h => h

/-! ## Ports -/

namespace Node

theorem addOperand_eq (htypes : registry.Completes typeOf?) {argument : Argument}
    {type : LanguageType} (hget : registry.get? argument.type = some type) (node : Node) :
    node.addOperand typeOf? argument = node.addOperand registry.get? argument := by
  simp only [addOperand, hget, htypes _ _ hget]

theorem addCall_eq (htypes : registry.Completes typeOf?) {function : Callable}
    (hadmits : registry.Admits function.description) (node : Node) :
    node.addCall typeOf? function = node.addCall registry.get? function := by
  obtain ⟨result, hresult⟩ : ∃ type, registry.get? function.result = some type := hadmits.result
  unfold addCall
  rw [hresult, htypes _ _ hresult]
  apply List.foldl_ext
  intro node argument hmem
  obtain ⟨type, hget, _⟩ := hadmits.arguments argument hmem
  exact addOperand_eq htypes hget node

end Node

theorem ComponentKind.build_eq (htypes : registry.Completes typeOf?)
    (hresolves : registry.Resolves kind) (node : Node) :
    kind.build registry node typeOf? = kind.build registry node := by
  cases kind with
  | literal name =>
      obtain ⟨type, hget, -⟩ := hresolves
      simp only [build, hget, htypes _ _ hget]
  | call function => exact Node.addCall_eq htypes hresolves.2 node
  | _ => rfl

/-! ## Emission -/

/-- The same pass with another way to find the types that components name. -/
def Context.finding (context : Context) (typeOf? : String → Option LanguageType) : Context :=
  { context with typeOf? }

section Finding

variable {context : Context}

@[simp] theorem Context.graph_finding : (context.finding typeOf?).graph = context.graph := rfl

@[simp] theorem Context.catalog_finding : (context.finding typeOf?).catalog = context.catalog := rfl

@[simp] theorem Context.component?_finding (id : NodeId) :
    (context.finding typeOf?).component? id = context.component? id := rfl

theorem Context.literalType?_finding (hown : context.registry.Completes context.typeOf?)
    (htypes : context.registry.Completes typeOf?)
    (h : context.registry.ResolvesAll context.catalog) (id : NodeId) :
    (context.finding typeOf?).literalType? id = context.literalType? id := by
  unfold literalType?
  rw [component?_finding]
  cases hcomponent : context.component? id with
  | none => rfl
  | some component =>
      obtain ⟨node, _, hnode⟩ := Option.bind_eq_some_iff.mp hcomponent
      have hresolves := h node.name component hnode
      rw [Option.map_some]
      cases hkind : component.kind with
      | literal name =>
          rw [hkind] at hresolves
          obtain ⟨type, hget, -⟩ := hresolves
          exact (htypes _ _ hget).trans (hown _ _ hget).symm
      | _ => rfl

end Finding

namespace Surroundings

/-- The same surroundings with another way to find the types that components name. -/
def finding (around : Surroundings) (typeOf? : String → Option LanguageType) : Surroundings :=
  { around with context := around.context.finding typeOf? }

variable {around : Surroundings} (hown : around.context.registry.Completes around.context.typeOf?)
  (htypes : around.context.registry.Completes typeOf?)

include hown htypes

theorem emitLiteral_finding {name : String} {type : LanguageType}
    (hget : around.context.registry.get? name = some type) (node : Node) :
    (around.finding typeOf?).emitLiteral name node = around.emitLiteral name node := by
  simp only [emitLiteral, hown _ _ hget, finding, Context.finding, htypes _ _ hget]
  rfl

theorem operand_finding {argument : Argument} {type : LanguageType}
    (hget : around.context.registry.get? argument.type = some type) (node : Node) :
    (around.finding typeOf?).operand node argument = around.operand node argument := by
  simp only [operand, hown _ _ hget, finding, Context.finding, htypes _ _ hget]
  rfl

theorem mapM_operand_finding {arguments : List Argument}
    (hget : ∀ argument ∈ arguments,
      ∃ type, around.context.registry.get? argument.type = some type) (node : Node) :
    arguments.mapM ((around.finding typeOf?).operand node) =
      arguments.mapM (around.operand node) := by
  induction arguments with
  | nil => rfl
  | cons argument rest ih =>
      obtain ⟨type, htype⟩ := hget argument (List.mem_cons_self ..)
      have hrest := ih fun argument hmem => hget argument (List.mem_cons_of_mem _ hmem)
      simp only [List.mapM_cons, operand_finding hown htypes htype, hrest]

theorem emitCall_finding {function : Callable}
    (hadmits : around.context.registry.Admits function.description) (node : Node) :
    (around.finding typeOf?).emitCall function node = around.emitCall function node := by
  obtain ⟨result, hresult⟩ :
      ∃ type, around.context.registry.get? function.result = some type := hadmits.result
  have hfound : (around.finding typeOf?).context.typeOf? function.result = some result :=
    htypes _ _ hresult
  have hoperands : function.arguments.mapM ((around.finding typeOf?).operand node) =
      function.arguments.mapM (around.operand node) :=
    mapM_operand_finding hown htypes (fun argument hmem =>
      (hadmits.arguments argument hmem).imp fun _ h => h.1) node
  unfold emitCall
  rw [hoperands, hfound, hown _ _ hresult]
  rfl

variable (h : around.context.registry.ResolvesAll around.context.catalog)

include h

theorem wiredParameter_finding (definition source : NodeId) :
    (around.finding typeOf?).wiredParameter definition source =
      around.wiredParameter definition source := by
  unfold wiredParameter
  rw [show (around.finding typeOf?).context.literalType? source = _ from
    Context.literalType?_finding hown htypes h source]
  rfl

theorem parameter_finding (node : Node) (index : Nat) :
    (around.finding typeOf?).parameter node index = around.parameter node index := by
  have hgraph : (around.finding typeOf?).context.graph = around.context.graph := rfl
  unfold parameter
  rw [hgraph]
  cases around.context.graph.firstIncoming? node.id (numbered keys.argument index) with
  | none => rfl
  | some connection => exact wiredParameter_finding hown htypes h node.id connection.source

theorem parameters_finding (node : Node) (seen : List String) (indices : List Nat) :
    (around.finding typeOf?).parameters node seen indices =
      around.parameters node seen indices := by
  induction indices generalizing seen with
  | nil => rfl
  | cons index rest ih => simp only [parameters, parameter_finding hown htypes h, ih]

theorem emit_finding (hresolves : around.context.registry.Resolves kind) (node : Node) :
    (around.finding typeOf?).emit kind node = around.emit kind node := by
  cases kind with
  | literal name =>
      obtain ⟨type, hget, -⟩ := hresolves
      exact emitLiteral_finding hown htypes hget node
  | call function => exact emitCall_finding hown htypes hresolves.2 node
  | definition =>
      simp only [emit, emitDefinition, parameters_finding hown htypes h]
      rfl
  | _ => rfl

end Surroundings

/-! ## Passes -/

namespace Context

variable {context : Context} (hown : context.registry.Completes context.typeOf?)
  (htypes : context.registry.Completes typeOf?)
  (h : context.registry.ResolvesAll context.catalog)

include hown htypes h

theorem emitNode_finding {component : Component}
    (hknown : context.catalog.get? node.name = some component) (deeper : Option Visit)
    (onChain : List NodeId) :
    (context.finding typeOf?).emitNode deeper onChain component node =
      context.emitNode deeper onChain component node := by
  cases deeper with
  | none => rfl
  | some visit =>
      let around : Surroundings := ⟨context, visit, onChain⟩
      have hemit : (around.finding typeOf?).emit component.kind node =
          around.emit component.kind node :=
        Surroundings.emit_finding hown htypes h (h node.name component hknown) node
      change Surroundings.emit ⟨context.finding typeOf?, visit, onChain⟩ component.kind node =
        Surroundings.emit ⟨context, visit, onChain⟩ component.kind node at hemit
      simp only [emitNode, hemit]
      rfl

theorem reach_finding (deeper : Option Visit) :
    (context.finding typeOf?).reach deeper = context.reach deeper := by
  funext onChain id
  unfold reach
  rw [graph_finding]
  cases context.graph.node? id with
  | none => rfl
  | some node =>
      apply bind_congr
      intro _
      rw [catalog_finding]
      cases hknown : context.catalog.get? node.name with
      | none => rfl
      | some component => exact emitNode_finding hown htypes h hknown deeper onChain

/-- However deep emissions nest, no type is missing. -/
theorem visit_finding (depth : Nat) :
    (context.finding typeOf?).visit depth = context.visit depth := by
  induction depth with
  | zero => exact reach_finding hown htypes h none
  | succ depth ih => rw [visit, ih, reach_finding hown htypes h, visit]

theorem emitRoots_finding (index : Nat) (ids : List NodeId) :
    (context.finding typeOf?).emitRoots index ids = context.emitRoots index ids := by
  induction ids generalizing index with
  | nil => rfl
  | cons id rest ih =>
      simp only [emitRoots, visit_finding hown htypes h, ih]
      rfl

theorem run_finding : (context.finding typeOf?).run = context.run := by
  simp only [run, emitRoots_finding hown htypes h]
  rfl

end Context

/-! ## Languages -/

namespace Language

/-- Place a node with a type under every name that a component has for one. -/
def spawnWith (types : String → LanguageType) (language : Language) (graph : Graph)
    (name : String) (data : DataFields) : Except LanguageError (NodeId × Graph) :=
  language.spawn graph name data fun name => some (types name)

/-- Compile a graph with a type under every name that a component has for one. -/
def compileWith (types : String → LanguageType) (language : Language) (options : CompileOptions)
    (graph : Graph) : Except LanguageError Compilation :=
  language.compile options graph fun name => some (types name)

section

variable {language : Language} (htypes : language.registry.Completes typeOf?)
  (h : language.registry.ResolvesAll language.catalog)

include htypes h

theorem spawn_eq (graph : Graph) (name : String) (data : DataFields) :
    language.spawn graph name data typeOf? = language.spawn graph name data := by
  cases hknown : language.catalog.get? name with
  | none => simp only [spawn, run_place_unknown hknown]
  | some component =>
      have hbuild := ComponentKind.build_eq htypes (h name component hknown)
      simp only [spawn, run_place_known hknown, hbuild]

theorem compile_eq (options : CompileOptions) (graph : Graph) :
    language.compile options graph typeOf? = language.compile options graph := by
  have hrun : ((language.context options graph).finding typeOf?).run =
      (language.context options graph).run :=
    Context.run_finding language.registry.completes_get? htypes h
  change (language.context options graph typeOf?).run = _ at hrun
  unfold compile
  rw [hrun]

end

/-- What a language that is made from descriptions can rely on. -/
structure Closed (core : CoreDescription) (user : UserDescription) (language : Language) :
    Prop where
  consistent : language.registry.Consistent core
  /-- The functions that are taken and the notices of those that are not account for all
  functions, in order. -/
  sifted : language.registry.Sifted (Registry.described core user) language.registry.functions
    ((notices core user).filter LanguageNotice.isRefusal)
  resolves : ∀ component ∈ language.catalog.values, language.registry.Resolves component.kind
  /-- Nodes are placed as if components had nothing to do where a type is missing, whichever type
  is looked up in its place, -/
  spawns : ∀ other graph name data,
    language.spawnWith (language.registry.getOr other) graph name data =
      language.spawn graph name data
  /-- and so are graphs compiled. -/
  compiles : ∀ other options graph,
    language.compileWith (language.registry.getOr other) options graph =
      language.compile options graph

/-- Languages are closed, whatever the descriptions say. -/
theorem closed_build (core : CoreDescription) (user : UserDescription) :
    (build core user).Closed core user := by
  have hregistry : (build core user).registry.Consistent core :=
    Registry.consistent_build core user _
  have hresolves := hregistry.resolvesAll
  have hcompletes := (build core user).registry.completes_getOr
  exact {
    consistent := hregistry
    sifted := Registry.sifted_build core user _
    resolves := fun component hmem =>
      hregistry.resolves_of_mem (Catalog.mem_of_mem_values_ofComponents hmem)
    spawns := fun other => spawn_eq (hcompletes other) hresolves
    compiles := fun other => compile_eq (hcompletes other) hresolves }

end Language

end VisualScript
