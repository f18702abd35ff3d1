import VisualScript.Proofs.Pass.Walk

/-!
# What emission follows

The exits that emission follows and the inputs whose value it takes, read off the
graph alone. In a well-wired graph, exits lead to nodes of the flow and values are
taken from nodes that have one.
-/

namespace VisualScript

/-- Whether nodes of the kind can have a value. -/
def ComponentKind.hasValue : ComponentKind → Bool
  | literal _ => true
  | call _ => true
  | localVariable => true
  | _ => false

namespace Context

/-- A node is there and has a component of a kind. -/
structure Hosts (context : Context) (node : Node) (kind : ComponentKind) : Prop where
  found : context.graph.node? node.id = some node
  known : (context.catalog.get? node.name).map Component.kind = some kind

/-- The kind of component behind an identity. -/
def kind? (context : Context) (id : NodeId) : Option ComponentKind :=
  (context.component? id).map Component.kind

theorem Hosts.kind? {context : Context} {node : Node} {kind : ComponentKind}
    (h : context.Hosts node kind) : context.kind? node.id = some kind := by
  rw [Context.kind?, component?, h.found]
  exact h.known

/-- The exits of nodes that emission follows. -/
inductive Exit (context : Context) : NodeId → String → Prop where
  | next {id kind} (known : context.kind? id = some kind) (goesOn : kind.continuesFlow = true) :
      Exit context id keys.flowOut
  | thenExit {id} (known : context.kind? id = some .branch) : Exit context id keys.thenExit
  | elseExit {id} (known : context.kind? id = some .branch) : Exit context id keys.elseExit
  | body {id} (known : context.kind? id = some .loop) : Exit context id keys.body
  | item {node index} (hosts : context.Hosts node .sequence)
      (counted : index < numberedCount keys.exit node.outputs) :
      Exit context node.id (numbered keys.exit index)
  | inner {id kind} (known : context.kind? id = some kind) (starts : kind.isTopLevel = true) :
      Exit context id keys.flowOut

/-- The inputs of nodes whose value emission takes. -/
inductive Takes (context : Context) : NodeId → String → Prop where
  | argument {id function argument type} (known : context.kind? id = some (.call function))
      (listed : argument ∈ function.arguments)
      (typed : context.typeOf? argument.type = some type) :
      Takes context id argument.name
  | ofBranch {id} (known : context.kind? id = some .branch) : Takes context id keys.condition
  | ofLoop {id} (known : context.kind? id = some .loop) : Takes context id keys.condition
  | initial {id} (known : context.kind? id = some .localVariable) : Takes context id keys.value

/-- Whether the flow has to lead to a node of the kind at an identity. -/
def IsFlow (context : Context) (id : NodeId) : Prop :=
  ∃ kind, context.kind? id = some kind ∧ kind.isOnDemand = false

/-- The nodes that have a value. -/
inductive Delivers (context : Context) (id : NodeId) : Prop where
  | literal {name type} (known : context.kind? id = some (.literal name))
      (registered : context.typeOf? name = some type)
  | call {function} (known : context.kind? id = some (.call function))
      (result : (context.typeOf? function.result).all LanguageType.isVoid = false)
      (used : 0 < context.uses id)
  | localVariable (known : context.kind? id = some .localVariable)

/-- What holds of the connections of graphs that are edited through a language. -/
structure Wired (context : Context) : Prop where
  /-- Exits lead to nodes of the flow. -/
  flows : ∀ {id exit connection}, context.Exit id exit →
    context.graph.firstOutgoing? id exit = some connection → context.IsFlow connection.target
  /-- No exit leads to a top-level node. -/
  inner : ∀ {id exit connection}, context.Exit id exit →
    context.graph.firstOutgoing? id exit = some connection →
      ∀ {kind}, context.kind? connection.target = some kind → kind.isTopLevel = false
  /-- Values are taken from nodes that have one. -/
  delivers : ∀ {consumer key source}, context.Takes consumer key →
    context.feed consumer key = .value source → context.Delivers source
  /-- The roots are top-level nodes, each listed once. -/
  starts : ∀ id ∈ context.roots, ∃ kind, context.kind? id = some kind ∧ kind.isTopLevel = true
  distinct : context.roots.Nodup

theorem isOnDemand_eq_of_kind? {context : Context} {id : NodeId} {kind : ComponentKind}
    (h : context.kind? id = some kind) : context.isOnDemand id = kind.isOnDemand := by
  obtain ⟨component, hcomponent, rfl⟩ := Option.map_eq_some_iff.mp h
  rw [isOnDemand, hcomponent]
  rfl

theorem isPure_eq_of_kind? {context : Context} {id : NodeId} {kind : ComponentKind}
    (h : context.kind? id = some kind) : context.isPure id = kind.isPure := by
  obtain ⟨component, hcomponent, rfl⟩ := Option.map_eq_some_iff.mp h
  rw [isPure, hcomponent]
  rfl

theorem IsFlow.isOnDemand_eq {context : Context} {id : NodeId} (h : context.IsFlow id) :
    context.isOnDemand id = false := by
  obtain ⟨kind, hknown, hflow⟩ := h
  rw [isOnDemand_eq_of_kind? hknown, hflow]

theorem Wired.isFlow_of_mem_roots {context : Context} (hwired : context.Wired) {id : NodeId}
    (h : id ∈ context.roots) : context.IsFlow id := by
  obtain ⟨kind, hknown, htop⟩ := hwired.starts id h
  refine ⟨kind, hknown, ?_⟩
  cases kind <;> first | rfl | cases htop

/-- Nodes that have a value have a component. -/
theorem Delivers.exists_kind {context : Context} {id : NodeId} (h : context.Delivers id) :
    ∃ kind, context.kind? id = some kind := by
  cases h with
  | literal known => exact ⟨_, known⟩
  | call known => exact ⟨_, known⟩
  | localVariable known => exact ⟨_, known⟩

theorem Hosts.isOnDemand_eq {context : Context} {node : Node} {kind : ComponentKind}
    (h : context.Hosts node kind) : context.isOnDemand node.id = kind.isOnDemand :=
  isOnDemand_eq_of_kind? h.kind?

/-- A node is there once, with one component. -/
theorem Hosts.unique {context : Context} {node other : Node} {kind kind' : ComponentKind}
    (h : context.Hosts node kind) (hother : context.Hosts other kind')
    (hid : node.id = other.id) : node = other ∧ kind = kind' := by
  have hfound := h.found
  rw [hid, hother.found, Option.some.injEq] at hfound
  subst hfound
  exact ⟨rfl, Option.some.inj (h.known.symm.trans hother.known)⟩

/-- Only some kinds of components have values. -/
theorem Delivers.hasValue {context : Context} {id : NodeId} {kind : ComponentKind}
    (h : context.Delivers id) (hknown : context.kind? id = some kind) : kind.hasValue = true := by
  cases h with
  | literal known => exact Option.some.inj (hknown.symm.trans known) ▸ rfl
  | call known => exact Option.some.inj (hknown.symm.trans known) ▸ rfl
  | localVariable known => exact Option.some.inj (hknown.symm.trans known) ▸ rfl

theorem kind?_of_literalType? {context : Context} {id : NodeId} {type : LanguageType}
    (h : context.literalType? id = some type) :
    ∃ name, context.kind? id = some (.literal name) ∧ context.typeOf? name = some type := by
  unfold literalType? at h
  split at h
  next name hknown => exact ⟨name, hknown, h⟩
  next => cases h

/-- An argument that is declared with a default has a literal wired into it. -/
theorem kind?_of_wiring {context : Context} {node : Node} {index : Nat} {source : NodeId}
    {type : LanguageType} {literal : Node}
    (h : context.wiring node index = .byLiteral source type literal) :
    ∃ name, context.kind? source = some (.literal name) ∧
      context.typeOf? name = some type := by
  unfold wiring at h
  split at h
  next connection _ =>
    split at h
    next found _ htype _ =>
      rw [Wiring.byLiteral.injEq] at h
      obtain ⟨rfl, rfl, rfl⟩ := h
      exact kind?_of_literalType? htype
    next => cases h
  next =>
    split at h
    next => cases h
    next => cases h

/-- Parameters are taken from functions. -/
theorem kind?_of_feed {context : Context} {consumer definition : NodeId} {input key : String}
    (h : context.feed consumer input = .parameter definition key) :
    context.kind? definition = some .definition := by
  unfold feed at h
  split at h
  next => cases h
  next =>
    split at h
    next => cases h
    next node hnode =>
      split at h
      next hkind =>
        split at h
        next => cases h
        next =>
          cases h
          rw [kind?, component?, hnode]
          exact hkind
      next => cases h

end Context

/-- Whether a piece of work has its place in a graph. -/
def Task.Fits (context : Context) : Task → Prop
  | chain start => context.IsFlow start
  | visit id _ => context.IsFlow id ∨ context.Delivers id
  | follow id exit => context.Exit id exit
  | inside id exit _ _ => context.Exit id exit
  | exits id indices => ∀ index ∈ indices, context.Exit id (numbered keys.exit index)
  | supply _ source => context.Delivers source
  | input consumer key _ => context.Takes consumer key
  | demand consumer key _ => context.Takes consumer key
  | operands node arguments _ => ∀ argument ∈ arguments, ∀ type,
      context.typeOf? argument.type = some type → context.Takes node.id argument.name
  | parameters _ _ _ => True
  | emission kind node =>
      context.Hosts node kind ∧ (context.IsFlow node.id ∨ context.Delivers node.id)

namespace Task.Fits

variable {context : Context} {node : Node} {argument : Argument} {arguments : List Argument}
  {values operands : List (String × Expression)} {id : NodeId} {index : Nat} {indices : List Nat}

theorem first (h : (Task.operands node (argument :: arguments) operands).Fits context)
    {type : LanguageType} (hknown : context.typeOf? argument.type = some type) :
    context.Takes node.id argument.name :=
  h _ (List.mem_cons_self ..) _ hknown

theorem others (h : (Task.operands node (argument :: arguments) operands).Fits context) :
    (Task.operands node arguments values).Fits context :=
  fun other hmem => h other (List.mem_cons_of_mem _ hmem)

theorem firstExit (h : (Task.exits id (index :: indices)).Fits context) :
    context.Exit id (numbered keys.exit index) :=
  h _ (List.mem_cons_self ..)

theorem otherExits (h : (Task.exits id (index :: indices)).Fits context) :
    (Task.exits id indices).Fits context :=
  fun other hmem => h other (List.mem_cons_of_mem _ hmem)

end Task.Fits

end VisualScript
