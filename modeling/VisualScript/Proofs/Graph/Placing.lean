import VisualScript.Proofs.Graph.Identities
import Mathlib.Data.List.Induction

/-!
# New nodes are fitted

Building a node and fitting it are told apart from each other, yet they agree: a node that was
just placed has the ports that its data asks for, and nothing is connected to it, so there is
nothing to do for it but to note the types that it hands on.
-/

namespace VisualScript

/-! ## The outputs of a node that was just built -/

namespace Node

/-- The outputs of arguments have the types that the data selects. -/
theorem socket_foldl_addArgument (registry : Registry) {indices : List Nat} {index : Nat}
    (hmem : index ∈ indices) (node : Node) :
    ((indices.foldl (addArgument registry) node).outputs.get? (numbered keys.exit index)).map
      Port.socket = some (selectedSocket registry (node.textAt? keys.typeName index)) := by
  induction indices using List.reverseRecOn with
  | nil => cases hmem
  | append_singleton rest last ih =>
      have hdata : (rest.foldl (addArgument registry) node).data = node.data :=
        List.foldlRecOn (motive := fun changed : Node => changed.data = node.data) _ _ rfl
          fun _ hchanged _ _ => hchanged
      rw [List.foldl_append, List.foldl_cons, List.foldl_nil]
      refine (congrArg _ (OrderedMap.get?_insert ..)).trans ?_
      by_cases hlast : last = index
      · rw [if_pos (by rw [hlast]), hlast, textAt?, hdata]
        rfl
      · rw [if_neg fun hsame => hlast (numbered_injective _ hsame)]
        refine ih ((List.mem_append.mp hmem).resolve_right fun hsame => ?_)
        exact hlast (List.mem_singleton.mp hsame).symm

end Node

namespace ComponentKind

open Editing

variable {registry : Registry} {id : NodeId} {node : Node} {graph : Graph}

/-- The outputs that hand on inputs have the types that are selected for where nothing feeds
these. -/
theorem socket_build (kind : ComponentKind) (registry : Registry) (node : Node)
    {handover : Handover}
    (hmem : handover ∈ kind.handovers (kind.build registry node)) :
    ((kind.build registry node).outputs.get? handover.output).map Port.socket =
      some (Node.selectedSocket registry handover.selected) := by
  cases kind with
  | definition =>
      obtain ⟨index, hless, rfl⟩ := mem_handovers_definition.mp hmem
      have hdata : (definition.build registry node).data = node.data :=
        ((node.addFlowOut keys.flowOut).addArguments_rest registry 0
          (node.count keys.argumentCount)).2.2
      rw [Node.count, hdata] at hless
      change _ = some (Node.selectedSocket registry (Node.textAt? _ keys.typeName index))
      rw [Node.textAt?, hdata]
      exact Node.socket_foldl_addArgument registry (List.mem_range'_1.mpr (by
        rw [Nat.zero_add, Nat.sub_zero]
        exact ⟨Nat.zero_le _, hless⟩)) (node.addFlowOut keys.flowOut)
  | localVariable =>
      obtain rfl := List.mem_singleton.mp hmem
      change ((node.outputs.insert keys.result _).get? keys.result).map Port.socket = _
      rw [OrderedMap.get?_insert, if_pos rfl]
      rfl
  | _ => cases hmem

/-- A node whose ports are those of its count and whose inputs are settled is fitted: all that is
done for it is to note the types that it hands on. -/
theorem fit_of_isSettled {kind : ComponentKind} (hresized : kind.isResized node = false)
    (hsettled : ∀ handover ∈ kind.handovers node, handover.isSettled registry id graph = true) :
    ∃ names, kind.fit registry id node graph =
      (.ok false, graph.modifyNode id (kind.note names)) := by
  refine ⟨((kind.handovers node).map fun handover => handover.socket registry id graph).map
    Socket.typeName, ?_⟩
  unfold fit
  rw [resize_eq_self hresized, run_mapM_of_isSettled hsettled]
  simp [hresized, Function.comp_def]

end ComponentKind

/-! ## Placing a node and fitting it -/

/-- An input to which nothing is connected is settled if its output has the selected type. -/
theorem Handover.isSettled_of_incoming {registry : Registry} {id : NodeId} {handover : Handover}
    {graph : Graph} (hincoming : graph.incoming id handover.input = [])
    (hsocket : (graph.output? id handover.output).map Port.socket =
      some (Node.selectedSocket registry handover.selected)) :
    handover.isSettled registry id graph = true := by
  have hoffers : graph.offers registry id handover.input = [] := by
    rw [Graph.offers, hincoming, List.map_nil]
  rw [isSettled, turnsAway, socket, hoffers, hsocket]
  exact decide_eq_true rfl

namespace Language

variable {language : Language} {graph : Graph} {name : String} {component : Component}

/-- A node that was just placed by a component of the catalog, whatever its data and whatever
edits have led to the graph, is as its fit wants it. The fit says that nothing was changed, the
node has the ports that it had and the graph its connections; all that is done is that types are
noted in the node's data. -/
theorem sync_spawn (hgraph : graph.Edited)
    (hcomponent : language.catalog.get? name = some component) (data : DataFields) :
    ∃ id spawned after, language.spawn graph name data = .ok (id, spawned) ∧
      graph.node? id = none ∧ (spawned.ports? id).isSome = true ∧
      language.sync id spawned = (.ok false, after) ∧
      after.ports? id = spawned.ports? id ∧ after.connections = spawned.connections ∧
      ∃ names, after = spawned.modifyNode id (component.kind.note names) := by
  have hcounted := hgraph.counted
  obtain ⟨spawned, hplace, _⟩ := exists_place hcounted hcomponent data
  have hspawn := spawn_of_place hplace
  obtain ⟨found, hfound, _, hinsert⟩ := ok_spawn hspawn
  obtain rfl := Option.some.inj (hcomponent.symm.trans hfound)
  have hplace := component.kind.place_build language.registry
    { id := graph.nextId.1, name, data }
  have hfurnishes : component.kind.Furnishes (component.kind.build language.registry
      { id := graph.nextId.1, name, data }) := component.kind.furnishes_build _ rfl rfl
  have hsockets := fun handover => @component.kind.socket_build language.registry
    { id := graph.nextId.1, name, data } handover
  generalize component.kind.build language.registry { id := graph.nextId.1, name, data } = node
    at hinsert hplace hfurnishes hsockets
  have hid : graph.nextId.1 = node.id := (congrArg Prod.fst hplace).symm
  have hname : node.name = name := congrArg (fun place => place.2.1) hplace
  have hnode : spawned.node? graph.nextId.1 = some node := by
    rw [Graph.node?_insert hinsert, if_pos hid]
  have hkind : language.kindOf? node.name = some component.kind := by
    rw [hname, kindOf?, hcomponent]
    rfl
  -- Nothing was connected to the number before it was given out.
  have hsettled : ∀ handover ∈ component.kind.handovers node,
      handover.isSettled language.registry graph.nextId.1 spawned = true := by
    intro handover hmem
    refine Handover.isSettled_of_incoming ?_ ?_
    · rw [Graph.incoming, (Graph.ok_insert hinsert).2.2]
      exact hcounted.incoming_nextId _
    · rw [Graph.output?, hnode]
      exact hsockets handover hmem
  obtain ⟨names, hfit⟩ := ComponentKind.fit_of_isSettled hfurnishes.sized hsettled
  refine ⟨_, spawned, _, hspawn, hcounted.node?_nextId, ?_, ?_,
    component.kind.ports?_note names spawned, rfl, names, rfl⟩
  · rw [Graph.ports?, hnode]
    rfl
  · rw [sync_eq_ok_iff hnode hkind, component.kind.run_sync _ hnode]
    exact hfit

/-- A function with two arguments, one of a type that there is not, placed where the last number
is that of a node which is gone. -/
theorem sync_spawn_counting :
    let gone := ((Command.remove ⟨5⟩).perform.run
      ((Command.insert { id := ⟨5⟩, name := "next" }).perform.run Graph.empty).2).2
    let data : DataFields :=
      ⟨[("numArgs", .string "2"), ("typeName", .array [.string "text", .string "missing"])]⟩
    counting.catalog.contains "Function" = true ∧ gone.Edited ∧
      ∃ id spawned after, counting.spawn gone "Function" data = .ok (id, spawned) ∧
        counting.sync id spawned = (.ok false, after) ∧
        after.ports? id = spawned.ports? id ∧ after.connections = spawned.connections := by
  have hgone := Graph.Edited.perform (Graph.Edited.perform .empty
    (.insert { id := ⟨5⟩, name := "next" })) (.remove ⟨5⟩)
  obtain ⟨component, hcomponent⟩ := Option.isSome_iff_exists.mp
    (rfl : (counting.catalog.get? "Function").isSome = true)
  obtain ⟨id, spawned, after, hspawn, _, _, hsync, hports, hconnections, _⟩ :=
    sync_spawn hgone hcomponent
      ⟨[("numArgs", .string "2"), ("typeName", .array [.string "text", .string "missing"])]⟩
  exact ⟨rfl, hgone, id, spawned, after, hspawn, hsync, hports, hconnections⟩

end Language

end VisualScript
