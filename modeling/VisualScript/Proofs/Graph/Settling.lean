import VisualScript.Proofs.Graph.Handover
import VisualScript.Proofs.Graph.Numbering

/-!
# How a node is fitted

All kinds of nodes are fitted in one way: the numbered ports are brought to their count, then
the outputs hand on what their inputs take, then the names of the types are noted in the data.
-/

namespace VisualScript

/-- What a variable hands on. -/
def Handover.value (node : Node) : Handover :=
  ⟨keys.value, keys.result, node.text? keys.typeName⟩

/-- What the argument of a function with a number hands on. -/
def Handover.argument (node : Option Node) (index : Nat) : Handover :=
  ⟨numbered keys.argument index, numbered keys.exit index,
    node.bind (·.textAt? keys.typeName index)⟩

namespace ComponentKind

variable (kind : ComponentKind) (registry : Registry) (id : NodeId) (node : Node) (graph : Graph)

/-- The inputs of a node that its outputs hand on. -/
def handovers : List Handover :=
  match kind with
  | definition => (List.range (node.count keys.argumentCount)).map (.argument (some node))
  | localVariable => [.value node]
  | _ => []

/-- Whether a node has other numbered ports than its count asks for. -/
def isResized : Bool :=
  match kind with
  | sequence => numberedCount keys.exit node.outputs != node.count keys.exitCount
  | definition => numberedCount keys.argument node.inputs != node.count keys.argumentCount
  | _ => false

/-- Take the numbered ports out that a node has beyond its count. -/
def shrink : Graph :=
  match kind with
  | sequence =>
      let wanted := node.count keys.exitCount
      (List.range' wanted (numberedCount keys.exit node.outputs - wanted)).foldl
        (fun graph index => (graph.removeOutput id (numbered keys.exit index)).2) graph
  | definition =>
      let wanted := node.count keys.argumentCount
      (List.range' wanted (numberedCount keys.argument node.inputs - wanted)).foldl
        (fun graph index => ((graph.removeInput id (numbered keys.argument index)).2.removeOutput id
          (numbered keys.exit index)).2) graph
  | _ => graph

/-- Bring the numbered ports of a node to their count. -/
def resize : Graph := kind.shrink id node (graph.modifyNode id (kind.extend registry node))

/-- Note the names of the types that a node hands on in its data. -/
def note (names : List String) (node : Node) : Node :=
  match kind with
  | definition => node.setData keys.typeName (.array (names.map Json.string))
  | localVariable => node.setData keys.typeName (.string (names.headD ""))
  | _ => node

end ComponentKind

namespace Editing

variable {α β : Type} {registry : Registry} {id : NodeId} {graph : Graph} {node : Node}

theorem run_forM {items : List α} {step : α → Editing Unit} (change : Graph → α → Graph)
    (h : ∀ item graph, (step item).run graph = (.ok (), change graph item)) (graph : Graph) :
    (items.forM step).run graph = (.ok (), items.foldl change graph) := by
  induction items generalizing graph with
  | nil => rfl
  | cons item rest ih =>
      change (step item >>= fun _ => rest.forM step).run graph = _
      rw [run_bind, h]
      exact ih _

theorem run_mapM_singleton (item : α) (step : α → Editing β) (graph : Graph) :
    ([item].mapM step).run graph =
      (((step item).run graph).1.map fun value => [value], ((step item).run graph).2) := by
  rw [List.mapM_cons, run_bind]
  rcases (step item).run graph with ⟨error | value, after⟩
  · rfl
  · rfl

theorem run_removeArguments_bind (node : Node) (next : Unit → Editing α) (graph : Graph) :
    let wanted := node.count keys.argumentCount
    let surplus := List.range' wanted (numberedCount keys.argument node.inputs - wanted)
    (surplus.forM (fun index => do
        modify fun graph => (graph.removeInput id (numbered keys.argument index)).2
        modify fun graph => (graph.removeOutput id (numbered keys.exit index)).2) >>= next).run
      graph = (next ()).run (ComponentKind.definition.shrink id node graph) := by
  dsimp only
  rw [run_bind, run_forM (fun graph index =>
    ((graph.removeInput id (numbered keys.argument index)).2.removeOutput id
      (numbered keys.exit index)).2) (by intro _ _; rfl)]
  rfl

theorem content?_handOn (handover : Handover) (graph : Graph) (other : NodeId) :
    ((handOn registry id handover).run graph).2.content? other = graph.content? other := by
  have hkeeps : Keeps (fun changed => changed.content? other = graph.content? other)
      (handOn registry id handover) fun _ => True := by
    refine (keeps_incomingType _ _ fun _ _ hsame => hsame).bind fun _ _ => ?_
    refine (keeps_retype fun middle made hsame hmade => ?_).bind fun _ _ => keeps_pure trivial
    obtain ⟨_, _, ⟨_, hmade⟩ | ⟨_, hmade⟩⟩ := Graph.ok_setOutputSocket hmade
    · rw [hmade]
      exact hsame
    · rw [hmade]
      refine Eq.trans ?_ hsame
      exact Graph.content?_modifyNode (by intro _; rfl) (by intro _; rfl) (by intro _; rfl) ..
  exact (hkeeps graph rfl).1

theorem run_syncArgument (registry : Registry) (id : NodeId) (index : Nat) (graph : Graph) :
    (syncArgument registry id index).run graph =
      let run := (handOn registry id (.argument (graph.node? id) index)).run graph
      (run.1.map fun (socket, changed) => (socket.typeName, changed), run.2) := by
  unfold syncArgument
  rw [run_get_bind]
  dsimp only
  rw [← run_bind_pure]
  simp only [handOn, Handover.argument, bind_assoc, pure_bind]

/-- The type that is selected for an argument is read from the data, which no handing on
changes. -/
theorem argument_of_content? {changed : Graph} (h : changed.content? id = graph.content? id) :
    Handover.argument (changed.node? id) = Handover.argument (graph.node? id) := by
  unfold Graph.content? at h
  cases hchanged : changed.node? id with
  | none =>
      rw [hchanged, Option.map_none] at h
      rw [Option.map_eq_none_iff.mp h.symm]
  | some other =>
      rw [hchanged, Option.map_some] at h
      obtain ⟨node, hnode, heq⟩ := Option.map_eq_some_iff.mp h.symm
      funext index
      rw [hnode, Handover.argument, Handover.argument, Option.bind_some, Option.bind_some,
        Node.textAt?, Node.textAt?, (Prod.mk.inj heq).2]

theorem run_mapM_syncArgument (indices : List Nat) (graph : Graph) :
    (indices.mapM (syncArgument registry id)).run graph =
      let handovers := indices.map (Handover.argument (graph.node? id))
      let run := (handovers.mapM (handOn registry id)).run graph
      (run.1.map fun answers => answers.map fun (socket, changed) => (socket.typeName, changed),
        run.2) := by
  dsimp only
  induction indices generalizing graph with
  | nil => rfl
  | cons index rest ih =>
      rw [List.mapM_cons, List.map_cons, List.mapM_cons, run_bind, run_bind, run_syncArgument]
      dsimp only
      have hsame := @content?_handOn registry id (.argument (graph.node? id) index) graph id
      rcases hrun : (handOn registry id (.argument (graph.node? id) index)).run graph with
        ⟨error | answer, after⟩
      · rfl
      · rw [hrun] at hsame
        simp only [Except.map]
        rw [run_bind_pure, run_bind_pure, ih after, argument_of_content? hsame]
        rcases ((rest.map (Handover.argument (graph.node? id))).mapM (handOn registry id)).run
          after with ⟨error | answers, last⟩
        · rfl
        · rfl

end Editing

/-! ## What bringing ports to their count leaves alone -/

/-- The ports of a node were changed: all nodes keep their data, other nodes their outputs, and
certain inputs of the node their connections. -/
structure Reshaped (id : NodeId) (kept : String → Prop) (graph after : Graph) : Prop where
  contents : ∀ other, after.content? other = graph.content? other
  outputs : ∀ other key, other ≠ id → after.output? other key = graph.output? other key
  connections : after.connections.Sublist graph.connections
  incoming : graph.FedByOthers id → ∀ key, kept key →
    after.incoming id key = graph.incoming id key

namespace Reshaped

variable {registry : Registry} {id : NodeId} {kept : String → Prop} {graph middle after : Graph}

theorem refl (graph : Graph) : Reshaped id kept graph graph where
  contents := fun _ => rfl
  outputs := fun _ _ _ => rfl
  connections := .refl _
  incoming := fun _ _ _ => rfl

theorem trans (h : Reshaped id kept graph middle) (hlast : Reshaped id kept middle after) :
    Reshaped id kept graph after where
  contents := fun other => (hlast.contents other).trans (h.contents other)
  outputs := fun other key hne => (hlast.outputs other key hne).trans (h.outputs other key hne)
  connections := hlast.connections.trans h.connections
  incoming := fun hfed key hkept =>
    (hlast.incoming (hfed.of_sublist h.connections) key hkept).trans (h.incoming hfed key hkept)

theorem modifyNode {change : Node → Node} (hid : ∀ node, (change node).id = node.id)
    (hname : ∀ node, (change node).name = node.name)
    (hdata : ∀ node, (change node).data = node.data) (graph : Graph) :
    Reshaped id kept graph (graph.modifyNode id change) where
  contents := Graph.content?_modifyNode hid hname hdata graph id
  outputs := fun _ _ hne => (Graph.ports_modifyNode hid Node.outputs ..).trans (if_neg hne)
  connections := .refl _
  incoming := fun _ _ _ => rfl

theorem removeInput {key : String} (h : ∀ other, kept other → other ≠ key) (graph : Graph) :
    Reshaped id kept graph (graph.removeInput id key).2 where
  contents :=
    Graph.content?_modifyNode (by intro _; rfl) (by intro _; rfl) (by intro _; rfl) _ id
  outputs := fun _ _ _ => Graph.output?_removeInput ..
  connections := List.filter_sublist
  incoming := by
    intro _ other hkept
    refine Graph.incoming_sever fun connection hmem => ?_
    obtain ⟨_, _, hinput⟩ := Graph.mem_incoming.mp hmem
    rw [hinput, decide_eq_false (h other hkept), Bool.and_false]

theorem removeOutput (key : String) (graph : Graph) :
    Reshaped id kept graph (graph.removeOutput id key).2 where
  contents :=
    Graph.content?_modifyNode (by intro _; rfl) (by intro _; rfl) (by intro _; rfl) _ id
  outputs := fun _ _ hne => (Graph.output?_removeOutput ..).trans (if_neg fun h => hne h.1)
  connections := List.filter_sublist
  incoming := by
    intro hfed other _
    refine Graph.incoming_sever fun connection hmem => ?_
    obtain ⟨hmem, htarget, _⟩ := Graph.mem_incoming.mp hmem
    rw [decide_eq_false (hfed.sources connection hmem htarget), Bool.false_and]

/-- What is offered to an input that keeps its connections stays. -/
theorem offers (h : Reshaped id kept graph after) (hfed : graph.FedByOthers id) {key : String}
    (hkept : kept key) : after.offers registry id key = graph.offers registry id key :=
  Graph.offers_congr hfed (h.incoming hfed key hkept) h.outputs

end Reshaped

namespace ComponentKind

open Editing

variable {registry : Registry} {id : NodeId} {graph : Graph} {node : Node}

theorem mem_handovers_definition {handover : Handover} :
    handover ∈ definition.handovers node ↔
      ∃ index < node.count keys.argumentCount, Handover.argument (some node) index = handover := by
  simp [handovers]

/-- The inputs that are handed on stay as they are while the ports are brought to their
count. -/
theorem reshaped_resize (kind : ComponentKind) (registry : Registry) (id : NodeId) (node : Node)
    (graph : Graph) :
    Reshaped id (· ∈ (kind.handovers node).map Handover.input) graph
      (kind.resize registry id node graph) := by
  have hextend : Reshaped id (· ∈ (kind.handovers node).map Handover.input) graph
      (graph.modifyNode id (kind.extend registry node)) :=
    .modifyNode (fun other => (kind.extend_rest registry node other).1)
      (fun other => (kind.extend_rest registry node other).2.1)
      (fun other => (kind.extend_rest registry node other).2.2) graph
  refine hextend.trans ?_
  cases kind with
  | sequence =>
      exact List.foldlRecOn (motive := Reshaped id _ _) _ _ (.refl _)
        fun changed hchanged _ _ => hchanged.trans (.removeOutput _ changed)
  | definition =>
      refine List.foldlRecOn (motive := Reshaped id _ _) _ _ (.refl _)
        fun changed hchanged index hmem => ?_
      refine hchanged.trans ((Reshaped.removeInput ?_ changed).trans (.removeOutput _ _))
      intro key hkey heq
      obtain ⟨handover, hhandover, rfl⟩ := List.mem_map.mp hkey
      obtain ⟨other, hless, rfl⟩ := mem_handovers_definition.mp hhandover
      have hbeyond := (List.mem_range'_1.mp hmem).1
      have hsame := numbered_injective _ heq
      omega
  | _ => exact .refl _

/-- The way in which all kinds of nodes are fitted: the ports are brought to their count, then
the inputs handed on, and if that was done the names of the types are noted. -/
def fit (kind : ComponentKind) (registry : Registry) (id : NodeId) (node : Node) (graph : Graph) :
    Except GraphError Bool × Graph :=
  let run := ((kind.handovers node).mapM (handOn registry id)).run
    (kind.resize registry id node graph)
  match run.1 with
  | .ok answers => (.ok (kind.isResized node || answers.any Prod.snd),
      run.2.modifyNode id (kind.note (answers.map fun answer => answer.1.typeName)))
  | .error error => (.error error, run.2)

theorem run_syncSequence (registry : Registry) (hnode : graph.node? id = some node) :
    (syncSequence id).run graph = sequence.fit registry id node graph := by
  unfold syncSequence
  dsimp only
  rw [run_requireNode_bind hnode, run_modifyNode_bind, run_bind,
    run_forM (fun graph index => (graph.removeOutput id (numbered keys.exit index)).2)
      (by intro _ _; rfl)]
  change _ = (Except.ok ((_ != _) || false), Graph.modifyNode _ id fun node => node)
  rw [Graph.modifyNode_id, Bool.or_false]
  rfl

theorem run_syncFunction (registry : Registry) (hnode : graph.node? id = some node) :
    (syncFunction registry id).run graph = definition.fit registry id node graph := by
  have hsame := argument_of_content?
    ((definition.reshaped_resize registry id node graph).contents id)
  unfold syncFunction fit
  dsimp only
  rw [run_requireNode_bind hnode, run_modifyNode_bind, run_removeArguments_bind]
  change (_ : Editing Bool).run (definition.resize registry id node graph) = _
  generalize definition.resize registry id node graph = sized at hsame ⊢
  rw [run_bind, run_mapM_syncArgument, hsame, hnode]
  simp only [handovers]
  rcases ((List.map (Handover.argument (some node)) (List.range
    (node.count keys.argumentCount))).mapM (handOn registry id)).run sized with
    ⟨error | answers, after⟩
  · rfl
  · simp only [Except.map]
    rw [run_modifyNode_bind, List.any_map, List.map_map]
    unfold note
    rw [List.map_map]
    rfl

theorem run_syncVariable (registry : Registry) (hnode : graph.node? id = some node) :
    (syncVariable registry id).run graph = localVariable.fit registry id node graph := by
  unfold syncVariable fit
  dsimp only
  rw [run_requireNode_bind hnode,
    show localVariable.resize registry id node graph = graph from graph.modifyNode_id id]
  trans (handOn registry id (.value node) >>= fun answer =>
    modifyNode id (·.setData keys.typeName (.string answer.1.typeName)) >>= fun _ =>
      pure answer.2).run graph
  · simp only [handOn, Handover.value, bind_assoc, pure_bind]
  · simp only [handovers, run_mapM_singleton]
    rw [run_bind]
    rcases (handOn registry id (.value node)).run graph with ⟨error | answer, after⟩
    · rfl
    · simp only [Except.map]
      rw [run_modifyNode_bind]
      change (Except.ok answer.2, _) = (Except.ok (false || (answer.2 || false)), _)
      rw [Bool.or_false, Bool.false_or]
      rfl

/-- All kinds of nodes are fitted in one way. -/
theorem run_sync (kind : ComponentKind) (registry : Registry) (hnode : graph.node? id = some node) :
    (kind.sync registry id).run graph = kind.fit registry id node graph := by
  cases kind with
  | sequence => exact run_syncSequence registry hnode
  | definition => exact run_syncFunction registry hnode
  | localVariable => exact run_syncVariable registry hnode
  | _ =>
      change (Except.ok false, graph) = (Except.ok (false || false),
        (graph.modifyNode id fun node => node).modifyNode id fun node => node)
      rw [Graph.modifyNode_id, Graph.modifyNode_id]
      rfl

/-! ## The numbered ports after a fit -/

/-- No port behind a gap goes by the number at which the count stops. -/
def EndsAtCount (kind : ComponentKind) (node : Node) : Prop :=
  match kind with
  | sequence => numberedCount keys.exit node.outputs < node.count keys.exitCount →
      node.outputs.contains (numbered keys.exit (node.count keys.exitCount)) = false
  | definition => numberedCount keys.argument node.inputs < node.count keys.argumentCount →
      node.inputs.contains (numbered keys.argument (node.count keys.argumentCount)) = false
  | _ => True

/-- Ports that are put from one number up to another are there. -/
theorem contains_foldl_range' (ports : Node → OrderedMap String Port) {add : Node → Nat → Node}
    {port : Node → Nat → Port} {stem : String}
    (hadd : ∀ node index,
      ports (add node index) = (ports node).insert (numbered stem index) (port node index))
    (first last index : Nat) (node : Node) :
    (ports ((List.range' first (last - first)).foldl add node)).contains (numbered stem index) =
        true ↔
      (ports node).contains (numbered stem index) = true ∨ first ≤ index ∧ index < last := by
  rw [Node.contains_foldl_add ports hadd]
  refine or_congr_right ⟨?_, ?_⟩
  · rintro ⟨other, hmem, heq⟩
    obtain rfl := numbered_injective stem heq
    have hother := List.mem_range'_1.mp hmem
    omega
  · intro hindex
    exact ⟨index, List.mem_range'_1.mpr (by omega), rfl⟩

/-- Ports that are taken out from one number up to another are gone. -/
theorem isSome_foldl_range' (read : Graph → String → Option Port) {step : Graph → Nat → Graph}
    {stem : String} (hstep : ∀ graph index key,
      read (step graph index) key = if key = numbered stem index then none else read graph key)
    (first last index : Nat) (graph : Graph) :
    (read ((List.range' first (last - first)).foldl step graph) (numbered stem index)).isSome =
        true ↔
      (read graph (numbered stem index)).isSome = true ∧ ¬ (first ≤ index ∧ index < last) := by
  have htaken : ∀ indices : List Nat, read (indices.foldl step graph) (numbered stem index) =
      if index ∈ indices then none else read graph (numbered stem index) := by
    intro indices
    induction indices generalizing graph with
    | nil => rfl
    | cons first rest ih =>
        rw [List.foldl_cons, ih, hstep]
        by_cases hrest : index ∈ rest
        · simp [hrest]
        · by_cases hfirst : index = first
          · simp [hfirst]
          · simp [hrest, hfirst, (numbered_injective stem).eq_iff]
  have hmem : index ∈ List.range' first (last - first) ↔ first ≤ index ∧ index < last := by
    rw [List.mem_range'_1]
    omega
  rw [htaken]
  by_cases hindex : first ≤ index ∧ index < last
  · simp [hmem, hindex]
  · simp [hmem, hindex]

/-- The ports of a node that is found are those of the graph. -/
theorem contains_ports {ports : Node → OrderedMap String Port} (hnode : graph.node? id = some node)
    (key : String) : (ports node).contains key =
      ((graph.node? id).bind fun node => (ports node).get? key).isSome := by
  rw [hnode]
  rfl

/-- The numbered ports of a node once those that it lacks were put and those beyond its count
taken out. -/
theorem isSome_refit (ports : Node → OrderedMap String Port) {extend : Node → Node}
    {step : Graph → Nat → Graph} {stem : String} {present wanted : Nat}
    (hid : ∀ node, (extend node).id = node.id)
    (hextend : ∀ index, (ports (extend node)).contains (numbered stem index) = true ↔
      (ports node).contains (numbered stem index) = true ∨ present ≤ index ∧ index < wanted)
    (hstep : ∀ graph index key,
      ((step graph index).node? id).bind (fun node => (ports node).get? key) =
        if key = numbered stem index then none
        else (graph.node? id).bind fun node => (ports node).get? key)
    (hnode : graph.node? id = some node) (index : Nat) :
    ((((List.range' wanted (present - wanted)).foldl step (graph.modifyNode id extend)).node?
        id).bind fun node => (ports node).get? (numbered stem index)).isSome = true ↔
      ((ports node).contains (numbered stem index) = true ∨ present ≤ index ∧ index < wanted) ∧
        ¬ (wanted ≤ index ∧ index < present) := by
  refine (isSome_foldl_range' (fun graph key => (graph.node? id).bind fun node =>
    (ports node).get? key) hstep ..).trans (and_congr_left' ?_)
  rw [← hextend, Graph.ports_modifyNode hid, if_pos rfl, hnode]
  rfl

/-- The exits of a sequence once they were brought to their count. -/
theorem isSome_output?_resize (hnode : graph.node? id = some node) (index : Nat) :
    ((sequence.resize registry id node graph).output? id
        (numbered keys.exit index)).isSome = true ↔
      (node.outputs.contains (numbered keys.exit index) = true ∨
        numberedCount keys.exit node.outputs ≤ index ∧ index < node.count keys.exitCount) ∧
      ¬ (node.count keys.exitCount ≤ index ∧ index < numberedCount keys.exit node.outputs) := by
  have htaken : ∀ graph index key, Graph.output?
      (Graph.removeOutput graph id (numbered keys.exit index)).2 id key =
        if key = numbered keys.exit index then none else graph.output? id key := by
    intro graph index key
    simp [Graph.output?_removeOutput]
  exact isSome_refit Node.outputs (fun other => (sequence.extend_rest registry node other).1)
    (fun _ => contains_foldl_range' Node.outputs (by intro _ _; rfl) ..) htaken hnode index

/-- The arguments of a function once they were brought to their count. -/
theorem isSome_input?_resize (hnode : graph.node? id = some node) (index : Nat) :
    ((definition.resize registry id node graph).input? id
        (numbered keys.argument index)).isSome = true ↔
      (node.inputs.contains (numbered keys.argument index) = true ∨
        numberedCount keys.argument node.inputs ≤ index ∧
          index < node.count keys.argumentCount) ∧
      ¬ (node.count keys.argumentCount ≤ index ∧
        index < numberedCount keys.argument node.inputs) := by
  have htaken : ∀ graph index key, Graph.input?
      ((Graph.removeInput graph id (numbered keys.argument index)).2.removeOutput id
        (numbered keys.exit index)).2 id key =
          if key = numbered keys.argument index then none else graph.input? id key := by
    intro graph index key
    simp [Graph.input?_removeOutput, Graph.input?_removeInput]
  exact isSome_refit Node.inputs (fun other => (definition.extend_rest registry node other).1)
    (fun _ => contains_foldl_range' Node.inputs (by intro _ _; rfl) ..) htaken hnode index

/-- What a fit notes in a node's data leaves its counts alone. -/
theorem count_note (kind : ComponentKind) (names : List String) {other : Node}
    (hdata : other.data = (kind.note names node).data) {key : String} (hkey : keys.typeName ≠ key) :
    other.count key = node.count key := by
  have hget : other.data.get? key = node.data.get? key := by
    rw [hdata]
    cases kind with
    | definition => exact (OrderedMap.get?_insert ..).trans (if_neg hkey)
    | localVariable => exact (OrderedMap.get?_insert ..).trans (if_neg hkey)
    | _ => rfl
  unfold Node.count
  rw [hget]

/-- A node is not resized a second time unless a port behind a gap has come into its count. -/
theorem isResized_eq_false_iff (kind : ComponentKind) {fitted : Graph} {other : Node}
    {names : List String}
    (hnode : graph.node? id = some node) (hother : fitted.node? id = some other)
    (hdata : other.data = (kind.note names node).data)
    (hinputs : ∀ key, fitted.input? id key = (kind.resize registry id node graph).input? id key)
    (houtputs : ∀ key, key ∉ (kind.handovers node).map Handover.output →
      fitted.output? id key = (kind.resize registry id node graph).output? id key) :
    kind.isResized other = false ↔ kind.EndsAtCount node := by
  cases kind with
  | sequence =>
      have hcount := sequence.count_note names hdata
        (show keys.typeName ≠ keys.exitCount by decide)
      simp only [isResized, bne_eq_false_iff_eq, hcount]
      refine numberedCount_refit fun index => ?_
      rw [contains_ports hother]
      change (fitted.output? id _).isSome = true ↔ _
      rw [houtputs _ (by simp [handovers])]
      exact isSome_output?_resize hnode index
  | definition =>
      have hcount := definition.count_note names hdata
        (show keys.typeName ≠ keys.argumentCount by decide)
      simp only [isResized, bne_eq_false_iff_eq, hcount]
      refine numberedCount_refit fun index => ?_
      rw [contains_ports hother]
      change (fitted.input? id _).isSome = true ↔ _
      rw [hinputs]
      exact isSome_input?_resize hnode index
  | _ => exact ⟨fun _ => trivial, fun _ => rfl⟩

end ComponentKind

end VisualScript
