import VisualScript.Proofs.Graph.Built
import VisualScript.Proofs.Graph.Repetition

/-!
# Fitting nodes that were just built

A node that was just built has the ports that its kind asks for, so a fit puts none and takes
none away, and no edit of it is refused. All it does is to hand its inputs on, one after another,
and each handover changes no more than the socket of one output and the connections at its two
ports. Fitting all nodes of a graph comes to one sweep over all their handovers.
-/

namespace VisualScript

/-! ## What a sweep leaves of a node -/

namespace OrderedMap

variable {Key : Type u} {Value : Type v} {Image : Type w} [DecidableEq Key]

theorem get?_mapValues (f : Value → Image) (map : OrderedMap Key Value) (key : Key) :
    (map.mapValues f).get? key = (map.get? key).map f := by
  obtain ⟨entries⟩ := map
  change find? key (entries.map fun entry => (entry.1, f entry.2)) = (find? key entries).map f
  induction entries with
  | nil => rfl
  | cons entry rest ih =>
      by_cases heq : entry.1 = key
      · simp [find?, heq]
      · simpa [find?, heq] using ih

/-- What is put under a key is of no matter once the key is taken out. -/
theorem erase_insert (map : OrderedMap Key Value) (key : Key) (value : Value) :
    (map.insert key value).erase key = map.erase key := by
  obtain ⟨entries⟩ := map
  refine congrArg OrderedMap.mk ?_
  change (put key value entries).filter (fun entry => decide (entry.1 ≠ key)) =
    entries.filter fun entry => decide (entry.1 ≠ key)
  induction entries with
  | nil => simp [put]
  | cons entry rest ih =>
      obtain ⟨other, old⟩ := entry
      by_cases heq : other = key
      · simp [put, heq]
      · rw [put, if_neg heq, List.filter_cons, List.filter_cons, ih]

end OrderedMap

namespace Node

variable {node other : Node}

/-- A node apart from the sockets of its outputs and the names of types that its data notes. -/
def frame (node : Node) : Node :=
  { node with
    data := node.data.erase keys.typeName
    outputs := node.outputs.mapValues fun port => { port with socket := .flow } }

theorem frame_retype (node : Node) (key : String) (socket : Socket) :
    frame { node with
      outputs := node.outputs.modify key fun port => { port with socket := socket } } =
        node.frame := by
  refine congrArg (fun outputs => { node.frame with outputs }) (congrArg OrderedMap.mk ?_)
  simp only [OrderedMap.modify, List.map_map]
  refine List.map_congr_left fun entry _ => ?_
  by_cases heq : entry.1 = key
  · simp [heq]
  · simp [heq]

theorem frame_note (kind : ComponentKind) (names : List String) (node : Node) :
    (kind.note names node).frame = node.frame := by
  cases kind with
  | definition =>
      exact congrArg (fun data => { node.frame with data }) (OrderedMap.erase_insert ..)
  | localVariable =>
      exact congrArg (fun data => { node.frame with data }) (OrderedMap.erase_insert ..)
  | _ => rfl

theorem name_of_frame (h : node.frame = other.frame) : node.name = other.name :=
  (congrArg Node.name h :)

theorem count_frame {key : String} (hkey : keys.typeName ≠ key) (node : Node) :
    node.frame.count key = node.count key := by
  unfold count
  rw [frame, OrderedMap.get?_erase, if_neg hkey]

end Node

/-! ## What a kind asks for -/

/-- A node has the numbered ports that its count asks for, and the outputs that hand on its
inputs. -/
structure ComponentKind.Furnishes (kind : ComponentKind) (node : Node) : Prop where
  sized : kind.isResized node = false
  outputs : ∀ handover ∈ kind.handovers node, node.outputs.contains handover.output = true

namespace ComponentKind

variable {kind : ComponentKind} {registry : Registry} {node : Node}

/-- A sequence that was just built has the exits of its count. -/
theorem contains_exit_build (registry : Registry) (houtputs : node.outputs = .empty)
    (index : Nat) : (sequence.build registry node).outputs.contains (numbered keys.exit index) =
      true ↔ index < (sequence.build registry node).count keys.exitCount := by
  have hdata := (node.addFlowIn.addExits_rest 0 (node.count keys.exitCount)).2.2.1
  have hcount : (sequence.build registry node).count keys.exitCount =
      node.count keys.exitCount := by
    unfold Node.count
    rw [show (sequence.build registry node).data = node.data from hdata]
  rw [hcount]
  refine (contains_foldl_range' Node.outputs (fun _ _ => rfl) 0 _ index _).trans ?_
  rw [show node.addFlowIn.outputs = .empty from houtputs]
  simp [OrderedMap.contains]

/-- A function that was just built has the arguments of its count. -/
theorem contains_argument_build (registry : Registry) (hinputs : node.inputs = .empty)
    (index : Nat) : (definition.build registry node).inputs.contains
      (numbered keys.argument index) = true ↔
        index < (definition.build registry node).count keys.argumentCount := by
  have hdata := ((node.addFlowOut keys.flowOut).addArguments_rest registry 0
    (node.count keys.argumentCount)).2.2
  have hcount : (definition.build registry node).count keys.argumentCount =
      node.count keys.argumentCount := by
    unfold Node.count
    rw [show (definition.build registry node).data = node.data from hdata]
  rw [hcount]
  refine (contains_foldl_range' Node.inputs (fun _ _ => rfl) 0 _ index _).trans ?_
  rw [show (node.addFlowOut keys.flowOut).inputs = .empty from hinputs]
  simp [OrderedMap.contains]

/-- A node that was just built has the ports that its kind asks for. -/
theorem furnishes_build (kind : ComponentKind) (registry : Registry)
    (hinputs : node.inputs = .empty) (houtputs : node.outputs = .empty) :
    kind.Furnishes (kind.build registry node) := by
  cases kind with
  | sequence =>
      refine ⟨?_, fun handover hmem => by cases hmem⟩
      rw [isResized, bne_eq_false_iff_eq, numberedCount_eq_iff, ← Bool.not_eq_true]
      simp only [contains_exit_build registry houtputs]
      exact ⟨fun _ hless => hless, Nat.lt_irrefl _⟩
  | definition =>
      refine ⟨?_, fun handover hmem => ?_⟩
      · rw [isResized, bne_eq_false_iff_eq, numberedCount_eq_iff, ← Bool.not_eq_true]
        simp only [contains_argument_build registry hinputs]
        exact ⟨fun _ hless => hless, Nat.lt_irrefl _⟩
      -- The outputs are put together with the inputs.
      · obtain ⟨index, hless, rfl⟩ := mem_handovers_definition.mp hmem
        have hargument := (contains_argument_build registry hinputs index).mpr hless
        refine (contains_foldl_range' Node.outputs (fun _ _ => rfl) 0 _ index _).mpr ?_
        refine .inr (((contains_foldl_range' Node.inputs (fun _ _ => rfl) 0 _ index _).mp
          hargument).resolve_left ?_)
        rw [show (node.addFlowOut keys.flowOut).inputs = .empty from hinputs]
        simp [OrderedMap.contains]
  | localVariable =>
      refine ⟨rfl, fun handover hmem => ?_⟩
      obtain rfl := List.mem_singleton.mp hmem
      change (node.outputs.insert keys.result _).contains keys.result = true
      rw [OrderedMap.contains, OrderedMap.get?_insert, if_pos rfl]
      rfl
  | _ => exact ⟨rfl, fun handover hmem => by cases hmem⟩

end ComponentKind

/-! ## One handover -/

namespace Graph

variable {graph changed : Graph} {id : NodeId}

/-- Nothing was changed but the sockets of outputs, the names of types in the data of nodes, and
connections that went. -/
structure Refits (graph changed : Graph) : Prop where
  frames : changed.nodes.map Node.frame = graph.nodes.map Node.frame
  connections : changed.connections.Sublist graph.connections

namespace Refits

theorem refl (graph : Graph) : graph.Refits graph := ⟨rfl, .refl _⟩

theorem trans {last : Graph} (h : graph.Refits changed) (hlast : changed.Refits last) :
    graph.Refits last :=
  ⟨hlast.frames.trans h.frames, hlast.connections.trans h.connections⟩

theorem modifyNode {change : Node → Node} (h : ∀ node, (change node).frame = node.frame)
    (graph : Graph) (id : NodeId) : graph.Refits (graph.modifyNode id change) := by
  refine ⟨?_, .refl _⟩
  rw [Graph.modifyNode, List.map_map]
  refine List.map_congr_left fun node _ => ?_
  rw [Function.comp_apply]
  split
  next => exact h node
  next => rfl

theorem sever (graph : Graph) (test : Connection → Bool) : graph.Refits (graph.sever test).2 :=
  ⟨rfl, List.filter_sublist⟩

theorem node? (h : graph.Refits changed) (id : NodeId) :
    (changed.node? id).map Node.frame = (graph.node? id).map Node.frame := by
  have hfind : ∀ nodes : List Node, (nodes.find? (·.id = id)).map Node.frame =
      (nodes.map Node.frame).find? (·.id = id) := by
    intro nodes
    rw [List.find?_map]
    rfl
  unfold Graph.node?
  rw [hfind, hfind, h.frames]

theorem input? (h : graph.Refits changed) (id : NodeId) (key : String) :
    changed.input? id key = graph.input? id key := by
  have hread : ∀ graph : Graph, graph.input? id key =
      ((graph.node? id).map Node.frame).bind (·.inputs.get? key) := by
    intro graph
    unfold Graph.input?
    cases graph.node? id <;> rfl
  rw [hread, hread, h.node? id]

theorem isSome_output? (h : graph.Refits changed) (id : NodeId) (key : String) :
    (changed.output? id key).isSome = (graph.output? id key).isSome := by
  have hread : ∀ graph : Graph, (graph.output? id key).isSome =
      (((graph.node? id).map Node.frame).bind (·.outputs.get? key)).isSome := by
    intro graph
    unfold Graph.output?
    cases graph.node? id with
    | none => rfl
    | some node =>
        rw [Option.map_some, Option.bind_some, Option.bind_some, Node.frame,
          OrderedMap.get?_mapValues, Option.isSome_map]
  rw [hread, hread, h.node? id]

end Refits

/-- A change of a node leaves the other nodes alone. -/
theorem node?_modifyNode_of_ne {change : Node → Node} (hid : ∀ node, (change node).id = node.id)
    {other : NodeId} (hne : other ≠ id) (graph : Graph) :
    (graph.modifyNode id change).node? other = graph.node? other := by
  rw [node?_modifyNode other fun node _ _ => hid node]
  cases hnode : graph.node? other with
  | none => rfl
  | some node => rw [Option.map_some, if_neg ((id_of_node? hnode).symm ▸ hne)]

end Graph

/-- What handing on an input comes to: its output has the socket that the input gives, nothing
else is changed about ports, and only connections at the two ports may be lost. -/
structure HandsOn (registry : Registry) (id : NodeId) (handover : Handover)
    (graph after : Graph) : Prop where
  refits : graph.Refits after
  trims : graph.Trims after
  elsewhere : ∀ other ≠ id, after.node? other = graph.node? other
  content : after.content? id = graph.content? id
  outputs : ∀ key ≠ handover.output, after.output? id key = graph.output? id key
  socket : (after.output? id handover.output).map Port.socket =
    some (handover.socket registry id graph)
  /-- A connection is lost if it is turned away, or the output's new socket does not fit it. -/
  lost : ∀ connection ∈ graph.connections, connection ∉ after.connections →
    (∃ first, graph.firstIncoming? id handover.input = some first ∧
        connection.number = first.number ∧
        (graph.offer? registry first).any LanguageType.isRefused = true) ∨
      connection.source = id ∧ connection.output = handover.output ∧
        graph.fitsInto (handover.socket registry id graph) connection = false

namespace Graph

variable {registry : Registry} {id : NodeId} {graph : Graph}

/-- The only connection that is turned away is the oldest one, and only if its type is refused. -/
theorem lost_turned {input : String} {connection : Connection}
    (hmem : connection ∈ graph.connections)
    (hlost : connection ∉ (graph.turned registry id input).connections) :
    ∃ first, graph.firstIncoming? id input = some first ∧ connection.number = first.number ∧
      (graph.offer? registry first).any LanguageType.isRefused = true := by
  unfold turned at hlost
  split at hlost
  next => exact absurd hmem hlost
  next first hfirst =>
    split at hlost
    next hrefused =>
      refine ⟨first, hfirst, ?_, hrefused⟩
      by_contra hne
      exact hlost (List.mem_filter.mpr ⟨hmem, by simpa using hne⟩)
    next => exact absurd hmem hlost

theorem trims_turned (registry : Registry) (id : NodeId) (input : String) (graph : Graph) :
    graph.Trims (graph.turned registry id input) := by
  obtain ⟨connections, hsub, hturned⟩ := turned_eq registry id input graph
  rw [hturned]
  exact ⟨hsub, fun _ _ => rfl, fun _ _ => .inl rfl⟩

/-- An output that is there can be given any socket. -/
theorem exists_setOutputSocket {key : String} (h : (graph.output? id key).isSome = true)
    (socket : Socket) : ∃ made, graph.setOutputSocket id key socket = .ok made := by
  obtain ⟨port, hport⟩ := Option.isSome_iff_exists.mp h
  obtain ⟨node, hnode, hport⟩ := Option.bind_eq_some_iff.mp hport
  have hrequired : graph.requirePort id key Node.outputs = .ok port := by
    simp only [requirePort, hnode, hport]
  unfold setOutputSocket
  simp only [hrequired, bind, Except.bind]
  split
  next => exact ⟨_, rfl⟩
  next => exact ⟨_, rfl⟩

end Graph

namespace HandsOn

variable {registry : Registry} {id : NodeId} {handover : Handover} {graph : Graph}

/-- Turning a connection away is all there is to do for an output that has its socket. -/
theorem of_same (h : (graph.output? id handover.output).map Port.socket =
      some (handover.socket registry id graph)) :
    HandsOn registry id handover graph (graph.turned registry id handover.input) := by
  have htrims := graph.trims_turned registry id handover.input
  have hlost := fun connection => @Graph.lost_turned registry id graph handover.input connection
  obtain ⟨connections, hsub, hturned⟩ := Graph.turned_eq registry id handover.input graph
  rw [hturned] at htrims hlost ⊢
  exact {
    refits := ⟨rfl, hsub⟩
    trims := htrims
    elsewhere := fun _ _ => rfl
    content := rfl
    outputs := fun _ _ => rfl
    socket := h
    lost := fun connection hmem hgone => .inl (hlost connection hmem hgone) }

/-- An output that gets another socket than it had, once a connection was turned away. -/
theorem of_other {made : List Connection × Graph}
    (hother : (graph.output? id handover.output).map Port.socket ≠
      some (handover.socket registry id graph))
    (hmade : (graph.turned registry id handover.input).setOutputSocket id handover.output
      (handover.socket registry id graph) = .ok made) :
    HandsOn registry id handover graph made.2 := by
  have htrims := (graph.trims_turned registry id handover.input).trans
    (Graph.trims_setOutputSocket hmade)
  have hlost := fun connection => @Graph.lost_turned registry id graph handover.input connection
  obtain ⟨connections, hsub, hturned⟩ := Graph.turned_eq registry id handover.input graph
  obtain ⟨port, hport, ⟨heq, _⟩ | ⟨_, hretyped⟩⟩ := Graph.ok_setOutputSocket hmade
  · rw [hturned] at hport
    change graph.output? id handover.output = some port at hport
    rw [hport, Option.map_some, heq] at hother
    exact absurd rfl hother
  rw [hretyped, hturned] at htrims ⊢
  rw [hturned] at hlost hport
  change graph.output? id handover.output = some port at hport
  refine ⟨?_, htrims, fun other hne => ?_, ?_, fun key hne => ?_, ?_,
    fun connection hmem hgone => ?_⟩
  · exact ⟨(Graph.Refits.modifyNode (fun node => node.frame_retype ..) graph id).frames,
      List.filter_sublist.trans hsub⟩
  · exact Graph.node?_modifyNode_of_ne (by intro _; rfl) hne graph
  · exact Graph.content?_modifyNode (by intro _; rfl) (by intro _; rfl) (by intro _; rfl) graph ..
  · exact (graph.output?_withSocket id id ..).trans (if_neg fun h => hne h.2)
  · refine (congrArg _ ((graph.output?_withSocket id id ..).trans (if_pos ⟨rfl, rfl⟩))).trans ?_
    rw [hport]
    rfl
  · by_cases hkept : connection ∈ connections
    · refine .inr ?_
      by_contra hfits
      refine hgone (List.mem_filter.mpr ⟨hkept, ?_⟩)
      rw [Bool.not_eq_true']
      by_contra hsevered
      have hends : connection.source = id ∧ connection.output = handover.output ∧
          Graph.fitsInto { graph with connections := connections }
            (handover.socket registry id graph) connection = false := by
        simpa [and_assoc] using hsevered
      exact hfits hends
    · exact .inl (hlost connection hmem hkept)

end HandsOn

namespace Editing

variable {id : NodeId} {graph : Graph}

/-- No handover is refused whose output is there. -/
theorem exists_run_handOn (registry : Registry) {handover : Handover}
    (houtput : (graph.output? id handover.output).isSome = true) :
    ∃ changed after, (handOn registry id handover).run graph =
        (.ok (handover.socket registry id graph, changed), after) ∧
      HandsOn registry id handover graph after := by
  obtain ⟨connections, _, hturned⟩ := Graph.turned_eq registry id handover.input graph
  have hsame : (graph.turned registry id handover.input).output? id handover.output =
      graph.output? id handover.output := by
    rw [hturned]
    rfl
  rw [run_handOn]
  by_cases hsocket : (graph.output? id handover.output).map Port.socket =
      some (handover.socket registry id graph)
  · rw [run_retype_same (hsame ▸ hsocket)]
    exact ⟨_, _, rfl, .of_same hsocket⟩
  · obtain ⟨made, hmade⟩ := Graph.exists_setOutputSocket (hsame ▸ houtput)
      (handover.socket registry id graph)
    rw [run_retype_other (hsame ▸ hsocket), hmade]
    exact ⟨_, _, rfl, .of_other hsocket hmade⟩

end Editing

/-! ## Handing on all inputs of a node -/

/-- The type name of the output that hands on an input. -/
def Graph.outputName (graph : Graph) (id : NodeId) (handover : Handover) : String :=
  (((graph.output? id handover.output).map Port.socket).map Socket.typeName).getD ""

/-- Handing inputs on, one after another. In between, names of types are noted. -/
inductive Sweep (registry : Registry) : List (NodeId × Handover) → Graph → Graph → Prop where
  | done (graph : Graph) : Sweep registry [] graph graph
  | handOn {id handover rest graph middle after} (h : HandsOn registry id handover graph middle)
      (hrest : Sweep registry rest middle after) :
      Sweep registry ((id, handover) :: rest) graph after
  | note {visits graph after} (id : NodeId) (kind : ComponentKind) (names : List String)
      (hrest : Sweep registry visits (graph.modifyNode id (kind.note names)) after) :
      Sweep registry visits graph after

namespace Sweep

variable {registry : Registry} {visits later : List (NodeId × Handover)}
  {graph middle after : Graph}

theorem append (h : Sweep registry visits graph middle)
    (hlater : Sweep registry later middle after) :
    Sweep registry (visits ++ later) graph after := by
  induction h with
  | done => exact hlater
  | handOn hstep _ ih => exact .handOn hstep (ih hlater)
  | note id kind names _ ih => exact .note id kind names (ih hlater)

theorem refits (h : Sweep registry visits graph after) : graph.Refits after := by
  induction h with
  | done graph => exact .refl graph
  | handOn hstep _ ih => exact hstep.refits.trans ih
  | @note _ graph _ id kind names _ ih =>
      exact (Graph.Refits.modifyNode (Node.frame_note kind names) graph id).trans ih

theorem trims (h : Sweep registry visits graph after) : graph.Trims after := by
  induction h with
  | done graph => exact .refl graph
  | handOn hstep _ ih => exact hstep.trims.trans ih
  | @note _ graph _ id kind names _ ih =>
      exact (graph.trims_modifyNode (fun node => (kind.note_rest names node).1)
        (fun node => (kind.note_rest names node).2.2.1)
        (fun node => (kind.note_rest names node).2.2.2) id).trans ih

end Sweep

/-- What handing on some inputs of a node comes to. -/
structure SweepsAt (registry : Registry) (id : NodeId) (handovers : List Handover)
    (graph after : Graph) : Prop where
  sweep : Sweep registry (handovers.map fun handover => (id, handover)) graph after
  elsewhere : ∀ other ≠ id, after.node? other = graph.node? other
  content : after.content? id = graph.content? id
  outputs : ∀ key ∉ handovers.map Handover.output, after.output? id key = graph.output? id key

namespace Editing

variable {id : NodeId} {graph : Graph}

/-- Where the outputs are there, all inputs are handed on, and the answers tell the types that
the outputs have then. -/
theorem exists_run_mapM_handOn (registry : Registry) {handovers : List Handover}
    (houtputs : ∀ handover ∈ handovers, (graph.output? id handover.output).isSome = true)
    (hdistinct : (handovers.map Handover.output).Nodup) :
    ∃ answers after, (handovers.mapM (handOn registry id)).run graph = (.ok answers, after) ∧
      SweepsAt registry id handovers graph after ∧
      answers.map (fun answer => answer.1.typeName) = handovers.map (after.outputName id) := by
  induction handovers generalizing graph with
  | nil => exact ⟨[], graph, rfl, ⟨.done graph, fun _ _ => rfl, rfl, fun _ _ => rfl⟩, rfl⟩
  | cons handover rest ih =>
      rw [List.map_cons, List.nodup_cons] at hdistinct
      obtain ⟨changed, middle, hrun, hstep⟩ :=
        exists_run_handOn registry (houtputs handover (.head _))
      have hlater : ∀ other ∈ rest, (middle.output? id other.output).isSome = true :=
        fun other hother =>
          (hstep.refits.isSome_output? ..).trans (houtputs other (.tail _ hother))
      obtain ⟨answers, after, hrest, hswept, hnames⟩ := ih hlater hdistinct.2
      refine ⟨(handover.socket registry id graph, changed) :: answers, after, ?_, ?_, ?_⟩
      · rw [List.mapM_cons, run_bind, hrun]
        dsimp only
        rw [run_bind_pure, hrest]
        rfl
      · refine ⟨.handOn hstep hswept.sweep, fun other hne => ?_, ?_, fun key hkey => ?_⟩
        · exact (hswept.elsewhere other hne).trans (hstep.elsewhere other hne)
        · exact hswept.content.trans hstep.content
        · rw [List.map_cons, List.mem_cons, not_or] at hkey
          exact (hswept.outputs key hkey.2).trans (hstep.outputs key hkey.1)
      · have hsame := hswept.outputs _ hdistinct.1
        rw [List.map_cons, List.map_cons, hnames, Graph.outputName, hsame, hstep.socket]
        rfl

end Editing

/-! ## Fitting the nodes of a graph -/

/-- The names of types in a node's data are those of the outputs that hand on its inputs. -/
def ComponentKind.IsNoted (kind : ComponentKind) (node : Node) : Prop :=
  ∀ handover ∈ kind.handovers node,
    handover.selected = (node.outputs.get? handover.output).map fun port => port.socket.typeName

namespace Language

variable {language : Language} {graph : Graph} {id : NodeId} {node : Node} {kind : ComponentKind}

/-- A node of a known component has the ports that its kind asks for. -/
def Furnishes (language : Language) (node : Node) : Prop :=
  ∀ kind, language.kindOf? node.name = some kind → kind.Furnishes node

/-- The inputs of nodes that outputs hand on, in the order in which they are fitted. -/
def visits (language : Language) (nodes : List Node) : List (NodeId × Handover) :=
  nodes.flatMap fun node =>
    match language.kindOf? node.name with
    | none => []
    | some kind => (kind.handovers node).map fun handover => (node.id, handover)

theorem visits_eq (language : Language) (nodes : List Node) :
    language.visits nodes = nodes.flatMap fun node =>
      (language.kindOf? node.name).elim [] fun kind =>
        (kind.handovers node).map fun handover => (node.id, handover) := by
  refine List.flatMap_congr fun node _ => ?_
  cases language.kindOf? node.name with
  | none => rfl
  | some kind => rfl

/-- A node with the ports that its kind asks for is fitted by handing its inputs on. -/
theorem exists_sync (hnode : graph.node? id = some node)
    (hkind : language.kindOf? node.name = some kind) (hfurnishes : kind.Furnishes node) :
    ∃ answer after, language.sync id graph = (.ok answer, after) ∧
      Sweep language.registry ((kind.handovers node).map fun handover => (id, handover)) graph
        after ∧
      (∀ other ≠ id, after.node? other = graph.node? other) ∧
      ∀ fitted, after.node? id = some fitted → kind.IsNoted fitted := by
  have houtputs : ∀ handover ∈ kind.handovers node,
      (graph.output? id handover.output).isSome = true := by
    intro handover hmem
    rw [Graph.output?, hnode]
    exact hfurnishes.outputs handover hmem
  obtain ⟨answers, handed, hrun, hswept, hnames⟩ := Editing.exists_run_mapM_handOn
    language.registry houtputs (kind.nodup_handovers node).2
  have hid : ∀ other, (kind.note (answers.map fun answer => answer.1.typeName) other).id =
      other.id := fun other => (kind.note_rest _ other).1
  refine ⟨kind.isResized node || answers.any Prod.snd,
    handed.modifyNode id (kind.note (answers.map fun answer => answer.1.typeName)),
    ?_, ?_, fun other hne => ?_, fun fitted hfitted handover hmem => ?_⟩
  · rw [sync_eq hnode hkind, kind.run_sync _ hnode, ComponentKind.fit,
      kind.resize_eq_self hfurnishes.sized, hrun]
    rfl
  · rw [← List.append_nil (List.map _ _)]
    exact hswept.sweep.append (.note id kind _ (.done _))
  · exact (Graph.node?_modifyNode_of_ne hid hne handed).trans (hswept.elsewhere other hne)
  -- The data were left alone until the names were noted.
  · obtain ⟨last, hlast, hdata⟩ : ∃ last, handed.node? id = some last ∧ last.data = node.data := by
      have hcontent := hswept.content
      rw [Graph.content?, Graph.content?, hnode] at hcontent
      obtain ⟨last, hlast, heq⟩ := Option.map_eq_some_iff.mp hcontent
      exact ⟨last, hlast, (Prod.mk.inj heq).2⟩
    rw [Graph.node?_modifyNode id fun other _ _ => hid other, hlast, Option.map_some,
      if_pos (Graph.id_of_node? hlast), Option.some.injEq, hnames] at hfitted
    subst hfitted
    have hnoted := kind.note_data ((kind.handovers node).map (handed.outputName id)) hdata
    rw [kind.handovers_note (handed.outputName id) hnoted] at hmem
    obtain ⟨first, hfirst, rfl⟩ := List.mem_map.mp hmem
    have hfound := hswept.sweep.refits.isSome_output? id first.output
    rw [houtputs first hfirst] at hfound
    obtain ⟨port, hport⟩ := Option.isSome_iff_exists.mp hfound
    have hget : last.outputs.get? first.output = some port := by
      rw [Graph.output?, hlast] at hport
      exact hport
    change some (handed.outputName id first) = _
    rw [Graph.outputName, hport, (kind.note_rest _ last).2.2.2, hget]
    rfl

/-- Fitting nodes with the ports that their kinds ask for is one sweep, and is never refused. -/
theorem exists_syncKnown {nodes : List Node}
    (hnodes : ∀ node ∈ nodes, graph.node? node.id = some node)
    (hdistinct : (nodes.map Node.id).Nodup) (hfurnishes : ∀ node ∈ nodes, language.Furnishes node) :
    ∃ after, language.syncKnown nodes graph = .ok after ∧
      Sweep language.registry (language.visits nodes) graph after ∧
      (∀ other ∉ nodes.map Node.id, after.node? other = graph.node? other) ∧
      ∀ node ∈ nodes, ∀ kind fitted, language.kindOf? node.name = some kind →
        after.node? node.id = some fitted → kind.IsNoted fitted := by
  induction nodes generalizing graph with
  | nil => exact ⟨graph, rfl, .done graph, fun _ _ => rfl, fun _ hmem => by cases hmem⟩
  | cons node rest ih =>
      rw [List.map_cons, List.nodup_cons] at hdistinct
      have hnode := hnodes node (.head _)
      have hlater : ∀ other ∈ rest, other.id ≠ node.id := fun other hother heq =>
        hdistinct.1 (heq ▸ List.mem_map_of_mem hother)
      have hknown : language.catalog.contains node.name = (language.kindOf? node.name).isSome := by
        rw [kindOf?, Option.isSome_map]
        rfl
      rw [syncKnown, hknown]
      cases hkind : language.kindOf? node.name with
      | none =>
          obtain ⟨after, hrun, hsweep, helsewhere, hnoted⟩ := ih
            (fun other hother => hnodes other (.tail _ hother)) hdistinct.2
            fun other hother => hfurnishes other (.tail _ hother)
          refine ⟨after, hrun, ?_, fun other hother => ?_,
            fun other hother kind fitted hfound => ?_⟩
          · rw [visits, List.flatMap_cons, hkind]
            exact hsweep
          · exact helsewhere other fun hmem => hother (.tail _ hmem)
          · rcases List.mem_cons.mp hother with rfl | hrest
            · rw [hkind] at hfound
              cases hfound
            · exact hnoted other hrest kind fitted hfound
      | some kind =>
          obtain ⟨answer, middle, hsync, hfirst, hmiddle, hown⟩ :=
            exists_sync hnode hkind (hfurnishes node (.head _) kind hkind)
          have hfound : ∀ other ∈ rest, middle.node? other.id = some other :=
            fun other hother =>
              (hmiddle _ (hlater other hother)).trans (hnodes other (.tail _ hother))
          obtain ⟨after, hrun, hsweep, helsewhere, hnoted⟩ :=
            ih hfound hdistinct.2 fun other hother => hfurnishes other (.tail _ hother)
          refine ⟨after, ?_, ?_, fun other hother => ?_,
            fun other hother otherKind fitted hfound => ?_⟩
          · rw [Option.isSome_some, if_pos rfl, hsync]
            exact hrun
          · rw [visits, List.flatMap_cons, hkind]
            exact hfirst.append hsweep
          · rw [List.map_cons, List.mem_cons, not_or] at hother
            exact (helsewhere other hother.2).trans (hmiddle other hother.1)
          · rcases List.mem_cons.mp hother with rfl | hrest
            · rw [hkind, Option.some.injEq] at hfound
              subst hfound
              rw [helsewhere _ hdistinct.1]
              exact hown fitted
            · exact hnoted other hrest otherKind fitted hfound

end Language

end VisualScript
