import VisualScript.Proofs.Graph.Restoring
import VisualScript.Proofs.Language.Registration

/-!
# Whether outputs follow what feeds them

The nodes of a restored graph are fitted once, in the order of the file. An output that hands an
input on takes the type that its oldest connection offers at this moment. Where the connection
leaves an output that gets its own type later in the file, that type is not taken over.
-/

namespace VisualScript

variable {registry : Registry} {id other : NodeId} {handover : Handover} {key : String}
  {graph middle after : Graph}

/-! ## What handing on leaves to later inputs -/

/-- A wildcard takes whatever is no flow. -/
theorem Socket.feeds_of_isAny {output input : Socket} (hinput : input.isAny = true)
    (houtput : output.isFlow = false) : output.feeds input = true := by
  cases input with
  | any name =>
      cases output with
      | flow => cases houtput
      | _ => rfl
  | _ => cases hinput

/-- An input takes any type. -/
def Graph.TakesAny (graph : Graph) (id : NodeId) (key : String) : Prop :=
  ∃ port, graph.input? id key = some port ∧ port.socket.isAny = true

theorem Graph.TakesAny.of_refits (h : graph.TakesAny id key) (hrefits : graph.Refits after) :
    after.TakesAny id key := by
  obtain ⟨port, hport, hany⟩ := h
  exact ⟨port, (hrefits.input? id key).trans hport, hany⟩

namespace HandsOn

theorem output? (h : HandsOn registry id handover graph after)
    (hne : (other, key) ≠ (id, handover.output)) :
    after.output? other key = graph.output? other key := by
  by_cases heq : other = id
  · subst heq
    exact h.outputs key fun hkey => hne (hkey ▸ rfl)
  · unfold Graph.output?
    rw [h.elsewhere other heq]

/-- An input that takes any type loses no connection to the handover of another input. -/
theorem incoming (h : HandsOn registry id handover graph after)
    (hnumbers : (graph.connections.map Connection.number).Nodup) (hany : graph.TakesAny other key)
    (hne : (other, key) ≠ (id, handover.input)) :
    after.incoming other key = graph.incoming other key := by
  have hkept : graph.incoming other key ⊆ after.incoming other key := by
    intro connection hmem
    obtain ⟨hmem, htarget, hinput⟩ := Graph.mem_incoming.mp hmem
    refine Graph.mem_incoming.mpr ⟨?_, htarget, hinput⟩
    by_contra hgone
    rcases h.lost connection hmem hgone with ⟨first, hfirst, hnumber, _⟩ | ⟨_, _, hunfit⟩
    · have hfirst := Graph.mem_incoming.mp (List.mem_of_head? hfirst)
      obtain rfl := List.inj_on_of_nodup_map hnumbers hmem hfirst.1 hnumber
      exact hne (Prod.ext (htarget.symm.trans hfirst.2.1) (hinput.symm.trans hfirst.2.2))
    · obtain ⟨port, hport, hany⟩ := hany
      have hfits := Socket.feeds_of_isAny hany (Editing.isFlow_socketOf registry
        (registry.intake (graph.offers registry id handover.input) handover.selected).1)
      unfold Graph.fitsInto at hunfit
      rw [htarget, hinput, hport] at hunfit
      cases hunfit.symm.trans hfits
  have hnodup : (graph.incoming other key).Nodup := (hnumbers.of_map _).filter _
  exact (h.refits.connections.filter _).eq_of_length_le (hnodup.subperm hkept).length_le

end HandsOn

namespace Sweep

variable {visits early late : List (NodeId × Handover)}

/-- A sweep over many visits comes to each of them between two sweeps. -/
theorem split (h : Sweep registry (early ++ (id, handover) :: late) graph after) :
    ∃ before middle, Sweep registry early graph before ∧
      HandsOn registry id handover before middle ∧ Sweep registry late middle after := by
  generalize hvisits : early ++ (id, handover) :: late = visits at h
  induction h generalizing early with
  | done => simp at hvisits
  | handOn hstep hrest ih =>
      cases early with
      | nil =>
          obtain ⟨hfirst, rfl⟩ := List.cons.inj hvisits
          cases hfirst
          exact ⟨_, _, .done _, hstep, hrest⟩
      | cons first early =>
          obtain ⟨rfl, hlater⟩ := List.cons.inj hvisits
          obtain ⟨before, middle, hearly, hstep', hlate⟩ := ih hlater
          exact ⟨before, middle, .handOn hstep hearly, hstep', hlate⟩
  | note id kind names _ ih =>
      obtain ⟨before, middle, hearly, hstep, hlate⟩ := ih hvisits
      exact ⟨before, middle, .note id kind names hearly, hstep, hlate⟩

/-- An output that hands on nothing keeps its socket. -/
theorem output? (h : Sweep registry visits graph after)
    (hnot : (other, key) ∉ visits.map fun visit => (visit.1, visit.2.output)) :
    after.output? other key = graph.output? other key := by
  induction h with
  | done => rfl
  | handOn hstep _ ih =>
      rw [List.map_cons, List.mem_cons, not_or] at hnot
      exact (ih hnot.2).trans (hstep.output? hnot.1)
  | note id kind names _ ih => exact (ih hnot).trans (kind.output?_note names _ id other key)

/-- An input that takes any type keeps its connections until it is handed on. -/
theorem incoming (h : Sweep registry visits graph after)
    (hnumbers : (graph.connections.map Connection.number).Nodup) (hany : graph.TakesAny other key)
    (hnot : (other, key) ∉ visits.map fun visit => (visit.1, visit.2.input)) :
    after.incoming other key = graph.incoming other key := by
  induction h with
  | done => rfl
  | handOn hstep _ ih =>
      rw [List.map_cons, List.mem_cons, not_or] at hnot
      have hrest := ih (hnumbers.sublist (hstep.refits.connections.map _))
        (hany.of_refits hstep.refits) hnot.2
      exact hrest.trans (hstep.incoming hnumbers hany hnot.1)
  | @note _ graph _ id kind names _ ih =>
      exact ih hnumbers (hany.of_refits (.modifyNode (Node.frame_note kind names) graph id)) hnot

end Sweep

/-! ## What an output meets -/

/-- What an output takes from the oldest connection into its input, which leaves an output that
was either handed on before, and had its last socket then, or still had its first. -/
def Registry.metSocket? (registry : Registry) (first last : Graph)
    (early : List (NodeId × String)) (id : NodeId) (input : String) : Option Socket :=
  (first.firstIncoming? id input).map fun oldest =>
    let met := if (oldest.source, oldest.output) ∈ early then last else first
    Editing.socketOf registry (registry.intake [met.offer? registry oldest] none).1

/-- After a sweep an output has the socket that it took when its input was handed on. -/
theorem Sweep.socket_eq_met {early late : List (NodeId × Handover)}
    (h : Sweep registry (early ++ (id, handover) :: late) graph after)
    (hinputs : ((early ++ (id, handover) :: late).map fun visit =>
      (visit.1, visit.2.input)).Nodup)
    (houtputs : ((early ++ (id, handover) :: late).map fun visit =>
      (visit.1, visit.2.output)).Nodup)
    (hnumbers : (graph.connections.map Connection.number).Nodup)
    (hany : graph.TakesAny id handover.input)
    (hfed : (graph.firstIncoming? id handover.input).isSome = true) :
    (after.output? id handover.output).map Port.socket =
      registry.metSocket? graph after (early.map fun visit => (visit.1, visit.2.output)) id
        handover.input := by
  obtain ⟨before, middle, hearly, hstep, hlate⟩ := h.split
  rw [List.map_append, List.map_cons, List.nodup_middle, List.nodup_cons, List.mem_append,
    not_or] at hinputs
  rw [List.map_append, List.map_cons, List.nodup_append, List.nodup_cons] at houtputs
  obtain ⟨_, ⟨hlateOutput, _⟩, hapart⟩ := houtputs
  -- The input comes to its turn with the connections that it had at first.
  have hincoming := hearly.incoming hnumbers hany hinputs.1.1
  obtain ⟨oldest, hoption⟩ := Option.isSome_iff_exists.mp hfed
  obtain ⟨rest, hcons⟩ : ∃ rest, graph.incoming id handover.input = oldest :: rest :=
    List.head?_eq_some_iff.mp hoption
  have hmet : before.offer? registry oldest =
      (if (oldest.source, oldest.output) ∈ early.map fun visit => (visit.1, visit.2.output)
        then after else graph).offer? registry oldest := by
    unfold Graph.offer?
    by_cases hmem : (oldest.source, oldest.output) ∈ early.map fun visit =>
        (visit.1, visit.2.output)
    · have hne := hapart _ hmem
      rw [if_pos hmem, hlate.output? fun hlater => hne _ (.tail _ hlater) rfl,
        hstep.output? (hne _ (.head _))]
    · rw [if_neg hmem, hearly.output? hmem]
  rw [hlate.output? hlateOutput, hstep.socket, Registry.metSocket?, hoption, Option.map_some]
  dsimp only
  rw [← hmet, Handover.socket, Graph.offers, hincoming, hcons]
  rfl

/-! ## The inputs of nodes as they were built -/

namespace ComponentKind

variable {kind : ComponentKind} {node : Node}

/-- The inputs of a function that was just built take any type. -/
theorem socket_argument_build (registry : Registry) (hinputs : node.inputs = .empty)
    {port : Port} (hport : (definition.build registry node).inputs.get? key = some port) :
    port.socket = registry.anySocket := by
  revert key port
  refine List.foldlRecOn (motive := fun changed : Node => ∀ {key port},
    changed.inputs.get? key = some port → port.socket = registry.anySocket) _ _ ?_ ?_
  · intro key port hport
    rw [show (node.addFlowOut keys.flowOut).inputs = .empty from hinputs] at hport
    cases hport
  · intro changed hchanged index _ key port hport
    change (changed.inputs.insert _ _).get? key = some port at hport
    rw [OrderedMap.get?_insert] at hport
    split at hport
    next =>
      cases hport
      rfl
    next => exact hchanged hport

/-- What is handed on of a node that was just built comes in through a wildcard. -/
theorem exists_input_build (registry : Registry) (hinputs : node.inputs = .empty)
    (hmem : handover ∈ kind.handovers (kind.build registry node)) :
    ∃ port, (kind.build registry node).inputs.get? handover.input = some port ∧
      port.socket = registry.anySocket := by
  cases kind with
  | definition =>
      obtain ⟨index, hless, rfl⟩ := mem_handovers_definition.mp hmem
      obtain ⟨port, hport⟩ := Option.isSome_iff_exists.mp
        ((contains_argument_build registry hinputs index).mpr hless)
      exact ⟨port, hport, socket_argument_build registry hinputs hport⟩
  | localVariable =>
      obtain rfl := List.mem_singleton.mp hmem
      exact ⟨⟨"Value", registry.anySocket⟩, (OrderedMap.get?_insert ..).trans (if_pos rfl), rfl⟩
  | _ => cases hmem

/-- Which ports hand on which does not depend on what a sweep changes. -/
theorem ports_handovers_frame (kind : ComponentKind) (node : Node) :
    (kind.handovers node.frame).map (fun handover => (handover.input, handover.output)) =
      (kind.handovers node).map fun handover => (handover.input, handover.output) := by
  cases kind with
  | definition =>
      simp only [handovers, List.map_map, Node.count_frame (show keys.typeName ≠
        keys.argumentCount by decide)]
      rfl
  | _ => rfl

end ComponentKind

/-! ## The outputs of a graph that hand on inputs -/

namespace Language

variable {language : Language} {nodes : List Node}

/-- The outputs of a graph that hand on inputs, in the order in which they are fitted. -/
def handed (language : Language) (graph : Graph) : List (NodeId × String) :=
  (language.visits graph.nodes).map fun visit => (visit.1, visit.2.output)

/-- No port is handed on twice. -/
theorem nodup_visits (port : Handover → String)
    (hports : ∀ (kind : ComponentKind) node, ((kind.handovers node).map port).Nodup)
    (hdistinct : (nodes.map Node.id).Nodup) :
    ((language.visits nodes).map fun visit => (visit.1, port visit.2)).Nodup := by
  rw [visits_eq, List.map_flatMap, List.nodup_flatMap]
  have hown : ∀ node, ∀ visit ∈ (language.kindOf? node.name).elim [] (fun kind =>
      (kind.handovers node).map fun handover => (node.id, handover)), visit.1 = node.id := by
    intro node visit hmem
    cases hkind : language.kindOf? node.name with
    | none =>
        rw [hkind] at hmem
        cases hmem
    | some kind =>
        rw [hkind] at hmem
        obtain ⟨_, _, rfl⟩ := List.mem_map.mp hmem
        rfl
  refine ⟨fun node _ => ?_, ?_⟩
  · cases language.kindOf? node.name with
    | none => exact .nil
    | some kind =>
        have hinjective : Function.Injective (Prod.mk node.id : String → NodeId × String) :=
          fun _ _ heq => (Prod.mk.inj heq).2
        have hpairs := (hports kind node).map hinjective
        rw [Option.elim_some]
        rwa [List.map_map] at hpairs ⊢
  · refine (List.pairwise_map.mp hdistinct).imp fun {first second} hne pair hfirst hsecond => ?_
    obtain ⟨visit, hvisit, rfl⟩ := List.mem_map.mp hfirst
    obtain ⟨later, hlater, heq⟩ := List.mem_map.mp hsecond
    exact hne ((hown first visit hvisit).symm.trans
      ((Prod.mk.inj heq).1.symm.trans (hown second later hlater)))

/-- A sweep changes no port, so the same outputs hand on inputs as before. -/
theorem handed_of_refits (h : graph.Refits after) :
    language.handed after = language.handed graph := by
  have hread : ∀ graph : Graph, language.handed graph =
      (graph.nodes.map Node.frame).flatMap fun node =>
        (language.kindOf? node.name).elim [] fun kind =>
          (kind.handovers node).map fun handover => (node.id, handover.output) := by
    intro graph
    rw [handed, visits_eq, List.map_flatMap, List.flatMap_map]
    refine List.flatMap_congr fun node _ => ?_
    cases hkind : language.kindOf? node.name with
    | none =>
        rw [show language.kindOf? node.frame.name = none from hkind]
        rfl
    | some kind =>
        rw [show language.kindOf? node.frame.name = some kind from hkind]
        have hports := congrArg (List.map fun ports : String × String => (node.id, ports.2))
          (kind.ports_handovers_frame node)
        rw [List.map_map, List.map_map] at hports
        rw [Option.elim_some, Option.elim_some, List.map_map]
        exact hports.symm
  rw [hread, hread, h.frames]

end Language

/-! ## Whether an output follows its input -/

/-- Where the oldest connection into an input offers a type that is not turned away, the output
that hands the input on has the socket of the type, and its name is noted. -/
def Handover.Follows (registry : Registry) (graph : Graph) (node : Node)
    (handover : Handover) : Prop :=
  ∀ connection type, graph.firstIncoming? node.id handover.input = some connection →
    graph.offer? registry connection = some type → type.isRefused = false →
      (node.outputs.get? handover.output).map Port.socket = some type.socket ∧
        handover.selected = some type.socket.typeName

namespace Language

/-- What hands on an input of a node does so before the node is fitted and after. -/
theorem exists_handover_of_refits {kind : ComponentKind} {node fitted : Node}
    (hframe : fitted.frame = node.frame) (hmem : handover ∈ kind.handovers fitted) :
    ∃ first ∈ kind.handovers node, first.input = handover.input ∧
      first.output = handover.output := by
  have hports := kind.ports_handovers_frame fitted
  rw [hframe, kind.ports_handovers_frame] at hports
  have hpair := List.mem_map_of_mem (f := fun handover => (handover.input, handover.output)) hmem
  rw [← hports] at hpair
  obtain ⟨first, hfirst, heq⟩ := List.mem_map.mp hpair
  exact ⟨first, hfirst, (Prod.mk.inj heq).1, (Prod.mk.inj heq).2⟩

/-- A visit is known by the output that it is about. -/
theorem exists_visits_split {language : Language} {nodes : List Node}
    (hdistinct : (nodes.map Node.id).Nodup) (hmem : (id, handover) ∈ language.visits nodes)
    {early late : List (NodeId × String)}
    (hplace : (language.visits nodes).map (fun visit => (visit.1, visit.2.output)) =
      early ++ (id, handover.output) :: late) :
    ∃ before behind, language.visits nodes = before ++ (id, handover) :: behind ∧
      before.map (fun visit => (visit.1, visit.2.output)) = early := by
  have hnodup := language.nodup_visits Handover.output
    (fun kind node => (kind.nodup_handovers node).2) hdistinct
  obtain ⟨before, others, hvisits, hearly, hothers⟩ := List.map_eq_append_iff.mp hplace
  obtain ⟨visit, behind, rfl, hvisit, _⟩ := List.map_eq_cons_iff.mp hothers
  have hfound : visit ∈ language.visits nodes := by
    rw [hvisits]
    exact List.mem_append_right _ (.head _)
  obtain rfl := List.inj_on_of_nodup_map hnodup hfound hmem hvisit
  exact ⟨before, behind, hvisits, hearly⟩

/-- What is handed on in an assembled graph comes in through a wildcard. -/
theorem Assembles.takesAny {core : CoreDescription} {user : UserDescription} {file : EditorFile}
    {assembled : Graph} {node : Node} {kind : ComponentKind}
    (h : (build core user).Assembles file assembled) (hnode : assembled.node? id = some node)
    (hkind : (build core user).kindOf? node.name = some kind)
    (hhandover : handover ∈ kind.handovers node) : assembled.TakesAny id handover.input := by
  have hmem := Graph.mem_of_node? hnode
  rw [h.nodes] at hmem
  obtain ⟨fileNode, _, rfl⟩ := List.mem_map.mp hmem
  have hbuild := restoreNode_eq_build hkind
  rw [hbuild] at hhandover
  obtain ⟨port, hport, hsocket⟩ := ComponentKind.exists_input_build _ rfl hhandover
  refine ⟨port, ?_, hsocket ▸ Registry.isAny_anySocket_build core user⟩
  rw [Graph.input?, hnode, hbuild]
  exact hport

theorem Assembles.numbers {language : Language} {file : EditorFile} {assembled : Graph}
    (h : language.Assembles file assembled) :
    (assembled.connections.map Connection.number).Nodup :=
  List.pairwise_map.mpr (h.intact.ordered.imp fun hless => Nat.ne_of_lt hless)

/-- The connection between the two variables of the chain. -/
def backwardLink : Connection := ⟨1, ⟨2⟩, "result", ⟨1⟩, "value"⟩

set_option synthInstance.maxSize 512 in
/-- The first variable is fitted before the second has got its type. -/
theorem load_backwardChain :
    (counting.load backwardChain).toOption.map (fun made =>
      (made.1.nodes.map fun node =>
          (node.id, node.name, (node.outputs.get? keys.result).map Port.socket),
        made.1.firstIncoming? ⟨1⟩ keys.value,
        (made.1.offer? counting.registry backwardLink).map fun type =>
          (type.socket, type.isRefused),
        counting.handed made.1)) =
      some ([(⟨1⟩, "Variable", some (.any "any")), (⟨2⟩, "Variable", some (.data "int" .value)),
          (⟨3⟩, "next", some (.data "int" .value))],
        some backwardLink, some (.data "int" .value, false),
        [(⟨1⟩, "result"), (⟨2⟩, "result")]) := by
  unfold load EditorFile.parse Json.readDocument backwardChain
  simp only [String.toList_append]
  decide +kernel

theorem exists_backwardChain : ∃ graph notices node type,
    counting.load backwardChain = .ok (graph, notices) ∧ node ∈ graph.nodes ∧ node.id = ⟨1⟩ ∧
      counting.kindOf? node.name = some .localVariable ∧
      (node.outputs.get? keys.result).map Port.socket = some (.any "any") ∧
      graph.firstIncoming? node.id keys.value = some backwardLink ∧
      graph.offer? counting.registry backwardLink = some type ∧
      type.socket = .data "int" .value ∧ type.isRefused = false ∧
      counting.handed graph = [(⟨1⟩, "result"), (⟨2⟩, "result")] := by
  obtain ⟨⟨graph, notices⟩, hload, hread⟩ := Option.map_eq_some_iff.mp load_backwardChain
  obtain ⟨hnodes, hread⟩ := Prod.mk.inj hread
  obtain ⟨hfirst, hread⟩ := Prod.mk.inj hread
  obtain ⟨hoffer, hhanded⟩ := Prod.mk.inj hread
  obtain ⟨node, rest, hcons, hnode, _⟩ := List.map_eq_cons_iff.mp hnodes
  obtain ⟨hid, hnode⟩ := Prod.mk.inj hnode
  obtain ⟨hname, hsocket⟩ := Prod.mk.inj hnode
  obtain ⟨type, htype, hread⟩ := Option.map_eq_some_iff.mp hoffer
  obtain ⟨hgiven, hkept⟩ := Prod.mk.inj hread
  have hkind : counting.kindOf? "Variable" = some .localVariable := by decide +kernel
  exact ⟨graph, notices, node, type, eq_ok_of_toOption hload, hcons ▸ .head _, hid, hname ▸ hkind,
    hsocket, hid ▸ hfirst, htype, hgiven, hkept, hhanded⟩

section Restored

variable (core : CoreDescription) (user : UserDescription) {document : String} {file : EditorFile}
  {assembled : Graph} {notices : List RestoreNotice} {node : Node} {kind : ComponentKind}
  {early late : List (NodeId × String)}

/-- An output of a restored graph that hands on a connected input has the socket that it took
when its node was fitted, and the name of the socket is noted. -/
theorem socket_eq_met (hfile : EditorFile.parse document = .ok file)
    (hassembled : (build core user).assemble file = .ok assembled)
    (hload : (build core user).load document = .ok (graph, notices)) (hnode : node ∈ graph.nodes)
    (hkind : (build core user).kindOf? node.name = some kind)
    (hhandover : handover ∈ kind.handovers node)
    (hplace : (build core user).handed graph = early ++ (node.id, handover.output) :: late)
    (hfed : (graph.firstIncoming? node.id handover.input).isSome = true) :
    (node.outputs.get? handover.output).map Port.socket =
        (build core user).registry.metSocket? assembled graph early node.id handover.input ∧
      handover.selected = ((node.outputs.get? handover.output).map Port.socket).map
        Socket.typeName := by
  obtain ⟨hassembles, hsweep, hnoted⟩ := sweep_of_load hfile hassembled hload
  have hids : (graph.nodes.map Node.id).Nodup := by
    have hframes := congrArg (List.map Node.id) hsweep.refits.frames
    rw [List.map_map, List.map_map] at hframes
    exact hframes ▸ hassembles.distinct
  have hfound := Graph.node?_of_nodup hids hnode
  obtain ⟨start, hstart, hframe⟩ : ∃ start, assembled.node? node.id = some start ∧
      start.frame = node.frame := by
    have hsame := hsweep.refits.node? node.id
    rw [hfound, Option.map_some] at hsame
    exact Option.map_eq_some_iff.mp hsame.symm
  have hstartKind : (build core user).kindOf? start.name = some kind :=
    Node.name_of_frame hframe ▸ hkind
  have hid := Graph.id_of_node? hstart
  have hmem := Graph.mem_of_node? hstart
  obtain ⟨given, hgiven, hinput, houtput⟩ := exists_handover_of_refits hframe.symm hhandover
  have hvisit : (node.id, given) ∈ (build core user).visits assembled.nodes := by
    refine List.mem_flatMap.mpr ⟨start, hmem, ?_⟩
    rw [hstartKind, hid]
    exact List.mem_map_of_mem hgiven
  rw [handed_of_refits hsweep.refits, ← houtput] at hplace
  obtain ⟨before, behind, hvisits, rfl⟩ :=
    exists_visits_split hassembles.distinct hvisit hplace
  have hinputs := (build core user).nodup_visits Handover.input
    (fun kind node => (kind.nodup_handovers node).1) hassembles.distinct
  have houtputs := (build core user).nodup_visits Handover.output
    (fun kind node => (kind.nodup_handovers node).2) hassembles.distinct
  rw [hvisits] at hsweep hinputs houtputs
  refine ⟨?_, ?_⟩
  · have hfirstFed : (assembled.firstIncoming? node.id given.input).isSome = true := by
      rw [Graph.firstIncoming?, List.isSome_head?] at hfed ⊢
      intro hnone
      refine hfed (List.sublist_nil.mp ?_)
      rw [← hnone, hinput]
      exact hsweep.refits.connections.filter _
    have hmet := hsweep.socket_eq_met hinputs houtputs hassembles.numbers
      (hassembles.takesAny hstart hstartKind hgiven) hfirstFed
    rw [Graph.output?, hfound, Option.bind_some, houtput, hinput] at hmet
    exact hmet
  · have hnames := hnoted start hmem kind node hstartKind (hid ▸ hfound) handover hhandover
    rw [hnames, Option.map_map]
    rfl

/-- An output follows its input exactly if what it met when its node was fitted is the type that
its input is offered in the end. -/
theorem follows_iff_met (hfile : EditorFile.parse document = .ok file)
    (hassembled : (build core user).assemble file = .ok assembled)
    (hload : (build core user).load document = .ok (graph, notices)) (hnode : node ∈ graph.nodes)
    (hkind : (build core user).kindOf? node.name = some kind)
    (hhandover : handover ∈ kind.handovers node)
    (hplace : (build core user).handed graph = early ++ (node.id, handover.output) :: late) :
    handover.Follows (build core user).registry graph node ↔
      ∀ connection type, graph.firstIncoming? node.id handover.input = some connection →
        graph.offer? (build core user).registry connection = some type →
        type.isRefused = false →
          (build core user).registry.metSocket? assembled graph early node.id handover.input =
            some type.socket := by
  have hsocket := fun connection hfirst => socket_eq_met core user hfile hassembled hload hnode
    hkind hhandover hplace (Option.isSome_iff_exists.mpr ⟨connection, hfirst⟩)
  constructor
  · intro hfollows connection type hfirst hoffer hkept
    exact (hsocket connection hfirst).1.symm.trans (hfollows connection type hfirst hoffer hkept).1
  · intro hmet connection type hfirst hoffer hkept
    obtain ⟨hgiven, hselected⟩ := hsocket connection hfirst
    rw [hmet connection type hfirst hoffer hkept] at hgiven
    rw [hgiven] at hselected
    exact ⟨hgiven, hselected⟩

end Restored

theorem follows_iff_met_backwardChain : ∃ file assembled graph notices node,
    EditorFile.parse backwardChain = .ok file ∧ counting.assemble file = .ok assembled ∧
      counting.load backwardChain = .ok (graph, notices) ∧ node ∈ graph.nodes ∧
      counting.kindOf? node.name = some .localVariable ∧
      counting.handed graph = [] ++ (node.id, keys.result) :: [(⟨2⟩, keys.result)] ∧
      ((Handover.value node).Follows counting.registry graph node ↔
        ∀ connection type, graph.firstIncoming? node.id keys.value = some connection →
          graph.offer? counting.registry connection = some type → type.isRefused = false →
            counting.registry.metSocket? assembled graph [] node.id keys.value =
              some type.socket) := by
  obtain ⟨file, hfile, _⟩ := parse_backwardChain
  obtain ⟨graph, notices, node, _, hload, hnode, hid, hkind, _, _, _, _, _, hhanded⟩ :=
    exists_backwardChain
  have hplace : counting.handed graph = [] ++ (node.id, keys.result) :: [(⟨2⟩, keys.result)] :=
    hid ▸ hhanded
  rcases counting.restore_cases file with ⟨assembled, _, _, _, hassembled, _⟩ | ⟨_, herror, _⟩
  · exact ⟨file, assembled, graph, notices, node, hfile, hassembled, hload, hnode, hkind, hplace,
      follows_iff_met _ _ hfile hassembled hload hnode hkind (.head _) hplace⟩
  · cases herror.symm.trans ((load_eq_restore hfile).symm.trans hload)

/-- The first variable of the chain is offered numbers and stays a wildcard. -/
theorem not_follows_backwardChain : ¬ ∀ document graph notices,
    counting.load document = .ok (graph, notices) → ∀ node ∈ graph.nodes, ∀ kind,
      counting.kindOf? node.name = some kind → ∀ handover ∈ kind.handovers node,
        handover.Follows counting.registry graph node := by
  intro hfollows
  obtain ⟨graph, notices, node, type, hload, hnode, _, hkind, hwildcard, hfirst, hoffer, hsocket,
    hkept, _⟩ := exists_backwardChain
  have hgiven := (hfollows backwardChain graph notices hload node hnode _ hkind (.value node)
    (.head _) backwardLink type hfirst hoffer hkept).1
  rw [hsocket] at hgiven
  cases hwildcard.symm.trans hgiven

end Language

end VisualScript
