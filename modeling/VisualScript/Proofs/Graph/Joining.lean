import VisualScript.Proofs.Graph.Ports

/-!
# Fitting ports and connections

What becomes of the connections of a graph when the ports of a node are fitted to its data.
Where numbered ports have a gap, the ports behind it are put anew, and with them the sockets
of connections that stay. An output that then gets the type that flows into it loses the
connections it may not feed, but one that has that type already keeps them all.
-/

namespace VisualScript

/-- Put the numbered ports that a node's count asks for behind those that it has without a
gap. What the node has under their keys is replaced. -/
def ComponentKind.extend (kind : ComponentKind) (registry : Registry) (node : Node) :
    Node → Node :=
  match kind with
  | sequence => (·.addExits (numberedCount keys.exit node.outputs) (node.count keys.exitCount))
  | definition => (·.addArguments registry (numberedCount keys.argument node.inputs)
      (node.count keys.argumentCount))
  | _ => id

/-- No port is put under a key that the node has. -/
def ComponentKind.ExtendsFreely (kind : ComponentKind) (node : Node) : Prop :=
  match kind with
  | sequence => ∀ index, numberedCount keys.exit node.outputs ≤ index →
      index < node.count keys.exitCount → node.outputs.get? (numbered keys.exit index) = none
  | definition => ∀ index, numberedCount keys.argument node.inputs ≤ index →
      index < node.count keys.argumentCount →
        node.inputs.get? (numbered keys.argument index) = none ∧
          node.outputs.get? (numbered keys.exit index) = none
  | _ => True

namespace Language

/-- The graph once a node has got the ports that its count asks for. -/
def extended (language : Language) (id : NodeId) (graph : Graph) : Graph :=
  match graph.node? id with
  | none => graph
  | some node =>
      match language.kindOf? node.name with
      | none => graph
      | some kind => graph.modifyNode id (kind.extend language.registry node)

/-- Fitting a node puts no port under a key that the node has. -/
def ExtendsFreely (language : Language) (id : NodeId) (graph : Graph) : Prop :=
  ∀ node kind, graph.node? id = some node → language.kindOf? node.name = some kind →
    kind.ExtendsFreely node

end Language

variable {graph : Graph} {id : NodeId} {node : Node}

/-! ## After the ports were put -/

namespace Editing

variable {α : Type} {registry : Registry}

theorem run_requireNode_bind (hnode : graph.node? id = some node) (next : Node → Editing α) :
    (requireNode id >>= next).run graph = (next node).run graph := by
  have hrun : (requireNode id).run graph = (.ok node, graph) := by
    unfold requireNode
    rw [run_get_bind, hnode]
    rfl
  rw [run_bind, hrun]

theorem run_modifyNode_bind (change : Node → Node) (next : Unit → Editing α) :
    (modifyNode id change >>= next).run graph = (next ()).run (graph.modifyNode id change) := rfl

theorem trims_of_keeps {step : Editing α} (graph : Graph)
    (h : Keeps graph.Trims step fun _ => True) : graph.Trims (step.run graph).2 :=
  (h graph (.refl graph)).1

theorem keeps_trims_incomingType (key : String) (selected : Option String) :
    Keeps graph.Trims (incomingType registry id key selected) fun _ => True :=
  keeps_incomingType key selected fun middle number h => h.trans (middle.trims_disconnect number)

theorem keeps_trims_retype (key : String) (socket : Socket) :
    Keeps graph.Trims (retype id key socket) fun _ => True :=
  keeps_retype fun _ _ h hmade => h.trans (Graph.trims_setOutputSocket hmade)

theorem keeps_trims_setData (key : String) (value : Json) :
    Keeps graph.Trims (modifyNode id (·.setData key value)) fun _ => True :=
  keeps_modify fun middle h =>
    h.trans (middle.trims_modifyNode (by intro _; rfl) (by intro _; rfl) (by intro _; rfl) id)

theorem keeps_trims_syncArgument (index : Nat) :
    Keeps graph.Trims (syncArgument registry id index) fun _ => True := by
  refine keeps_get.bind fun _ _ => ?_
  refine (keeps_trims_incomingType _ _).bind fun _ _ => ?_
  exact (keeps_trims_retype _ _).bind fun _ _ => keeps_pure trivial

theorem trims_syncSequence (hnode : graph.node? id = some node) :
    (graph.modifyNode id (ComponentKind.sequence.extend registry node)).Trims
      ((syncSequence id).run graph).2 := by
  unfold syncSequence
  rw [run_requireNode_bind hnode, run_modifyNode_bind]
  refine trims_of_keeps _ ((keeps_forM fun index => ?_).bind fun _ _ => keeps_pure trivial)
  exact keeps_modify fun middle h => h.trans (middle.trims_removeOutput id _)

theorem trims_syncFunction (hnode : graph.node? id = some node) :
    (graph.modifyNode id (ComponentKind.definition.extend registry node)).Trims
      ((syncFunction registry id).run graph).2 := by
  unfold syncFunction
  rw [run_requireNode_bind hnode, run_modifyNode_bind]
  refine trims_of_keeps _ ((keeps_forM fun index => ?_).bind fun _ _ => ?_)
  · refine (keeps_modify fun middle h => ?_).bind fun _ _ => keeps_modify fun middle h => ?_
    · exact h.trans (middle.trims_removeInput id _)
    · exact h.trans (middle.trims_removeOutput id _)
  · refine (keeps_mapM fun index => keeps_trims_syncArgument index).bind fun _ _ => ?_
    exact (keeps_trims_setData _ _).bind fun _ _ => keeps_pure trivial

theorem trims_syncVariable : graph.Trims ((syncVariable registry id).run graph).2 := by
  refine trims_of_keeps graph (Keeps.bind keeps_requireNode fun node _ => ?_)
  refine (keeps_trims_incomingType _ _).bind fun _ _ => ?_
  refine (keeps_trims_retype _ _).bind fun _ _ => ?_
  exact (keeps_trims_setData _ _).bind fun _ _ => keeps_pure trivial

end Editing

namespace Graph

theorem modifyNode_id (graph : Graph) (id : NodeId) :
    graph.modifyNode id (fun node => node) = graph := by
  simp [modifyNode]

end Graph

/-- Once its ports are put, fitting a node only takes from the graph. -/
theorem ComponentKind.trims_sync (kind : ComponentKind) {registry : Registry}
    (hnode : graph.node? id = some node) :
    (graph.modifyNode id (kind.extend registry node)).Trims
      ((kind.sync registry id).run graph).2 := by
  cases kind with
  | sequence => exact Editing.trims_syncSequence hnode
  | definition => exact Editing.trims_syncFunction hnode
  | localVariable =>
      rw [show extend .localVariable registry node = fun node => node from rfl, graph.modifyNode_id]
      exact Editing.trims_syncVariable
  | _ =>
      change (graph.modifyNode id fun node => node).Trims graph
      rw [graph.modifyNode_id]
      exact .refl graph

namespace Language

variable {language : Language} {kind : ComponentKind}

/-- A node of a kind is fitted as the kind says. -/
theorem sync_eq (hnode : graph.node? id = some node)
    (hkind : language.kindOf? node.name = some kind) :
    language.sync id graph =
      let run := (kind.sync language.registry id).run graph
      (run.1.mapError .refused, run.2) := by
  obtain ⟨component, hcomponent, rfl⟩ := Option.map_eq_some_iff.mp hkind
  simp only [sync, hnode, requireComponent, hcomponent]
  rfl

theorem extended_eq (hnode : graph.node? id = some node)
    (hkind : language.kindOf? node.name = some kind) :
    language.extended id graph = graph.modifyNode id (kind.extend language.registry node) := by
  simp only [extended, hnode, hkind]

theorem sync_unknown (hnode : graph.node? id = some node)
    (hkind : language.kindOf? node.name = none) :
    language.sync id graph = (.error (.unknownComponent node.name), graph) := by
  have hcomponent := Option.map_eq_none_iff.mp hkind
  simp only [sync, hnode, requireComponent, hcomponent]

theorem trims_sync (language : Language) (id : NodeId) (graph : Graph) :
    (language.extended id graph).Trims (language.sync id graph).2 := by
  cases hnode : graph.node? id with
  | none =>
      simp only [extended, sync, hnode]
      exact .refl graph
  | some node =>
      cases hkind : language.kindOf? node.name with
      | none =>
          rw [sync_unknown hnode hkind]
          simp only [extended, hnode, hkind]
          exact .refl graph
      | some kind =>
          rw [sync_eq hnode hkind, extended_eq hnode hkind]
          exact kind.trims_sync hnode

end Language

/-! ## Putting ports where there are none -/

namespace Node

section Numbered

variable (ports : Node → OrderedMap String Port) {add : Node → Nat → Node}
  {port : Node → Nat → Port} {stem : String}
  (hadd : ∀ node index,
    ports (add node index) = (ports node).insert (numbered stem index) (port node index))

include hadd

/-- Numbered ports that are put leave the ports under other keys alone. -/
theorem get?_foldl_add {indices : List Nat} {key : String}
    (h : ∀ index ∈ indices, numbered stem index ≠ key) (node : Node) :
    (ports (indices.foldl add node)).get? key = (ports node).get? key := by
  refine List.foldlRecOn (motive := fun changed =>
    (ports changed).get? key = (ports node).get? key) _ _ rfl ?_
  intro changed hchanged index hmem
  rw [hadd, OrderedMap.get?_insert, if_neg (h index hmem)]
  exact hchanged

/-- Numbered ports that are put where there are none leave all ports alone. -/
theorem get?_foldl_add_of_some {indices : List Nat} {key : String} {found : Port}
    (hfree : ∀ index ∈ indices, (ports node).get? (numbered stem index) = none)
    (hfound : (ports node).get? key = some found) :
    (ports (indices.foldl add node)).get? key = some found := by
  rw [get?_foldl_add ports hadd, hfound]
  rintro index hmem rfl
  rw [hfree index hmem] at hfound
  cases hfound

/-- Numbered ports that are put are there, besides those that were there. -/
theorem contains_foldl_add (indices : List Nat) (key : String) (node : Node) :
    (ports (indices.foldl add node)).contains key = true ↔
      (ports node).contains key = true ∨ ∃ index ∈ indices, numbered stem index = key := by
  induction indices generalizing node with
  | nil => simp
  | cons index rest ih =>
      have hinsert : (ports (add node index)).contains key = true ↔
          (ports node).contains key = true ∨ numbered stem index = key := by
        unfold OrderedMap.contains
        rw [hadd, OrderedMap.get?_insert]
        split
        next heq => simp [heq]
        next hne => simp [hne]
      rw [List.foldl_cons, ih, hinsert, or_assoc]
      simp

end Numbered

theorem addExits_rest (first last : Nat) (node : Node) :
    (node.addExits first last).id = node.id ∧ (node.addExits first last).name = node.name ∧
      (node.addExits first last).data = node.data ∧
      (node.addExits first last).inputs = node.inputs :=
  List.foldlRecOn (motive := fun changed : Node => changed.id = node.id ∧
    changed.name = node.name ∧ changed.data = node.data ∧ changed.inputs = node.inputs) _ _
    ⟨rfl, rfl, rfl, rfl⟩ fun _ hchanged _ _ => hchanged

theorem addArguments_rest (registry : Registry) (first last : Nat) (node : Node) :
    (node.addArguments registry first last).id = node.id ∧
      (node.addArguments registry first last).name = node.name ∧
      (node.addArguments registry first last).data = node.data :=
  List.foldlRecOn (motive := fun changed : Node => changed.id = node.id ∧
    changed.name = node.name ∧ changed.data = node.data) _ _
    ⟨rfl, rfl, rfl⟩ fun _ hchanged _ _ => hchanged

end Node

namespace ComponentKind

/-- Ports that are put leave all else of a node alone. -/
theorem extend_rest (kind : ComponentKind) (registry : Registry) (node other : Node) :
    (kind.extend registry node other).id = other.id ∧
      (kind.extend registry node other).name = other.name ∧
      (kind.extend registry node other).data = other.data := by
  cases kind with
  | sequence =>
      obtain ⟨hid, hname, hdata, _⟩ := other.addExits_rest (numberedCount keys.exit node.outputs)
        (node.count keys.exitCount)
      exact ⟨hid, hname, hdata⟩
  | definition => exact other.addArguments_rest ..
  | _ => exact ⟨rfl, rfl, rfl⟩

/-- Where no port is put in the place of another, all ports stay as they are. -/
theorem ExtendsFreely.ports {kind : ComponentKind} (h : kind.ExtendsFreely node)
    (registry : Registry) {key : String} {port : Port} :
    (node.inputs.get? key = some port →
        (kind.extend registry node node).inputs.get? key = some port) ∧
      (node.outputs.get? key = some port →
        (kind.extend registry node node).outputs.get? key = some port) := by
  cases kind with
  | sequence =>
      refine ⟨fun hfound => (node.addExits_rest ..).2.2.2.symm ▸ hfound, fun hfound => ?_⟩
      refine Node.get?_foldl_add_of_some Node.outputs (fun _ _ => rfl) (fun index hmem => ?_) hfound
      have hindex := List.mem_range'_1.mp hmem
      exact h index hindex.1 (by omega)
  | definition =>
      refine ⟨fun hfound => ?_, fun hfound => ?_⟩
      · refine Node.get?_foldl_add_of_some Node.inputs (fun _ _ => rfl) (fun index hmem => ?_)
          hfound
        have hindex := List.mem_range'_1.mp hmem
        exact (h index hindex.1 (by omega)).1
      · refine Node.get?_foldl_add_of_some Node.outputs (fun _ _ => rfl) (fun index hmem => ?_)
          hfound
        have hindex := List.mem_range'_1.mp hmem
        exact (h index hindex.1 (by omega)).2
  | _ => exact ⟨fun hfound => hfound, fun hfound => hfound⟩

end ComponentKind

/-- Connections go on joining their ports where a change of a node leaves all of its ports. -/
theorem Graph.Joined.modifyNode {change : Node → Node} (hjoined : graph.Joined)
    (hid : ∀ node, (change node).id = node.id) (hnode : graph.node? id = some node)
    (hports : ∀ key port, (node.inputs.get? key = some port →
        (change node).inputs.get? key = some port) ∧
      (node.outputs.get? key = some port → (change node).outputs.get? key = some port)) :
    (graph.modifyNode id change).Joined := by
  intro connection hmem
  obtain ⟨output, input, hout, hin, hfeeds⟩ := hjoined connection hmem
  refine ⟨output, input, (Graph.ports_modifyNode hid Node.outputs ..).trans ?_,
    (Graph.ports_modifyNode hid Node.inputs ..).trans ?_, hfeeds⟩
  · split
    next heq =>
      rw [Graph.output?, heq, hnode] at hout
      rw [hnode]
      exact (hports _ _).2 hout
    next => exact hout
  · split
    next heq =>
      rw [Graph.input?, heq, hnode] at hin
      rw [hnode]
      exact (hports _ _).1 hin
    next => exact hin

namespace Language

theorem ExtendsFreely.joined {language : Language} (h : language.ExtendsFreely id graph)
    (hjoined : graph.Joined) : (language.extended id graph).Joined := by
  unfold extended
  split
  next => exact hjoined
  next node hnode =>
    split
    next => exact hjoined
    next kind hkind =>
      exact hjoined.modifyNode (fun other => (kind.extend_rest _ _ other).1) hnode fun _ _ =>
        (h node kind hnode hkind).ports _

/-- After a fit every connection joins two ports exactly if each one that is left joined two
once the ports were put, or leaves an output that got another socket since. Where all joined
their ports before, they do so after the fit if no port was put in the place of another. -/
theorem joined_sync_iff (language : Language) (id : NodeId) (graph : Graph) :
    ((language.sync id graph).2.Joined ↔
        ∀ connection ∈ (language.sync id graph).2.connections,
          connection.Joins (language.extended id graph) ∨
            (language.sync id graph).2.output? connection.source connection.output ≠
              (language.extended id graph).output? connection.source connection.output) ∧
      (graph.Joined → language.ExtendsFreely id graph → (language.sync id graph).2.Joined) :=
  have htrims := language.trims_sync id graph
  ⟨htrims.joined_iff, fun hjoined hfree => htrims.joined (hfree.joined hjoined)⟩

/-! ## A function whose argument changes its type -/

/-- A language with numbers, texts and a function of numbers. -/
def counting : Language :=
  let number : TypeDescription := { machineName := "int", displayName := "int", copyable := true }
  let text : TypeDescription := { machineName := "text", displayName := "text", copyable := true }
  let next : FunctionDescription :=
    { name := "next", result := "int", arguments := [⟨"value", "int"⟩] }
  .build { types := [number, text], functions := [next] } {}

/-- The argument of a function was a number and is to be a text. It still feeds a function of
numbers. -/
def retypedArgument (inputs : OrderedMap String Port) : Graph where
  nodes := [
    { id := ⟨1⟩, name := "Function"
      data := ⟨[("numArgs", .string "1"), ("typeName", .array [.string "text"])]⟩
      inputs := inputs
      outputs := ⟨[("fout", .flow), ("out0", ⟨"Output 1", .data "int" .value⟩)]⟩ },
    { id := ⟨2⟩, name := "next"
      data := ⟨[("value", .string "0")]⟩
      inputs := ⟨[("value", ⟨"value", .data "int" .value⟩)]⟩
      outputs := ⟨[("result", ⟨"Result", .data "int" .value⟩)]⟩ }]
  connections := [⟨1, ⟨1⟩, "out0", ⟨2⟩, "value"⟩]
  lastNode := 2
  lastConnection := 1

theorem joined_retypedArgument (inputs : OrderedMap String Port) :
    (retypedArgument inputs).Joined := by
  intro connection hmem
  rw [List.mem_singleton.mp hmem]
  exact ⟨_, _, rfl, rfl, rfl⟩

/-- Where the argument has its input, its output gets the other type and loses the connection. -/
theorem joined_sync_retypedArgument :
    let graph := retypedArgument ⟨[("arg0", ⟨"Argument 1", .any "any"⟩)]⟩
    (counting.sync ⟨1⟩ graph).1 = .ok true ∧ (counting.sync ⟨1⟩ graph).2.connections = [] ∧
      (counting.sync ⟨1⟩ graph).2.Joined := by
  refine ⟨rfl, rfl, (joined_sync_iff counting ⟨1⟩ _).2 (joined_retypedArgument _) ?_⟩
  intro node kind hnode hkind
  cases hnode
  cases hkind
  intro index hpresent hwanted
  exact absurd (Nat.lt_of_le_of_lt hpresent hwanted) (Nat.lt_irrefl 1)

/-- Where the input was removed, the output is put anew with the other type and keeps the
connection, which joins its ports no more. -/
theorem not_joined_sync_removedInput :
    (retypedArgument .empty).Joined ∧
      (counting.sync ⟨1⟩ (retypedArgument .empty)).1 = .ok true ∧
      ¬ (counting.sync ⟨1⟩ (retypedArgument .empty)).2.Joined := by
  refine ⟨joined_retypedArgument _, rfl, fun hjoined => ?_⟩
  obtain ⟨output, input, houtput, hinput, hfeeds⟩ :=
    hjoined ⟨1, ⟨1⟩, "out0", ⟨2⟩, "value"⟩ (.head _)
  cases houtput
  cases hinput
  cases hfeeds

end Language

end VisualScript
