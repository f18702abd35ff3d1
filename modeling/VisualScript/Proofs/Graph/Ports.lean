import VisualScript.Proofs.Graph.Editing

/-!
# Ports after an edit

What the ports of a graph are after each edit of it. A connection goes on joining two ports
as long as an edit leaves both of them alone.
-/

namespace VisualScript

variable {graph changed : Graph} {connection : Connection} {id : NodeId} {key : String}

/-- A connection joins an output to an input that the output may feed. -/
def Connection.Joins (graph : Graph) (connection : Connection) : Prop :=
  ∃ output input, graph.output? connection.source connection.output = some output ∧
    graph.input? connection.target connection.input = some input ∧
    output.socket.feeds input.socket = true

/-- Every connection of a graph joins two ports. -/
def Graph.Joined (graph : Graph) : Prop :=
  ∀ connection ∈ graph.connections, connection.Joins graph

theorem Connection.Joins.of_ports (h : connection.Joins graph)
    (houtput : changed.output? connection.source connection.output =
      graph.output? connection.source connection.output)
    (hinput : changed.input? connection.target connection.input =
      graph.input? connection.target connection.input) : connection.Joins changed := by
  obtain ⟨output, input, hout, hin, hfeeds⟩ := h
  exact ⟨output, input, houtput.trans hout, hinput.trans hin, hfeeds⟩

namespace Graph

/-! ## Nodes that come and go -/

theorem node?_remove (graph : Graph) (id other : NodeId) :
    (graph.remove id).node? other = if other = id then none else graph.node? other := by
  unfold node? remove
  rw [List.find?_filter]
  split
  next heq =>
    subst heq
    rw [List.find?_eq_none]
    intro node _ hboth
    simp at hboth
  next hne =>
    congr 1
    funext node
    by_cases heq : node.id = other
    · simp [heq, hne]
    · simp [heq]

theorem node?_insert {node : Node} (h : graph.insert node = .ok changed) (other : NodeId) :
    changed.node? other = if other = node.id then some node else graph.node? other := by
  obtain ⟨hfresh, hnodes, _⟩ := ok_insert h
  unfold node? at hfresh ⊢
  rw [hnodes, List.find?_append]
  split
  next heq =>
    subst heq
    rw [hfresh]
    simp
  next hne =>
    rw [List.find?_singleton, if_neg (by simpa using Ne.symm hne), Option.or_none]

/-! ## Ports that change -/

/-- The ports of a node after a change that leaves its identity alone. -/
theorem ports_modifyNode {change : Node → Node} (h : ∀ node, (change node).id = node.id)
    (ports : Node → OrderedMap String Port) (graph : Graph) (id other : NodeId) (key : String) :
    ((graph.modifyNode id change).node? other).bind (fun node => (ports node).get? key) =
      if other = id then (graph.node? id).bind fun node => (ports (change node)).get? key
      else (graph.node? other).bind fun node => (ports node).get? key := by
  rw [node?_modifyNode other fun node _ _ => h node]
  cases hnode : graph.node? other with
  | none =>
      split
      next heq =>
        subst heq
        rw [hnode]
        rfl
      next => rfl
  | some node =>
      have hid := id_of_node? hnode
      rw [Option.map_some, Option.bind_some]
      split
      next heq =>
        rw [if_pos (hid.symm.trans heq), ← heq, hid, hnode]
        rfl
      next hne =>
        rw [if_neg fun heq => hne (hid.trans heq)]
        rfl

/-- A change that leaves the inputs of nodes alone leaves those of the graph alone. -/
theorem input?_modifyNode {change : Node → Node} (hid : ∀ node, (change node).id = node.id)
    (hinputs : ∀ node, (change node).inputs = node.inputs) (graph : Graph) (id other : NodeId)
    (key : String) : (graph.modifyNode id change).input? other key = graph.input? other key := by
  unfold input?
  rw [ports_modifyNode hid]
  simp only [hinputs]
  split
  next heq => rw [heq]
  next => rfl

/-- A change that leaves the outputs of nodes alone leaves those of the graph alone. -/
theorem output?_modifyNode {change : Node → Node} (hid : ∀ node, (change node).id = node.id)
    (houtputs : ∀ node, (change node).outputs = node.outputs) (graph : Graph) (id other : NodeId)
    (key : String) : (graph.modifyNode id change).output? other key = graph.output? other key := by
  unfold output?
  rw [ports_modifyNode hid]
  simp only [houtputs]
  split
  next heq => rw [heq]
  next => rfl

/-- The ports of a graph after a change of what a node has under one key. -/
theorem ports_modifyNode_at {change : Node → Node} {ports : Node → OrderedMap String Port}
    (edit : Option Port → Option Port) (hid : ∀ node, (change node).id = node.id)
    (hports : ∀ node name, (ports (change node)).get? name =
      if key = name then edit ((ports node).get? name) else (ports node).get? name)
    (graph : Graph) (id other : NodeId) (name : String) :
    ((graph.modifyNode id change).node? other).bind (fun node => (ports node).get? name) =
      if other = id ∧ name = key then
        (graph.node? other).bind fun node => edit ((ports node).get? name)
      else (graph.node? other).bind fun node => (ports node).get? name := by
  rw [ports_modifyNode hid]
  simp only [hports]
  by_cases hother : other = id
  · subst hother
    by_cases hname : name = key
    · simp [hname]
    · simp [hname, Ne.symm hname]
  · simp [hother]

theorem output?_removeInput (graph : Graph) (id other : NodeId) (key name : String) :
    (graph.removeInput id key).2.output? other name = graph.output? other name :=
  output?_modifyNode (by intro _; rfl) (by intro _; rfl) ..

theorem input?_removeOutput (graph : Graph) (id other : NodeId) (key name : String) :
    (graph.removeOutput id key).2.input? other name = graph.input? other name :=
  input?_modifyNode (by intro _; rfl) (by intro _; rfl) ..

theorem input?_removeInput (graph : Graph) (id other : NodeId) (key name : String) :
    (graph.removeInput id key).2.input? other name =
      if other = id ∧ name = key then none else graph.input? other name := by
  rw [← Option.bind_fun_none (graph.node? other)]
  exact ports_modifyNode_at (fun _ => none) (by intro _; rfl)
    (fun node : Node => OrderedMap.get?_erase node.inputs key) graph id other name

theorem output?_removeOutput (graph : Graph) (id other : NodeId) (key name : String) :
    (graph.removeOutput id key).2.output? other name =
      if other = id ∧ name = key then none else graph.output? other name := by
  rw [← Option.bind_fun_none (graph.node? other)]
  exact ports_modifyNode_at (fun _ => none) (by intro _; rfl)
    (fun node : Node => OrderedMap.get?_erase node.outputs key) graph id other name

/-- An input that is added is there, if the node is, and all other inputs stay. -/
theorem input?_addInput (graph : Graph) (id other : NodeId) (key name : String) (port : Port) :
    (graph.modifyNode id (·.addInput key port)).input? other name =
      if other = id ∧ name = key then (graph.node? other).map fun _ => port
      else graph.input? other name := by
  rw [Option.map_eq_bind]
  exact ports_modifyNode_at (fun _ => some port) (by intro _; rfl)
    (fun node : Node => (OrderedMap.get?_insert node.inputs key · port)) graph id other name

/-- An output that is added is there, if the node is, and all other outputs stay. -/
theorem output?_addOutput (graph : Graph) (id other : NodeId) (key name : String) (port : Port) :
    (graph.modifyNode id (·.addOutput key port)).output? other name =
      if other = id ∧ name = key then (graph.node? other).map fun _ => port
      else graph.output? other name := by
  rw [Option.map_eq_bind]
  exact ports_modifyNode_at (fun _ => some port) (by intro _; rfl)
    (fun node : Node => (OrderedMap.get?_insert node.outputs key · port)) graph id other name

/-! ## Outputs that get another socket -/

/-- The graph in which an output has another socket, its connections as they were. -/
def withSocket (graph : Graph) (id : NodeId) (key : String) (socket : Socket) : Graph :=
  graph.modifyNode id fun node =>
    { node with outputs := node.outputs.modify key fun port => { port with socket := socket } }

theorem input?_withSocket (graph : Graph) (id other : NodeId) (key name : String)
    (socket : Socket) :
    (graph.withSocket id key socket).input? other name = graph.input? other name :=
  input?_modifyNode (by intro _; rfl) (by intro _; rfl) ..

theorem output?_withSocket (graph : Graph) (id other : NodeId) (key name : String)
    (socket : Socket) :
    (graph.withSocket id key socket).output? other name =
      if other = id ∧ name = key then
        (graph.output? other name).map fun port => { port with socket := socket }
      else graph.output? other name := by
  unfold output?
  rw [Option.map_bind]
  exact ports_modifyNode_at _ (by intro _; rfl)
    (fun node : Node => (OrderedMap.get?_modify node.outputs key · _)) graph id other name

theorem output?_of_requirePort {port : Port}
    (h : graph.requirePort id key Node.outputs = .ok port) : graph.output? id key = some port := by
  obtain ⟨node, hnode, hport⟩ := ok_requirePort h
  exact Option.bind_eq_some_iff.mpr ⟨node, hnode, hport⟩

theorem input?_of_requirePort {port : Port}
    (h : graph.requirePort id key Node.inputs = .ok port) : graph.input? id key = some port := by
  obtain ⟨node, hnode, hport⟩ := ok_requirePort h
  exact Option.bind_eq_some_iff.mpr ⟨node, hnode, hport⟩

/-- An output that gets the socket it has stays with all its connections. One that gets
another socket loses those that the socket may not feed. -/
theorem setOutputSocket_cases {socket : Socket} {made : List Connection × Graph}
    (h : graph.setOutputSocket id key socket = .ok made) :
    ∃ port, graph.output? id key = some port ∧
      (port.socket = socket ∧ made = ([], graph) ∨
        port.socket ≠ socket ∧
          made = (graph.withSocket id key socket).sever fun connection =>
            connection.source = id && connection.output = key &&
              !graph.fitsInto socket connection) := by
  unfold setOutputSocket at h
  cases hport : graph.requirePort id key Node.outputs with
  | error reason =>
      rw [hport] at h
      cases h
  | ok port =>
      refine ⟨port, output?_of_requirePort hport, ?_⟩
      simp only [hport, bind, Except.bind] at h
      split at h
      next heq =>
        cases h
        exact .inl ⟨heq, rfl⟩
      next hne =>
        cases h
        refine .inr ⟨hne, ?_⟩
        change ((graph.withSocket id key socket).sever fun connection =>
          connection.source = id && connection.output = key &&
            !(graph.withSocket id key socket).fitsInto socket connection) = _
        simp only [fitsInto, input?_withSocket]

theorem ok_setOutputSocket {socket : Socket} {made : List Connection × Graph}
    (h : graph.setOutputSocket id key socket = .ok made) :
    ∃ port, graph.output? id key = some port ∧
      (port.socket = socket ∧ made.2 = graph ∨
        port.socket ≠ socket ∧
          made.2 = ((graph.withSocket id key socket).sever fun connection =>
            connection.source = id && connection.output = key &&
              !graph.fitsInto socket connection).2) := by
  obtain ⟨port, hport, hcases⟩ := setOutputSocket_cases h
  exact ⟨port, hport, hcases.imp (.imp_right (congrArg Prod.snd))
    (.imp_right (congrArg Prod.snd))⟩

/-- A connection that a socket fits joins its ports once its output has the socket. -/
theorem joins_of_fitsInto {socket : Socket} {port : Port}
    (hfits : graph.fitsInto socket connection = true)
    (houtput : graph.output? connection.source connection.output = some port)
    (hsocket : port.socket = socket) : connection.Joins graph := by
  unfold fitsInto at hfits
  split at hfits
  next input hinput => exact ⟨port, input, houtput, hinput, hsocket ▸ hfits⟩
  next => cases hfits

/-! ## Graphs that lose connections -/

/-- A graph has lost connections, and maybe ports and nodes. Those that are left end at the
inputs at which they ended, and leave an output that is as it was or that they fit. -/
structure Trims (graph changed : Graph) : Prop where
  connections : changed.connections.Sublist graph.connections
  inputs : ∀ connection ∈ changed.connections,
    changed.input? connection.target connection.input =
      graph.input? connection.target connection.input
  outputs : ∀ connection ∈ changed.connections,
    changed.output? connection.source connection.output =
      graph.output? connection.source connection.output ∨ connection.Joins changed

namespace Trims

theorem refl (graph : Graph) : graph.Trims graph where
  connections := .refl _
  inputs := fun _ _ => rfl
  outputs := fun _ _ => .inl rfl

theorem trans {last : Graph} (h : graph.Trims changed) (hlast : changed.Trims last) :
    graph.Trims last where
  connections := hlast.connections.trans h.connections
  inputs := fun connection hmem => (hlast.inputs connection hmem).trans
    (h.inputs connection (hlast.connections.subset hmem))
  outputs := by
    intro connection hmem
    have hmiddle := hlast.connections.subset hmem
    rcases hlast.outputs connection hmem with hsame | hjoins
    · rcases h.outputs connection hmiddle with hfirst | hjoins
      · exact .inl (hsame.trans hfirst)
      · exact .inr (hjoins.of_ports hsame (hlast.inputs connection hmem))
    · exact .inr hjoins

theorem joins (h : graph.Trims changed) (hmem : connection ∈ changed.connections)
    (hjoins : connection.Joins graph) : connection.Joins changed := by
  rcases h.outputs connection hmem with hsame | hjoins
  · exact hjoins.of_ports hsame (h.inputs connection hmem)
  · exact hjoins

theorem joined (h : graph.Trims changed) (hjoined : graph.Joined) : changed.Joined :=
  fun connection hmem => h.joins hmem (hjoined connection (h.connections.subset hmem))

/-- What is left joins its ports exactly if each connection did before, or leaves an output that
is another one since. -/
theorem joined_iff (h : graph.Trims changed) :
    changed.Joined ↔ ∀ connection ∈ changed.connections, connection.Joins graph ∨
      changed.output? connection.source connection.output ≠
        graph.output? connection.source connection.output := by
  constructor
  · intro hjoined connection hmem
    by_cases hsame : changed.output? connection.source connection.output =
        graph.output? connection.source connection.output
    · exact .inl ((hjoined connection hmem).of_ports hsame.symm (h.inputs connection hmem).symm)
    · exact .inr hsame
  · intro hbefore connection hmem
    rcases hbefore connection hmem with hjoins | hchanged
    · exact h.joins hmem hjoins
    · exact (h.outputs connection hmem).resolve_left hchanged

end Trims

theorem trims_sever (graph : Graph) (test : Connection → Bool) :
    graph.Trims (graph.sever test).2 where
  connections := List.filter_sublist
  inputs := fun _ _ => rfl
  outputs := fun _ _ => .inl rfl

theorem trims_disconnect (graph : Graph) (number : Nat) : graph.Trims (graph.disconnect number) :=
  trims_sever graph _

theorem trims_remove (graph : Graph) (id : NodeId) : graph.Trims (graph.remove id) := by
  -- The connections that are left join other nodes, which are found as before.
  have hends : ∀ connection ∈ (graph.remove id).connections,
      connection.source ≠ id ∧ connection.target ≠ id := by
    intro connection hmem
    simpa using (List.mem_filter.mp hmem).2
  refine ⟨List.filter_sublist, fun connection hmem => ?_, fun connection hmem => .inl ?_⟩
  · rw [input?, node?_remove, if_neg (hends connection hmem).2]
    rfl
  · rw [output?, node?_remove, if_neg (hends connection hmem).1]
    rfl

theorem trims_removeInput (graph : Graph) (id : NodeId) (key : String) :
    graph.Trims (graph.removeInput id key).2 where
  connections := List.filter_sublist
  inputs := by
    intro connection hmem
    have hkept := (List.mem_filter.mp hmem).2
    rw [input?_removeInput, if_neg]
    rintro ⟨htarget, hinput⟩
    simp [htarget, hinput] at hkept
  outputs := fun _ _ => .inl (output?_removeInput ..)

theorem trims_removeOutput (graph : Graph) (id : NodeId) (key : String) :
    graph.Trims (graph.removeOutput id key).2 where
  connections := List.filter_sublist
  inputs := fun _ _ => input?_removeOutput ..
  outputs := by
    intro connection hmem
    have hkept := (List.mem_filter.mp hmem).2
    rw [output?_removeOutput, if_neg]
    · exact .inl rfl
    · rintro ⟨hsource, houtput⟩
      simp [hsource, houtput] at hkept

/-- What a change of a socket leaves of the connections out of the port fits the new socket. -/
theorem trims_setOutputSocket {socket : Socket} {made : List Connection × Graph}
    (h : graph.setOutputSocket id key socket = .ok made) : graph.Trims made.2 := by
  obtain ⟨port, hport, ⟨_, hsame⟩ | ⟨_, hretyped⟩⟩ := ok_setOutputSocket h
  · rw [hsame]
    exact .refl graph
  · rw [hretyped]
    refine ⟨List.filter_sublist, fun _ _ => input?_withSocket .., fun connection hmem => ?_⟩
    have hkept := (List.mem_filter.mp hmem).2
    have houtput := output?_withSocket graph id connection.source key connection.output socket
    by_cases hends : connection.source = id ∧ connection.output = key
    · rw [if_pos hends] at houtput
      rw [← hends.1, ← hends.2] at hport
      rw [hport, Option.map_some] at houtput
      have hfits : (graph.withSocket id key socket).fitsInto socket connection = true := by
        unfold fitsInto
        rw [input?_withSocket]
        simpa [hends.1, hends.2, fitsInto] using hkept
      exact .inr ((joins_of_fitsInto hfits houtput rfl).of_ports rfl rfl)
    · exact .inl (houtput.trans (if_neg hends))

/-- A change of nodes that leaves their ports alone loses nothing. -/
theorem trims_modifyNode {change : Node → Node} (hid : ∀ node, (change node).id = node.id)
    (hinputs : ∀ node, (change node).inputs = node.inputs)
    (houtputs : ∀ node, (change node).outputs = node.outputs) (graph : Graph) (id : NodeId) :
    graph.Trims (graph.modifyNode id change) where
  connections := .refl _
  inputs := fun _ _ => input?_modifyNode hid hinputs ..
  outputs := fun _ _ => .inl (output?_modifyNode hid houtputs ..)

end Graph

end VisualScript
