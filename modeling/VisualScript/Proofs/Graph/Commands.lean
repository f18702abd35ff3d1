import VisualScript.Proofs.Graph.Ports

/-!
# Commands that edit a graph

What an editor may ask of a graph, done step by step as an editing run. A command that is
refused has changed nothing, and one that is done leaves the graph that the edit of that name
gives. However the commands follow each other, the connections of the graph join ports and
are listed in the order of their numbers.
-/

namespace VisualScript

/-- A command to a graph. -/
inductive Command where
  | insert (node : Node)
  | nextId
  | remove (id : NodeId)
  | connect (source : NodeId) (output : String) (target : NodeId) (input : String)
  | disconnect (number : Nat)
  | removeInput (id : NodeId) (key : String)
  | removeOutput (id : NodeId) (key : String)
  | setOutputSocket (id : NodeId) (key : String) (socket : Socket)
  | addInput (id : NodeId) (key : String) (port : Port)
  | addOutput (id : NodeId) (key : String) (port : Port)

namespace Command

/-- Do a command. Each step that can be refused reads the graph that the steps before it
left. -/
def perform : Command → Editing Unit
  | insert node => do
      if ((← get).node? node.id).isSome then throw (.duplicateNode node.id)
      else
        modify fun graph => { graph with lastNode := max graph.lastNode node.id.number }
        modify fun graph => { graph with nodes := graph.nodes ++ [node] }
  | nextId => modify fun graph => { graph with lastNode := graph.lastNode + 1 }
  | remove id => do
      modify fun graph => { graph with
        connections := graph.connections.filter fun c => c.source ≠ id && c.target ≠ id }
      modify fun graph => { graph with nodes := graph.nodes.filter (·.id ≠ id) }
  | connect source output target input => do
      let producer ← liftM ((← get).requirePort source output Node.outputs)
      let consumer ← liftM ((← get).requirePort target input Node.inputs)
      if !producer.socket.feeds consumer.socket then
        throw (.incompatible producer.socket consumer.socket)
      else
        modify fun graph => { graph with lastConnection := graph.lastConnection + 1 }
        modify fun graph => { graph with
          connections :=
            graph.connections ++ [⟨graph.lastConnection, source, output, target, input⟩] }
  | disconnect number => modify (·.disconnect number)
  | removeInput id key => do
      modify fun graph => (graph.sever fun c => c.target = id && c.input = key).2
      Editing.modifyNode id fun node => { node with inputs := node.inputs.erase key }
  | removeOutput id key => do
      modify fun graph => (graph.sever fun c => c.source = id && c.output = key).2
      Editing.modifyNode id fun node => { node with outputs := node.outputs.erase key }
  | setOutputSocket id key socket => do
      let port ← liftM ((← get).requirePort id key Node.outputs)
      if port.socket = socket then return
      else
        modify (·.withSocket id key socket)
        modify fun graph => (graph.sever fun c =>
          c.source = id && c.output = key && !graph.fitsInto socket c).2
  | addInput id key port => Editing.modifyNode id (·.addInput key port)
  | addOutput id key port => Editing.modifyNode id (·.addOutput key port)

/-- What the edit that a command names gives. -/
def result (graph : Graph) : Command → Except GraphError Graph
  | insert node => graph.insert node
  | nextId => .ok graph.nextId.2
  | remove id => .ok (graph.remove id)
  | connect source output target input => (graph.connect source output target input).map (·.2)
  | disconnect number => .ok (graph.disconnect number)
  | removeInput id key => .ok (graph.removeInput id key).2
  | removeOutput id key => .ok (graph.removeOutput id key).2
  | setOutputSocket id key socket => (graph.setOutputSocket id key socket).map (·.2)
  | addInput id key port => .ok (graph.modifyNode id (·.addInput key port))
  | addOutput id key port => .ok (graph.modifyNode id (·.addOutput key port))

/-- A port is added only under a key that the node does not have yet. -/
def AddsNew (graph : Graph) : Command → Prop
  | addInput id key _ => graph.input? id key = none
  | addOutput id key _ => graph.output? id key = none
  | _ => True

/-- The answer of a run that changes nothing where it is refused. -/
def settle (graph : Graph) : Except GraphError Graph → Except GraphError Unit × Graph
  | .ok changed => (.ok (), changed)
  | .error reason => (.error reason, graph)

/-- A command comes to what its edit gives, and to nothing where it is refused. -/
theorem run_perform (command : Command) (graph : Graph) :
    command.perform.run graph = settle graph (command.result graph) := by
  cases command with
  | insert node =>
      simp only [perform, result, Graph.insert, Editing.run_get_bind]
      cases (graph.node? node.id).isSome with
      | true => rfl
      | false => rfl
  | nextId => rfl
  | remove id => rfl
  | connect source output target input =>
      simp only [perform, result, Graph.connect, Editing.run_get_bind]
      cases graph.requirePort source output Node.outputs with
      | error reason => rfl
      | ok producer =>
          rw [Editing.run_lift_bind, Editing.run_get_bind]
          cases graph.requirePort target input Node.inputs with
          | error reason => rfl
          | ok consumer =>
              rw [Editing.run_lift_bind]
              simp only [bind, Except.bind]
              cases producer.socket.feeds consumer.socket with
              | false => rfl
              | true => rfl
  | disconnect number => rfl
  | removeInput id key => rfl
  | removeOutput id key => rfl
  | setOutputSocket id key socket =>
      simp only [perform, result, Graph.setOutputSocket, Editing.run_get_bind]
      cases graph.requirePort id key Node.outputs with
      | error reason => rfl
      | ok port =>
          rw [Editing.run_lift_bind]
          simp only [bind, Except.bind]
          by_cases hsame : port.socket = socket
          · simp only [if_pos hsame]
            rfl
          · simp only [if_neg hsame]
            rfl
  | addInput id key port => rfl
  | addOutput id key port => rfl

/-- A command that is refused leaves the graph as it was. -/
theorem eq_of_refused {command : Command} {graph changed : Graph} {reason : GraphError}
    (h : command.perform.run graph = (.error reason, changed)) : changed = graph := by
  rw [run_perform] at h
  cases hresult : command.result graph with
  | ok made =>
      rw [hresult] at h
      cases h
  | error reason =>
      rw [hresult] at h
      cases h
      rfl

end Command

/-! ## What commands keep -/

namespace Connection.Joins

variable {graph changed : Graph} {connection : Connection}

/-- A connection goes on joining its ports where both of its nodes stay as they are. -/
theorem of_node? (h : connection.Joins graph)
    (hsource : ∀ node, graph.node? connection.source = some node →
      changed.node? connection.source = some node)
    (htarget : ∀ node, graph.node? connection.target = some node →
      changed.node? connection.target = some node) : connection.Joins changed := by
  obtain ⟨output, input, hout, hin, hfeeds⟩ := h
  obtain ⟨producer, hproducer, hout⟩ := Option.bind_eq_some_iff.mp hout
  obtain ⟨consumer, hconsumer, hin⟩ := Option.bind_eq_some_iff.mp hin
  exact ⟨output, input, Option.bind_eq_some_iff.mpr ⟨producer, hsource _ hproducer, hout⟩,
    Option.bind_eq_some_iff.mpr ⟨consumer, htarget _ hconsumer, hin⟩, hfeeds⟩

end Connection.Joins

namespace Graph

variable {graph changed : Graph}

/-- The connections of a graph join ports, and are listed in the order of their numbers. -/
structure Intact (graph : Graph) : Prop where
  joined : graph.Joined
  ordered : graph.connections.Pairwise fun older newer => older.number < newer.number
  /-- No connection has the number that the next one gets, or a larger one. -/
  bounded : ∀ connection ∈ graph.connections, connection.number ≤ graph.lastConnection

namespace Intact

theorem empty : Graph.empty.Intact where
  joined := by
    intro connection hmem
    cases hmem
  ordered := .nil
  bounded := by
    intro connection hmem
    cases hmem

/-- Connections may go, as long as the others go on joining their ports. -/
theorem of_sublist (h : graph.Intact)
    (hsub : changed.connections.Sublist graph.connections)
    (hlast : changed.lastConnection = graph.lastConnection)
    (hjoins : ∀ connection ∈ changed.connections, connection.Joins graph →
      connection.Joins changed) : changed.Intact where
  joined := fun connection hmem =>
    hjoins connection hmem (h.joined connection (hsub.subset hmem))
  ordered := h.ordered.sublist hsub
  bounded := fun connection hmem => hlast ▸ h.bounded connection (hsub.subset hmem)

theorem of_trims (h : graph.Intact) (htrims : graph.Trims changed)
    (hlast : changed.lastConnection = graph.lastConnection) : changed.Intact :=
  h.of_sublist htrims.connections hlast fun _ hmem hjoins => htrims.joins hmem hjoins

theorem insert {node : Node} (h : graph.Intact) (hinsert : graph.insert node = .ok changed) :
    changed.Intact := by
  obtain ⟨hfresh, _, hconnections⟩ := ok_insert hinsert
  -- Nodes that were there have other identities than the new one.
  have hold : ∀ id found, graph.node? id = some found → changed.node? id = some found := by
    intro id found hfound
    rw [node?_insert hinsert, if_neg, hfound]
    rintro rfl
    rw [hfresh] at hfound
    cases hfound
  have hlast : changed.lastConnection = graph.lastConnection := by
    rw [(eq_of_insert hinsert).2]
  refine h.of_sublist (hconnections ▸ .refl _) hlast fun connection _ hjoins => ?_
  exact hjoins.of_node? (hold _) (hold _)

theorem connect {source target : NodeId} {output input : String} {made : Connection × Graph}
    (h : graph.Intact) (hmade : graph.connect source output target input = .ok made) :
    made.2.Intact := by
  obtain ⟨producer, consumer, hproducer, hconsumer, hfeeds, hgraph⟩ := eq_of_connect hmade
  have hnode : ∀ id node, graph.node? id = some node → made.2.node? id = some node := by
    rw [hgraph]
    exact fun _ _ hfound => hfound
  have hnew : Connection.Joins graph
      ⟨graph.lastConnection + 1, source, output, target, input⟩ :=
    ⟨producer, consumer, output?_of_requirePort hproducer, input?_of_requirePort hconsumer,
      hfeeds⟩
  refine ⟨?_, ?_, ?_⟩
  · intro connection hmem
    rw [hgraph, List.mem_append, List.mem_singleton] at hmem
    rcases hmem with hmem | rfl
    · exact (h.joined connection hmem).of_node? (hnode _) (hnode _)
    · exact hnew.of_node? (hnode _) (hnode _)
  -- The new connection comes last, and its number is above all others.
  · rw [hgraph, List.pairwise_append]
    refine ⟨h.ordered, List.pairwise_singleton .., ?_⟩
    intro older holder newer hnewer
    rw [List.mem_singleton.mp hnewer]
    exact Nat.lt_succ_of_le (h.bounded older holder)
  · intro connection hmem
    rw [hgraph, List.mem_append, List.mem_singleton] at hmem
    rw [hgraph]
    rcases hmem with hmem | rfl
    · exact Nat.le_succ_of_le (h.bounded connection hmem)
    · exact Nat.le_refl _

theorem addInput (h : graph.Intact) {id : NodeId} {key : String} (port : Port)
    (hnew : graph.input? id key = none) :
    (graph.modifyNode id (·.addInput key port)).Intact := by
  refine h.of_sublist (.refl _) rfl fun connection _ hjoins => ?_
  refine hjoins.of_ports (output?_modifyNode (by intro _; rfl) (by intro _; rfl) ..) ?_
  rw [input?_addInput, if_neg]
  rintro ⟨htarget, hinput⟩
  obtain ⟨_, input, _, hin, _⟩ := hjoins
  rw [htarget, hinput, hnew] at hin
  cases hin

theorem addOutput (h : graph.Intact) {id : NodeId} {key : String} (port : Port)
    (hnew : graph.output? id key = none) :
    (graph.modifyNode id (·.addOutput key port)).Intact := by
  refine h.of_sublist (.refl _) rfl fun connection _ hjoins => ?_
  refine hjoins.of_ports ?_ (input?_modifyNode (by intro _; rfl) (by intro _; rfl) ..)
  rw [output?_addOutput, if_neg]
  rintro ⟨hsource, houtput⟩
  obtain ⟨output, _, hout, _, _⟩ := hjoins
  rw [hsource, houtput, hnew] at hout
  cases hout

theorem lastConnection_setOutputSocket {id : NodeId} {key : String} {socket : Socket}
    {made : List Connection × Graph} (h : graph.setOutputSocket id key socket = .ok made) :
    made.2.lastConnection = graph.lastConnection := by
  obtain ⟨_, _, ⟨_, hmade⟩ | ⟨_, hmade⟩⟩ := ok_setOutputSocket h
  · rw [hmade]
  · rw [hmade]
    rfl

theorem exists_of_map_ok {α : Type} {answer : Except GraphError (α × Graph)}
    (h : answer.map (·.2) = .ok changed) : ∃ made, answer = .ok made ∧ made.2 = changed := by
  cases answer with
  | error reason => cases h
  | ok made => exact ⟨made, rfl, Except.ok.inj h⟩

/-- Every command that is done keeps the connections intact. -/
theorem result {command : Command} (h : graph.Intact) (hnew : command.AddsNew graph)
    (hresult : command.result graph = .ok changed) : changed.Intact := by
  cases command with
  | insert node => exact h.insert hresult
  | connect source output target input =>
      obtain ⟨made, hmade, rfl⟩ := exists_of_map_ok hresult
      exact h.connect hmade
  | setOutputSocket id key socket =>
      obtain ⟨made, hmade, rfl⟩ := exists_of_map_ok hresult
      exact h.of_trims (trims_setOutputSocket hmade) (lastConnection_setOutputSocket hmade)
  | nextId =>
      cases hresult
      exact h.of_sublist (.refl _) rfl fun _ _ hjoins => hjoins.of_ports rfl rfl
  | remove id =>
      cases hresult
      exact h.of_trims (trims_remove graph id) rfl
  | disconnect number =>
      cases hresult
      exact h.of_trims (trims_disconnect graph number) rfl
  | removeInput id key =>
      cases hresult
      exact h.of_trims (trims_removeInput graph id key) rfl
  | removeOutput id key =>
      cases hresult
      exact h.of_trims (trims_removeOutput graph id key) rfl
  | addInput id key port =>
      cases hresult
      exact h.addInput port hnew
  | addOutput id key port =>
      cases hresult
      exact h.addOutput port hnew

theorem perform {command : Command} (h : graph.Intact) (hnew : command.AddsNew graph) :
    (command.perform.run graph).2.Intact := by
  rw [Command.run_perform]
  cases hresult : command.result graph with
  | ok changed => exact h.result hnew hresult
  | error reason => exact h

end Intact

/-! ## Graphs that commands lead to -/

/-- The graphs that commands lead to from the empty one, whether each is done or refused. -/
inductive Commanded : Graph → Prop where
  | empty : Commanded .empty
  | perform {graph : Graph} (h : Commanded graph) (command : Command)
      (hnew : command.AddsNew graph) : Commanded (command.perform.run graph).2

theorem Commanded.intact (h : graph.Commanded) : graph.Intact := by
  induction h with
  | empty => exact .empty
  | perform _ _ hnew ih => exact ih.perform hnew

theorem Intact.connection?_number (h : graph.Intact) {connection : Connection}
    (hmem : connection ∈ graph.connections) :
    graph.connection? connection.number = some connection := by
  have hordered := h.ordered
  unfold connection?
  generalize graph.connections = connections at hmem hordered
  induction connections with
  | nil => cases hmem
  | cons first rest ih =>
      rw [List.pairwise_cons] at hordered
      rcases List.mem_cons.mp hmem with rfl | hrest
      · simp
      · have hne : first.number ≠ connection.number := Nat.ne_of_lt (hordered.1 _ hrest)
        rw [List.find?_cons_of_neg (by simpa using hne)]
        exact ih hrest hordered.2

/-- The first connection into an input is the one with the least number. -/
theorem Intact.firstIncoming?_eq_some_iff (h : graph.Intact) (id : NodeId) (key : String)
    (connection : Connection) :
    graph.firstIncoming? id key = some connection ↔
      connection ∈ graph.incoming id key ∧
        ∀ other ∈ graph.incoming id key, connection.number ≤ other.number := by
  have hordered : (graph.incoming id key).Pairwise fun older newer =>
      older.number < newer.number := h.ordered.filter _
  unfold firstIncoming?
  cases hincoming : graph.incoming id key with
  | nil => simp
  | cons first rest =>
      rw [hincoming, List.pairwise_cons] at hordered
      rw [List.head?_cons, Option.some.injEq]
      constructor
      · rintro rfl
        refine ⟨List.mem_cons_self .., fun other hother => ?_⟩
        rcases List.mem_cons.mp hother with rfl | hrest
        · exact Nat.le_refl _
        · exact Nat.le_of_lt (hordered.1 other hrest)
      · rintro ⟨hmem, hleast⟩
        rcases List.mem_cons.mp hmem with heq | hrest
        · exact heq.symm
        · have hlt := hordered.1 connection hrest
          have hle := hleast first (List.mem_cons_self ..)
          omega

/-- However commands follow each other, every connection joins an output of a node to an input
that it may feed, the connections are listed by increasing numbers and each is found under its
own, so the first one into an input is the oldest. A command that is done, step by step, gives
what the edit of its name gives, and one that is refused leaves the graph exactly as it was. -/
theorem Commanded.connections_kept (h : graph.Commanded) :
    graph.Joined ∧
      graph.connections.Pairwise (fun older newer => older.number < newer.number) ∧
      (∀ connection ∈ graph.connections,
        graph.connection? connection.number = some connection) ∧
      (∀ id key connection, graph.firstIncoming? id key = some connection ↔
        connection ∈ graph.incoming id key ∧
          ∀ other ∈ graph.incoming id key, connection.number ≤ other.number) ∧
      (∀ command : Command,
        command.perform.run graph = Command.settle graph (command.result graph)) ∧
      ∀ (command : Command) (reason : GraphError) (changed : Graph),
        command.perform.run graph = (.error reason, changed) → changed = graph :=
  have hintact := h.intact
  ⟨hintact.joined, hintact.ordered, fun _ hmem => hintact.connection?_number hmem,
    hintact.firstIncoming?_eq_some_iff, fun command => command.run_perform graph,
    fun _ _ _ => Command.eq_of_refused⟩

/-! ## Two nodes that are connected more than once -/

/-- The graph that commands lead to from another one. -/
def after (commands : List Command) (graph : Graph) : Graph :=
  commands.foldl (fun graph command => (command.perform.run graph).2) graph

def pairing : List Command := [
  .insert { id := ⟨1⟩, name := "int", outputs := ⟨[("result", ⟨"Result", .data "int" .value⟩)]⟩ },
  .insert { id := ⟨2⟩, name := "print" },
  .addInput ⟨2⟩ "value" ⟨"Value", .any "any"⟩,
  .connect ⟨1⟩ "result" ⟨2⟩ "value",
  .connect ⟨1⟩ "result" ⟨2⟩ "missing",
  .connect ⟨1⟩ "result" ⟨2⟩ "value",
  .connect ⟨1⟩ "result" ⟨2⟩ "value",
  .disconnect 1]

theorem commanded_pairing : (Graph.empty.after pairing).Commanded := by
  refine .perform (.perform (.perform (.perform (.perform (.perform (.perform (.perform .empty _ ?_)
    _ ?_) _ ?_) _ ?_) _ ?_) _ ?_) _ ?_) _ ?_
  all_goals trivial

/-- The connections that are left are numbered two and three, the older one comes first, and
one to an input that is not there is refused. -/
theorem connections_kept_pairing :
    (Graph.empty.after pairing).connections.map Connection.number = [2, 3] ∧
      (Graph.empty.after pairing).Joined ∧
      (Graph.empty.after pairing).firstIncoming? ⟨2⟩ "value" =
        some ⟨2, ⟨1⟩, "result", ⟨2⟩, "value"⟩ ∧
      ((Command.connect ⟨1⟩ "result" ⟨2⟩ "missing").perform.run (Graph.empty.after pairing)).2 =
        Graph.empty.after pairing := by
  obtain ⟨hjoined, _, _, hfirst, _, hrefused⟩ := commanded_pairing.connections_kept
  refine ⟨rfl, hjoined, (hfirst _ _ _).mpr ⟨.head _, ?_⟩,
    hrefused (.connect ⟨1⟩ "result" ⟨2⟩ "missing") (.unknownPort ⟨2⟩ "missing") _ rfl⟩
  intro other hother
  have hmem : other ∈ [(⟨2, ⟨1⟩, "result", ⟨2⟩, "value"⟩ : Connection),
    ⟨3, ⟨1⟩, "result", ⟨2⟩, "value"⟩] := hother
  simp only [List.mem_cons, List.not_mem_nil, or_false] at hmem
  rcases hmem with rfl | rfl
  · exact Nat.le_refl _
  · exact Nat.le_succ _

end Graph

end VisualScript
