import VisualScript.Proofs.Graph.Ports
import Mathlib.Data.List.Forall2
import Mathlib.Data.List.Nodup

/-!
# Edits that sever connections

Cutting a connection, taking a port away and giving an output another socket all divide the
connections of a graph in two: some are given back and the others stay, both in the order of
their age. Apart from that such an edit reaches no further than the port that it names.
-/

namespace VisualScript

/-! ## Lists in two parts -/

/-- A list is put together from two others, both of which keep their order. -/
inductive Merges {α : Type} : List α → List α → List α → Prop where
  | nil : Merges [] [] []
  | left {first second whole : List α} (item : α) (h : Merges first second whole) :
      Merges (item :: first) second (item :: whole)
  | right {first second whole : List α} (item : α) (h : Merges first second whole) :
      Merges first (item :: second) (item :: whole)

namespace Merges

/-- What fails a test and what passes it are the two parts of a list. -/
theorem filter {α : Type} (test : α → Bool) (items : List α) :
    Merges (items.filter fun item => !test item) (items.filter test) items := by
  induction items with
  | nil => exact .nil
  | cons item rest ih =>
      cases htest : test item with
      | false => simpa [htest] using ih.left item
      | true => simpa [htest] using ih.right item

end Merges

/-! ## The edits -/

/-- An edit that may sever connections. -/
inductive Cut where
  | disconnect (number : Nat)
  | removeInput (id : NodeId) (key : String)
  | removeOutput (id : NodeId) (key : String)
  | setOutputSocket (id : NodeId) (key : String) (socket : Socket)

namespace Cut

/-- The connections that an edit gives back, and the graph without them. -/
def result (graph : Graph) : Cut → Except GraphError (List Connection × Graph)
  | disconnect number =>
      let (severed, graph) := graph.takeConnection number
      .ok (severed.toList, graph)
  | removeInput id key => .ok (graph.removeInput id key)
  | removeOutput id key => .ok (graph.removeOutput id key)
  | setOutputSocket id key socket => graph.setOutputSocket id key socket

/-- Which connections an edit is to sever. A socket that is another one than the output had
severs those that lead to no input, or to one that it may not feed. -/
def Severs (graph : Graph) (connection : Connection) : Cut → Prop
  | disconnect number => connection.number = number
  | removeInput id key => connection.target = id ∧ connection.input = key
  | removeOutput id key => connection.source = id ∧ connection.output = key
  | setOutputSocket id key socket =>
      connection.source = id ∧ connection.output = key ∧
        (graph.output? id key).map Port.socket ≠ some socket ∧
        ∀ input, graph.input? connection.target connection.input = some input →
          socket.feeds input.socket = false

/-- What becomes of the port, or the connection, that an edit names. -/
def Settles (graph after : Graph) : Cut → Prop
  | disconnect number => after.connection? number = none
  | removeInput id key => after.input? id key = none
  | removeOutput id key => after.output? id key = none
  | setOutputSocket id key socket => ∃ port, graph.output? id key = some port ∧
      after.output? id key = some { port with socket := socket }

/-- A node is as it was, with its ports in their order, but for the port that an edit names. -/
structure Spares (cut : Cut) (node after : Node) : Prop where
  identity : after.id = node.id
  name : after.name = node.name
  data : after.data = node.data
  position : after.position = node.position
  inputs : after.inputs = node.inputs ∨
    ∃ key, cut = .removeInput node.id key ∧ after.inputs = node.inputs.erase key
  outputs : after.outputs = node.outputs ∨
    (∃ key, cut = .removeOutput node.id key ∧ after.outputs = node.outputs.erase key) ∨
    ∃ key socket, cut = .setOutputSocket node.id key socket ∧
      after.outputs = node.outputs.modify key fun port => { port with socket := socket }

theorem Spares.refl (cut : Cut) (node : Node) : cut.Spares node node where
  identity := rfl
  name := rfl
  data := rfl
  position := rfl
  inputs := .inl rfl
  outputs := .inl rfl

end Cut

/-! ## How the connections are divided -/

namespace Graph

variable {graph after : Graph} {severs : Connection → Prop} {severed : List Connection}

/-- The connections of a graph are divided into those that are to be severed and those that stay.
No connection overtakes another one, so a port goes on taking its oldest connection. -/
structure Divided (severs : Connection → Prop) (graph : Graph) (severed : List Connection)
    (after : Graph) : Prop where
  merges : Merges after.connections severed graph.connections
  given : ∀ connection ∈ severed, severs connection
  kept : ∀ connection ∈ after.connections, ¬ severs connection
  ages : after.connections.Sublist graph.connections
  oldestIn : ∀ id key connection, graph.firstIncoming? id key = some connection →
    ¬ severs connection → after.firstIncoming? id key = some connection
  oldestOut : ∀ id key connection, graph.firstOutgoing? id key = some connection →
    ¬ severs connection → after.firstOutgoing? id key = some connection
  /-- Cutting the connections one by one leaves the same. -/
  oneByOne : ((severed.map Connection.number).foldl Graph.disconnect graph).connections =
    after.connections

theorem connections_foldl_disconnect (numbers : List Nat) (graph : Graph) :
    (numbers.foldl Graph.disconnect graph).connections =
      graph.connections.filter fun connection => !decide (connection.number ∈ numbers) := by
  induction numbers generalizing graph with
  | nil => simp
  | cons number rest ih =>
      rw [List.foldl_cons, ih]
      change (graph.connections.filter _).filter _ = _
      rw [List.filter_filter]
      refine List.filter_congr fun connection _ => ?_
      simp [Bool.and_comm]

/-- The first item that passes a test goes on being the first where others are left out. -/
theorem head?_filter_filter {test keep : Connection → Bool} {connections : List Connection}
    {connection : Connection} (hfirst : (connections.filter test).head? = some connection)
    (hkeep : keep connection = true) :
    ((connections.filter keep).filter test).head? = some connection := by
  rw [List.filter_comm]
  obtain ⟨rest, hlist⟩ := List.head?_eq_some_iff.mp hfirst
  rw [hlist, List.filter_cons_of_pos hkeep, List.head?_cons]

/-- Connections that are left out by a test are divided by it. -/
theorem divided_of_filter (hnumbers : (graph.connections.map Connection.number).Nodup)
    {test : Connection → Bool}
    (htest : ∀ connection ∈ graph.connections, test connection = true ↔ severs connection)
    (hafter : after.connections = graph.connections.filter fun connection => !test connection) :
    Divided severs graph (graph.connections.filter test) after := by
  have hkeep : ∀ connection ∈ graph.connections, ¬ severs connection →
      (!test connection) = true := by
    intro connection hmem hnot
    rw [Bool.not_eq_true', ← Bool.not_eq_true, htest connection hmem]
    exact hnot
  refine ⟨?_, fun connection hmem => ?_, fun connection hmem => ?_,
    hafter ▸ List.filter_sublist, fun id key connection hfirst hnot => ?_,
    fun id key connection hfirst hnot => ?_, ?_⟩
  · rw [hafter]
    exact .filter test _
  · obtain ⟨hlisted, hpasses⟩ := List.mem_filter.mp hmem
    exact (htest connection hlisted).mp hpasses
  · rw [hafter] at hmem
    obtain ⟨hlisted, hfails⟩ := List.mem_filter.mp hmem
    rw [← htest connection hlisted]
    simpa using hfails
  · have hlisted := (List.mem_filter.mp (List.mem_of_mem_head? hfirst)).1
    unfold firstIncoming? incoming at hfirst ⊢
    rw [hafter]
    exact head?_filter_filter hfirst (hkeep connection hlisted hnot)
  · have hlisted := (List.mem_filter.mp (List.mem_of_mem_head? hfirst)).1
    unfold firstOutgoing? outgoing at hfirst ⊢
    rw [hafter]
    exact head?_filter_filter hfirst (hkeep connection hlisted hnot)
  -- As no two connections have one number, cutting by number cuts what the test severs.
  · rw [connections_foldl_disconnect, hafter]
    refine List.filter_congr fun connection hmem => congrArg Bool.not (Bool.eq_iff_iff.mpr ?_)
    rw [decide_eq_true_eq, List.mem_map]
    constructor
    · rintro ⟨other, hother, hsame⟩
      obtain ⟨hlisted, hpasses⟩ := List.mem_filter.mp hother
      exact List.inj_on_of_nodup_map hnumbers hlisted hmem hsame ▸ hpasses
    · exact fun hpasses => ⟨connection, List.mem_filter.mpr ⟨hmem, hpasses⟩, rfl⟩

/-- The connection with a number is the only one that has it. -/
theorem toList_connection? (hnumbers : (graph.connections.map Connection.number).Nodup)
    (number : Nat) : (graph.connection? number).toList =
      graph.connections.filter fun connection => connection.number = number := by
  unfold connection?
  generalize graph.connections = connections at hnumbers
  induction connections with
  | nil => rfl
  | cons first rest ih =>
      rw [List.map_cons, List.nodup_cons] at hnumbers
      by_cases heq : first.number = number
      · have hothers : (rest.filter fun connection => connection.number = number) = [] := by
          rw [List.filter_eq_nil_iff]
          intro other hother hsame
          refine hnumbers.1 (List.mem_map.mpr ⟨other, hother, ?_⟩)
          exact (of_decide_eq_true hsame).trans heq.symm
        rw [List.find?_cons_of_pos (by simpa using heq),
          List.filter_cons_of_pos (by simpa using heq), hothers]
        rfl
      · rw [List.find?_cons_of_neg (by simpa using heq),
          List.filter_cons_of_neg (by simpa using heq)]
        exact ih hnumbers.2

theorem spares_modifyNode {cut : Cut} {id : NodeId} {change : Node → Node}
    (h : ∀ node, node.id = id → cut.Spares node (change node)) (graph : Graph) :
    List.Forall₂ cut.Spares graph.nodes (graph.modifyNode id change).nodes := by
  refine List.forall₂_map_right_iff.mpr (List.forall₂_same.mpr fun node _ => ?_)
  split
  next heq => exact h node heq
  next => exact .refl cut node

end Graph

/-! ## What the edits come to -/

namespace Cut

/-- What an edit comes to that severs connections. -/
structure Divides (cut : Cut) (graph : Graph) (severed : List Connection) (after : Graph) :
    Prop where
  connections : graph.Divided (cut.Severs graph) severed after
  nodes : List.Forall₂ cut.Spares graph.nodes after.nodes
  named : cut.Settles graph after
  lastNode : after.lastNode = graph.lastNode
  lastConnection : after.lastConnection = graph.lastConnection

namespace Divides

variable {graph : Graph} {severed : List Connection} {after : Graph}

theorem disconnect (hnumbers : (graph.connections.map Connection.number).Nodup) (number : Nat) :
    (Cut.disconnect number).Divides graph (graph.takeConnection number).1.toList
      (graph.takeConnection number).2 where
  connections := by
    rw [Graph.takeConnection, Graph.toList_connection? hnumbers]
    exact Graph.divided_of_filter hnumbers (fun _ _ => decide_eq_true_iff) rfl
  nodes := List.forall₂_same.mpr fun node _ => .refl _ node
  named := by
    refine List.find?_eq_none.mpr fun connection hmem hnumber => ?_
    have hkept := (List.mem_filter.mp hmem).2
    exact absurd hkept (by simpa using hnumber)
  lastNode := rfl
  lastConnection := rfl

theorem removeInput (hnumbers : (graph.connections.map Connection.number).Nodup) (id : NodeId)
    (key : String) : (Cut.removeInput id key).Divides graph (graph.removeInput id key).1
      (graph.removeInput id key).2 where
  connections := Graph.divided_of_filter hnumbers (by simp [Severs]) rfl
  nodes := by
    refine Graph.spares_modifyNode (fun node heq => ?_) _
    exact { Spares.refl _ node with inputs := .inr ⟨key, heq ▸ rfl, rfl⟩ }
  named := (Graph.input?_removeInput graph id id key key).trans (if_pos ⟨rfl, rfl⟩)
  lastNode := rfl
  lastConnection := rfl

theorem removeOutput (hnumbers : (graph.connections.map Connection.number).Nodup) (id : NodeId)
    (key : String) : (Cut.removeOutput id key).Divides graph (graph.removeOutput id key).1
      (graph.removeOutput id key).2 where
  connections := Graph.divided_of_filter hnumbers (by simp [Severs]) rfl
  nodes := by
    refine Graph.spares_modifyNode (fun node heq => ?_) _
    exact { Spares.refl _ node with outputs := .inr (.inl ⟨key, heq ▸ rfl, rfl⟩) }
  named := (Graph.output?_removeOutput graph id id key key).trans (if_pos ⟨rfl, rfl⟩)
  lastNode := rfl
  lastConnection := rfl

theorem fitsInto_eq_false_iff {socket : Socket} {connection : Connection} :
    graph.fitsInto socket connection = false ↔
      ∀ input, graph.input? connection.target connection.input = some input →
        socket.feeds input.socket = false := by
  unfold Graph.fitsInto
  cases graph.input? connection.target connection.input with
  | none => simp
  | some input => simp

theorem setOutputSocket (hnumbers : (graph.connections.map Connection.number).Nodup)
    {id : NodeId} {key : String} {socket : Socket}
    (h : graph.setOutputSocket id key socket = .ok (severed, after)) :
    (Cut.setOutputSocket id key socket).Divides graph severed after := by
  obtain ⟨port, hport, ⟨hsame, hmade⟩ | ⟨hother, hmade⟩⟩ := Graph.setOutputSocket_cases h
  -- Nothing is done where the output has the socket.
  · cases hmade
    have hnone : graph.connections.filter (fun _ => false) = [] := by simp
    refine ⟨?_, List.forall₂_same.mpr fun node _ => .refl _ node, ⟨port, hport, ?_⟩, rfl, rfl⟩
    · rw [← hnone]
      refine Graph.divided_of_filter hnumbers (fun connection _ => ?_) (by simp)
      simp [Severs, hport, hsame]
    · rw [hport, ← hsame]
  · cases hmade
    refine ⟨Graph.divided_of_filter hnumbers (fun connection _ => ?_) rfl,
      Graph.spares_modifyNode (fun node heq => ?_) graph, ⟨port, hport, ?_⟩, rfl, rfl⟩
    · simp [Severs, hport, hother, fitsInto_eq_false_iff, and_assoc]
    · exact { Spares.refl _ node with outputs := .inr (.inr ⟨key, socket, heq ▸ rfl, rfl⟩) }
    · refine (Graph.output?_withSocket graph id id key key socket).trans ?_
      rw [if_pos ⟨rfl, rfl⟩, hport]
      rfl

end Divides

/-- Cutting a connection, taking a port away and giving an output another socket divide the
connections of a graph: those that are to be severed are given back, and the others stay, all of
them in the order that they had. Nothing else is changed but the port that is named. Connections
are kept by their numbers, so that no two have one number. -/
theorem divides_of_result {cut : Cut} {graph after : Graph} {severed : List Connection}
    (hnumbers : (graph.connections.map Connection.number).Nodup)
    (h : cut.result graph = .ok (severed, after)) : cut.Divides graph severed after := by
  cases cut with
  | disconnect number =>
      cases h
      exact .disconnect hnumbers number
  | removeInput id key =>
      cases h
      exact .removeInput hnumbers id key
  | removeOutput id key =>
      cases h
      exact .removeOutput hnumbers id key
  | setOutputSocket id key socket => exact .setOutputSocket hnumbers h

/-- A number that goes to another node, back to its own node, and to an input that is gone. -/
def fannedOut : Graph where
  nodes := [
    { id := ⟨1⟩, name := "int"
      inputs := ⟨[("value", ⟨"Value", .any "any"⟩)]⟩
      outputs := ⟨[("result", ⟨"Result", .data "int" .value⟩),
        ("other", ⟨"Other", .data "int" .value⟩)]⟩ },
    { id := ⟨2⟩, name := "next", inputs := ⟨[("value", ⟨"value", .data "int" .value⟩)]⟩ }]
  connections := [⟨1, ⟨1⟩, "result", ⟨2⟩, "value"⟩, ⟨2, ⟨1⟩, "result", ⟨1⟩, "value"⟩,
    ⟨4, ⟨1⟩, "other", ⟨2⟩, "value"⟩, ⟨5, ⟨1⟩, "result", ⟨2⟩, "gone"⟩]
  lastNode := 2
  lastConnection := 5

/-- Once the number is a text, the wildcard of its own node is all that it may feed. -/
theorem divides_of_result_fannedOut :
    ∃ severed after,
      (setOutputSocket ⟨1⟩ "result" (.data "text" .value)).result fannedOut =
        .ok (severed, after) ∧
      severed.map Connection.number = [1, 5] ∧
      after.connections.map Connection.number = [2, 4] ∧
      (setOutputSocket ⟨1⟩ "result" (.data "text" .value)).Divides fannedOut severed after :=
  ⟨_, _, rfl, rfl, rfl, divides_of_result (by decide) rfl⟩

end Cut

end VisualScript
