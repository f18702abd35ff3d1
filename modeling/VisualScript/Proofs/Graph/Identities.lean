import VisualScript.Proofs.Graph.Effects
import VisualScript.Proofs.Graph.Restoring

/-!
# Identities that are given out

The counters of a graph are never behind the numbers in it, whether those were given out, came
with nodes that were inserted or were read from a file. So an identity that is given out is
always a new one, also if the node that had the last one is gone.
-/

namespace VisualScript

namespace Graph

/-- A graph that was changed at a node has the nodes that it had. -/
theorem Confined.map_id {id : NodeId} {graph after : Graph} (h : graph.Confined id after) :
    after.nodes.map Node.id = graph.nodes.map Node.id := by
  have hsame : List.Forall₂ (· = ·) (after.nodes.map Node.id) (graph.nodes.map Node.id) :=
    List.forall₂_map_left_iff.mpr (List.forall₂_map_right_iff.mpr
      (h.nodes.flip.imp fun _ _ hspared => hspared.identity))
  rwa [List.forall₂_eq_eq_eq] at hsame

/-- The counters of a graph are not behind its numbers, and no two connections have one number. -/
structure Counted (graph : Graph) : Prop where
  nodes : ∀ node ∈ graph.nodes, node.id.number ≤ graph.lastNode
  ends : ∀ connection ∈ graph.connections,
    connection.source.number ≤ graph.lastNode ∧ connection.target.number ≤ graph.lastNode
  numbers : ∀ connection ∈ graph.connections, connection.number ≤ graph.lastConnection
  distinct : (graph.connections.map Connection.number).Nodup

namespace Counted

variable {graph changed : Graph}

theorem empty : Graph.empty.Counted where
  nodes := by simp [Graph.empty]
  ends := by simp [Graph.empty]
  numbers := by simp [Graph.empty]
  distinct := .nil

/-- Nodes and connections may go, and the counter of nodes may run ahead. -/
theorem of_subset (h : graph.Counted)
    (hnodes : ∀ node ∈ changed.nodes, ∃ old ∈ graph.nodes, old.id = node.id)
    (hconnections : changed.connections.Sublist graph.connections)
    (hlastNode : graph.lastNode ≤ changed.lastNode)
    (hlastConnection : changed.lastConnection = graph.lastConnection) : changed.Counted where
  nodes := by
    intro node hmem
    obtain ⟨old, hold, hsame⟩ := hnodes node hmem
    exact hsame ▸ Nat.le_trans (h.nodes old hold) hlastNode
  ends := by
    intro connection hmem
    obtain ⟨hsource, htarget⟩ := h.ends connection (hconnections.subset hmem)
    exact ⟨Nat.le_trans hsource hlastNode, Nat.le_trans htarget hlastNode⟩
  numbers := fun connection hmem =>
    hlastConnection ▸ h.numbers connection (hconnections.subset hmem)
  distinct := h.distinct.sublist (hconnections.map _)

theorem insert {node : Node} (h : graph.Counted) (hinsert : graph.insert node = .ok changed) :
    changed.Counted := by
  obtain ⟨_, rfl⟩ := eq_of_insert hinsert
  have hlast : graph.lastNode ≤ max graph.lastNode node.id.number := Nat.le_max_left ..
  refine ⟨fun other hmem => ?_, fun connection hmem => ?_, h.numbers, h.distinct⟩
  · rcases List.mem_append.mp hmem with hold | hnew
    · exact Nat.le_trans (h.nodes other hold) hlast
    · obtain rfl := List.mem_singleton.mp hnew
      exact Nat.le_max_right ..
  · obtain ⟨hsource, htarget⟩ := h.ends connection hmem
    exact ⟨Nat.le_trans hsource hlast, Nat.le_trans htarget hlast⟩

theorem nextId (h : graph.Counted) : graph.nextId.2.Counted :=
  h.of_subset (fun node hmem => ⟨node, hmem, rfl⟩) (.refl _) (Nat.le_succ _) rfl

/-- No node has the number that is given out next. -/
theorem node?_nextId (h : graph.Counted) : graph.node? graph.nextId.1 = none := by
  refine List.find?_eq_none.mpr fun node hmem hsame => ?_
  have hbound := h.nodes node hmem
  rw [of_decide_eq_true hsame] at hbound
  exact Nat.not_succ_le_self _ hbound

/-- No connection leads to the number that is given out next. -/
theorem incoming_nextId (h : graph.Counted) (key : String) :
    graph.incoming graph.nextId.1 key = [] := by
  refine List.filter_eq_nil_iff.mpr fun connection hmem htest => ?_
  have hbound := (h.ends connection hmem).2
  rw [Bool.and_eq_true, decide_eq_true_eq] at htest
  rw [htest.1] at hbound
  exact Nat.not_succ_le_self _ hbound

theorem le_of_requirePort {id : NodeId} {key : String} {ports : Node → OrderedMap String Port}
    {port : Port} (h : graph.Counted) (hport : graph.requirePort id key ports = .ok port) :
    id.number ≤ graph.lastNode := by
  obtain ⟨node, hnode, _⟩ := ok_requirePort hport
  exact id_of_node? hnode ▸ h.nodes node (mem_of_node? hnode)

theorem connect {source target : NodeId} {output input : String} {made : Connection × Graph}
    (h : graph.Counted) (hmade : graph.connect source output target input = .ok made) :
    made.2.Counted := by
  obtain ⟨_, _, hproducer, hconsumer, _, hgraph⟩ := eq_of_connect hmade
  rw [hgraph]
  refine ⟨h.nodes, fun connection hmem => ?_, fun connection hmem => ?_, ?_⟩
  · rcases List.mem_append.mp hmem with hold | hnew
    · exact h.ends connection hold
    · obtain rfl := List.mem_singleton.mp hnew
      exact ⟨h.le_of_requirePort hproducer, h.le_of_requirePort hconsumer⟩
  · rcases List.mem_append.mp hmem with hold | hnew
    · exact Nat.le_succ_of_le (h.numbers connection hold)
    · obtain rfl := List.mem_singleton.mp hnew
      exact Nat.le_refl _
  · rw [List.map_append, List.nodup_append]
    refine ⟨h.distinct, List.nodup_singleton _, ?_⟩
    rintro number hold _ hnew rfl
    obtain ⟨connection, hmem, rfl⟩ := List.mem_map.mp hold
    have hbound := h.numbers connection hmem
    have hnumber : connection.number = graph.lastConnection + 1 := List.mem_singleton.mp hnew
    omega

theorem modifyNode {change : Node → Node} (h : graph.Counted)
    (hid : ∀ node, (change node).id = node.id) (id : NodeId) :
    (graph.modifyNode id change).Counted := by
  refine h.of_subset (fun node hmem => ?_) (.refl _) (Nat.le_refl _) rfl
  obtain ⟨old, hold, rfl⟩ := List.mem_map.mp hmem
  refine ⟨old, hold, ?_⟩
  split
  next => exact (hid old).symm
  next => rfl

theorem remove (h : graph.Counted) (id : NodeId) : (graph.remove id).Counted :=
  h.of_subset (fun node hmem => ⟨node, (List.mem_filter.mp hmem).1, rfl⟩) List.filter_sublist
    (Nat.le_refl _) rfl

theorem sever (h : graph.Counted) (test : Connection → Bool) : (graph.sever test).2.Counted :=
  h.of_subset (fun node hmem => ⟨node, hmem, rfl⟩) List.filter_sublist (Nat.le_refl _) rfl

theorem setOutputSocket {id : NodeId} {key : String} {socket : Socket}
    {made : List Connection × Graph} (h : graph.Counted)
    (hmade : graph.setOutputSocket id key socket = .ok made) : made.2.Counted := by
  obtain ⟨_, _, ⟨_, hsame⟩ | ⟨_, hretyped⟩⟩ := ok_setOutputSocket hmade
  · rw [hsame]
    exact h
  · rw [hretyped]
    exact (h.modifyNode (by simp) id).sever _

theorem result {command : Command} (h : graph.Counted)
    (hresult : command.result graph = .ok changed) : changed.Counted := by
  cases command with
  | insert node => exact h.insert hresult
  | nextId =>
      cases hresult
      exact h.nextId
  | remove id =>
      cases hresult
      exact h.remove id
  | connect source output target input =>
      obtain ⟨made, hmade, rfl⟩ := Intact.exists_of_map_ok hresult
      exact h.connect hmade
  | disconnect number =>
      cases hresult
      exact h.sever _
  | removeInput id key =>
      cases hresult
      exact (h.sever _).modifyNode (by simp) id
  | removeOutput id key =>
      cases hresult
      exact (h.sever _).modifyNode (by simp) id
  | setOutputSocket id key socket =>
      obtain ⟨made, hmade, rfl⟩ := Intact.exists_of_map_ok hresult
      exact h.setOutputSocket hmade
  | addInput id key port =>
      cases hresult
      exact h.modifyNode (by intro _; rfl) id
  | addOutput id key port =>
      cases hresult
      exact h.modifyNode (by intro _; rfl) id

theorem perform (h : graph.Counted) (command : Command) :
    (command.perform.run graph).2.Counted := by
  rw [Command.run_perform]
  cases hresult : command.result graph with
  | ok changed => exact h.result hresult
  | error reason => exact h

theorem sync (h : graph.Counted) (language : Language) (id : NodeId) :
    (language.sync id graph).2.Counted := by
  have hconfined := language.confined_sync id h.distinct
  refine h.of_subset (fun node hmem => ?_) hconfined.connections
    (Nat.le_of_eq hconfined.lastNode.symm) hconfined.lastConnection
  exact List.mem_map.mp (hconfined.map_id ▸ List.mem_map_of_mem hmem)

theorem load {language : Language} {document : String} {made : Graph × List RestoreNotice}
    (hmade : language.load document = .ok made) : made.1.Counted :=
  Language.load_keeps empty (fun _ _ _ h => h.insert) (fun _ _ _ h => h.connect)
    (fun _ id h => h.sync language id) hmade

end Counted

end Graph

/-! ## Placing a node -/

namespace Language

variable {language : Language} {graph : Graph} {name : String} {component : Component}

/-- A new node is never refused, as no node has the next number. -/
theorem exists_place (hcounted : graph.Counted)
    (h : language.catalog.get? name = some component) (data : DataFields) :
    ∃ placed, (language.place name data).run graph = (.ok graph.nextId.1, placed) ∧
      placed.lastNode = graph.lastNode + 1 := by
  have hid : (component.kind.build language.registry
      { id := graph.nextId.1, name, data }).id = graph.nextId.1 :=
    congrArg Prod.fst (component.kind.place_build language.registry _)
  rw [run_place_known h]
  cases hinsert : graph.nextId.2.insert (component.kind.build language.registry
      { id := graph.nextId.1, name, data }) with
  | ok placed =>
      refine ⟨placed, rfl, ?_⟩
      rw [(Graph.eq_of_insert hinsert).2, hid]
      exact Nat.max_self _
  | error reason =>
      have hfresh : graph.nextId.2.node? graph.nextId.1 = none := hcounted.node?_nextId
      unfold Graph.insert at hinsert
      rw [hid, hfresh] at hinsert
      cases hinsert

theorem spawn_of_place {id : NodeId} {placed : Graph} {data : DataFields}
    (h : (language.place name data).run graph = (.ok id, placed)) :
    language.spawn graph name data = .ok (id, placed) := by
  rw [spawn, h]

end Language

namespace Graph

variable {graph : Graph}

theorem Counted.spawn {language : Language} {name : String} {data : DataFields}
    {made : NodeId × Graph} (h : graph.Counted)
    (hmade : language.spawn graph name data = .ok made) : made.2.Counted := by
  obtain ⟨_, _, _, hinsert⟩ := Language.ok_spawn hmade
  exact h.nextId.insert hinsert

/-- The graphs that edits lead to from the empty one, be they commands, changes of nodes that
leave their identities alone, or done by languages. -/
inductive Edited : Graph → Prop where
  | empty : Edited .empty
  | perform {graph : Graph} (h : Edited graph) (command : Command) :
      Edited (command.perform.run graph).2
  | modifyNode {graph : Graph} (h : Edited graph) (id : NodeId) {change : Node → Node}
      (hid : ∀ node, (change node).id = node.id) : Edited (graph.modifyNode id change)
  | spawn {graph : Graph} (h : Edited graph) {language : Language} {name : String}
      {data : DataFields} {made : NodeId × Graph}
      (hmade : language.spawn graph name data = .ok made) : Edited made.2
  | sync {graph : Graph} (h : Edited graph) (language : Language) (id : NodeId) :
      Edited (language.sync id graph).2
  | load {language : Language} {document : String} {made : Graph × List RestoreNotice}
      (hmade : language.load document = .ok made) : Edited made.1

theorem Edited.counted (h : graph.Edited) : graph.Counted := by
  induction h with
  | empty => exact .empty
  | perform _ command ih => exact ih.perform command
  | modifyNode _ id hid ih => exact ih.modifyNode hid id
  | spawn _ hmade ih => exact ih.spawn hmade
  | sync _ language id ih => exact ih.sync language id
  | load hmade => exact .load hmade

end Graph

/-! ## Requests for identities -/

/-- What may give identities out or take them in. -/
inductive Request where
  | nextId
  | insert (node : Node)
  | remove (id : NodeId)
  | spawn (language : Language) (name : String) (data : DataFields)
  | load (language : Language) (document : String)

/-- A graph, and the identities that were given out or taken in since it was made. -/
structure Register where
  graph : Graph := .empty
  /-- The identities, newest first. Those of nodes that were removed stay. -/
  issued : List NodeId := []

/-- Serve a request. The answer holds the identity that it gives out or takes in; a graph that is
loaded takes in those of its nodes. A component is placed by `Language.place`, of which
`Language.spawn` is the answer: here the counters that a refusal leaves behind are kept too. -/
def Request.serve (register : Register) : Request → Except LanguageError (Option NodeId) × Register
  | nextId =>
      let (id, graph) := register.graph.nextId
      (.ok (some id), ⟨graph, id :: register.issued⟩)
  | insert node =>
      match register.graph.insert node with
      | .ok graph => (.ok (some node.id), ⟨graph, node.id :: register.issued⟩)
      | .error reason => (.error (.refused reason), register)
  | remove id => (.ok none, { register with graph := register.graph.remove id })
  | spawn language name data =>
      match (language.place name data).run register.graph with
      | (.ok id, graph) => (.ok (some id), ⟨graph, id :: register.issued⟩)
      | (.error error, graph) => (.error error, { register with graph := graph })
  | load language document =>
      match language.load document with
      | .ok (graph, _) => (.ok none, ⟨graph, graph.nodes.map Node.id⟩)
      | .error error => (.error error, register)

namespace Register

/-- The register that requests lead to from another one. -/
def after (requests : List Request) (register : Register) : Register :=
  requests.foldl (fun register request => (request.serve register).2) register

/-- The counter of nodes is behind no identity that was given out or taken in. -/
structure Sound (register : Register) : Prop where
  counted : register.graph.Counted
  issued : ∀ id ∈ register.issued, id.number ≤ register.graph.lastNode

theorem serve_spawn_unknown {language : Language} {name : String}
    (hcomponent : language.catalog.get? name = none) (data : DataFields) (register : Register) :
    (Request.spawn language name data).serve register =
      (.error (.unknownComponent name), register) := by
  simp only [Request.serve, Language.run_place_unknown hcomponent]

namespace Sound

variable {register : Register} {graph : Graph}

theorem opened : Sound {} where
  counted := .empty
  issued := by simp

theorem issue (h : register.Sound) {id : NodeId} (hcounted : graph.Counted)
    (hlast : register.graph.lastNode ≤ graph.lastNode) (hid : id.number ≤ graph.lastNode) :
    Sound ⟨graph, id :: register.issued⟩ where
  counted := hcounted
  issued := List.forall_mem_cons.mpr
    ⟨hid, fun other hmem => Nat.le_trans (h.issued other hmem) hlast⟩

/-- The number that is given out next is above all that were given out or taken in. -/
theorem lt_nextId (h : register.Sound) :
    ∀ earlier ∈ register.issued, earlier.number < register.graph.nextId.1.number :=
  fun earlier hmem => Nat.lt_succ_of_le (h.issued earlier hmem)

/-- A node of a known component gets the next number. -/
theorem serve_spawn_known (h : register.Sound) {language : Language} {name : String}
    {component : Component} (hcomponent : language.catalog.get? name = some component)
    (data : DataFields) : ∃ graph,
      (Request.spawn language name data).serve register =
        (.ok (some register.graph.nextId.1),
          ⟨graph, register.graph.nextId.1 :: register.issued⟩) ∧
      Sound ⟨graph, register.graph.nextId.1 :: register.issued⟩ := by
  obtain ⟨graph, hplace, hlast⟩ := Language.exists_place h.counted hcomponent data
  have hcounted := h.counted.spawn (Language.spawn_of_place hplace)
  refine ⟨graph, ?_, h.issue hcounted (hlast ▸ Nat.le_succ _) (Nat.le_of_eq hlast.symm)⟩
  simp only [Request.serve, hplace]

theorem serve (h : register.Sound) (request : Request) : (request.serve register).2.Sound := by
  cases request with
  | nextId => exact h.issue h.counted.nextId (Nat.le_succ _) (Nat.le_refl _)
  | insert node =>
      simp only [Request.serve]
      cases hinsert : register.graph.insert node with
      | error reason => exact h
      | ok graph =>
          have hgraph := (Graph.eq_of_insert hinsert).2
          have hlast : graph.lastNode = max register.graph.lastNode node.id.number := by
            rw [hgraph]
          exact h.issue (h.counted.insert hinsert) (hlast ▸ Nat.le_max_left ..)
            (hlast ▸ Nat.le_max_right ..)
  | remove id => exact ⟨h.counted.remove id, h.issued⟩
  | spawn language name data =>
      cases hcomponent : language.catalog.get? name with
      | none =>
          rw [serve_spawn_unknown hcomponent]
          exact h
      | some component =>
          obtain ⟨graph, hserve, hsound⟩ := h.serve_spawn_known hcomponent data
          rw [hserve]
          exact hsound
  | load language document =>
      simp only [Request.serve]
      cases hload : language.load document with
      | error error => exact h
      | ok made =>
          have hcounted := Graph.Counted.load hload
          refine ⟨hcounted, fun id hmem => ?_⟩
          obtain ⟨node, hnode, rfl⟩ := List.mem_map.mp hmem
          exact hcounted.nodes node hnode

theorem after (h : register.Sound) (requests : List Request) :
    (register.after requests).Sound :=
  List.foldlRecOn requests _ h fun _ hregister request _ => hregister.serve request

end Sound

/-- However requests follow each other, an identity that is given out is above all that were given
out or taken in before it in the graph, also if their nodes are gone. So a component that the
catalog has is always placed, and where it is not in the catalog the graph and its counters stay
as they are. -/
theorem identity_above_issued (requests : List Request) :
    let register := Register.after requests {}
    (∀ id after, Request.nextId.serve register = (.ok (some id), after) →
      ∀ earlier ∈ register.issued, earlier.number < id.number) ∧
    ∀ language name data,
      (language.catalog.contains name = true → ∃ id after,
        (Request.spawn language name data).serve register = (.ok (some id), after) ∧
          ∀ earlier ∈ register.issued, earlier.number < id.number) ∧
      (language.catalog.contains name = false →
        (Request.spawn language name data).serve register =
          (.error (.unknownComponent name), register)) := by
  have hsound : (Register.after requests {}).Sound := Sound.opened.after requests
  dsimp only
  generalize Register.after requests {} = register at hsound
  refine ⟨?_, fun language name data => ⟨fun hknown => ?_, fun hunknown => ?_⟩⟩
  · rintro id after hserve
    cases hserve
    exact hsound.lt_nextId
  · obtain ⟨component, hcomponent⟩ := Option.isSome_iff_exists.mp hknown
    obtain ⟨graph, hserve, _⟩ := hsound.serve_spawn_known hcomponent data
    exact ⟨_, _, hserve, hsound.lt_nextId⟩
  · exact serve_spawn_unknown (Option.isNone_iff_eq_none.mp
      (Option.isSome_eq_false_iff.mp hunknown)) data register

/-- A node is placed, another one comes with a number of its own and goes again, and a number is
asked for. -/
def comingAndGoing : List Request := [
  .spawn Language.counting "next" .empty,
  .insert { id := ⟨7⟩, name := "next" },
  .remove ⟨7⟩,
  .nextId]

theorem identity_above_issued_comingAndGoing :
    let register := Register.after comingAndGoing {}
    register.issued = [⟨8⟩, ⟨7⟩, ⟨1⟩] ∧ register.graph.nodes.map Node.id = [⟨1⟩] ∧
      (∃ id after, (Request.spawn Language.counting "Variable" .empty).serve register =
        (.ok (some id), after) ∧ ∀ earlier ∈ register.issued, earlier.number < id.number) ∧
      (Request.spawn Language.counting "missing" .empty).serve register =
        (.error (.unknownComponent "missing"), register) := by
  obtain ⟨_, hspawn⟩ := identity_above_issued comingAndGoing
  exact ⟨rfl, rfl, (hspawn Language.counting "Variable" .empty).1 rfl,
    (hspawn Language.counting "missing" .empty).2 rfl⟩

end Register

end VisualScript
