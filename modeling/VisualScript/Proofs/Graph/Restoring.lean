import VisualScript.Proofs.Graph.Commands
import VisualScript.Proofs.Graph.Sweep
import Mathlib.Data.List.Duplicate

/-!
# Graphs restored from files

A file is refused only for two nodes with one identity. Otherwise all its nodes are restored as
their components build them, and of its connections those that fit.
-/

namespace VisualScript

/-! ## Nodes as their components build them -/

namespace Node

/-- Which node it is, what it is an instance of and where it stands. -/
def place (node : Node) : NodeId × String × Option Position := (node.id, node.name, node.position)

theorem place_foldl {α : Type} {add : Node → α → Node}
    (h : ∀ node item, (add node item).place = node.place) (items : List α) (node : Node) :
    (items.foldl add node).place = node.place :=
  List.foldlRecOn (motive := fun changed : Node => changed.place = node.place) _ _ rfl
    fun changed hchanged item _ => (h changed item).trans hchanged

theorem place_addOperand (typeOf? : String → Option LanguageType) (node : Node)
    (argument : Argument) :
    (addOperand typeOf? node argument).place = node.place := by
  unfold addOperand
  split
  next => rfl
  next =>
    dsimp only
    split
    next => rfl
    next => rfl

theorem place_addCall (typeOf? : String → Option LanguageType) (function : Callable)
    (node : Node) :
    (node.addCall typeOf? function).place = node.place := by
  unfold addCall
  refine (place_foldl (place_addOperand typeOf?) _ _).trans ?_
  have heffect : ∀ node : Node, place (if function.hasEffect then
      node.addFlowIn.addFlowOut keys.flowOut else node) = node.place := by
    intro node
    split
    next => rfl
    next => rfl
  refine (heffect _).trans ?_
  cases typeOf? function.result with
  | none => rfl
  | some type =>
      dsimp only
      split
      next => rfl
      next => rfl

end Node

/-- Building a node leaves it in its place. -/
theorem ComponentKind.place_build (kind : ComponentKind) (registry : Registry) (node : Node) :
    (kind.build registry node).place = node.place := by
  cases kind with
  | literal name =>
      rw [build]
      split
      next => rfl
      next => rfl
  | call function => exact Node.place_addCall registry.get? function node
  | sequence => exact Node.place_foldl (by intro _ _; rfl) ..
  | definition => exact Node.place_foldl (by intro _ _; rfl) ..
  | _ => rfl

/-- A node of a file without ports. -/
def FileNode.bare (file : FileNode) : Node :=
  { id := ⟨file.id⟩, name := file.name, data := file.data, position := file.position }

namespace Language

variable {language : Language}

theorem place_restoreNode (language : Language) (file : FileNode) :
    (language.restoreNode file).place = (⟨file.id⟩, file.name, file.position) := by
  unfold restoreNode
  dsimp only
  split
  next component _ => exact component.kind.place_build ..
  next => rfl

/-- A node of a known component is built as the component says. -/
theorem restoreNode_eq_build {kind : ComponentKind} {file : FileNode}
    (hkind : language.kindOf? (language.restoreNode file).name = some kind) :
    language.restoreNode file = kind.build language.registry file.bare := by
  have hname : (language.restoreNode file).name = file.name :=
    congrArg (fun place => place.2.1) (language.place_restoreNode file)
  rw [hname] at hkind
  obtain ⟨component, hcomponent, rfl⟩ := Option.map_eq_some_iff.mp hkind
  unfold restoreNode
  simp only [hcomponent]
  rfl

theorem furnishes_restoreNode (language : Language) (file : FileNode) :
    language.Furnishes (language.restoreNode file) := by
  intro kind hkind
  rw [restoreNode_eq_build hkind]
  exact kind.furnishes_build _ rfl rfl

end Language

/-! ## Inserting nodes and making connections -/

namespace Language

variable {language : Language}

/-- Nodes are inserted one after another unless one has the identity of another. -/
theorem foldlM_insert_cases (language : Language) (files : List FileNode) {graph : Graph}
    (hdistinct : (graph.nodes.map Node.id).Nodup) :
    let run := files.foldlM (fun graph node => graph.insert (language.restoreNode node)) graph
    (∃ made, run = .ok made ∧ made.nodes = graph.nodes ++ files.map language.restoreNode ∧
        made.connections = graph.connections ∧ (made.nodes.map Node.id).Nodup) ∨
      ∃ id, run = .error (.duplicateNode id) ∧
        List.Duplicate id (graph.nodes.map Node.id ++ files.map fun file => ⟨file.id⟩) := by
  dsimp only
  induction files generalizing graph with
  | nil => exact .inl ⟨graph, rfl, by simp, rfl, hdistinct⟩
  | cons file rest ih =>
      have hid : (language.restoreNode file).id = ⟨file.id⟩ :=
        congrArg Prod.fst (language.place_restoreNode file)
      rw [List.foldlM_cons]
      cases hinsert : graph.insert (language.restoreNode file) with
      | error reason =>
          unfold Graph.insert at hinsert
          split at hinsert
          next htaken =>
            cases hinsert
            refine .inr ⟨⟨file.id⟩, hid ▸ rfl, List.duplicate_iff_sublist.mpr ?_⟩
            obtain ⟨node, hnode⟩ := Option.isSome_iff_exists.mp htaken
            have hmem : (⟨file.id⟩ : NodeId) ∈ graph.nodes.map Node.id :=
              List.mem_map.mpr ⟨node, Graph.mem_of_node? hnode, (Graph.id_of_node? hnode).trans hid⟩
            exact (List.singleton_sublist.mpr hmem).append
              (List.singleton_sublist.mpr (List.mem_cons_self ..))
          next => cases hinsert
      | ok changed =>
          obtain ⟨hfresh, hnodes, hconnections⟩ := Graph.ok_insert hinsert
          have hids : changed.nodes.map Node.id = graph.nodes.map Node.id ++ [⟨file.id⟩] := by
            rw [hnodes, List.map_append, List.map_singleton, hid]
          have hchanged : (changed.nodes.map Node.id).Nodup := by
            rw [hids, ← hid]
            refine hdistinct.append (List.nodup_singleton _) (List.disjoint_singleton.mpr ?_)
            intro hmem
            obtain ⟨node, hnode, heq⟩ := List.mem_map.mp hmem
            simpa [heq] using List.find?_eq_none.mp hfresh node hnode
          rcases ih hchanged with ⟨made, hmade, hrest, hsame, hlast⟩ | ⟨id, herror, htwice⟩
          · refine .inl ⟨made, hmade, ?_, hsame.trans hconnections, hlast⟩
            rw [hrest, hnodes, List.append_assoc, List.map_cons]
            rfl
          · refine .inr ⟨id, herror, ?_⟩
            rw [hids, List.append_assoc] at htwice
            exact htwice

end Language

/-- A connection as a file tells it. -/
def Connection.link (connection : Connection) : Link :=
  ⟨connection.source, connection.output, connection.target, connection.input⟩

/-- The connections that are made follow each other as the links of the file do. -/
theorem Language.restoreLinks_made (links : List Link) {graph : Graph} (h : graph.Intact) :
    (restoreLinks links graph).2.Intact ∧
      (restoreLinks links graph).2.nodes = graph.nodes ∧
      ∃ made, (restoreLinks links graph).2.connections = graph.connections ++ made ∧
        (made.map Connection.link).Sublist links := by
  induction links generalizing graph with
  | nil => exact ⟨h, rfl, [], (List.append_nil _).symm, .refl _⟩
  | cons link rest ih =>
      rw [restoreLinks]
      split
      next connection changed hmade =>
        obtain ⟨_, _, _, _, _, hnodes, hconnections⟩ := Graph.ok_connect hmade
        obtain ⟨hintact, hrest, made, hmore, hsub⟩ := ih (h.connect hmade)
        refine ⟨hintact, hrest.trans hnodes,
          ⟨graph.lastConnection + 1, link.source, link.output, link.target, link.input⟩ :: made,
          ?_, hsub.cons_cons link⟩
        rw [hmore, hconnections, List.append_assoc]
        rfl
      next =>
        obtain ⟨hintact, hrest, made, hmore, hsub⟩ := ih h
        exact ⟨hintact, hrest, made, hmore, hsub.cons link⟩

/-! ## What is restored -/

namespace Language

variable {language : Language} {document : String} {file : EditorFile}

/-- The graph of a file before its nodes are fitted. -/
def assemble (language : Language) (file : EditorFile) : Except GraphError Graph :=
  (language.restoreNodes file).map fun graph => (restoreLinks file.links graph).2

/-- A graph has the nodes of a file as they were built, and connections that could be made. -/
structure Assembles (language : Language) (file : EditorFile) (graph : Graph) : Prop where
  nodes : graph.nodes = file.nodes.values.map language.restoreNode
  distinct : (graph.nodes.map Node.id).Nodup
  intact : graph.Intact
  links : (graph.connections.map Connection.link).Sublist file.links

/-- What a graph has of the file that it is restored from. -/
structure Restores (language : Language) (file : EditorFile) (graph : Graph) : Prop where
  /-- The nodes of the file, each in its place. -/
  places : graph.nodes.map Node.place =
    file.nodes.values.map fun node => (⟨node.id⟩, node.name, node.position)
  /-- Apart from the types that are handed on, they are as their components build them. -/
  frames : graph.nodes.map Node.frame =
    file.nodes.values.map fun node => (language.restoreNode node).frame
  links : (graph.connections.map Connection.link).Sublist file.links
  joined : graph.Joined
  /-- A link to a port that is not there is not restored. -/
  absent : ∀ link ∈ file.links, graph.output? link.source link.output = none ∨
    graph.input? link.target link.input = none → link ∉ graph.connections.map Connection.link

theorem restore_error {reason : GraphError} (h : language.restoreNodes file = .error reason) :
    language.restore file = .error (.refused reason) := by
  unfold restore
  rw [h]
  rfl

theorem restore_ok {inserted graph : Graph} (h : language.restoreNodes file = .ok inserted)
    (hsynced : language.syncKnown (restoreLinks file.links inserted).2.nodes
      (restoreLinks file.links inserted).2 = .ok graph) :
    language.restore file =
      .ok (graph, language.unknownNodes file ++ (restoreLinks file.links inserted).1) := by
  unfold restore
  rw [h]
  change (language.syncKnown (restoreLinks file.links inserted).2.nodes
    (restoreLinks file.links inserted).2 >>= _) = _
  rw [hsynced]
  rfl

/-- A file is refused for two nodes with one identity. Otherwise a graph is assembled, and its
nodes are fitted in one sweep. -/
theorem restore_cases (language : Language) (file : EditorFile) :
    (∃ assembled graph notices, language.restore file = .ok (graph, notices) ∧
        language.assemble file = .ok assembled ∧ language.Assembles file assembled ∧
        Sweep language.registry (language.visits assembled.nodes) assembled graph ∧
        ∀ node ∈ assembled.nodes, ∀ kind fitted, language.kindOf? node.name = some kind →
          graph.node? node.id = some fitted → kind.IsNoted fitted) ∨
      ∃ id, language.restore file = .error (.refused (.duplicateNode ⟨id⟩)) ∧
        List.Duplicate id (file.nodes.values.map FileNode.id) := by
  rcases @language.foldlM_insert_cases file.nodes.values .empty List.nodup_nil with
    ⟨inserted, hinserted, hnodes, hconnections, hdistinct⟩ | ⟨⟨id⟩, herror, htwice⟩
  · have hempty : inserted.Intact := by
      have hnone : inserted.connections = [] := hconnections
      refine ⟨fun connection hmem => ?_, hnone ▸ .nil, fun connection hmem => ?_⟩
      · rw [hnone] at hmem
        cases hmem
      · rw [hnone] at hmem
        cases hmem
    obtain ⟨hintact, hsame, made, hmade, hsub⟩ := restoreLinks_made file.links hempty
    have hassembles : language.Assembles file (restoreLinks file.links inserted).2 := by
      refine ⟨hsame.trans hnodes, hsame ▸ hdistinct, hintact, ?_⟩
      rw [hmade, hconnections]
      exact hsub
    obtain ⟨graph, hsynced, hsweep, _, hnoted⟩ := @exists_syncKnown language _ _
      (fun node hmem => Graph.node?_of_nodup hassembles.distinct hmem) hassembles.distinct
      fun node hmem => by
        rw [hassembles.nodes] at hmem
        obtain ⟨fileNode, _, rfl⟩ := List.mem_map.mp hmem
        exact language.furnishes_restoreNode fileNode
    have hassembled : language.assemble file = .ok (restoreLinks file.links inserted).2 := by
      unfold assemble
      rw [show language.restoreNodes file = .ok inserted from hinserted]
      rfl
    exact .inl ⟨_, graph, _, restore_ok hinserted hsynced, hassembled, hassembles, hsweep, hnoted⟩
  · refine .inr ⟨id, restore_error herror, List.duplicate_iff_sublist.mpr ?_⟩
    have hnumbers := (List.duplicate_iff_sublist.mp htwice).map NodeId.number
    simpa [Graph.empty, Function.comp_def] using hnumbers

theorem Assembles.nodup {assembled : Graph} (h : language.Assembles file assembled) :
    (file.nodes.values.map FileNode.id).Nodup := by
  have hids : assembled.nodes.map Node.id =
      (file.nodes.values.map FileNode.id).map NodeId.mk := by
    rw [h.nodes, List.map_map, List.map_map]
    exact List.map_congr_left fun node _ => congrArg Prod.fst (language.place_restoreNode node)
  exact (hids ▸ h.distinct).of_map _

/-- What a sweep leaves of the graph that was assembled. -/
theorem Assembles.restores {assembled graph : Graph} {visits : List (NodeId × Handover)}
    (h : language.Assembles file assembled)
    (hsweep : Sweep language.registry visits assembled graph) : language.Restores file graph := by
  have hframes : graph.nodes.map Node.frame =
      file.nodes.values.map fun node => (language.restoreNode node).frame := by
    rw [hsweep.refits.frames, h.nodes, List.map_map]
    rfl
  have hjoined := hsweep.trims.joined h.intact.joined
  refine ⟨?_, hframes, (hsweep.refits.connections.map _).trans h.links, hjoined, ?_⟩
  · have hplaces := congrArg (List.map Node.place) hframes
    rw [List.map_map, List.map_map] at hplaces
    refine hplaces.trans (List.map_congr_left fun node _ => ?_)
    exact language.place_restoreNode node
  · intro link _ hmissing hmem
    obtain ⟨connection, hconnection, rfl⟩ := List.mem_map.mp hmem
    obtain ⟨output, input, houtput, hinput, _⟩ := hjoined connection hconnection
    rcases hmissing with hnone | hnone
    · cases houtput.symm.trans hnone
    · cases hinput.symm.trans hnone

theorem load_eq_restore (hfile : EditorFile.parse document = .ok file) :
    language.load document = language.restore file := by
  unfold load
  rw [hfile]
  rfl

/-- A graph that is loaded comes from the one that was assembled by a sweep over its nodes, in
which the names of types are noted. -/
theorem sweep_of_load {assembled graph : Graph} {notices : List RestoreNotice}
    (hfile : EditorFile.parse document = .ok file)
    (hassembled : language.assemble file = .ok assembled)
    (hload : language.load document = .ok (graph, notices)) :
    language.Assembles file assembled ∧
      Sweep language.registry (language.visits assembled.nodes) assembled graph ∧
      ∀ node ∈ assembled.nodes, ∀ kind fitted, language.kindOf? node.name = some kind →
        graph.node? node.id = some fitted → kind.IsNoted fitted := by
  rw [load_eq_restore hfile] at hload
  rcases language.restore_cases file with
    ⟨first, last, _, hrestored, hfirst, hassembles, hsweep, hnoted⟩ | ⟨_, herror, _⟩
  · obtain rfl := (Prod.mk.inj (Except.ok.inj (hrestored.symm.trans hload))).1
    obtain rfl := Except.ok.inj (hfirst.symm.trans hassembled)
    exact ⟨hassembles, hsweep, hnoted⟩
  · cases herror.symm.trans hload

theorem eq_ok_of_toOption {ε α : Type} {answer : Except ε α} {value : α}
    (h : answer.toOption = some value) : answer = .ok value := by
  cases answer with
  | error reason => cases h
  | ok other => exact congrArg Except.ok (Option.some.inj h)

/-- Two variables, of which the first in the file takes its value from the second, and that one
from a call. The call is linked from a port that it does not have. -/
def backwardChain : String :=
  "\x7b\"nodes\":\x7b" ++
  "\"1\":\x7b\"id\":1,\"name\":\"Variable\",\"inputs\":" ++
  "\x7b\"value\":\x7b\"connections\":[\x7b\"node\":2,\"output\":\"result\"\x7d]\x7d\x7d\x7d," ++
  "\"2\":\x7b\"id\":2,\"name\":\"Variable\",\"inputs\":" ++
  "\x7b\"value\":\x7b\"connections\":[\x7b\"node\":3,\"output\":\"result\"\x7d]\x7d\x7d\x7d," ++
  "\"3\":\x7b\"id\":3,\"name\":\"next\",\"outputs\":" ++
  "\x7b\"missing\":\x7b\"connections\":[\x7b\"node\":1,\"input\":\"value\"\x7d]\x7d\x7d\x7d\x7d\x7d"

theorem parse_backwardChain : ∃ file, EditorFile.parse backwardChain = .ok file ∧
    file.nodes.values.map FileNode.id = [1, 2, 3] := by
  have hids : (EditorFile.parse backwardChain).toOption.map
      (fun file => file.nodes.values.map FileNode.id) = some [1, 2, 3] := by
    unfold EditorFile.parse Json.readDocument backwardChain
    simp only [String.toList_append]
    decide +kernel
  obtain ⟨file, hfile, hids⟩ := Option.map_eq_some_iff.mp hids
  exact ⟨file, eq_ok_of_toOption hfile, hids⟩

/-- A file is restored unless two of its nodes have one identity, which is then said. -/
theorem load_restores (hfile : EditorFile.parse document = .ok file) :
    ((file.nodes.values.map FileNode.id).Nodup → ∃ graph notices,
        language.load document = .ok (graph, notices) ∧ language.Restores file graph) ∧
      (¬ (file.nodes.values.map FileNode.id).Nodup → ∃ id,
        List.Duplicate id (file.nodes.values.map FileNode.id) ∧
          language.load document = .error (.refused (.duplicateNode ⟨id⟩))) := by
  rw [load_eq_restore hfile]
  rcases language.restore_cases file with
    ⟨assembled, graph, notices, hrestored, _, hassembles, hsweep, _⟩ | ⟨id, herror, htwice⟩
  · exact ⟨fun _ => ⟨graph, notices, hrestored, hassembles.restores hsweep⟩,
      fun htwice => absurd hassembles.nodup htwice⟩
  · exact ⟨fun hdistinct => absurd hdistinct htwice.not_nodup, fun _ => ⟨id, htwice, herror⟩⟩

theorem load_restores_backwardChain : ∃ file graph notices,
    EditorFile.parse backwardChain = .ok file ∧
      counting.load backwardChain = .ok (graph, notices) ∧ counting.Restores file graph := by
  obtain ⟨file, hfile, hids⟩ := parse_backwardChain
  obtain ⟨graph, notices, hload, hrestores⟩ :=
    (@load_restores counting _ _ hfile).1 (hids ▸ by decide)
  exact ⟨file, graph, notices, hfile, hload, hrestores⟩

end Language

end VisualScript
