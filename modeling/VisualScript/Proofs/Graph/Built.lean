import VisualScript.Proofs.Graph.Editing
import VisualScript.Proofs.Pass.Edges
import VisualScript.Restore

/-!
# Graphs built through a language

The graphs that a language and the edits of graphs lead to from the empty one. They
fit the language, so exits lead to the flow and values are taken from nodes that have
one.
-/

namespace VisualScript

/-- The graphs that are built through a language. Edits that are refused change
nothing, apart from a refused fit of a node to its data. -/
inductive Language.Builds (language : Language) : Graph → Prop where
  | empty : Builds language .empty
  | spawn {graph} (name : String) (data : DataFields) {made} (h : Builds language graph)
      (hmade : language.spawn graph name data = .ok made) : Builds language made.2
  | load {document made} (hmade : language.load document = .ok made) : Builds language made.1
  | connect {graph} (source : NodeId) (output : String) (target : NodeId) (input : String) {made}
      (h : Builds language graph) (hmade : graph.connect source output target input = .ok made) :
      Builds language made.2
  | disconnect {graph} (number : Nat) (h : Builds language graph) :
      Builds language (graph.disconnect number)
  | remove {graph} (id : NodeId) (h : Builds language graph) : Builds language (graph.remove id)
  | edit {graph} (id : NodeId) (data : DataFields) (h : Builds language graph) :
      Builds language (graph.modifyNode id fun node => { node with data := data })
  | sync {graph} (id : NodeId) (h : Builds language graph) :
      Builds language (language.sync id graph).2

variable {language : Language} {graph : Graph}

/-! ## Every edit keeps the fit -/

/-- A node without ports fits. -/
theorem Node.fits_fresh {node : Node} (hinputs : node.inputs = .empty)
    (houtputs : node.outputs = .empty) : node.Fits language where
  outputs := by
    intro key port hget
    rw [houtputs] at hget
    cases hget
  inputs := by
    intro key port hget
    rw [hinputs] at hget
    cases hget

/-- A node that is placed is built by a component of the catalog, and has the next number. -/
theorem Language.ok_spawn {name : String} {data : DataFields} {made : NodeId × Graph}
    (hmade : language.spawn graph name data = .ok made) :
    ∃ component, language.catalog.get? name = some component ∧ made.1 = graph.nextId.1 ∧
      graph.nextId.2.insert (component.kind.build language.registry
        { id := graph.nextId.1, name := name, data := data }) = .ok made.2 := by
  unfold spawn at hmade
  cases hcomponent : language.catalog.get? name with
  | none =>
      rw [run_place_unknown hcomponent] at hmade
      cases hmade
  | some component =>
      refine ⟨component, rfl, ?_⟩
      rw [run_place_known hcomponent] at hmade
      cases hinsert : graph.nextId.2.insert (component.kind.build language.registry
          { id := graph.nextId.1, name := name, data := data }) with
      | error reason =>
          rw [hinsert] at hmade
          cases hmade
      | ok placed =>
          rw [hinsert] at hmade
          cases hmade
          exact ⟨rfl, rfl⟩

theorem Language.spawn_fits {name : String} {data : DataFields} {made : NodeId × Graph}
    (h : graph.Fits language) (hmade : language.spawn graph name data = .ok made) :
    made.2.Fits language := by
  obtain ⟨component, hcomponent, _, hinsert⟩ := ok_spawn hmade
  have hkind : language.kindOf? name = some component.kind := by
    rw [kindOf?, hcomponent]
    rfl
  have hnode : (component.kind.build language.registry
      ({ id := graph.nextId.1, name := name, data := data } : Node)).Fits language :=
    (ComponentKind.build_keeps hkind (Node.fits_fresh rfl rfl)).fits
  have hnext : graph.nextId.2.Fits language := ⟨h.nodes, h.connections, h.distinct⟩
  exact hnext.insert hnode hinsert

theorem Language.restoreNode_fits (file : FileNode) :
    (language.restoreNode file).Fits language := by
  unfold restoreNode
  dsimp only
  split
  next component hcomponent =>
    have hkind : language.kindOf? file.name = some component.kind := by
      rw [kindOf?, hcomponent]
      rfl
    exact (ComponentKind.build_keeps hkind (Node.fits_fresh rfl rfl)).fits
  next => exact Node.fits_fresh rfl rfl

/-! ### Loading a graph -/

section Loading

variable {inv : Graph → Prop}

theorem Language.foldlM_insert_keeps
    (hinsert : ∀ graph file changed, inv graph →
      graph.insert (language.restoreNode file) = .ok changed → inv changed)
    {files : List FileNode} {made : Graph} (h : inv graph)
    (hmade : files.foldlM (fun graph node => graph.insert (language.restoreNode node)) graph =
      .ok made) : inv made := by
  induction files generalizing graph with
  | nil =>
      cases hmade
      exact h
  | cons file rest ih =>
      rw [List.foldlM_cons] at hmade
      cases hinserted : graph.insert (language.restoreNode file) with
      | error error =>
          rw [hinserted] at hmade
          cases hmade
      | ok changed =>
          rw [hinserted] at hmade
          exact ih (hinsert graph file changed h hinserted) hmade

theorem Language.restoreLinks_keeps
    (hconnect : ∀ graph (link : Link) made, inv graph →
      graph.connect link.source link.output link.target link.input = .ok made → inv made.2)
    {links : List Link} (h : inv graph) : inv (restoreLinks links graph).2 := by
  induction links generalizing graph with
  | nil => exact h
  | cons link rest ih =>
      rw [restoreLinks]
      split
      next hmade => exact ih (hconnect graph link _ h hmade)
      next => exact ih h

theorem Language.syncKnown_keeps
    (hsync : ∀ graph id, inv graph → inv (language.sync id graph).2)
    {nodes : List Node} {made : Graph} (h : inv graph)
    (hmade : language.syncKnown nodes graph = .ok made) : inv made := by
  induction nodes generalizing graph with
  | nil =>
      cases hmade
      exact h
  | cons node rest ih =>
      rw [syncKnown] at hmade
      split at hmade
      next =>
        have hsynced := hsync graph node.id h
        split at hmade
        next heq =>
          rw [heq] at hsynced
          exact ih hsynced hmade
        next => cases hmade
      next => exact ih h hmade

/-- What holds of the empty graph, and is kept where a node of a file is inserted, a link is made
and a node is fitted, holds of every graph that is loaded. -/
theorem Language.load_keeps (hempty : inv .empty)
    (hinsert : ∀ graph file changed, inv graph →
      graph.insert (language.restoreNode file) = .ok changed → inv changed)
    (hconnect : ∀ graph (link : Link) made, inv graph →
      graph.connect link.source link.output link.target link.input = .ok made → inv made.2)
    (hsync : ∀ graph id, inv graph → inv (language.sync id graph).2)
    {document : String} {made : Graph × List RestoreNotice}
    (hmade : language.load document = .ok made) : inv made.1 := by
  unfold load at hmade
  cases hfile : (EditorFile.parse document).mapError LanguageError.unreadable with
  | error error =>
      rw [hfile] at hmade
      cases hmade
  | ok file =>
      simp only [hfile, bind, Except.bind, restore] at hmade
      cases hnodes : language.restoreNodes file with
      | error error =>
          rw [hnodes] at hmade
          cases hmade
      | ok inserted =>
          have hinserted : inv inserted := foldlM_insert_keeps hinsert hempty hnodes
          have hmapped : (Except.ok inserted : Except GraphError Graph).mapError
              LanguageError.refused = .ok inserted := rfl
          rw [hnodes, hmapped] at hmade
          dsimp only at hmade
          cases hsynced : language.syncKnown (restoreLinks file.links inserted).2.nodes
              (restoreLinks file.links inserted).2 with
          | error error =>
              rw [hsynced] at hmade
              cases hmade
          | ok synced =>
              rw [hsynced] at hmade
              cases hmade
              exact syncKnown_keeps hsync (restoreLinks_keeps hconnect hinserted) hsynced

end Loading

theorem Language.load_fits {document : String} {made : Graph × List RestoreNotice}
    (hmade : language.load document = .ok made) : made.1.Fits language :=
  @load_keeps language (·.Fits language) .empty
    (fun _ file _ hfits => hfits.insert (restoreNode_fits file))
    (fun _ _ _ hfits => hfits.connect) (fun _ id hfits => sync_fits hfits id) _ _ hmade

/-- The graphs that are built through a language fit it. -/
theorem Language.Builds.fits (h : language.Builds graph) : graph.Fits language := by
  induction h with
  | empty => exact .empty
  | spawn _ _ _ hmade ih => exact spawn_fits ih hmade
  | load hmade => exact load_fits hmade
  | connect _ _ _ _ _ hmade ih => exact ih.connect hmade
  | disconnect number _ ih => exact ih.disconnect number
  | remove id _ ih => exact ih.remove id
  | edit id data _ ih =>
      refine (ih.modifyNode fun node hnode => ?_).1
      exact (Node.Keeps.refl (ih.nodes node (Graph.mem_of_node? hnode))).setData data
  | sync id _ ih => exact sync_fits ih id

/-! ## Graphs that fit are wired -/

theorem Graph.mem_of_firstOutgoing? {id : NodeId} {output : String} {connection : Connection}
    (h : graph.firstOutgoing? id output = some connection) :
    connection ∈ graph.connections ∧ connection.source = id ∧ connection.output = output := by
  have hmem := List.mem_of_mem_head? h
  obtain ⟨hlisted, hends⟩ := List.mem_filter.mp hmem
  simpa [hlisted] using hends

theorem Graph.mem_of_firstIncoming? {id : NodeId} {input : String} {connection : Connection}
    (h : graph.firstIncoming? id input = some connection) :
    connection ∈ graph.connections ∧ connection.target = id ∧ connection.input = input := by
  have hmem := List.mem_of_mem_head? h
  obtain ⟨hlisted, hends⟩ := List.mem_filter.mp hmem
  simpa [hlisted] using hends

/-- The flow enters neither nodes that are emitted on demand nor top-level nodes. -/
theorem ComponentKind.inner_of_flowsIn {registry : Registry} {kind : ComponentKind}
    {key : String} (h : kind.flowsIn registry key = true) :
    kind.isOnDemand = false ∧ kind.isTopLevel = false := by
  cases kind with
  | call function =>
      rw [flowsIn, Bool.and_eq_true, Bool.and_eq_true] at h
      rw [isOnDemand, h.1.1]
      exact ⟨rfl, rfl⟩
  | literal => cases h
  | localVariable => cases h
  | definition => cases h
  | topLevelCode => cases h
  | branch => exact ⟨rfl, rfl⟩
  | loop => exact ⟨rfl, rfl⟩
  | sequence => exact ⟨rfl, rfl⟩
  | code => exact ⟨rfl, rfl⟩

namespace Language

variable {options : CompileOptions}

theorem kind?_context (id : NodeId) :
    (language.context options graph).kind? id = language.kind? graph id := by
  unfold Context.kind? Context.component? kind? kindOf?
  change ((graph.node? id).bind _).map _ = (graph.node? id).bind _
  cases graph.node? id with
  | none => rfl
  | some node => rfl

/-- Exits that emission follows are for the flow. -/
theorem flowsOut_of_exit {id : NodeId} {exit : String}
    (h : (language.context options graph).Exit id exit) :
    ∃ kind, language.kind? graph id = some kind ∧ kind.flowsOut exit = true := by
  cases h with
  | next known goesOn =>
      rename_i kind
      refine ⟨kind, kind?_context id ▸ known, ?_⟩
      cases kind with
      | literal => cases goesOn
      | localVariable => cases goesOn
      | call => rfl
      | definition => rfl
      | branch => rfl
      | loop => rfl
      | sequence => rfl
      | code => rfl
      | topLevelCode => rfl
  | thenExit known => exact ⟨.branch, kind?_context id ▸ known, rfl⟩
  | elseExit known => exact ⟨.branch, kind?_context id ▸ known, rfl⟩
  | body known => exact ⟨.loop, kind?_context id ▸ known, rfl⟩
  | item hosts => exact ⟨.sequence, kind?_context _ ▸ hosts.kind?, rfl⟩
  | inner known starts =>
      rename_i kind
      refine ⟨kind, kind?_context id ▸ known, ?_⟩
      cases kind with
      | definition => rfl
      | topLevelCode => rfl
      | literal => cases starts
      | localVariable => cases starts
      | call => cases starts
      | branch => cases starts
      | loop => cases starts
      | sequence => cases starts
      | code => cases starts

/-- Inputs whose value emission takes are for values. -/
theorem flowsIn_of_takes {id : NodeId} {key : String}
    (h : (language.context options graph).Takes id key) :
    ∃ kind, language.kind? graph id = some kind ∧
      kind.flowsIn language.registry key = false := by
  cases h with
  | argument known listed typed =>
      rename_i function argument type
      refine ⟨_, kind?_context id ▸ known, ?_⟩
      have hhides : (function.arguments.any fun other => decide (other.name = argument.name) &&
          (language.registry.get? other.type).isSome) = true := by
        rw [List.any_eq_true]
        have htyped : language.registry.get? argument.type = some type := typed
        exact ⟨argument, listed, by simp [htyped]⟩
      rw [ComponentKind.flowsIn, hhides, Bool.not_true, Bool.and_false]
  | ofBranch known => exact ⟨_, kind?_context id ▸ known, rfl⟩
  | ofLoop known => exact ⟨_, kind?_context id ▸ known, rfl⟩
  | initial known => exact ⟨_, kind?_context id ▸ known, rfl⟩

theorem exists_connection_of_feed {context : Context} {consumer source : NodeId} {key : String}
    (h : context.feed consumer key = .value source) :
    ∃ connection, connection ∈ context.graph.connections ∧ connection.source = source ∧
      connection.target = consumer ∧ connection.input = key ∧
      context.kind? source ≠ some .definition := by
  unfold Context.feed at h
  split at h
  next => cases h
  next connection hconnection =>
    obtain ⟨hmem, htarget, hinput⟩ := Graph.mem_of_firstIncoming? hconnection
    split at h
    next => cases h
    next node hnode =>
      split at h
      next =>
        split at h
        next => cases h
        next => cases h
      next hkind =>
        cases h
        refine ⟨connection, hmem, rfl, htarget, hinput, ?_⟩
        rw [Context.kind?, Context.component?, hnode]
        exact hkind

/-- In a graph that fits, values come from nodes that have one. -/
theorem delivers_of_feed (hfits : graph.Fits language) {consumer source : NodeId} {key : String}
    (htakes : (language.context options graph).Takes consumer key)
    (hfeed : (language.context options graph).feed consumer key = .value source) :
    (language.context options graph).Delivers source := by
  obtain ⟨connection, hmem, rfl, rfl, rfl, hkind⟩ := exists_connection_of_feed hfeed
  obtain ⟨taker, htaker, hvalue⟩ := flowsIn_of_takes htakes
  obtain ⟨producer, consumer, hproducer, hconsumer, hoffers, hsame⟩ :=
    hfits.connections connection hmem
  obtain rfl : taker = consumer := Option.some.inj (htaker.symm.trans hconsumer)
  have hknown : (language.context options graph).kind? connection.source = some producer :=
    (kind?_context _).trans hproducer
  have hgives : producer.flowsOut connection.output = false := hsame.trans hvalue
  cases producer with
  | literal name =>
      obtain ⟨type, htype⟩ := Option.isSome_iff_exists.mp hoffers.2
      exact .literal hknown htype
  | call function =>
      rcases hoffers with ⟨houtput, hresult⟩ | ⟨houtput, _⟩
      · refine .call hknown hresult ?_
        refine List.length_pos_of_mem (List.mem_filter.mpr ⟨hmem, ?_⟩)
        simp [houtput]
      · rw [houtput] at hgives
        cases hgives
  | localVariable => exact .localVariable hknown
  | definition => exact absurd hknown hkind
  | branch => cases hgives
  | loop => cases hgives
  | sequence => cases hgives
  | code => cases hgives
  | topLevelCode => cases hgives

/-- In a graph that fits, exits lead to nodes of the flow inside a root. -/
theorem inner_of_exit (hfits : graph.Fits language) {id : NodeId} {exit : String}
    {connection : Connection} (hexit : (language.context options graph).Exit id exit)
    (hconnection : graph.firstOutgoing? id exit = some connection) :
    ∃ kind, language.kind? graph connection.target = some kind ∧ kind.isOnDemand = false ∧
      kind.isTopLevel = false := by
  obtain ⟨hmem, rfl, rfl⟩ := Graph.mem_of_firstOutgoing? hconnection
  obtain ⟨kind, hkind, hleaves⟩ := flowsOut_of_exit hexit
  obtain ⟨producer, consumer, hproducer, hconsumer, _, hsame⟩ := hfits.connections connection hmem
  obtain rfl : kind = producer := Option.some.inj (hkind.symm.trans hproducer)
  exact ⟨consumer, hconsumer, ComponentKind.inner_of_flowsIn (hsame.symm.trans hleaves)⟩

/-- A graph that fits is wired. -/
theorem wired (hfits : graph.Fits language) : (language.context options graph).Wired where
  flows := by
    intro id exit connection hexit hconnection
    obtain ⟨kind, hkind, hflow, _⟩ := inner_of_exit hfits hexit hconnection
    exact ⟨kind, (kind?_context _).trans hkind, hflow⟩
  inner := by
    intro id exit connection hexit hconnection kind hknown
    obtain ⟨other, hkind, _, hinner⟩ := inner_of_exit hfits hexit hconnection
    rw [kind?_context, hkind] at hknown
    exact Option.some.inj hknown ▸ hinner
  delivers := delivers_of_feed hfits
  starts := by
    intro id hid
    obtain ⟨node, hnode, rfl⟩ := List.mem_map.mp hid
    obtain ⟨hmem, hstarts⟩ := List.mem_filter.mp hnode
    change (language.catalog.get? node.name).any _ = true at hstarts
    cases hcomponent : language.catalog.get? node.name with
    | none =>
        rw [hcomponent] at hstarts
        cases hstarts
    | some component =>
        rw [hcomponent] at hstarts
        refine ⟨component.kind, ?_, hstarts⟩
        rw [kind?_context, kind?, hfits.node?_of_mem hmem, Option.bind_some, kindOf?, hcomponent]
        rfl
  distinct := by
    have hsub : (graph.nodes.filter fun node =>
        (language.catalog.get? node.name).any (·.kind.isTopLevel)).Sublist graph.nodes :=
      List.filter_sublist
    exact hfits.distinct.sublist (hsub.map Node.id)

end Language

end VisualScript
