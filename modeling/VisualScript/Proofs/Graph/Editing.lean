import VisualScript.Proofs.Graph.Fitting

/-!
# Edits of graphs that fit

No edit that goes through a language breaks the fit of a graph: nodes keep the name
of their component, and a connection is only made between ports of one sort.
-/

namespace VisualScript

variable {language : Language} {graph : Graph}

theorem Connection.Fits.of_kind? {changed : Graph} {connection : Connection}
    (h : connection.Fits language graph)
    (hsource : language.kind? changed connection.source = language.kind? graph connection.source)
    (htarget : language.kind? changed connection.target = language.kind? graph connection.target) :
    connection.Fits language changed := by
  obtain ⟨producer, consumer, hproducer, hconsumer, hoffers, hflow⟩ := h
  exact ⟨producer, consumer, hsource.trans hproducer, htarget.trans hconsumer, hoffers, hflow⟩

theorem Language.kindOf?_of_kind? {id : NodeId} {kind : ComponentKind} {node : Node}
    (h : language.kind? graph id = some kind) (hnode : graph.node? id = some node) :
    language.kindOf? node.name = some kind := by
  rw [kind?, hnode] at h
  exact h

namespace Graph

theorem ok_requirePort {id : NodeId} {key : String} {ports : Node → OrderedMap String Port}
    {port : Port} (h : graph.requirePort id key ports = .ok port) :
    ∃ node, graph.node? id = some node ∧ (ports node).get? key = some port := by
  unfold requirePort at h
  split at h
  next => cases h
  next node hnode =>
    split at h
    next => cases h
    next found hfound =>
      cases h
      exact ⟨node, hnode, hfound⟩

/-- A node that is inserted has an identity that no other node has, and comes last. -/
theorem eq_of_insert {node : Node} {changed : Graph} (h : graph.insert node = .ok changed) :
    graph.node? node.id = none ∧
      changed = { graph with
        nodes := graph.nodes ++ [node]
        lastNode := max graph.lastNode node.id.number } := by
  unfold insert at h
  split at h
  next => cases h
  next hfresh =>
    cases h
    rw [Bool.not_eq_true, Option.isSome_eq_false_iff, Option.isNone_iff_eq_none] at hfresh
    exact ⟨hfresh, rfl⟩

theorem ok_insert {node : Node} {changed : Graph} (h : graph.insert node = .ok changed) :
    graph.node? node.id = none ∧ changed.nodes = graph.nodes ++ [node] ∧
      changed.connections = graph.connections := by
  obtain ⟨hfresh, rfl⟩ := eq_of_insert h
  exact ⟨hfresh, rfl, rfl⟩

/-- A connection that is made joins ports that are there, and has the next number. -/
theorem eq_of_connect {source target : NodeId} {output input : String} {made : Connection × Graph}
    (h : graph.connect source output target input = .ok made) :
    ∃ producer consumer, graph.requirePort source output Node.outputs = .ok producer ∧
      graph.requirePort target input Node.inputs = .ok consumer ∧
      producer.socket.feeds consumer.socket = true ∧
      made.2 = { graph with
        connections := graph.connections ++
          [⟨graph.lastConnection + 1, source, output, target, input⟩]
        lastConnection := graph.lastConnection + 1 } := by
  unfold connect at h
  cases hproducer : graph.requirePort source output Node.outputs with
  | error reason =>
      rw [hproducer] at h
      cases h
  | ok producer =>
      cases hconsumer : graph.requirePort target input Node.inputs with
      | error reason =>
          rw [hproducer, hconsumer] at h
          cases h
      | ok consumer =>
          rw [hproducer, hconsumer] at h
          refine ⟨producer, consumer, rfl, rfl, ?_⟩
          cases hfeeds : producer.socket.feeds consumer.socket with
          | false =>
              simp only [bind, Except.bind, hfeeds] at h
              cases h
          | true =>
              simp only [bind, Except.bind, hfeeds] at h
              cases h
              exact ⟨rfl, rfl⟩

theorem ok_connect {source target : NodeId} {output input : String} {made : Connection × Graph}
    (h : graph.connect source output target input = .ok made) :
    ∃ producer consumer, graph.requirePort source output Node.outputs = .ok producer ∧
      graph.requirePort target input Node.inputs = .ok consumer ∧
      producer.socket.feeds consumer.socket = true ∧
      made.2.nodes = graph.nodes ∧
      made.2.connections = graph.connections ++
        [⟨graph.lastConnection + 1, source, output, target, input⟩] := by
  obtain ⟨producer, consumer, hproducer, hconsumer, hfeeds, hmade⟩ := eq_of_connect h
  rw [hmade]
  exact ⟨producer, consumer, hproducer, hconsumer, hfeeds, rfl, rfl⟩

theorem find?_map_modify {nodes : List Node} {id other : NodeId} {change : Node → Node}
    (h : ∀ node ∈ nodes, node.id = id → (change node).id = node.id) :
    (nodes.map fun node => if node.id = id then change node else node).find? (·.id = other) =
      (nodes.find? (·.id = other)).map fun node => if node.id = id then change node else node := by
  induction nodes with
  | nil => rfl
  | cons node rest ih =>
      have hid : (if node.id = id then change node else node).id = node.id := by
        split
        next heq => exact h node (List.mem_cons_self ..) heq
        next => rfl
      rw [List.map_cons, List.find?_cons, List.find?_cons, hid]
      split
      next => rfl
      next => exact ih fun node hnode => h node (List.mem_cons_of_mem _ hnode)

theorem node?_modifyNode {id : NodeId} {change : Node → Node} (other : NodeId)
    (h : ∀ node ∈ graph.nodes, node.id = id → (change node).id = node.id) :
    (graph.modifyNode id change).node? other =
      (graph.node? other).map fun node => if node.id = id then change node else node :=
  find?_map_modify h

/-- Where identities are distinct, a node is found under its own. -/
theorem node?_of_nodup (hdistinct : (graph.nodes.map Node.id).Nodup) {node : Node}
    (hmem : node ∈ graph.nodes) : graph.node? node.id = some node := by
  unfold node?
  generalize graph.nodes = nodes at hmem hdistinct
  induction nodes with
  | nil => cases hmem
  | cons first rest ih =>
      rw [List.map_cons, List.nodup_cons] at hdistinct
      rcases List.mem_cons.mp hmem with rfl | hrest
      · simp
      · have hne : first.id ≠ node.id := fun heq =>
          hdistinct.1 (heq ▸ List.mem_map_of_mem hrest)
        rw [List.find?_cons_of_neg (by simpa using hne)]
        exact ih hrest hdistinct.2

namespace Fits

theorem node?_of_mem (h : graph.Fits language) {node : Node} (hmem : node ∈ graph.nodes) :
    graph.node? node.id = some node :=
  node?_of_nodup h.distinct hmem

theorem empty : Graph.empty.Fits language where
  nodes := by
    intro node hmem
    cases hmem
  connections := by
    intro connection hmem
    cases hmem
  distinct := List.nodup_nil

theorem insert {node : Node} {changed : Graph} (h : graph.Fits language)
    (hnode : node.Fits language) (hinsert : graph.insert node = .ok changed) :
    changed.Fits language := by
  obtain ⟨hfresh, hnodes, hconnections⟩ := ok_insert hinsert
  have hold : ∀ {id kind}, language.kind? graph id = some kind →
      language.kind? changed id = some kind := by
    intro id kind hkind
    obtain ⟨found, hfound, hknown⟩ := Option.bind_eq_some_iff.mp hkind
    refine Option.bind_eq_some_iff.mpr ⟨found, ?_, hknown⟩
    unfold node? at hfound ⊢
    rw [hnodes, List.find?_append, hfound]
    rfl
  refine ⟨?_, ?_, ?_⟩
  · intro other hmem
    rw [hnodes] at hmem
    rcases List.mem_append.mp hmem with hmem | hmem
    · exact h.nodes other hmem
    · rw [List.mem_singleton.mp hmem]
      exact hnode
  · intro connection hmem
    rw [hconnections] at hmem
    obtain ⟨producer, consumer, hproducer, hconsumer, hrest⟩ := h.connections connection hmem
    exact ⟨producer, consumer, hold hproducer, hold hconsumer, hrest⟩
  -- The identity of the new node was looked up before it was inserted.
  · rw [hnodes, List.map_append, List.nodup_append]
    refine ⟨h.distinct, by simp, ?_⟩
    intro id hid other hother heq
    obtain rfl := List.mem_singleton.mp hother
    obtain ⟨found, hfound, hfoundId⟩ := List.mem_map.mp hid
    have hnone := List.find?_eq_none.mp hfresh found hfound
    exact hnone (by simpa using hfoundId.trans heq)

/-- Fewer connections fit as well. -/
theorem of_connections (h : graph.Fits language) {connections : List Connection} {last : Nat}
    (hsub : connections ⊆ graph.connections) :
    ({ graph with connections := connections, lastConnection := last } : Graph).Fits language :=
  ⟨h.nodes, fun connection hmem => h.connections connection (hsub hmem), h.distinct⟩

theorem sever (h : graph.Fits language) (test : Connection → Bool) :
    (graph.sever test).2.Fits language :=
  h.of_connections (List.filter_sublist ..).subset

theorem disconnect (h : graph.Fits language) (number : Nat) :
    (graph.disconnect number).Fits language :=
  h.sever _

theorem remove (h : graph.Fits language) (id : NodeId) : (graph.remove id).Fits language where
  nodes := fun node hmem => h.nodes node (List.mem_filter.mp hmem).1
  connections := by
    intro connection hmem
    obtain ⟨hmem, hends⟩ := List.mem_filter.mp hmem
    simp only [Bool.and_eq_true, decide_eq_true_eq] at hends
    -- The ends of the connections that are left are other nodes, which are found as before.
    have hkept : ∀ {other : NodeId}, other ≠ id →
        language.kind? (graph.remove id) other = language.kind? graph other := by
      intro other hne
      unfold Language.kind? node? Graph.remove
      rw [List.find?_filter]
      congr 2
      funext node
      by_cases heq : node.id = other
      · simp [heq, hne]
      · simp [heq]
    exact (h.connections connection hmem).of_kind? (hkept hends.1) (hkept hends.2)
  distinct := (h.distinct.sublist ((List.filter_sublist (l := graph.nodes)).map Node.id))

theorem connect {source target : NodeId} {output input : String} {made : Connection × Graph}
    (h : graph.Fits language) (hmade : graph.connect source output target input = .ok made) :
    made.2.Fits language := by
  obtain ⟨producer, consumer, hproducer, hconsumer, hfeeds, hnodes, hconnections⟩ :=
    ok_connect hmade
  obtain ⟨from_, hfrom, houtput⟩ := ok_requirePort hproducer
  obtain ⟨to_, hto, hinput⟩ := ok_requirePort hconsumer
  obtain ⟨kind, hkind, hoffers, hflowsOut⟩ := (h.nodes _ (mem_of_node? hfrom)).outputs houtput
  obtain ⟨other, hother, hflowsIn⟩ := (h.nodes _ (mem_of_node? hto)).inputs hinput
  have hsame : ∀ id, language.kind? made.2 id = language.kind? graph id := by
    intro id
    unfold Language.kind? node?
    rw [hnodes]
  refine ⟨hnodes ▸ h.nodes, ?_, hnodes ▸ h.distinct⟩
  intro connection hmem
  rw [hconnections] at hmem
  rcases List.mem_append.mp hmem with hmem | hmem
  · exact (h.connections connection hmem).of_kind? (hsame _) (hsame _)
  · obtain rfl := List.mem_singleton.mp hmem
    refine ⟨kind, other, ?_, ?_, hoffers, ?_⟩
    · rw [hsame, Language.kind?, hfrom]
      exact hkind
    · rw [hsame, Language.kind?, hto]
      exact hother
    -- The sockets feed each other, so both are for the flow or both are for values.
    · rw [← hflowsOut, ← hflowsIn]
      exact Socket.isFlow_eq_of_feeds hfeeds

/-- A change that keeps what the component of a node gives keeps the fit. -/
theorem modifyNode (h : graph.Fits language) {id : NodeId} {change : Node → Node}
    (hkeeps : ∀ node, graph.node? id = some node → Node.Keeps language node (change node)) :
    (graph.modifyNode id change).Fits language ∧
      ∀ other, language.kind? (graph.modifyNode id change) other = language.kind? graph other := by
  have hchanged : ∀ node ∈ graph.nodes, node.id = id → Node.Keeps language node (change node) := by
    intro node hmem heq
    exact hkeeps node (heq ▸ h.node?_of_mem hmem)
  have hkind : ∀ other,
      language.kind? (graph.modifyNode id change) other = language.kind? graph other := by
    intro other
    unfold Language.kind?
    rw [node?_modifyNode other fun node hmem heq => (hchanged node hmem heq).id]
    cases hnode : graph.node? other with
    | none => rfl
    | some node =>
        rw [Option.map_some, Option.bind_some, Option.bind_some]
        split
        next heq => rw [(hchanged node (mem_of_node? hnode) heq).name]
        next => rfl
  refine ⟨⟨?_, ?_, ?_⟩, hkind⟩
  · intro node hmem
    obtain ⟨old, hold, rfl⟩ := List.mem_map.mp hmem
    split
    next heq => exact (hchanged old hold heq).fits
    next => exact h.nodes old hold
  · intro connection hmem
    exact (h.connections connection hmem).of_kind? (hkind _) (hkind _)
  · have hids : (graph.modifyNode id change).nodes.map Node.id = graph.nodes.map Node.id := by
      unfold Graph.modifyNode
      rw [List.map_map, List.map_inj_left]
      intro node hmem
      rw [Function.comp_apply]
      split
      next heq => exact (hchanged node hmem heq).id
      next => rfl
    rw [hids]
    exact h.distinct

theorem removeInput (h : graph.Fits language) (id : NodeId) (key : String) :
    (graph.removeInput id key).2.Fits language ∧
      ∀ other, language.kind? (graph.removeInput id key).2 other = language.kind? graph other := by
  have hsevered := h.sever fun c => c.target = id && c.input = key
  refine hsevered.modifyNode fun node hnode => ?_
  exact ⟨rfl, rfl, (h.nodes node (mem_of_node? hnode)).eraseInput key⟩

theorem removeOutput (h : graph.Fits language) (id : NodeId) (key : String) :
    (graph.removeOutput id key).2.Fits language ∧
      ∀ other, language.kind? (graph.removeOutput id key).2 other = language.kind? graph other := by
  have hsevered := h.sever fun c => c.source = id && c.output = key
  refine hsevered.modifyNode fun node hnode => ?_
  exact ⟨rfl, rfl, (h.nodes node (mem_of_node? hnode)).eraseOutput key⟩

theorem setOutputSocket {id : NodeId} {kind : ComponentKind} {key : String} {socket : Socket}
    {made : List Connection × Graph} (h : graph.Fits language)
    (hkind : language.kind? graph id = some kind) (hflow : kind.flowsOut key = false)
    (hsocket : socket.isFlow = false) (hmade : graph.setOutputSocket id key socket = .ok made) :
    made.2.Fits language ∧ ∀ other, language.kind? made.2 other = language.kind? graph other := by
  unfold Graph.setOutputSocket at hmade
  cases hport : graph.requirePort id key Node.outputs with
  | error reason =>
      rw [hport] at hmade
      cases hmade
  | ok port =>
      simp only [hport, bind, Except.bind] at hmade
      split at hmade
      next =>
        cases hmade
        exact ⟨h, fun _ => rfl⟩
      next =>
        cases hmade
        have hretyped := @modifyNode language graph h id
          (fun node => { node with
            outputs := node.outputs.modify key fun port => { port with socket := socket } })
          fun node hnode => ⟨rfl, rfl, (h.nodes node (mem_of_node? hnode)).retype
            (Language.kindOf?_of_kind? hkind hnode) hflow hsocket⟩
        exact ⟨hretyped.1.sever _, hretyped.2⟩

end Fits

end Graph

/-! ## Runs of edits -/

namespace Editing

variable {α β : Type} {inv : Graph → Prop} {result : α → Prop} {kind : ComponentKind}
  {id : NodeId}

/-- A run of edits keeps an invariant, whether it is refused or not. What it gives
has a property. -/
def Keeps (inv : Graph → Prop) (step : Editing α) (result : α → Prop) : Prop :=
  ∀ graph, inv graph →
    inv (step.run graph).2 ∧ ∀ value, (step.run graph).1 = .ok value → result value

theorem keeps_pure {value : α} (h : result value) : Keeps inv (pure value) result := by
  intro graph hinv
  refine ⟨hinv, ?_⟩
  rintro _ ⟨⟩
  exact h

theorem run_bind (step : Editing α) (next : α → Editing β) (graph : Graph) :
    (step >>= next).run graph = match step.run graph with
      | (.ok value, graph) => (next value).run graph
      | (.error error, graph) => (.error error, graph) := by
  rw [ExceptT.run_bind]
  unfold ExceptT.run
  simp only [bind, StateT.bind]
  cases step graph with
  | mk answer changed =>
      cases answer with
      | ok value => rfl
      | error error => rfl

theorem run_bind_pure (step : Editing α) (f : α → β) (graph : Graph) :
    (step >>= fun value => pure (f value)).run graph =
      ((step.run graph).1.map f, (step.run graph).2) := by
  rw [run_bind]
  rcases step.run graph with ⟨error | value, changed⟩
  · rfl
  · rfl

theorem run_get_bind (next : Graph → Editing β) (graph : Graph) :
    (get >>= next).run graph = (next graph).run graph := rfl

theorem run_lift_bind (value : α) (next : α → Editing β) (graph : Graph) :
    (liftM (Except.ok value : Except GraphError α) >>= next : Editing β).run graph =
      (next value).run graph := rfl

theorem Keeps.bind {step : Editing α} {next : α → Editing β} {result' : β → Prop}
    (hstep : Keeps inv step result)
    (hnext : ∀ value, result value → Keeps inv (next value) result') :
    Keeps inv (step >>= next) result' := by
  intro graph hinv
  obtain ⟨hkept, hresult⟩ := hstep graph hinv
  rw [run_bind]
  rcases hcase : step.run graph with ⟨answer, changed⟩
  rw [hcase] at hkept hresult
  cases answer with
  | error error =>
      refine ⟨hkept, ?_⟩
      rintro _ ⟨⟩
  | ok value => exact hnext value (hresult value rfl) changed hkept

theorem keeps_get : Keeps inv get inv := by
  intro graph hinv
  refine ⟨hinv, ?_⟩
  rintro _ ⟨⟩
  exact hinv

theorem keeps_set {graph : Graph} (h : inv graph) : Keeps inv (set graph) fun _ => True := by
  intro _ _
  exact ⟨h, fun _ _ => trivial⟩

theorem keeps_modify {change : Graph → Graph} (h : ∀ graph, inv graph → inv (change graph)) :
    Keeps inv (modify change) fun _ => True := by
  intro graph hinv
  exact ⟨h graph hinv, fun _ _ => trivial⟩

theorem keeps_lift {answer : Except GraphError α} (h : ∀ value, answer = .ok value → result value) :
    Keeps inv (liftM answer) result := by
  intro graph hinv
  cases answer with
  | error error =>
      refine ⟨hinv, ?_⟩
      rintro _ ⟨⟩
  | ok value =>
      refine ⟨hinv, ?_⟩
      rintro _ ⟨⟩
      exact h value rfl

theorem keeps_throw {error : GraphError} : Keeps inv (throw error : Editing α) result := by
  intro graph hinv
  refine ⟨hinv, ?_⟩
  rintro _ ⟨⟩

theorem keeps_requireNode : Keeps inv (requireNode id) fun _ => True := by
  refine keeps_get.bind fun graph _ => ?_
  split
  next => exact keeps_pure trivial
  next => exact keeps_throw

theorem keeps_forM {items : List α} {step : α → Editing Unit}
    (h : ∀ item, Keeps inv (step item) fun _ => True) :
    Keeps inv (items.forM step) fun _ => True := by
  induction items with
  | nil => exact keeps_pure trivial
  | cons item rest ih =>
    change Keeps inv (step item >>= fun _ => rest.forM step) _
    exact (h item).bind fun _ _ => ih

theorem keeps_mapM {items : List α} {step : α → Editing β}
    (h : ∀ item, Keeps inv (step item) fun _ => True) :
    Keeps inv (items.mapM step) fun _ => True := by
  induction items with
  | nil => exact keeps_pure trivial
  | cons item rest ih =>
    rw [List.mapM_cons]
    exact (h item).bind fun _ _ => ih.bind fun _ _ => keeps_pure trivial

/-- The type that flows into an input is found by cutting a connection at most. -/
theorem keeps_incomingType {registry : Registry} (key : String) (selected : Option String)
    (h : ∀ graph number, inv graph → inv (graph.disconnect number)) :
    Keeps inv (incomingType registry id key selected) fun _ => True := by
  refine keeps_get.bind fun graph hinv => ?_
  split
  next => exact keeps_pure trivial
  next connection _ =>
    dsimp only
    split
    next => exact keeps_pure trivial
    next =>
      split
      next => exact keeps_pure trivial
      next => exact (keeps_set (h _ _ hinv)).bind fun _ _ => keeps_pure trivial

theorem keeps_retype {key : String} {socket : Socket}
    (h : ∀ graph made, inv graph → graph.setOutputSocket id key socket = .ok made → inv made.2) :
    Keeps inv (retype id key socket) fun _ => True := by
  refine keeps_get.bind fun graph hinv => ?_
  split
  next => exact keeps_pure trivial
  next =>
    have hset : Keeps inv (liftM (graph.setOutputSocket id key socket) : Editing _)
        fun made => inv made.2 :=
      keeps_lift fun made hmade => h graph made hinv hmade
    exact hset.bind fun made hmade => (keeps_set hmade).bind fun _ _ => keeps_pure trivial

/-! ## Fitting ports to data -/

/-- A graph fits and has a node of a kind. -/
structure FitsAt (language : Language) (id : NodeId) (kind : ComponentKind) (graph : Graph) :
    Prop where
  fits : graph.Fits language
  known : language.kind? graph id = some kind

/-- An edit that keeps the fit of the graph and the kinds of its nodes. -/
theorem FitsAt.edited {changed : Graph} (h : FitsAt language id kind graph)
    (hedited : changed.Fits language ∧
      ∀ other, language.kind? changed other = language.kind? graph other) :
    FitsAt language id kind changed :=
  ⟨hedited.1, (hedited.2 id).trans h.known⟩

theorem keeps_modifyNode {change : Node → Node}
    (h : ∀ node : Node, language.kindOf? node.name = some kind → node.Fits language →
      node.Keeps language (change node)) :
    Keeps (FitsAt language id kind) (modifyNode id change) fun _ => True := by
  refine keeps_modify fun graph hfits => hfits.edited (hfits.fits.modifyNode fun node hnode => ?_)
  exact h node (Language.kindOf?_of_kind? hfits.known hnode)
    (hfits.fits.nodes node (Graph.mem_of_node? hnode))

theorem isFlow_socketOf (registry : Registry) (type : Option LanguageType) :
    (socketOf registry type).isFlow = false := by
  cases type with
  | none => exact registry.isFlow_anySocket
  | some type => exact type.isFlow_socket

theorem FitsAt.keeps_incomingType {registry : Registry} (key : String)
    (selected : Option String) :
    Keeps (FitsAt language id kind) (incomingType registry id key selected) fun _ => True :=
  Editing.keeps_incomingType key selected fun _ _ hfits =>
    ⟨hfits.fits.disconnect _, hfits.known⟩

theorem FitsAt.keeps_retype {key : String} {socket : Socket} (hflow : kind.flowsOut key = false)
    (hsocket : socket.isFlow = false) :
    Keeps (FitsAt language id kind) (retype id key socket) fun _ => True :=
  Editing.keeps_retype fun _ _ hfits hmade =>
    hfits.edited (hfits.fits.setOutputSocket hfits.known hflow hsocket hmade)

theorem keeps_syncSequence :
    Keeps (FitsAt language id .sequence) (syncSequence id) fun _ => True := by
  refine keeps_requireNode.bind fun node _ => ?_
  have hadd : Keeps (FitsAt language id .sequence) (modifyNode id (·.addExits
      (numberedCount keys.exit node.outputs) (node.count keys.exitCount))) fun _ => True :=
    keeps_modifyNode fun node hkind hfits => (Node.Keeps.refl hfits).addExits hkind _ _
  refine hadd.bind fun _ _ => ?_
  refine (keeps_forM fun index => ?_).bind fun _ _ => keeps_pure trivial
  exact keeps_modify fun graph hfits => hfits.edited (hfits.fits.removeOutput id _)

theorem keeps_syncArgument {registry : Registry} (index : Nat) :
    Keeps (FitsAt language id .definition) (syncArgument registry id index) fun _ => True := by
  refine keeps_get.bind fun graph _ => ?_
  refine (FitsAt.keeps_incomingType _ _).bind fun incoming _ => ?_
  refine (FitsAt.keeps_retype ?_ (isFlow_socketOf registry incoming.1)).bind fun _ _ =>
    keeps_pure trivial
  exact decide_eq_false (numbered_exit_ne_flowOut index)

theorem keeps_syncFunction :
    Keeps (FitsAt language id .definition) (syncFunction language.registry id) fun _ => True := by
  refine keeps_requireNode.bind fun node _ => ?_
  have hadd : Keeps (FitsAt language id .definition) (modifyNode id
      (·.addArguments language.registry (numberedCount keys.argument node.inputs)
        (node.count keys.argumentCount))) fun _ => True :=
    keeps_modifyNode fun node hkind hfits => (Node.Keeps.refl hfits).addArguments hkind _ _
  refine hadd.bind fun _ _ => ?_
  refine (keeps_forM fun index => ?_).bind fun _ _ => ?_
  · refine (keeps_modify fun graph hfits => ?_).bind fun _ _ => keeps_modify fun graph hfits => ?_
    · exact hfits.edited (hfits.fits.removeInput id _)
    · exact hfits.edited (hfits.fits.removeOutput id _)
  · refine (keeps_mapM fun index => keeps_syncArgument index).bind fun synced _ => ?_
    refine (keeps_modifyNode ?_).bind fun _ _ => keeps_pure trivial
    intro node _ hfits
    exact (Node.Keeps.refl hfits).setData _

theorem keeps_syncVariable {registry : Registry} :
    Keeps (FitsAt language id .localVariable) (syncVariable registry id) fun _ => True := by
  refine keeps_requireNode.bind fun node _ => ?_
  refine (FitsAt.keeps_incomingType _ _).bind fun incoming _ => ?_
  refine (FitsAt.keeps_retype rfl (isFlow_socketOf registry incoming.1)).bind fun _ _ => ?_
  refine (keeps_modifyNode ?_).bind fun _ _ => keeps_pure trivial
  intro node _ hfits
  exact (Node.Keeps.refl hfits).setData _

end Editing

/-- Fitting the ports of a node to its data keeps the fit of the graph. -/
theorem ComponentKind.keeps_sync (kind : ComponentKind) (id : NodeId) :
    Editing.Keeps (Editing.FitsAt language id kind) (kind.sync language.registry id)
      fun _ => True := by
  cases kind with
  | sequence => exact Editing.keeps_syncSequence
  | definition => exact Editing.keeps_syncFunction
  | localVariable => exact Editing.keeps_syncVariable
  | literal => exact Editing.keeps_pure trivial
  | call => exact Editing.keeps_pure trivial
  | branch => exact Editing.keeps_pure trivial
  | loop => exact Editing.keeps_pure trivial
  | code => exact Editing.keeps_pure trivial
  | topLevelCode => exact Editing.keeps_pure trivial

theorem Language.sync_fits (h : graph.Fits language) (id : NodeId) :
    (language.sync id graph).2.Fits language := by
  unfold Language.sync
  split
  next => exact h
  next node hnode =>
    split
    next => exact h
    next component hcomponent =>
      have hkind : language.kind? graph id = some component.kind := by
        rw [kind?, hnode, Option.bind_some, kindOf?]
        unfold requireComponent at hcomponent
        split at hcomponent
        next hfound =>
          cases hcomponent
          rw [hfound]
          rfl
        next => cases hcomponent
      exact (component.kind.keeps_sync id graph ⟨h, hkind⟩).1.fits

end VisualScript
