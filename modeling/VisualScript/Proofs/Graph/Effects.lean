import VisualScript.Proofs.Graph.Sweep
import Mathlib.Data.List.Forall2

/-!
# What a fit changes

A fit stays with its node: all it does to the rest of a graph is to cut connections at the node.
It tells whether the node's ports or the connections are others than before. A fit that is
refused breaks off where an output is missing, and leaves what it has done until then.
-/

namespace VisualScript

/-! ## What a fit stays with -/

/-- What a node was before another node or the node itself was fitted: ports may be other ones,
and the names of types that the data notes. -/
structure Node.Spared (id : NodeId) (node after : Node) : Prop where
  identity : after.id = node.id
  name : after.name = node.name
  position : after.position = node.position
  data : after.data.erase keys.typeName = node.data.erase keys.typeName
  elsewhere : node.id ≠ id → after = node

namespace Node.Spared

variable {id : NodeId} {node middle after : Node}

theorem refl (id : NodeId) (node : Node) : node.Spared id node := ⟨rfl, rfl, rfl, rfl, fun _ => rfl⟩

theorem trans (h : node.Spared id middle) (hlast : middle.Spared id after) :
    node.Spared id after where
  identity := hlast.identity.trans h.identity
  name := hlast.name.trans h.name
  position := hlast.position.trans h.position
  data := hlast.data.trans h.data
  elsewhere := by
    intro hne
    obtain rfl := h.elsewhere hne
    exact hlast.elsewhere hne

end Node.Spared

namespace Graph

/-- The ports of a node, in their order. -/
def ports? (graph : Graph) (id : NodeId) :
    Option (OrderedMap String Port × OrderedMap String Port) :=
  (graph.node? id).map fun node => (node.inputs, node.outputs)

/-- A graph was changed at a node only: nodes stay in their order and keep all but the ports and
the noted types of this one, nothing is numbered, and the connections that are lost start or end
at the node. -/
structure Confined (id : NodeId) (graph after : Graph) : Prop where
  nodes : List.Forall₂ (Node.Spared id) graph.nodes after.nodes
  lastNode : after.lastNode = graph.lastNode
  lastConnection : after.lastConnection = graph.lastConnection
  connections : after.connections.Sublist graph.connections
  lost : ∀ connection ∈ graph.connections, connection ∉ after.connections →
    connection.source = id ∨ connection.target = id

theorem ne_of_ports {id : NodeId} {graph after : Graph} {key : String}
    (h : after.input? id key ≠ graph.input? id key ∨ after.output? id key ≠ graph.output? id key) :
    after.ports? id ≠ graph.ports? id := by
  have hinput : ∀ graph : Graph, graph.input? id key =
      (graph.ports? id).bind fun ports => ports.1.get? key := by
    intro graph
    unfold input? ports?
    cases graph.node? id <;> rfl
  have houtput : ∀ graph : Graph, graph.output? id key =
      (graph.ports? id).bind fun ports => ports.2.get? key := by
    intro graph
    unfold output? ports?
    cases graph.node? id <;> rfl
  intro hsame
  rw [hinput, hinput, houtput, houtput, hsame] at h
  simp at h

namespace Confined

variable {registry : Registry} {id : NodeId} {graph middle after : Graph}

theorem refl (id : NodeId) (graph : Graph) : graph.Confined id graph where
  nodes := List.forall₂_same.mpr fun node _ => .refl id node
  lastNode := rfl
  lastConnection := rfl
  connections := .refl _
  lost := fun _ hmem hgone => absurd hmem hgone

theorem trans (h : graph.Confined id middle) (hlast : middle.Confined id after) :
    graph.Confined id after where
  nodes := by
    have hjoin : ∀ {first second third : List Node},
        List.Forall₂ (Node.Spared id) first second →
          List.Forall₂ (Node.Spared id) second third →
            List.Forall₂ (Node.Spared id) first third := by
      intro first second third hfirst hsecond
      induction hfirst generalizing third with
      | nil => exact hsecond
      | cons hnode _ ih =>
          cases hsecond with
          | cons hnext hrest => exact .cons (hnode.trans hnext) (ih hrest)
    exact hjoin h.nodes hlast.nodes
  lastNode := hlast.lastNode.trans h.lastNode
  lastConnection := hlast.lastConnection.trans h.lastConnection
  connections := hlast.connections.trans h.connections
  lost := by
    intro connection hmem hgone
    by_cases hkept : connection ∈ middle.connections
    · exact hlast.lost connection hkept hgone
    · exact h.lost connection hmem hkept

theorem modifyNode {change : Node → Node} (h : ∀ node, (change node).id = node.id ∧
      (change node).name = node.name ∧ (change node).position = node.position ∧
        (change node).data.erase keys.typeName = node.data.erase keys.typeName)
    (graph : Graph) (id : NodeId) : graph.Confined id (graph.modifyNode id change) := by
  refine { Confined.refl id graph with nodes := ?_ }
  refine List.forall₂_map_right_iff.mpr (List.forall₂_same.mpr fun node _ => ?_)
  obtain ⟨hid, hname, hposition, hdata⟩ := h node
  split
  next heq => exact ⟨hid, hname, hposition, hdata, fun hne => absurd heq hne⟩
  next => exact .refl id node

/-- Connections at a node may be severed. -/
theorem sever {test : Connection → Bool} (h : ∀ connection ∈ graph.connections,
      test connection = true → connection.source = id ∨ connection.target = id) :
    graph.Confined id (graph.sever test).2 := by
  refine { Confined.refl id graph with connections := List.filter_sublist, lost := ?_ }
  intro connection hmem hgone
  apply h connection hmem
  simpa [Graph.sever, hmem] using hgone

theorem removeInput (key : String) (graph : Graph) :
    graph.Confined id (graph.removeInput id key).2 := by
  apply (sever _).trans (modifyNode (by simp) _ id)
  intro connection _ htest
  simp only [Bool.and_eq_true, decide_eq_true_eq] at htest
  exact .inr htest.1

theorem removeOutput (key : String) (graph : Graph) :
    graph.Confined id (graph.removeOutput id key).2 := by
  apply (sever _).trans (modifyNode (by simp) _ id)
  intro connection _ htest
  simp only [Bool.and_eq_true, decide_eq_true_eq] at htest
  exact .inl htest.1

/-- What an input turns away ends at its node, as no other connection has its number. -/
theorem turned (hnumbers : (graph.connections.map Connection.number).Nodup) (input : String) :
    graph.Confined id (graph.turned registry id input) := by
  rcases graph.turned_cases registry id input none with
    ⟨_, hsame⟩ | ⟨_, first, rest, hincoming, hcut⟩
  · rw [hsame]
    exact .refl id graph
  · rw [hcut]
    obtain ⟨hfirst, htarget, _⟩ :=
      mem_incoming.mp (hincoming ▸ List.mem_cons_self : first ∈ graph.incoming id input)
    apply sever
    intro connection hmem hnumber
    obtain rfl := List.inj_on_of_nodup_map hnumbers hmem hfirst (of_decide_eq_true hnumber)
    exact .inr htarget

theorem setOutputSocket {key : String} {socket : Socket} {made : List Connection × Graph}
    (h : graph.setOutputSocket id key socket = .ok made) : graph.Confined id made.2 := by
  obtain ⟨_, _, ⟨_, hsame⟩ | ⟨_, hmade⟩⟩ := ok_setOutputSocket h
  · rw [hsame]
    exact .refl id graph
  · rw [hmade]
    apply (modifyNode (by simp) graph id).trans (sever _)
    intro connection _ htest
    simp only [Bool.and_eq_true, decide_eq_true_eq] at htest
    exact .inl htest.1.1

end Confined

end Graph

namespace Editing

open VisualScript.Graph

variable {registry : Registry} {id : NodeId} {handover : Handover} {handovers : List Handover}
  {graph after : Graph}

theorem confined_handOn (hnumbers : (graph.connections.map Connection.number).Nodup)
    (handover : Handover) : graph.Confined id ((handOn registry id handover).run graph).2 := by
  have hturned : graph.Confined id (graph.turned registry id handover.input) :=
    .turned hnumbers handover.input
  rw [run_handOn]
  by_cases hsocket : ((graph.turned registry id handover.input).output? id handover.output).map
      Port.socket = some (handover.socket registry id graph)
  · rw [run_retype_same hsocket]
    exact hturned
  · rw [run_retype_other hsocket]
    cases hmade : (graph.turned registry id handover.input).setOutputSocket id handover.output
        (handover.socket registry id graph) with
    | error => exact hturned
    | ok made => exact hturned.trans (.setOutputSocket hmade)

theorem confined_mapM_handOn (hnumbers : (graph.connections.map Connection.number).Nodup)
    (handovers : List Handover) :
    graph.Confined id ((handovers.mapM (handOn registry id)).run graph).2 := by
  induction handovers generalizing graph with
  | nil => exact .refl id graph
  | cons handover rest ih =>
      have hfirst : graph.Confined id ((handOn registry id handover).run graph).2 :=
        confined_handOn hnumbers handover
      rw [List.mapM_cons, run_bind]
      rcases hrun : (handOn registry id handover).run graph with ⟨error | answer, middle⟩
      · rw [hrun] at hfirst
        exact hfirst
      · rw [hrun] at hfirst
        dsimp only
        rw [run_bind_pure]
        exact hfirst.trans (ih (hnumbers.sublist (hfirst.connections.map _)))

end Editing

/-! ## Whether a fit has changed anything -/

/-- What handing on some inputs of a node comes to where none is refused, and whether anything
was done for it. -/
structure Passed (registry : Registry) (id : NodeId) (handovers : List Handover) (done : Bool)
    (graph after : Graph) : Prop where
  inputs : ∀ key, after.input? id key = graph.input? id key
  outputs : ∀ key ∉ handovers.map Handover.output, after.output? id key = graph.output? id key
  connections : after.connections.Sublist graph.connections
  idle : done = false →
    after = graph ∧ ∀ handover ∈ handovers, handover.isSettled registry id graph = true
  active : done = true → after.connections.length < graph.connections.length ∨
    ∃ handover ∈ handovers,
      after.output? id handover.output ≠ graph.output? id handover.output

namespace Graph

variable {registry : Registry} {id : NodeId} {graph : Graph}

/-- An input that turns a connection away has lost it. -/
theorem length_turned_lt {handover : Handover} (h : handover.turnsAway registry id graph = true) :
    (graph.turned registry id handover.input).connections.length < graph.connections.length := by
  rcases graph.turned_cases registry id handover.input handover.selected with
    ⟨hkept, _⟩ | ⟨_, first, rest, hincoming, hcut⟩
  · exact absurd (hkept.symm.trans h) (by decide)
  · rw [hcut]
    have hfirst : first ∈ graph.incoming id handover.input := hincoming ▸ List.mem_cons_self
    refine List.length_filter_lt_length_iff_exists.mpr ⟨first, (mem_incoming.mp hfirst).1, ?_⟩
    simp

theorem turned_eq_self {handover : Handover} (h : handover.turnsAway registry id graph = false) :
    graph.turned registry id handover.input = graph := by
  rcases graph.turned_cases registry id handover.input handover.selected with
    ⟨_, hsame⟩ | ⟨hturns, _⟩
  · exact hsame
  · exact absurd (h.symm.trans hturns) (by decide)

theorem output?_turned (input key : String) :
    (graph.turned registry id input).output? id key = graph.output? id key := by
  obtain ⟨_, _, hturned⟩ := graph.turned_eq registry id input
  rw [hturned]
  rfl

/-- No output that is missing can be given a socket. -/
theorem error_setOutputSocket {key : String} {socket : Socket}
    (h : graph.output? id key = none) :
    ∃ error, graph.setOutputSocket id key socket = .error error := by
  cases hmade : graph.setOutputSocket id key socket with
  | error error => exact ⟨error, rfl⟩
  | ok made =>
      obtain ⟨port, hport, _⟩ := ok_setOutputSocket hmade
      cases h.symm.trans hport

end Graph

namespace Passed

variable {registry : Registry} {id : NodeId} {handover : Handover} {handovers : List Handover}
  {first rest : Bool} {graph middle after : Graph}

theorem nil (graph : Graph) : Passed registry id [] false graph graph where
  inputs := fun _ => rfl
  outputs := fun _ _ => rfl
  connections := .refl _
  idle := fun _ => ⟨rfl, by simp⟩
  active := by simp

theorem settled (h : handover.isSettled registry id graph = true) :
    Passed registry id [handover] false graph graph where
  inputs := fun _ => rfl
  outputs := fun _ _ => rfl
  connections := .refl _
  idle := fun _ => ⟨rfl, by simpa using h⟩
  active := by simp

theorem handsOn (h : HandsOn registry id handover graph after)
    (hactive : after.connections.length < graph.connections.length ∨
      after.output? id handover.output ≠ graph.output? id handover.output) :
    Passed registry id [handover] true graph after where
  inputs := h.refits.input? id
  outputs := by simpa using h.outputs
  connections := h.refits.connections
  idle := by simp
  active := by simpa using hactive

/-- What was done for the first input is still to be seen when the others were handed on, as
they have other outputs. -/
theorem cons (hfirst : Passed registry id [handover] first graph middle)
    (hrest : Passed registry id handovers rest middle after)
    (houtput : handover.output ∉ handovers.map Handover.output) :
    Passed registry id (handover :: handovers) (first || rest) graph after where
  inputs := fun key => (hrest.inputs key).trans (hfirst.inputs key)
  outputs := by
    intro key hkey
    rw [List.map_cons, List.mem_cons, not_or] at hkey
    exact (hrest.outputs key hkey.2).trans (hfirst.outputs key (by simpa using hkey.1))
  connections := hrest.connections.trans hfirst.connections
  idle := by
    intro hdone
    obtain ⟨hnotFirst, hnotRest⟩ := Bool.or_eq_false_iff.mp hdone
    obtain ⟨rfl, hsettled⟩ := hfirst.idle hnotFirst
    obtain ⟨rfl, hothers⟩ := hrest.idle hnotRest
    exact ⟨rfl, List.forall_mem_cons.mpr ⟨hsettled handover (.head _), hothers⟩⟩
  active := by
    intro hdone
    cases first with
    | true =>
        rcases hfirst.active rfl with hshorter | ⟨other, hother, hchanged⟩
        · exact .inl (Nat.lt_of_le_of_lt hrest.connections.length_le hshorter)
        · obtain rfl := List.mem_singleton.mp hother
          refine .inr ⟨other, .head _, ?_⟩
          rw [hrest.outputs _ houtput]
          exact hchanged
    | false =>
        obtain ⟨rfl, _⟩ := hfirst.idle rfl
        rcases hrest.active hdone with hshorter | ⟨other, hother, hchanged⟩
        · exact .inl hshorter
        · exact .inr ⟨other, .tail _ hother, hchanged⟩

end Passed

namespace Editing

open VisualScript.Graph

variable {registry : Registry} {id : NodeId} {handover : Handover} {handovers : List Handover}
  {graph after : Graph}

/-- An input that is handed on has done something unless it was settled. -/
theorem passed_handOn {answer : Socket × Bool}
    (h : (handOn registry id handover).run graph = (.ok answer, after)) :
    Passed registry id [handover] answer.2 graph after := by
  cases hsettled : handover.isSettled registry id graph with
  | true =>
      rw [run_handOn_of_isSettled hsettled] at h
      cases h
      exact .settled hsettled
  | false =>
      rw [run_handOn] at h
      by_cases hsocket : (graph.output? id handover.output).map Port.socket =
          some (handover.socket registry id graph)
      · have hturns : handover.turnsAway registry id graph = true := by
          simpa [Handover.isSettled, hsocket] using hsettled
        rw [run_retype_same ((congrArg _ (output?_turned ..)).trans hsocket), hturns] at h
        cases h
        exact .handsOn (.of_same hsocket) (.inl (length_turned_lt hturns))
      · rw [run_retype_other ((congrArg _ (output?_turned ..)).trans_ne hsocket)] at h
        cases hmade : (graph.turned registry id handover.input).setOutputSocket id handover.output
            (handover.socket registry id graph) with
        | error error =>
            rw [hmade] at h
            cases h
        | ok made =>
            rw [hmade] at h
            cases h
            have hhands := HandsOn.of_other hsocket hmade
            dsimp only
            rw [Bool.or_true]
            refine .handsOn hhands (.inr fun hsame => hsocket ?_)
            rw [← hsame, hhands.socket]

/-- An input whose output is missing is looked at before it is refused. -/
theorem run_handOn_of_missing (registry : Registry) (h : graph.output? id handover.output = none) :
    ∃ error, (handOn registry id handover).run graph =
      (.error error, graph.turned registry id handover.input) := by
  have hmissing : (graph.turned registry id handover.input).output? id handover.output = none :=
    (output?_turned ..).trans h
  obtain ⟨error, hrefused⟩ : ∃ error, (graph.turned registry id handover.input).setOutputSocket id
      handover.output (handover.socket registry id graph) = .error error :=
    error_setOutputSocket hmissing
  refine ⟨error, ?_⟩
  rw [run_handOn, run_retype_other (by simp [hmissing]), hrefused]
  rfl

/-- Handing on is refused only where the output is missing. -/
theorem handOn_refused {error : GraphError}
    (h : (handOn registry id handover).run graph = (.error error, after)) :
    graph.output? id handover.output = none ∧
      after = graph.turned registry id handover.input := by
  cases hfound : graph.output? id handover.output with
  | some port =>
      obtain ⟨_, _, hrun, _⟩ :=
        exists_run_handOn registry (Option.isSome_of_eq_some hfound)
      rw [hrun] at h
      cases h
  | none =>
      obtain ⟨reason, hrun⟩ := run_handOn_of_missing registry hfound
      rw [hrun] at h
      cases h
      exact ⟨rfl, rfl⟩

theorem passed_mapM {answers : List (Socket × Bool)}
    (hdistinct : (handovers.map Handover.output).Nodup)
    (h : (handovers.mapM (handOn registry id)).run graph = (.ok answers, after)) :
    Passed registry id handovers (answers.any Prod.snd) graph after := by
  induction handovers generalizing graph answers with
  | nil =>
      cases h
      exact .nil _
  | cons handover rest ih =>
      rw [List.map_cons, List.nodup_cons] at hdistinct
      rw [List.mapM_cons, run_bind] at h
      rcases hfirst : (handOn registry id handover).run graph with ⟨error | answer, middle⟩
      · rw [hfirst] at h
        cases h
      · rw [hfirst] at h
        dsimp only at h
        rw [run_bind_pure] at h
        rcases hrest : (rest.mapM (handOn registry id)).run middle with ⟨error | others, last⟩
        · rw [hrest] at h
          cases h
        · rw [hrest] at h
          cases h
          exact (passed_handOn hfirst).cons (ih hdistinct.2 hrest) hdistinct.1

/-- Handing on breaks off at the first input that is refused. -/
theorem mapM_handOn_refused {error : GraphError}
    (h : (handovers.mapM (handOn registry id)).run graph = (.error error, after)) :
    ∃ done handover rest answers middle, handovers = done ++ handover :: rest ∧
      (done.mapM (handOn registry id)).run graph = (.ok answers, middle) ∧
      (handOn registry id handover).run middle = (.error error, after) := by
  induction handovers generalizing graph with
  | nil => cases h
  | cons handover rest ih =>
      rw [List.mapM_cons, run_bind] at h
      rcases hfirst : (handOn registry id handover).run graph with ⟨reason | answer, middle⟩
      · rw [hfirst] at h
        cases h
        exact ⟨[], handover, rest, [], graph, rfl, rfl, hfirst⟩
      · rw [hfirst] at h
        dsimp only at h
        rw [run_bind_pure] at h
        rcases hrest : (rest.mapM (handOn registry id)).run middle with ⟨reason | others, last⟩
        · rw [hrest] at h
          cases h
          obtain ⟨done, refused, later, answers, before, rfl, hdone, hrefused⟩ := ih hrest
          refine ⟨handover :: done, refused, later, answer :: answers, before, rfl, ?_, hrefused⟩
          rw [List.mapM_cons, run_bind, hfirst]
          dsimp only
          rw [run_bind_pure, hdone]
          rfl
        · rw [hrest] at h
          cases h

/-- Where the inputs before one are settled and this one is refused, all handing on is. -/
theorem run_mapM_of_refused {done rest : List Handover} {error : GraphError}
    (hdone : ∀ other ∈ done, other.isSettled registry id graph = true)
    (h : (handOn registry id handover).run graph = (.error error, after)) :
    ((done ++ handover :: rest).mapM (handOn registry id)).run graph = (.error error, after) := by
  induction done with
  | nil =>
      rw [List.nil_append, List.mapM_cons, run_bind, h]
  | cons first others ih =>
      obtain ⟨hfirst, hothers⟩ := List.forall_mem_cons.mp hdone
      rw [List.cons_append, List.mapM_cons, run_bind, run_handOn_of_isSettled hfirst]
      dsimp only
      rw [run_bind_pure, ih hothers]
      rfl

end Editing

namespace ComponentKind

open Editing VisualScript.Graph

variable {registry : Registry} {id : NodeId} {node : Node} {graph : Graph}

theorem position_extend (kind : ComponentKind) (registry : Registry) (node other : Node) :
    (kind.extend registry node other).position = other.position := by
  cases kind with
  | sequence =>
      exact List.foldlRecOn (motive := fun changed : Node => changed.position = other.position) _ _
        rfl fun _ hchanged _ _ => hchanged
  | definition =>
      exact List.foldlRecOn (motive := fun changed : Node => changed.position = other.position) _ _
        rfl fun _ hchanged _ _ => hchanged
  | _ => rfl

theorem confined_resize (kind : ComponentKind) (registry : Registry) (id : NodeId) (node : Node)
    (graph : Graph) : graph.Confined id (kind.resize registry id node graph) := by
  have hextend : graph.Confined id (graph.modifyNode id (kind.extend registry node)) := by
    apply Confined.modifyNode
    intro other
    obtain ⟨hid, hname, hdata⟩ := kind.extend_rest registry node other
    exact ⟨hid, hname, kind.position_extend registry node other, by rw [hdata]⟩
  apply hextend.trans
  cases kind with
  | sequence =>
      exact List.foldlRecOn (motive := Confined id _) _ _ (.refl id _)
        fun changed hchanged _ _ => hchanged.trans (.removeOutput _ changed)
  | definition =>
      exact List.foldlRecOn (motive := Confined id _) _ _ (.refl id _)
        fun changed hchanged _ _ =>
          hchanged.trans ((Confined.removeInput _ changed).trans (.removeOutput _ _))
  | _ => exact .refl id _

theorem confined_note (kind : ComponentKind) (names : List String) (graph : Graph) :
    graph.Confined id (graph.modifyNode id (kind.note names)) := by
  apply Confined.modifyNode
  intro node
  have hframe := Node.frame_note kind names node
  exact ⟨(congrArg Node.id hframe :), (congrArg Node.name hframe :),
    (congrArg Node.position hframe :), (congrArg Node.data hframe :)⟩

/-- Whether it is refused or not, a fit stays with its node. -/
theorem confined_fit (kind : ComponentKind)
    (hnumbers : (graph.connections.map Connection.number).Nodup) :
    graph.Confined id (kind.fit registry id node graph).2 := by
  have hresized := kind.confined_resize registry id node graph
  have hhanded : graph.Confined id (((kind.handovers node).mapM (handOn registry id)).run
      (kind.resize registry id node graph)).2 :=
    hresized.trans (confined_mapM_handOn (hnumbers.sublist (hresized.connections.map _)) _)
  unfold fit
  dsimp only
  split
  next => exact hhanded.trans (kind.confined_note _ _)
  next => exact hhanded

/-- A node whose numbered ports are brought to another count has one of them that it had not, or
not one that it had. -/
theorem exists_refit {stem : String} {ports : OrderedMap String Port} {wanted : Nat}
    {read : String → Option Port} (hne : numberedCount stem ports ≠ wanted)
    (hread : ∀ index, (read (numbered stem index)).isSome = true ↔
      (ports.contains (numbered stem index) = true ∨
        numberedCount stem ports ≤ index ∧ index < wanted) ∧
      ¬ (wanted ≤ index ∧ index < numberedCount stem ports)) :
    ∃ key, read key ≠ ports.get? key := by
  rcases Nat.lt_or_gt_of_ne hne with hless | hgreater
  · refine ⟨numbered stem (numberedCount stem ports), fun hsame => ?_⟩
    have hput := (hread (numberedCount stem ports)).mpr ⟨.inr ⟨Nat.le_refl _, hless⟩, by omega⟩
    have hmissing : ports.contains (numbered stem (numberedCount stem ports)) = false :=
      contains_numberedCount
    rw [hsame] at hput
    exact absurd (hmissing.symm.trans hput) (by decide)
  · refine ⟨numbered stem wanted, fun hsame => ?_⟩
    have hfound := contains_of_lt_numberedCount hgreater
    unfold OrderedMap.contains at hfound
    rw [← hsame] at hfound
    exact ((hread wanted).mp hfound).2 ⟨Nat.le_refl _, hgreater⟩

/-- That a node was resized is to be seen even once its inputs were handed on. -/
theorem exists_port_of_isResized (registry : Registry) {kind : ComponentKind} {after : Graph}
    (hnode : graph.node? id = some node) (h : kind.isResized node = true)
    (hinputs : ∀ key, after.input? id key = (kind.resize registry id node graph).input? id key)
    (houtputs : ∀ key ∉ (kind.handovers node).map Handover.output,
      after.output? id key = (kind.resize registry id node graph).output? id key) :
    ∃ key, after.input? id key ≠ graph.input? id key ∨
      after.output? id key ≠ graph.output? id key := by
  cases kind with
  | sequence =>
      obtain ⟨key, hkey⟩ : ∃ key,
          (sequence.resize registry id node graph).output? id key ≠ node.outputs.get? key :=
        exists_refit (bne_iff_ne.mp h) (isSome_output?_resize hnode)
      refine ⟨key, .inr ?_⟩
      rw [houtputs key (by simp [handovers]), Graph.output?, Graph.output?, hnode]
      rwa [Graph.output?] at hkey
  | definition =>
      obtain ⟨key, hkey⟩ : ∃ key,
          (definition.resize registry id node graph).input? id key ≠ node.inputs.get? key :=
        exists_refit (bne_iff_ne.mp h) (isSome_input?_resize hnode)
      refine ⟨key, .inl ?_⟩
      rw [hinputs, Graph.input?, Graph.input?, hnode]
      rwa [Graph.input?] at hkey
  | _ => cases h

theorem ports?_note (kind : ComponentKind) (names : List String) (graph : Graph) :
    (graph.modifyNode id (kind.note names)).ports? id = graph.ports? id := by
  unfold ports?
  rw [node?_modifyNode id fun node _ _ => (kind.note_rest names node).1, Option.map_map]
  congr 1
  funext node
  rw [Function.comp_apply]
  split
  next => rw [(kind.note_rest names node).2.2.1, (kind.note_rest names node).2.2.2]
  next => rfl

/-- A fit tells the truth about whether it has changed ports or connections. -/
theorem changed_of_fit {kind : ComponentKind} {changed : Bool} {after : Graph}
    (hnode : graph.node? id = some node)
    (h : kind.fit registry id node graph = (.ok changed, after)) :
    (changed = true →
      (∃ key, after.input? id key ≠ graph.input? id key ∨
        after.output? id key ≠ graph.output? id key) ∨
      after.connections.length < graph.connections.length) ∧
    (changed = false →
      after.ports? id = graph.ports? id ∧ after.connections = graph.connections) := by
  unfold fit at h
  rcases hrun : ((kind.handovers node).mapM (handOn registry id)).run
    (kind.resize registry id node graph) with ⟨error | answers, handed⟩
  · rw [hrun] at h
    cases h
  rw [hrun] at h
  cases h
  have hpassed := passed_mapM (kind.nodup_handovers node).2 hrun
  refine ⟨fun hdone => ?_, fun hidle => ?_⟩
  · cases hresized : kind.isResized node with
    | true =>
        refine .inl (exists_port_of_isResized registry hnode hresized
          (fun key => ?_) fun key hkey => ?_)
        · exact (kind.input?_note ..).trans (hpassed.inputs key)
        · exact (kind.output?_note ..).trans (hpassed.outputs key hkey)
    | false =>
        rw [hresized, Bool.false_or] at hdone
        rw [resize_eq_self hresized] at hpassed
        rcases hpassed.active hdone with hshorter | ⟨handover, _, hchanged⟩
        · exact .inr hshorter
        · refine .inl ⟨handover.output, .inr ?_⟩
          rwa [kind.output?_note]
  · obtain ⟨hresized, hidle⟩ := Bool.or_eq_false_iff.mp hidle
    rw [resize_eq_self hresized] at hpassed
    obtain ⟨rfl, _⟩ := hpassed.idle hidle
    exact ⟨ports?_note .., rfl⟩

end ComponentKind

namespace Language

variable {language : Language} {id : NodeId} {graph after : Graph}

/-- Whether it is refused or not, a fit stays with its node. -/
theorem confined_sync (language : Language) (id : NodeId)
    (hnumbers : (graph.connections.map Connection.number).Nodup) :
    graph.Confined id (language.sync id graph).2 := by
  cases hnode : graph.node? id with
  | none =>
      simp only [sync, hnode]
      exact .refl id graph
  | some node =>
      cases hkind : language.kindOf? node.name with
      | none =>
          rw [sync_unknown hnode hkind]
          exact .refl id graph
      | some kind =>
          rw [sync_eq hnode hkind]
          dsimp only
          rw [kind.run_sync _ hnode]
          exact kind.confined_fit hnumbers

/-- Where a fit says that something was changed there is a port or a connection to show for it,
and all ports and connections are as before where it says that nothing was. -/
theorem changed_of_sync {changed : Bool} (h : language.sync id graph = (.ok changed, after)) :
    (changed = true →
      (∃ key, after.input? id key ≠ graph.input? id key ∨
        after.output? id key ≠ graph.output? id key) ∨
      after.connections ≠ graph.connections) ∧
    (changed = false →
      after.ports? id = graph.ports? id ∧ after.connections = graph.connections) := by
  cases hnode : graph.node? id with
  | none =>
      simp only [sync, hnode] at h
      cases h
      simp
  | some node =>
      cases hkind : language.kindOf? node.name with
      | none =>
          rw [sync_unknown hnode hkind] at h
          cases h
      | some kind =>
          have hrun := (sync_eq_ok_iff hnode hkind).mp h
          rw [kind.run_sync _ hnode] at hrun
          obtain ⟨hdone, hidle⟩ := ComponentKind.changed_of_fit hnode hrun
          refine ⟨fun hchanged => (hdone hchanged).imp_right fun hshorter hsame => ?_, hidle⟩
          rw [hsame] at hshorter
          exact Nat.lt_irrefl _ hshorter

/-- A fit that is done says that something was changed exactly if the node has other ports than
before, be it that they are compared in order or key by key, or connections are gone. All else it
changes is what types the node notes, and it cuts connections at the node only. Connections are
kept by their numbers, so that no two have one number. -/
theorem changed_iff_of_sync {changed : Bool}
    (hnumbers : (graph.connections.map Connection.number).Nodup)
    (h : language.sync id graph = (.ok changed, after)) :
    (changed = true ↔
        after.ports? id ≠ graph.ports? id ∨ after.connections ≠ graph.connections) ∧
      (changed = true ↔
        (∃ key, after.input? id key ≠ graph.input? id key ∨
          after.output? id key ≠ graph.output? id key) ∨
        after.connections ≠ graph.connections) ∧
      graph.Confined id after := by
  obtain ⟨hdone, hidle⟩ := changed_of_sync h
  have hports : (∃ key, after.input? id key ≠ graph.input? id key ∨
      after.output? id key ≠ graph.output? id key) → after.ports? id ≠ graph.ports? id := by
    rintro ⟨key, hkey⟩
    exact Graph.ne_of_ports hkey
  have hdiffers : (after.ports? id ≠ graph.ports? id ∨ after.connections ≠ graph.connections) →
      changed = true := by
    intro hdiffers
    by_contra hnot
    obtain ⟨hsame, hkept⟩ := hidle (Bool.eq_false_iff.mpr hnot)
    exact hdiffers.elim (· hsame) (· hkept)
  have hconfined := language.confined_sync id hnumbers
  rw [h] at hconfined
  exact ⟨⟨fun hchanged => (hdone hchanged).imp_left hports, hdiffers⟩,
    ⟨hdone, fun hother => hdiffers (hother.imp_left hports)⟩, hconfined⟩

/-- A language with files, which cannot be copied. -/
def owning : Language :=
  .build { types := [{ machineName := "file", displayName := "file" }] } {}

/-- A function whose argument takes its default from the function's own output, twice. -/
def selfFed : Graph where
  nodes := [
    { id := ⟨1⟩, name := "Function"
      data := ⟨[("numArgs", .string "1"), ("typeName", .array [.string "file"])]⟩
      inputs := ⟨[("arg0", ⟨"Argument 1", .any "any"⟩)]⟩
      outputs := ⟨[("fout", .flow), ("out0", ⟨"Output 1", .data "file" .value⟩)]⟩ }]
  connections := [⟨1, ⟨1⟩, "out0", ⟨1⟩, "arg0"⟩, ⟨2, ⟨1⟩, "out0", ⟨1⟩, "arg0"⟩]
  lastNode := 1
  lastConnection := 2

/-- The older connection is turned away, and the output becomes a wildcard, which the other
connection may leave. -/
theorem changed_iff_of_sync_selfFed :
    let after := (owning.sync ⟨1⟩ selfFed).2
    owning.sync ⟨1⟩ selfFed = (.ok true, after) ∧
      after.connections = [⟨2, ⟨1⟩, "out0", ⟨1⟩, "arg0"⟩] ∧
      (after.ports? ⟨1⟩ ≠ selfFed.ports? ⟨1⟩ ∨ after.connections ≠ selfFed.connections) ∧
      selfFed.Confined ⟨1⟩ after := by
  have hsync : owning.sync ⟨1⟩ selfFed = (.ok true, (owning.sync ⟨1⟩ selfFed).2) := rfl
  obtain ⟨hchanged, _, hconfined⟩ := changed_iff_of_sync (by decide) hsync
  exact ⟨hsync, rfl, hchanged.mp rfl, hconfined⟩

end Language

/-! ## Fits that are refused -/

namespace ComponentKind

open Editing VisualScript.Graph

variable {kind : ComponentKind} {registry : Registry} {id : NodeId} {node : Node}
  {graph after : Graph} {error : GraphError}

/-- A fit is refused while inputs are handed on. -/
theorem fit_eq_error_iff : kind.fit registry id node graph = (.error error, after) ↔
    ((kind.handovers node).mapM (handOn registry id)).run (kind.resize registry id node graph) =
      (.error error, after) := by
  unfold fit
  rcases ((kind.handovers node).mapM (handOn registry id)).run
    (kind.resize registry id node graph) with ⟨reason | answers, handed⟩
  · constructor <;> (intro h; cases h; rfl)
  · constructor <;> (intro h; cases h)

/-- What a refused fit has done. -/
theorem passed_of_fit_refused (h : kind.fit registry id node graph = (.error error, after)) :
    ∃ done handover rest changed middle, kind.handovers node = done ++ handover :: rest ∧
      Passed registry id done changed (kind.resize registry id node graph) middle ∧
      middle.output? id handover.output = none ∧
      after = middle.turned registry id handover.input := by
  obtain ⟨done, handover, rest, answers, middle, hsplit, hdone, hrefused⟩ :=
    mapM_handOn_refused (fit_eq_error_iff.mp h)
  have hdistinct := (kind.nodup_handovers node).2
  rw [hsplit, List.map_append, List.nodup_append] at hdistinct
  exact ⟨done, handover, rest, _, middle, hsplit, passed_mapM hdistinct.1 hdone,
    handOn_refused hrefused⟩

/-- A fit that is refused leaves the names and the data of all nodes. -/
theorem content?_of_fit_refused (h : kind.fit registry id node graph = (.error error, after))
    (other : NodeId) : after.content? other = graph.content? other := by
  have hkeeps : Keeps (fun changed => changed.content? other = graph.content? other)
      ((kind.handovers node).mapM (handOn registry id)) fun _ => True :=
    keeps_mapM fun handover changed hchanged =>
      ⟨(content?_handOn handover changed other).trans hchanged, fun _ _ => trivial⟩
  have hhanded := (hkeeps _ ((kind.reshaped_resize registry id node graph).contents other)).1
  rwa [fit_eq_error_iff.mp h] at hhanded

/-- Nothing is done before a fit is refused: the node has the numbered ports that its count asks
for, the inputs before the one whose output is missing are settled, and this one turns no
connection away. -/
def HoldsBack (kind : ComponentKind) (registry : Registry) (id : NodeId) (node : Node)
    (graph : Graph) : Prop :=
  kind.isResized node = false ∧ ∃ done handover rest,
    kind.handovers node = done ++ handover :: rest ∧
      (∀ other ∈ done, other.isSettled registry id graph = true) ∧
      graph.output? id handover.output = none ∧ handover.turnsAway registry id graph = false

/-- A refused fit that has left the graph as it was has done nothing on the way. -/
theorem holdsBack_of_eq (hnode : graph.node? id = some node)
    (h : kind.fit registry id node graph = (.error error, graph)) :
    kind.HoldsBack registry id node graph := by
  obtain ⟨done, handover, rest, changed, middle, hsplit, hpassed, hmissing, hturned⟩ :=
    passed_of_fit_refused h
  obtain ⟨_, hsub, hcut⟩ := middle.turned_eq registry id handover.input
  have houtput : ∀ key, graph.output? id key = middle.output? id key := by
    intro key
    rw [hturned]
    exact output?_turned ..
  have hinputs : ∀ key, graph.input? id key =
      (kind.resize registry id node graph).input? id key := by
    intro key
    rw [← hpassed.inputs, hturned, hcut]
    rfl
  have hresized : kind.isResized node = false := by
    by_contra hresized
    obtain ⟨key, hinput | houtput⟩ := exists_port_of_isResized registry hnode
      (by simpa using hresized) hinputs fun key hkey => by
        rw [houtput]
        exact hpassed.outputs key fun hdone => hkey (by simp [hsplit, hdone])
    · exact hinput rfl
    · exact houtput rfl
  rw [resize_eq_self hresized] at hpassed
  have hidle : changed = false := by
    by_contra hactive
    rcases hpassed.active (by simpa using hactive) with hshorter | ⟨other, _, hchanged⟩
    · have hkept := hsub.length_le
      rw [hturned, hcut] at hshorter
      exact absurd (Nat.lt_of_lt_of_le hshorter hkept) (Nat.lt_irrefl _)
    · exact hchanged (houtput _).symm
  obtain ⟨rfl, hsettled⟩ := hpassed.idle hidle
  refine ⟨hresized, done, handover, rest, hsplit, hsettled, hmissing, ?_⟩
  by_contra hturns
  have hshorter := length_turned_lt (by simpa using hturns)
  rw [← hturned] at hshorter
  exact Nat.lt_irrefl _ hshorter

/-- Where nothing is done before it is refused, a fit leaves the graph as it was. -/
theorem HoldsBack.fit (h : kind.HoldsBack registry id node graph) :
    ∃ error, kind.fit registry id node graph = (.error error, graph) := by
  obtain ⟨hresized, done, handover, rest, hsplit, hsettled, hmissing, hturns⟩ := h
  obtain ⟨error, hrun⟩ := run_handOn_of_missing registry hmissing
  rw [turned_eq_self hturns] at hrun
  refine ⟨error, fit_eq_error_iff.mpr ?_⟩
  rw [resize_eq_self hresized, hsplit]
  exact run_mapM_of_refused hsettled hrun

end ComponentKind

namespace Language

variable {language : Language} {id : NodeId} {graph after : Graph}

/-- If the node is of a known component, nothing is done before its fit is refused. -/
def HoldsBack (language : Language) (id : NodeId) (graph : Graph) : Prop :=
  ∀ node kind, graph.node? id = some node → language.kindOf? node.name = some kind →
    kind.HoldsBack language.registry id node graph

/-- A fit that is refused leaves the names and the data of all nodes, and leaves all else exactly
if nothing was done before it comes to an output that is missing. -/
theorem eq_of_sync_refused_iff {error : LanguageError}
    (h : language.sync id graph = (.error error, after)) :
    (∀ other, after.content? other = graph.content? other) ∧
      (after = graph ↔ language.HoldsBack id graph) := by
  cases hnode : graph.node? id with
  | none =>
      simp only [sync, hnode] at h
      cases h
  | some node =>
      cases hkind : language.kindOf? node.name with
      | none =>
          rw [sync_unknown hnode hkind] at h
          cases h
          refine ⟨fun _ => rfl, fun _ found kind hfound hkindFound => ?_, fun _ => rfl⟩
          obtain rfl := Option.some.inj (hnode.symm.trans hfound)
          cases hkind.symm.trans hkindFound
      | some kind =>
          obtain ⟨reason, hfit⟩ : ∃ reason,
              kind.fit language.registry id node graph = (.error reason, after) := by
            rw [sync_eq hnode hkind, kind.run_sync _ hnode] at h
            rcases hfit : kind.fit language.registry id node graph with ⟨reason | done, last⟩
            · rw [hfit] at h
              cases h
              exact ⟨reason, rfl⟩
            · rw [hfit] at h
              cases h
          refine ⟨kind.content?_of_fit_refused hfit, ?_, fun hholds => ?_⟩
          · rintro rfl found foundKind hfound hfoundKind
            obtain rfl := Option.some.inj (hnode.symm.trans hfound)
            obtain rfl := Option.some.inj (hkind.symm.trans hfoundKind)
            exact ComponentKind.holdsBack_of_eq hnode hfit
          · obtain ⟨_, hrun⟩ := (hholds node kind hnode hkind).fit
            exact (Prod.mk.inj (hfit.symm.trans hrun)).2

/-- A variable whose output was removed. -/
def outputless : Graph where
  nodes := [
    { id := ⟨1⟩, name := "Variable"
      data := ⟨[("typeName", .string "int")]⟩
      inputs := ⟨[("value", ⟨"Value", .any "any"⟩)]⟩ }]
  lastNode := 1

theorem eq_of_sync_refused_outputless :
    counting.sync ⟨1⟩ outputless =
        (.error (.refused (.unknownPort ⟨1⟩ "result")), outputless) ∧
      counting.HoldsBack ⟨1⟩ outputless := by
  have hsync : counting.sync ⟨1⟩ outputless =
      (.error (.refused (.unknownPort ⟨1⟩ "result")), outputless) := rfl
  exact ⟨hsync, (eq_of_sync_refused_iff hsync).2.mp rfl⟩

/-- A function with two arguments, of which the first is to be a text and feeds a function of
numbers, and the second has lost its output. -/
def halfRetyped : Graph where
  nodes := [
    { id := ⟨1⟩, name := "Function"
      data := ⟨[("numArgs", .string "2"), ("typeName", .array [.string "text", .string "int"])]⟩
      inputs := ⟨[("arg0", ⟨"Argument 1", .any "any"⟩), ("arg1", ⟨"Argument 2", .any "any"⟩)]⟩
      outputs := ⟨[("fout", .flow), ("out0", ⟨"Output 1", .data "int" .value⟩)]⟩ },
    { id := ⟨2⟩, name := "next"
      data := ⟨[("value", .string "0")]⟩
      inputs := ⟨[("value", ⟨"value", .data "int" .value⟩)]⟩
      outputs := ⟨[("result", ⟨"Result", .data "int" .value⟩)]⟩ }]
  connections := [⟨1, ⟨1⟩, "out0", ⟨2⟩, "value"⟩]
  lastNode := 2
  lastConnection := 1

/-- The fit is refused for the second argument. By then the first has its new type, and the
connection that it had is gone. -/
theorem not_eq_of_sync_halfRetyped :
    (counting.sync ⟨1⟩ halfRetyped).1 = .error (.refused (.unknownPort ⟨1⟩ "out1")) ∧
      (counting.sync ⟨1⟩ halfRetyped).2.output? ⟨1⟩ "out0" =
        some ⟨"Output 1", .data "text" .value⟩ ∧
      (counting.sync ⟨1⟩ halfRetyped).2.connections = [] ∧
      (counting.sync ⟨1⟩ halfRetyped).2 ≠ halfRetyped := by
  refine ⟨rfl, rfl, rfl, fun hsame => ?_⟩
  have hconnections := congrArg Graph.connections hsame
  cases hconnections

end Language

end VisualScript
