import VisualScript.Proofs.Graph.Joining
import Mathlib.Data.List.Nodup

/-!
# Handing types on

An output that hands on an input takes the type that flows into it, and the selected one where
nothing does. Where no output of the node feeds the node itself, handing on one input is no
matter of the others, so many are handed on as if each was on its own.
-/

namespace VisualScript

/-! ## What an input takes -/

/-- Whether an offered type is turned away, as its values cannot be copied. -/
def LanguageType.isRefused (type : LanguageType) : Bool := !(type.isCopyable || type.isAny)

/-- What an input takes of the types that its connections offer, oldest first, and whether it
turns the oldest away. -/
def Registry.intake (registry : Registry) (offers : List (Option LanguageType))
    (selected : Option String) : Option LanguageType × Bool :=
  match offers with
  | [] => (registry.getOrAny? selected, false)
  | offer :: _ =>
      if offer.any LanguageType.isRefused then (registry.anyType?, true)
      else (offer <|> registry.anyType?, false)

namespace Graph

/-- The type that a connection offers, if it is known. -/
def offer? (registry : Registry) (graph : Graph) (connection : Connection) :
    Option LanguageType :=
  (graph.output? connection.source connection.output).bind fun port =>
    registry.get? port.socket.typeName

/-- The types that the connections into an input offer, oldest first. -/
def offers (registry : Registry) (graph : Graph) (id : NodeId) (key : String) :
    List (Option LanguageType) :=
  (graph.incoming id key).map (graph.offer? registry)

/-- The graph once an input has turned away the oldest connection, if it does. -/
def turned (registry : Registry) (graph : Graph) (id : NodeId) (key : String) : Graph :=
  match graph.firstIncoming? id key with
  | none => graph
  | some connection =>
      if (graph.offer? registry connection).any LanguageType.isRefused then
        graph.disconnect connection.number
      else graph

/-- What a node is apart from its ports: the name of its component and its data. -/
def content? (graph : Graph) (id : NodeId) : Option (String × DataFields) :=
  (graph.node? id).map fun node => (node.name, node.data)

/-- No connection leads from a node to itself, and no two connections have one number. -/
structure FedByOthers (id : NodeId) (graph : Graph) : Prop where
  sources : ∀ connection ∈ graph.connections, connection.target = id → connection.source ≠ id
  numbers : (graph.connections.map Connection.number).Nodup

theorem FedByOthers.of_sublist {id : NodeId} {graph changed : Graph} (h : graph.FedByOthers id)
    (hsub : changed.connections.Sublist graph.connections) : changed.FedByOthers id where
  sources := fun connection hmem => h.sources connection (hsub.subset hmem)
  numbers := h.numbers.sublist (hsub.map _)

end Graph

/-- An output that hands on an input, and the name of the type that is selected for where
nothing feeds the input. -/
structure Handover where
  input : String
  output : String
  selected : Option String

namespace Handover

variable (registry : Registry) (id : NodeId) (handover : Handover) (graph : Graph)

/-- The socket that the output takes. -/
def socket : Socket :=
  Editing.socketOf registry
    (registry.intake (graph.offers registry id handover.input) handover.selected).1

/-- Whether the oldest connection into the input is turned away. -/
def turnsAway : Bool :=
  (registry.intake (graph.offers registry id handover.input) handover.selected).2

/-- Whether there is nothing to do. -/
def isSettled : Bool :=
  !handover.turnsAway registry id graph &&
    decide ((graph.output? id handover.output).map Port.socket =
      some (handover.socket registry id graph))

end Handover

namespace Editing

variable {registry : Registry} {id : NodeId} {handover : Handover} {graph after : Graph}

/-- Let an output hand on an input: the socket that it has then, and whether anything changed. -/
def handOn (registry : Registry) (id : NodeId) (handover : Handover) : Editing (Socket × Bool) := do
  let (type, severed) ← incomingType registry id handover.input handover.selected
  let retyped ← retype id handover.output (socketOf registry type)
  return (socketOf registry type, severed || retyped)

theorem run_incomingType (key : String) (selected : Option String) (graph : Graph) :
    (incomingType registry id key selected).run graph =
      (.ok (registry.intake (graph.offers registry id key) selected),
        graph.turned registry id key) := by
  unfold incomingType Graph.turned Graph.offers Graph.firstIncoming?
  rw [run_get_bind]
  cases graph.incoming id key with
  | nil => rfl
  | cons connection rest =>
      simp only [List.head?_cons, List.map_cons, Registry.intake]
      split
      next hnone =>
        have hoffer : graph.offer? registry connection = none := hnone
        rw [hoffer]
        rfl
      next type htype =>
        have hoffer : graph.offer? registry connection = some type := htype
        rw [hoffer, Option.any_some, LanguageType.isRefused]
        cases type.isCopyable || type.isAny with
        | true => rfl
        | false => rfl

theorem run_retype_same {key : String} {socket : Socket}
    (h : (graph.output? id key).map Port.socket = some socket) :
    (retype id key socket).run graph = (.ok false, graph) := by
  unfold retype
  rw [run_get_bind, if_pos h]
  rfl

theorem run_retype_other {key : String} {socket : Socket}
    (h : (graph.output? id key).map Port.socket ≠ some socket) :
    (retype id key socket).run graph = match graph.setOutputSocket id key socket with
      | .ok made => (.ok true, made.2)
      | .error error => (.error error, graph) := by
  unfold retype
  rw [run_get_bind, if_neg h]
  cases graph.setOutputSocket id key socket with
  | ok made => rfl
  | error error => rfl

theorem run_handOn (handover : Handover) (graph : Graph) :
    (handOn registry id handover).run graph =
      let run := (retype id handover.output (handover.socket registry id graph)).run
        (graph.turned registry id handover.input)
      (run.1.map fun retyped =>
        (handover.socket registry id graph, handover.turnsAway registry id graph || retyped),
        run.2) := by
  unfold handOn
  rw [run_bind, run_incomingType]
  exact run_bind_pure _ _ _

end Editing

/-! ## What handing on leaves alone -/

namespace Graph

variable {registry : Registry} {id : NodeId} {graph changed : Graph} {key input : String}

theorem mem_incoming {connection : Connection} :
    connection ∈ graph.incoming id key ↔
      connection ∈ graph.connections ∧ connection.target = id ∧ connection.input = key := by
  simp [incoming]

/-- Connections that do not lead to a node may be severed without changing what leads there. -/
theorem incoming_sever {test : Connection → Bool}
    (h : ∀ connection ∈ graph.incoming id key, test connection = false) :
    (graph.sever test).2.incoming id key = graph.incoming id key := by
  have hcomm : (graph.sever test).2.incoming id key =
      (graph.incoming id key).filter fun connection => !test connection :=
    List.filter_comm ..
  rw [hcomm, List.filter_eq_self]
  intro connection hmem
  rw [h connection hmem]
  rfl

/-- What is offered to an input depends on its connections and on the outputs of other nodes. -/
theorem offers_congr (hfed : graph.FedByOthers id)
    (hincoming : changed.incoming id key = graph.incoming id key)
    (houtputs : ∀ other name, other ≠ id → changed.output? other name = graph.output? other name) :
    changed.offers registry id key = graph.offers registry id key := by
  unfold offers
  rw [hincoming]
  refine List.map_congr_left fun connection hmem => ?_
  obtain ⟨hmem, htarget, _⟩ := mem_incoming.mp hmem
  rw [offer?, offer?, houtputs _ _ (hfed.sources connection hmem htarget)]

/-- Two connections with one number are one. -/
theorem FedByOthers.eq_of_number (hfed : graph.FedByOthers id) {connection other : Connection}
    (hmem : connection ∈ graph.connections) (hother : other ∈ graph.connections)
    (h : connection.number = other.number) : connection = other :=
  List.inj_on_of_nodup_map hfed.numbers hmem hother h

/-- Either nothing is turned away, or the connection that is first is cut. -/
theorem turned_cases (registry : Registry) (id : NodeId) (input : String)
    (selected : Option String) (graph : Graph) :
    (registry.intake (graph.offers registry id input) selected).2 = false ∧
        graph.turned registry id input = graph ∨
      (registry.intake (graph.offers registry id input) selected).2 = true ∧
        ∃ connection rest, graph.incoming id input = connection :: rest ∧
          graph.turned registry id input = graph.disconnect connection.number := by
  unfold turned firstIncoming? offers
  cases graph.incoming id input with
  | nil => exact .inl ⟨rfl, rfl⟩
  | cons connection rest =>
      simp only [List.head?_cons, List.map_cons, Registry.intake]
      cases (graph.offer? registry connection).any LanguageType.isRefused with
      | false => exact .inl ⟨rfl, rfl⟩
      | true => exact .inr ⟨rfl, connection, rest, rfl, rfl⟩

/-- Turning away may cut a connection, and does nothing else. -/
theorem turned_eq (registry : Registry) (id : NodeId) (input : String) (graph : Graph) :
    ∃ connections, connections.Sublist graph.connections ∧
      graph.turned registry id input = { graph with connections := connections } := by
  rcases turned_cases registry id input none graph with ⟨_, hsame⟩ | ⟨_, _, _, _, hcut⟩
  · exact ⟨graph.connections, .refl _, hsame⟩
  · exact ⟨_, List.filter_sublist, hcut⟩

/-- Turning away takes the oldest offer from the input, and nothing from other inputs. -/
theorem offers_turned (hfed : graph.FedByOthers id) (input key : String)
    (selected : Option String) :
    (graph.turned registry id input).offers registry id key =
      if key = input ∧ (registry.intake (graph.offers registry id input) selected).2 = true then
        (graph.offers registry id key).tail
      else graph.offers registry id key := by
  rcases turned_cases registry id input selected graph with
    ⟨hkept, hsame⟩ | ⟨hrefused, connection, rest, hincoming, hcut⟩
  · rw [hsame, hkept, if_neg (by simp)]
  · have hfirst : connection ∈ graph.incoming id input := hincoming ▸ List.mem_cons_self ..
    have hmem := mem_incoming.mp hfirst
    rw [hcut, hrefused]
    by_cases hkey : key = input
    · subst hkey
      rw [if_pos ⟨rfl, rfl⟩]
      -- Only the first connection has its number, so the others stay.
      have hleft : (graph.disconnect connection.number).incoming id key = rest := by
        have hcomm : (graph.disconnect connection.number).incoming id key =
            (graph.incoming id key).filter fun other =>
              !decide (other.number = connection.number) := List.filter_comm ..
        have hnodup : ((graph.incoming id key).map Connection.number).Nodup :=
          hfed.numbers.sublist (List.filter_sublist.map _)
        rw [hincoming, List.map_cons, List.nodup_cons] at hnodup
        rw [hcomm, hincoming, List.filter_cons_of_neg (by simp), List.filter_eq_self]
        intro other hother
        have hne : other.number ≠ connection.number := by
          intro heq
          exact hnodup.1 (heq ▸ List.mem_map_of_mem hother)
        simpa using hne
      unfold offers
      rw [hleft, hincoming]
      rfl
    · rw [if_neg fun h => hkey h.1]
      refine offers_congr hfed (incoming_sever fun other hother => ?_) fun _ _ _ => rfl
      have hother := mem_incoming.mp hother
      rw [decide_eq_false_iff_not]
      intro heq
      have hsame := hfed.eq_of_number hother.1 hmem.1 heq
      exact hkey (hother.2.2.symm.trans ((congrArg Connection.input hsame).trans hmem.2.2))

/-- A change of a node that leaves its name and data alone. -/
theorem content?_modifyNode {change : Node → Node} (hid : ∀ node, (change node).id = node.id)
    (hname : ∀ node, (change node).name = node.name)
    (hdata : ∀ node, (change node).data = node.data) (graph : Graph) (id other : NodeId) :
    (graph.modifyNode id change).content? other = graph.content? other := by
  unfold content?
  rw [node?_modifyNode other fun node _ _ => hid node, Option.map_map]
  congr 1
  funext node
  rw [Function.comp_apply]
  split
  next => rw [hname, hdata]
  next => rfl

end Graph

/-- What giving an output a socket comes to: the output has it, and nothing else is changed but
for connections out of the output. -/
structure Given (registry : Registry) (id : NodeId) (output : String) (socket : Socket)
    (graph after : Graph) : Prop where
  contents : ∀ other, after.content? other = graph.content? other
  inputs : ∀ other key, after.input? other key = graph.input? other key
  outputs : ∀ other key, (other = id → key ≠ output) →
    after.output? other key = graph.output? other key
  socket : (after.output? id output).map Port.socket = some socket
  connections : after.connections.Sublist graph.connections
  offers : ∀ key, after.offers registry id key = graph.offers registry id key

/-- What handing on some inputs of a node comes to: each output has the socket that its input
gave it at first, each input has lost the offer that it turned away, and nothing else is
changed but for connections out of the node. -/
structure Handed (registry : Registry) (id : NodeId) (handovers : List Handover)
    (graph after : Graph) : Prop where
  contents : ∀ other, after.content? other = graph.content? other
  inputs : ∀ other key, after.input? other key = graph.input? other key
  outputs : ∀ other key, (other = id → key ∉ handovers.map Handover.output) →
    after.output? other key = graph.output? other key
  sockets : ∀ handover ∈ handovers, (after.output? id handover.output).map Port.socket =
    some (handover.socket registry id graph)
  connections : after.connections.Sublist graph.connections
  offers : ∀ key, key ∉ handovers.map Handover.input →
    after.offers registry id key = graph.offers registry id key
  left : ∀ handover ∈ handovers, after.offers registry id handover.input =
    if handover.turnsAway registry id graph then (graph.offers registry id handover.input).tail
    else graph.offers registry id handover.input

namespace Editing

variable {registry : Registry} {id : NodeId} {handover : Handover} {graph after : Graph}

theorem given_of_setOutputSocket {key : String} {socket : Socket} {made : List Connection × Graph}
    (hfed : graph.FedByOthers id) (hother : (graph.output? id key).map Port.socket ≠ some socket)
    (h : graph.setOutputSocket id key socket = .ok made) :
    Given registry id key socket graph made.2 := by
  obtain ⟨port, hport, ⟨hsame, _⟩ | ⟨_, hmade⟩⟩ := Graph.ok_setOutputSocket h
  · rw [hport, Option.map_some, hsame] at hother
    exact absurd rfl hother
  have houtputs : ∀ other name, (other = id → name ≠ key) →
      made.2.output? other name = graph.output? other name := by
    intro other name hne
    rw [hmade]
    refine (Graph.output?_withSocket ..).trans (if_neg ?_)
    rintro ⟨hid, hkey⟩
    exact hne hid hkey
  rw [hmade] at houtputs ⊢
  refine ⟨?_, fun _ _ => Graph.input?_withSocket .., houtputs, ?_, List.filter_sublist, ?_⟩
  · exact fun other =>
      Graph.content?_modifyNode (by intro _; rfl) (by intro _; rfl) (by intro _; rfl) ..
  · have hgiven := Graph.output?_withSocket graph id id key key socket
    rw [if_pos ⟨rfl, rfl⟩, hport] at hgiven
    exact congrArg (Option.map Port.socket) hgiven
  -- The connections that go leave the node, and none of them leads back to it.
  · intro name
    refine Graph.offers_congr hfed (Graph.incoming_sever fun connection hmem => ?_)
      fun other name hne => houtputs other name fun heq => absurd heq hne
    obtain ⟨hmem, htarget, _⟩ := Graph.mem_incoming.mp hmem
    rw [decide_eq_false (hfed.sources connection hmem htarget)]
    rfl

theorem given_of_retype {key : String} {socket : Socket} {retyped : Bool}
    (hfed : graph.FedByOthers id)
    (h : (retype id key socket).run graph = (.ok retyped, after)) :
    Given registry id key socket graph after ∧
      retyped = !decide ((graph.output? id key).map Port.socket = some socket) := by
  by_cases hsame : (graph.output? id key).map Port.socket = some socket
  · rw [run_retype_same hsame] at h
    cases h
    exact ⟨⟨fun _ => rfl, fun _ _ => rfl, fun _ _ _ => rfl, hsame, .refl _, fun _ => rfl⟩,
      by rw [decide_eq_true hsame]; rfl⟩
  · rw [run_retype_other hsame] at h
    cases hmade : graph.setOutputSocket id key socket with
    | error error =>
        rw [hmade] at h
        cases h
    | ok made =>
        rw [hmade] at h
        cases h
        exact ⟨given_of_setOutputSocket hfed hsame hmade, by rw [decide_eq_false hsame]; rfl⟩

theorem handed_of_handOn {answer : Socket × Bool} (hfed : graph.FedByOthers id)
    (h : (handOn registry id handover).run graph = (.ok answer, after)) :
    Handed registry id [handover] graph after ∧
      answer = (handover.socket registry id graph, !handover.isSettled registry id graph) := by
  rw [run_handOn] at h
  obtain ⟨connections, hsub, hturned⟩ := graph.turned_eq registry id handover.input
  rcases hrun : (retype id handover.output (handover.socket registry id graph)).run
    (graph.turned registry id handover.input) with ⟨error | retyped, changed⟩
  · rw [hrun] at h
    cases h
  · rw [hrun] at h
    cases h
    have hmiddle : (graph.turned registry id handover.input).FedByOthers id :=
      hfed.of_sublist (by rw [hturned]; exact hsub)
    obtain ⟨hgiven, rfl⟩ := given_of_retype hmiddle hrun
    have hturnedOffers := @Graph.offers_turned registry id graph hfed handover.input
    have houtput : ∀ other key,
        (graph.turned registry id handover.input).output? other key = graph.output? other key := by
      rw [hturned]
      exact fun _ _ => rfl
    refine ⟨⟨?_, ?_, ?_, ?_, ?_, ?_, ?_⟩, ?_⟩
    · intro other
      rw [hgiven.contents, hturned]
      rfl
    · intro other key
      rw [hgiven.inputs, hturned]
      rfl
    · intro other key hne
      rw [hgiven.outputs other key (by simpa using hne), houtput]
    · intro other hmem
      rw [List.mem_singleton.mp hmem]
      exact hgiven.socket
    · exact hgiven.connections.trans (by rw [hturned]; exact hsub)
    · intro key hne
      rw [hgiven.offers, hturnedOffers key handover.selected, if_neg]
      rintro ⟨heq, _⟩
      exact hne (by simp [heq])
    · intro other hmem
      obtain rfl := List.mem_singleton.mp hmem
      rw [hgiven.offers, hturnedOffers other.input other.selected]
      split
      next hturns => exact (if_pos hturns.2).symm
      next hkept => exact (if_neg fun hturns => hkept ⟨rfl, hturns⟩).symm
    · rw [houtput, Handover.isSettled, Bool.not_and, Bool.not_not]

/-- Nothing is done where nothing is to do. -/
theorem run_handOn_of_isSettled (h : handover.isSettled registry id graph = true) :
    (handOn registry id handover).run graph =
      (.ok (handover.socket registry id graph, false), graph) := by
  obtain ⟨hkept, hsocket⟩ := Bool.and_eq_true_iff.mp h
  have hkept : handover.turnsAway registry id graph = false := by simpa using hkept
  have hsame : graph.turned registry id handover.input = graph := by
    rcases graph.turned_cases registry id handover.input handover.selected with
      ⟨_, hsame⟩ | ⟨hturns, _⟩
    · exact hsame
    · exact absurd (hkept.symm.trans hturns) (by decide)
  rw [run_handOn, hsame, run_retype_same (of_decide_eq_true hsocket), hkept]
  rfl

end Editing

namespace Handed

variable {registry : Registry} {id : NodeId} {handovers : List Handover}
  {graph middle after : Graph}

theorem nil (registry : Registry) (id : NodeId) (graph : Graph) :
    Handed registry id [] graph graph where
  contents := fun _ => rfl
  inputs := fun _ _ => rfl
  outputs := fun _ _ _ => rfl
  sockets := by
    intro _ hmem
    cases hmem
  connections := .refl _
  offers := fun _ _ => rfl
  left := by
    intro _ hmem
    cases hmem

/-- A handover decides by what is offered to its input alone. -/
theorem socket_congr {handover : Handover}
    (h : after.offers registry id handover.input = graph.offers registry id handover.input) :
    handover.socket registry id after = handover.socket registry id graph ∧
      handover.turnsAway registry id after = handover.turnsAway registry id graph := by
  unfold Handover.socket Handover.turnsAway
  rw [h]
  exact ⟨rfl, rfl⟩

/-- Inputs that are handed on one after another do not matter to each other. -/
theorem cons {handover : Handover} (hfirst : Handed registry id [handover] graph middle)
    (hrest : Handed registry id handovers middle after)
    (hinput : handover.input ∉ handovers.map Handover.input)
    (houtput : handover.output ∉ handovers.map Handover.output) :
    Handed registry id (handover :: handovers) graph after := by
  -- What is offered to the other inputs is what was offered to them before.
  have hothers : ∀ other ∈ handovers,
      middle.offers registry id other.input = graph.offers registry id other.input := by
    intro other hmem
    refine hfirst.offers other.input fun heq => hinput ?_
    rw [← List.mem_singleton.mp heq]
    exact List.mem_map_of_mem hmem
  refine ⟨?_, ?_, ?_, ?_, hrest.connections.trans hfirst.connections, ?_, ?_⟩
  · exact fun other => (hrest.contents other).trans (hfirst.contents other)
  · exact fun other key => (hrest.inputs other key).trans (hfirst.inputs other key)
  · intro other key hne
    simp only [List.map_cons, List.mem_cons, not_or] at hne
    rw [hrest.outputs other key fun heq => (hne heq).2,
      hfirst.outputs other key fun heq => by simpa using (hne heq).1]
  · intro other hmem
    rcases List.mem_cons.mp hmem with rfl | hmem
    · rw [hrest.outputs id other.output fun _ => houtput]
      exact hfirst.sockets other (List.mem_cons_self ..)
    · rw [hrest.sockets other hmem, (socket_congr (hothers other hmem)).1]
  · intro key hne
    simp only [List.map_cons, List.mem_cons, not_or] at hne
    rw [hrest.offers key hne.2, hfirst.offers key (by simpa using hne.1)]
  · intro other hmem
    rcases List.mem_cons.mp hmem with rfl | hmem
    · rw [hrest.offers other.input hinput]
      exact hfirst.left other (List.mem_cons_self ..)
    · rw [hrest.left other hmem, (socket_congr (hothers other hmem)).2, hothers other hmem]

end Handed

namespace Editing

variable {registry : Registry} {id : NodeId} {handovers : List Handover} {graph after : Graph}

/-- Many inputs are handed on as if each was on its own. -/
theorem handed_of_mapM {answers : List (Socket × Bool)} (hfed : graph.FedByOthers id)
    (hinputs : (handovers.map Handover.input).Nodup)
    (houtputs : (handovers.map Handover.output).Nodup)
    (h : (handovers.mapM (handOn registry id)).run graph = (.ok answers, after)) :
    Handed registry id handovers graph after ∧
      answers = handovers.map fun handover =>
        (handover.socket registry id graph, !handover.isSettled registry id graph) := by
  induction handovers generalizing graph answers with
  | nil =>
      cases h
      exact ⟨.nil .., rfl⟩
  | cons handover rest ih =>
      rw [List.map_cons, List.nodup_cons] at hinputs houtputs
      rw [List.mapM_cons, run_bind] at h
      rcases hfirst : (handOn registry id handover).run graph with ⟨error | answer, middle⟩
      · rw [hfirst] at h
        cases h
      · rw [hfirst] at h
        dsimp only at h
        rw [run_bind_pure] at h
        rcases hrest : (rest.mapM (handOn registry id)).run middle with ⟨error | others, last⟩
        · rw [hrest] at h
          cases h
        · rw [hrest] at h
          cases h
          obtain ⟨hhanded, rfl⟩ := handed_of_handOn hfed hfirst
          obtain ⟨hothers, rfl⟩ := ih (hfed.of_sublist hhanded.connections) hinputs.2 houtputs.2
            hrest
          refine ⟨hhanded.cons hothers hinputs.1 houtputs.1, ?_⟩
          rw [List.map_cons, List.cons.injEq]
          refine ⟨rfl, List.map_congr_left fun other hmem => ?_⟩
          have hoffers := hhanded.offers other.input fun heq => hinputs.1
            (List.mem_singleton.mp heq ▸ List.mem_map_of_mem hmem)
          have houtput := hhanded.outputs id other.output fun _ heq => houtputs.1
            (List.mem_singleton.mp heq ▸ List.mem_map_of_mem hmem)
          obtain ⟨hsocket, hturns⟩ := Handed.socket_congr hoffers
          rw [Handover.isSettled, Handover.isSettled, hsocket, hturns, houtput]

theorem run_mapM_of_isSettled
    (h : ∀ handover ∈ handovers, handover.isSettled registry id graph = true) :
    (handovers.mapM (handOn registry id)).run graph =
      (.ok (handovers.map fun handover => (handover.socket registry id graph, false)), graph) := by
  induction handovers with
  | nil => rfl
  | cons handover rest ih =>
      rw [List.mapM_cons, run_bind, run_handOn_of_isSettled (h _ (List.mem_cons_self ..))]
      dsimp only
      rw [run_bind_pure, ih fun other hmem => h other (List.mem_cons_of_mem _ hmem)]
      rfl

end Editing

end VisualScript
