import VisualScript.Language

/-!
# Graphs that fit a language

Which ports the nodes of a component may have, and which connections between them
there may be. Both depend on the names of components only, so no edit that keeps
to a language breaks them.
-/

namespace VisualScript

/-! ## Ports -/

namespace ComponentKind

/-- Whether an output of a node of the kind, if it has one under the key, is for the flow. -/
def flowsOut : ComponentKind → String → Bool
  | literal _, _ => false
  | localVariable, _ => false
  | call _, key => key = keys.flowOut
  | definition, key => key = keys.flowOut
  | _, _ => true

/-- Whether an input of a node of the kind, if it has one under the key, is for the
flow. An argument may hide the input for the flow of a call. -/
def flowsIn (registry : Registry) : ComponentKind → String → Bool
  | call function, key => function.hasEffect && decide (key = keys.flowIn) &&
      !function.arguments.any fun argument =>
        decide (argument.name = key) && (registry.get? argument.type).isSome
  | branch, key => key ≠ keys.condition
  | loop, key => key ≠ keys.condition
  | sequence, _ => true
  | code, _ => true
  | _, _ => false

/-- Whether a node of the kind may have an output under a key. -/
def Offers (registry : Registry) : ComponentKind → String → Prop
  | literal name, key => key = keys.result ∧ (registry.get? name).isSome = true
  | call function, key =>
      key = keys.result ∧ (registry.get? function.result).all LanguageType.isVoid = false ∨
        key = keys.flowOut ∧ function.hasEffect = true
  | localVariable, key => key = keys.result
  | _, _ => True

end ComponentKind

namespace Language

/-- The kind of component that a name stands for. -/
def kindOf? (language : Language) (name : String) : Option ComponentKind :=
  (language.catalog.get? name).map Component.kind

/-- The kind of component behind an identity. -/
def kind? (language : Language) (graph : Graph) (id : NodeId) : Option ComponentKind :=
  (graph.node? id).bind fun node => language.kindOf? node.name

end Language

/-- The ports of a node are ones that its component gives. -/
structure Node.Fits (language : Language) (node : Node) : Prop where
  outputs : ∀ {key port}, node.outputs.get? key = some port →
    ∃ kind, language.kindOf? node.name = some kind ∧ kind.Offers language.registry key ∧
      port.socket.isFlow = kind.flowsOut key
  inputs : ∀ {key port}, node.inputs.get? key = some port →
    ∃ kind, language.kindOf? node.name = some kind ∧
      port.socket.isFlow = kind.flowsIn language.registry key

/-- A connection joins ports of one sort. -/
def Connection.Fits (language : Language) (graph : Graph) (connection : Connection) : Prop :=
  ∃ producer consumer, language.kind? graph connection.source = some producer ∧
    language.kind? graph connection.target = some consumer ∧
    producer.Offers language.registry connection.output ∧
    producer.flowsOut connection.output =
      consumer.flowsIn language.registry connection.input

/-- The nodes and connections of a graph fit a language. -/
structure Graph.Fits (language : Language) (graph : Graph) : Prop where
  nodes : ∀ node ∈ graph.nodes, node.Fits language
  connections : ∀ connection ∈ graph.connections, connection.Fits language graph
  distinct : (graph.nodes.map Node.id).Nodup

theorem Socket.isFlow_eq_of_feeds {output input : Socket} (h : output.feeds input = true) :
    output.isFlow = input.isFlow := by
  cases output <;> cases input <;> first | rfl | cases h

theorem LanguageType.isFlow_socket (type : LanguageType) : type.socket.isFlow = false := by
  unfold LanguageType.socket
  dsimp only
  split
  next => rfl
  next => rfl

theorem Registry.isFlow_anySocket (registry : Registry) : registry.anySocket.isFlow = false := by
  unfold anySocket
  cases registry.anyType? with
  | none => rfl
  | some type => exact type.isFlow_socket

theorem Registry.isFlow_logicSocket (registry : Registry) :
    registry.logicSocket.isFlow = false := by
  unfold logicSocket
  cases registry.logicType? with
  | none => exact registry.isFlow_anySocket
  | some type => exact type.isFlow_socket

theorem Node.isFlow_selectedSocket (registry : Registry) (selected : Option String) :
    (Node.selectedSocket registry selected).isFlow = false := by
  unfold Node.selectedSocket
  cases registry.getOrAny? selected with
  | none => exact registry.isFlow_anySocket
  | some type => exact type.isFlow_socket

theorem numbered_exit_ne_flowOut (index : Nat) : numbered keys.exit index ≠ keys.flowOut := by
  intro h
  have hlist := congrArg String.toList h
  rw [numbered, String.toList_append] at hlist
  cases hlist

namespace Node.Fits

variable {language : Language} {node : Node} {kind : ComponentKind}

theorem addOutput (h : node.Fits language) (hkind : language.kindOf? node.name = some kind)
    {key : String} {port : Port} (hoffers : kind.Offers language.registry key)
    (hflow : port.socket.isFlow = kind.flowsOut key) : (node.addOutput key port).Fits language where
  outputs := by
    intro other found hfound
    have hget : (node.outputs.insert key port).get? other = some found := hfound
    rw [OrderedMap.get?_insert] at hget
    split at hget
    next heq =>
      subst heq
      exact ⟨kind, hkind, hoffers, Option.some.inj hget ▸ hflow⟩
    next => exact h.outputs hget
  inputs := h.inputs

theorem addInput (h : node.Fits language) (hkind : language.kindOf? node.name = some kind)
    {key : String} {port : Port} (hflow : port.socket.isFlow = kind.flowsIn language.registry key) :
    (node.addInput key port).Fits language where
  outputs := h.outputs
  inputs := by
    intro other found hfound
    have hget : (node.inputs.insert key port).get? other = some found := hfound
    rw [OrderedMap.get?_insert] at hget
    split at hget
    next heq =>
      subst heq
      exact ⟨kind, hkind, Option.some.inj hget ▸ hflow⟩
    next => exact h.inputs hget

theorem setData (h : node.Fits language) (data : DataFields) :
    ({ node with data := data } : Node).Fits language where
  outputs := h.outputs
  inputs := h.inputs

theorem eraseOutput (h : node.Fits language) (key : String) :
    ({ node with outputs := node.outputs.erase key } : Node).Fits language where
  outputs := by
    intro other found hfound
    have hget : (node.outputs.erase key).get? other = some found := hfound
    rw [OrderedMap.get?_erase] at hget
    split at hget
    next => cases hget
    next => exact h.outputs hget
  inputs := h.inputs

theorem eraseInput (h : node.Fits language) (key : String) :
    ({ node with inputs := node.inputs.erase key } : Node).Fits language where
  outputs := h.outputs
  inputs := by
    intro other found hfound
    have hget : (node.inputs.erase key).get? other = some found := hfound
    rw [OrderedMap.get?_erase] at hget
    split at hget
    next => cases hget
    next => exact h.inputs hget

/-- An output for values may get any other socket for values. -/
theorem retype (h : node.Fits language) (hkind : language.kindOf? node.name = some kind)
    {key : String} {socket : Socket} (hflow : kind.flowsOut key = false)
    (hsocket : socket.isFlow = false) :
    ({ node with outputs := node.outputs.modify key fun port =>
      { port with socket := socket } } : Node).Fits language where
  outputs := by
    intro other found hfound
    have hget : (node.outputs.modify key fun port => { port with socket := socket }).get? other =
      some found := hfound
    rw [OrderedMap.get?_modify] at hget
    split at hget
    next heq =>
      subst heq
      rw [Option.map_eq_some_iff] at hget
      obtain ⟨port, hport, rfl⟩ := hget
      obtain ⟨other, hother, hoffers, _⟩ := h.outputs hport
      rw [hkind, Option.some.injEq] at hother
      subst hother
      exact ⟨kind, hkind, hoffers, hsocket.trans hflow.symm⟩
    next => exact h.outputs hget
  inputs := h.inputs

end Node.Fits

/-! ## What components give a node -/

/-- A node was changed without breaking what its component gives. -/
structure Node.Keeps (language : Language) (node changed : Node) : Prop where
  id : changed.id = node.id
  name : changed.name = node.name
  fits : changed.Fits language

namespace Node.Keeps

variable {language : Language} {node changed : Node} {kind : ComponentKind}

theorem refl (h : node.Fits language) : node.Keeps language node := ⟨rfl, rfl, h⟩

theorem addOutput (h : node.Keeps language changed)
    (hkind : language.kindOf? node.name = some kind) {key : String} {port : Port}
    (hoffers : kind.Offers language.registry key) (hflow : port.socket.isFlow = kind.flowsOut key) :
    node.Keeps language (changed.addOutput key port) :=
  ⟨h.id, h.name, h.fits.addOutput (h.name ▸ hkind) hoffers hflow⟩

theorem addInput (h : node.Keeps language changed)
    (hkind : language.kindOf? node.name = some kind) {key : String} {port : Port}
    (hflow : port.socket.isFlow = kind.flowsIn language.registry key) :
    node.Keeps language (changed.addInput key port) :=
  ⟨h.id, h.name, h.fits.addInput (h.name ▸ hkind) hflow⟩

theorem addFlowIn (h : node.Keeps language changed)
    (hkind : language.kindOf? node.name = some kind)
    (hflow : kind.flowsIn language.registry keys.flowIn = true) :
    node.Keeps language changed.addFlowIn :=
  h.addInput hkind hflow.symm

theorem addFlowOut (h : node.Keeps language changed)
    (hkind : language.kindOf? node.name = some kind) (key : String)
    (hoffers : kind.Offers language.registry key) (hflow : kind.flowsOut key = true) :
    node.Keeps language (changed.addFlowOut key) :=
  h.addOutput hkind hoffers hflow.symm

theorem setData (h : node.Keeps language changed) (data : DataFields) :
    node.Keeps language { changed with data := data } :=
  ⟨h.id, h.name, h.fits.setData data⟩

theorem setNewData (h : node.Keeps language changed) (key : String) (value : Json) :
    node.Keeps language (changed.setNewData key value) := h.setData _

theorem addExits (h : node.Keeps language changed)
    (hkind : language.kindOf? node.name = some .sequence) (first last : Nat) :
    node.Keeps language (changed.addExits first last) := by
  refine List.foldlRecOn (motive := node.Keeps language) _ _ h ?_
  intro changed h index _
  exact h.addOutput hkind trivial rfl

theorem addArguments (h : node.Keeps language changed)
    (hkind : language.kindOf? node.name = some .definition) (first last : Nat) :
    node.Keeps language (changed.addArguments language.registry first last) := by
  refine List.foldlRecOn (motive := node.Keeps language) _ _ h ?_
  intro changed h index _
  have hinput : node.Keeps language (changed.addInput (numbered keys.argument index)
      ⟨"Argument " ++ toString (index + 1), language.registry.anySocket⟩) :=
    h.addInput hkind language.registry.isFlow_anySocket
  refine hinput.addOutput hkind trivial ?_
  exact (Node.isFlow_selectedSocket _ _).trans
    (decide_eq_false (numbered_exit_ne_flowOut index)).symm

end Node.Keeps

namespace Node

variable {registry : Registry} {node : Node}

theorem addOperand_rest (argument : Argument) :
    (addOperand registry.get? node argument).id = node.id ∧
      (addOperand registry.get? node argument).name = node.name ∧
      (addOperand registry.get? node argument).outputs = node.outputs := by
  unfold addOperand
  cases registry.get? argument.type with
  | none => exact ⟨rfl, rfl, rfl⟩
  | some type =>
      dsimp only
      split
      next => exact ⟨rfl, rfl, rfl⟩
      next => exact ⟨rfl, rfl, rfl⟩

/-- The operands of a call leave all but its inputs and data alone. -/
theorem foldl_addOperand_rest (arguments : List Argument) :
    (arguments.foldl (addOperand registry.get?) node).id = node.id ∧
      (arguments.foldl (addOperand registry.get?) node).name = node.name ∧
      (arguments.foldl (addOperand registry.get?) node).outputs = node.outputs := by
  induction arguments generalizing node with
  | nil => exact ⟨rfl, rfl, rfl⟩
  | cons argument rest ih =>
      obtain ⟨hid, hname, houtputs⟩ := @addOperand_rest registry node argument
      obtain ⟨hrestId, hrestName, hrestOutputs⟩ :=
        @ih (addOperand registry.get? node argument)
      rw [List.foldl_cons]
      exact ⟨hrestId.trans hid, hrestName.trans hname, hrestOutputs.trans houtputs⟩

/-- An input of a call is one for values, or no argument goes by its key. -/
theorem inputs_foldl_addOperand (arguments : List Argument) {key : String} {port : Port}
    (h : (arguments.foldl (addOperand registry.get?) node).inputs.get? key = some port) :
    let hides := arguments.any fun argument =>
      decide (argument.name = key) && (registry.get? argument.type).isSome
    hides = true ∧ port.socket.isFlow = false ∨
      hides = false ∧ node.inputs.get? key = some port := by
  -- A later argument with the same key replaces the port, so the last one decides. The induction
  -- goes from the front, with what is left to add.
  induction arguments generalizing node with
  | nil => exact .inr ⟨rfl, h⟩
  | cons argument rest ih =>
      rw [List.foldl_cons] at h
      rcases ih h with ⟨hhides, hflow⟩ | ⟨hhides, hget⟩
      · refine .inl ⟨?_, hflow⟩
        rw [List.any_cons, hhides, Bool.or_true]
      · rw [List.any_cons, hhides, Bool.or_false]
        unfold addOperand at hget
        cases htype : registry.get? argument.type with
        | none =>
            rw [htype] at hget
            exact .inr ⟨Bool.and_false _, hget⟩
        | some type =>
            rw [htype] at hget
            have hinsert : (node.inputs.insert argument.name ⟨argument.name, type.socket⟩).get?
                key = some port := by
              dsimp only at hget
              split at hget
              next => exact hget
              next => exact hget
            rw [OrderedMap.get?_insert] at hinsert
            split at hinsert
            next heq =>
              rw [Option.some.injEq] at hinsert
              subst hinsert
              exact .inl ⟨by simp [heq], type.isFlow_socket⟩
            next hne => exact .inr ⟨by simp [hne], hinsert⟩

end Node

namespace ComponentKind

variable {language : Language} {node : Node} {kind : ComponentKind}

/-- The node that a call starts from: one with the output for its result, if it has one. -/
theorem exists_result {function : Callable}
    (hkind : language.kindOf? node.name = some (.call function)) (h : node.Fits language) :
    ∃ typed : Node, node.Keeps language typed ∧ typed.inputs = node.inputs ∧
      node.addCall language.registry.get? function =
        function.arguments.foldl (Node.addOperand language.registry.get?)
          (if function.hasEffect then typed.addFlowIn.addFlowOut keys.flowOut else typed) := by
  unfold Node.addCall
  cases htype : language.registry.get? function.result with
  | none => exact ⟨node, .refl h, rfl, rfl⟩
  | some type =>
      cases hvoid : type.isVoid with
      | true =>
          simp only [hvoid, if_true]
          exact ⟨node, .refl h, rfl, rfl⟩
      | false =>
          have hoffers : (ComponentKind.call function).Offers language.registry keys.result :=
            .inl ⟨rfl, by rw [htype]; exact hvoid⟩
          have hresult : node.Keeps language
              (node.addOutput keys.result ⟨"Result", type.socket⟩) :=
            (Node.Keeps.refl h).addOutput hkind hoffers type.isFlow_socket
          simp only [hvoid, Bool.false_eq_true, if_false]
          exact ⟨_, hresult, rfl, rfl⟩

/-- A call fits once its operands have their inputs, also where one of them takes the
place of the input for the flow. -/
theorem call_keeps {function : Callable} {flowing : Node} (hid : flowing.id = node.id)
    (hname : flowing.name = node.name)
    (hkind : language.kindOf? node.name = some (.call function)) (h : node.Fits language)
    (houtputs : ∀ {key port}, flowing.outputs.get? key = some port →
      ∃ kind, language.kindOf? node.name = some kind ∧ kind.Offers language.registry key ∧
        port.socket.isFlow = kind.flowsOut key)
    (hinputs : ∀ {key port}, flowing.inputs.get? key = some port →
      (function.hasEffect && decide (key = keys.flowIn)) = true ∧ port.socket.isFlow = true ∨
        node.inputs.get? key = some port) :
    node.Keeps language
      (function.arguments.foldl (Node.addOperand language.registry.get?) flowing) := by
  obtain ⟨hid', hname', houtputs'⟩ :=
    @Node.foldl_addOperand_rest language.registry flowing function.arguments
  refine ⟨hid'.trans hid, hname'.trans hname, ?_, ?_⟩
  · intro key port hget
    rw [hname', hname]
    exact houtputs (houtputs' ▸ hget)
  · intro key port hget
    rw [hname', hname]
    rcases Node.inputs_foldl_addOperand function.arguments hget with
      ⟨hhides, hflow⟩ | ⟨hhides, hfirst⟩
    · refine ⟨_, hkind, ?_⟩
      rw [hflow, flowsIn, hhides, Bool.not_true, Bool.and_false]
    · rcases hinputs hfirst with ⟨hkey, hflow⟩ | hold
      · refine ⟨_, hkind, ?_⟩
        rw [hflow, flowsIn, hhides, hkey]
        rfl
      · exact h.inputs hold

theorem build_call_keeps {function : Callable}
    (hkind : language.kindOf? node.name = some (.call function)) (h : node.Fits language) :
    node.Keeps language (node.addCall language.registry.get? function) := by
  obtain ⟨typed, htyped, hinputs, hcall⟩ := exists_result hkind h
  rw [hcall]
  cases heffect : function.hasEffect with
  | true =>
      have hout : node.Keeps language (typed.addFlowOut keys.flowOut) :=
        htyped.addFlowOut hkind _ (.inr ⟨rfl, heffect⟩) rfl
      refine call_keeps htyped.id htyped.name hkind h ?_ ?_
      · intro key port hget
        exact hout.name ▸ hout.fits.outputs hget
      · intro key port hget
        have hinsert : (typed.inputs.insert keys.flowIn .flow).get? key = some port := hget
        rw [OrderedMap.get?_insert] at hinsert
        split at hinsert
        next heq =>
          rw [Option.some.injEq] at hinsert
          subst hinsert
          exact .inl ⟨by simp [heffect, heq], rfl⟩
        next => exact .inr (hinputs ▸ hinsert)
  | false =>
      refine call_keeps htyped.id htyped.name hkind h ?_ ?_
      · intro key port hget
        exact htyped.name ▸ htyped.fits.outputs hget
      · intro key port hget
        exact .inr (hinputs ▸ hget)

/-- A component gives its nodes ports that fit. -/
theorem build_keeps (hkind : language.kindOf? node.name = some kind) (h : node.Fits language) :
    node.Keeps language (kind.build language.registry node) := by
  have hself : node.Keeps language node := .refl h
  cases kind with
  | literal name =>
      rw [build]
      cases htype : language.registry.get? name with
      | none => exact hself
      | some type =>
          have hoffers : (ComponentKind.literal name).Offers language.registry keys.result :=
            ⟨rfl, by rw [htype]; rfl⟩
          exact (hself.addOutput hkind hoffers type.isFlow_socket).setNewData _ _
  | call function => exact build_call_keeps hkind h
  | branch =>
      -- Each port is added to a node that fits, in the order in which the component builds them.
      have hnext := (hself.addFlowIn hkind rfl).addFlowOut hkind keys.flowOut trivial rfl
      have hexits := (hnext.addFlowOut hkind keys.thenExit trivial rfl).addFlowOut hkind
        keys.elseExit trivial rfl
      exact hexits.addInput hkind language.registry.isFlow_logicSocket
  | loop =>
      have hnext := (hself.addFlowIn hkind rfl).addFlowOut hkind keys.flowOut trivial rfl
      have hbody := hnext.addFlowOut hkind keys.body trivial rfl
      exact hbody.addInput hkind language.registry.isFlow_logicSocket
  | sequence => exact (hself.addFlowIn hkind rfl).addExits hkind _ _
  | definition => exact (hself.addFlowOut hkind _ trivial rfl).addArguments hkind _ _
  | localVariable =>
      have hresult : node.Keeps language (node.addOutput keys.result
          ⟨"Result", Node.selectedSocket language.registry (node.text? keys.typeName)⟩) :=
        hself.addOutput hkind rfl (Node.isFlow_selectedSocket _ _)
      exact hresult.addInput hkind language.registry.isFlow_anySocket
  | code => exact ((hself.addFlowIn hkind rfl).addFlowOut hkind _ trivial rfl).setNewData _ _
  | topLevelCode => exact (hself.addFlowOut hkind _ trivial rfl).setNewData _ _

end ComponentKind

end VisualScript
