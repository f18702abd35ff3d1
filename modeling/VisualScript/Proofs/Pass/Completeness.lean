import VisualScript.Proofs.Pass.Frame

/-!
# Reached nodes are complete

A walk that reports nothing reaches only nodes that have all they need: a known
component, the inputs that it cannot do without, and literals that are valid.
-/

namespace VisualScript

namespace Context

/-- Something is connected to an input. -/
def Connected (context : Context) (id : NodeId) (input : String) : Prop :=
  (context.graph.firstIncoming? id input).isSome = true

/-- An argument of a call has a value: one that is connected, or a valid literal. -/
def Supplied (context : Context) (node : Node) (argument : Argument) : Prop :=
  context.Connected node.id argument.name ∨
    ∃ type, context.typeOf? argument.type = some type ∧ type.takesText = true ∧
      type.accepts (type.entered node argument.name) = true

/-- An argument of a function can be declared: something is wired into it that
constructs a valid literal, or nothing is and a type is selected that is no wildcard. -/
inductive Declared (context : Context) (node : Node) (index : Nat) : Prop where
  | byLiteral {connection type literal}
      (wired : context.graph.firstIncoming? node.id (numbered keys.argument index) =
        some connection)
      (constructs : context.literalType? connection.source = some type)
      (found : context.graph.node? connection.source = some literal)
      (accepts : type.accepts (type.entered literal keys.value) = true)
  | typed {name type}
      (unwired : context.graph.firstIncoming? node.id (numbered keys.argument index) = none)
      (selected : node.textAt? keys.typeName index = some name)
      (registered : context.registry.get? name = some type) (proper : type.isAny = false)

/-- The names of the parameters of a function. -/
def parameterNames (context : Context) (node : Node) : List String :=
  (List.range (node.count keys.argumentCount)).map fun index =>
    match context.graph.firstIncoming? node.id (numbered keys.argument index) with
    | some connection => connection.source.localName
    | none => numbered keys.argument index

/-- A node of a component has all it needs. -/
def Complete (context : Context) (node : Node) : ComponentKind → Prop
  | .literal name => ∃ type, context.typeOf? name = some type ∧
      type.accepts (type.entered node keys.value) = true
  | .call function => ∀ argument ∈ function.arguments, context.Supplied node argument
  | .branch => context.Connected node.id keys.condition
  | .loop => context.Connected node.id keys.condition
  | .definition => (∀ index < node.count keys.argumentCount, context.Declared node index) ∧
      (context.parameterNames node).Nodup
  | _ => True

/-- A node is there, its component is known, and it has all it needs. -/
def CompleteAt (context : Context) (id : NodeId) : Prop :=
  ∃ node component, context.graph.node? id = some node ∧
    context.catalog.get? node.name = some component ∧ context.Complete node component.kind

/-- The types of all arguments of calls are registered. -/
def Registered (context : Context) : Prop :=
  ∀ {id function}, context.kind? id = some (.call function) →
    ∀ argument ∈ function.arguments, (context.typeOf? argument.type).isSome = true

variable {context : Context}

theorem Hosts.completeAt {node : Node} {kind : ComponentKind} (h : context.Hosts node kind)
    (hcomplete : context.Complete node kind) : context.CompleteAt node.id := by
  obtain ⟨component, hcomponent, rfl⟩ := Option.map_eq_some_iff.mp h.known
  exact ⟨node, component, h.found, hcomponent, hcomplete⟩

theorem connected_of_feed {id : NodeId} {input : String}
    (h : context.feed id input ≠ .nothing) : context.Connected id input := by
  unfold feed at h
  unfold Connected
  split at h
  next => exact absurd rfl h
  next connection hconnection =>
    rw [hconnection]
    rfl

/-- What a default of a parameter is made of. -/
theorem exists_connection_of_wiring {node literal : Node} {index : Nat} {source : NodeId}
    {type : LanguageType} (h : context.wiring node index = .byLiteral source type literal) :
    ∃ connection, context.graph.firstIncoming? node.id (numbered keys.argument index) =
        some connection ∧ connection.source = source ∧
      context.literalType? source = some type ∧ context.graph.node? source = some literal := by
  unfold wiring at h
  split at h
  next connection hconnection =>
    split at h
    next htype hfound =>
      cases h
      exact ⟨connection, hconnection, rfl, htype, hfound⟩
    next => cases h
  next =>
    split at h
    next => cases h
    next => cases h

theorem declared_of_typed {node : Node} {index : Nat} {type : LanguageType}
    (h : context.wiring node index = .typed type) :
    context.graph.firstIncoming? node.id (numbered keys.argument index) = none ∧
      context.Declared node index := by
  unfold wiring at h
  split at h
  next =>
    split at h
    next => cases h
    next => cases h
  next hnone =>
    split at h
    next found hfound =>
      cases h
      obtain ⟨hselected, hproper⟩ := Option.filter_eq_some_iff.mp hfound
      obtain ⟨name, hname, hregistered⟩ := Option.bind_eq_some_iff.mp hselected
      exact ⟨hnone, .typed hnone hname hregistered (by simpa using hproper)⟩
    next => cases h

/-- The name of a parameter goes by what is wired into its argument, else by the key of the
argument. -/
theorem name_wiring (context : Context) (node : Node) (index : Nat) :
    (context.wiring node index).name index =
      match context.graph.firstIncoming? node.id (numbered keys.argument index) with
      | some connection => connection.source.localName
      | none => numbered keys.argument index := by
  unfold wiring
  cases context.graph.firstIncoming? node.id (numbered keys.argument index) with
  | none =>
      dsimp only
      split
      next => rfl
      next => rfl
  | some connection =>
      dsimp only
      split
      next => rfl
      next => rfl

theorem parameterNames_eq (context : Context) (node : Node) :
    context.parameterNames node = (List.range (node.count keys.argumentCount)).map
      fun index => (context.wiring node index).name index :=
  List.map_congr_left fun index _ => (context.name_wiring node index).symm

/-- A literal that constructs the default of a parameter is complete. -/
theorem completeAt_of_literalType? {source : NodeId} {type : LanguageType} {literal : Node}
    (htype : context.literalType? source = some type)
    (hfound : context.graph.node? source = some literal)
    (haccepts : type.accepts (type.entered literal keys.value) = true) :
    context.CompleteAt source := by
  obtain ⟨name, hknown, hregistered⟩ := kind?_of_literalType? htype
  rw [kind?, component?, hfound, Option.bind_some] at hknown
  obtain ⟨component, hcomponent, hkind⟩ := Option.map_eq_some_iff.mp hknown
  refine ⟨literal, component, hfound, hcomponent, ?_⟩
  rw [hkind]
  exact ⟨type, hregistered, haccepts⟩

end Context

/-- What a piece of work that reports nothing shows to be complete. -/
def Task.Completes (context : Context) : Task → Prop
  | input consumer key value => value.isSome = true → context.Connected consumer key
  | operands node arguments _ => ∀ argument ∈ arguments,
      (context.typeOf? argument.type).isSome = true → context.Supplied node argument
  | parameters node seen indices => (∀ index ∈ indices, context.Declared node index) ∧
      (indices.map fun index => (context.wiring node index).name index).Nodup ∧
      ∀ index ∈ indices, (context.wiring node index).name index ∉ seen
  | emission kind node => context.Complete node kind
  | _ => True

namespace Task.Completes

variable {context : Context} {node : Node} {seen : List String}

theorem noParameters : (Task.parameters node seen []).Completes context := by
  refine ⟨?_, List.nodup_nil, ?_⟩
  · intro index hmem
    cases hmem
  · intro index hmem
    cases hmem

theorem parameter {index : Nat} {rest : List Nat}
    (h : (Task.parameters node ((context.wiring node index).name index :: seen) rest).Completes
      context) (hdeclared : context.Declared node index)
    (hnew : (context.wiring node index).name index ∉ seen) :
    (Task.parameters node seen (index :: rest)).Completes context := by
  obtain ⟨hrest, hdistinct, hunseen⟩ := h
  refine ⟨?_, ?_, ?_⟩
  · intro other hmem
    rcases List.mem_cons.mp hmem with rfl | hmem
    · exact hdeclared
    · exact hrest other hmem
  · rw [List.map_cons, List.nodup_cons]
    -- The later names are new to those seen before, and the name of this parameter is among them.
    refine ⟨fun hmem => ?_, hdistinct⟩
    obtain ⟨other, hother, hsame⟩ := List.mem_map.mp hmem
    exact hunseen other hother (hsame ▸ List.mem_cons_self ..)
  · intro other hmem
    rcases List.mem_cons.mp hmem with rfl | hmem
    · exact hnew
    · exact fun hseen => hunseen other hmem (List.mem_cons_of_mem _ hseen)

end Task.Completes

/-- Whether an edit reaches no node but complete ones. -/
def Edit.ReachesComplete (context : Context) : Edit → Prop
  | claim _ literal => context.CompleteAt literal
  | _ => True

/-- The nodes reached since are complete, and the nodes entered since are among them. -/
structure Pass.Reaches (context : Context) (pass next : Pass) : Prop where
  kept : pass.reached ⊆ next.reached
  complete : ∀ id ∈ next.reached, id ∈ pass.reached ∨ context.CompleteAt id
  entered : ∀ id scope, .entered id scope ∈ next.events →
    .entered id scope ∈ pass.events ∨ id ∈ next.reached

namespace Pass.Reaches

variable {context : Context} {pass middle next : Pass}

/-- Where no node is reached or entered. -/
theorem of_reached (hreached : next.reached = pass.reached)
    (hevents : pass.Adds (fun event => ∀ id scope, event ≠ .entered id scope) next) :
    Reaches context pass next where
  kept := by rw [hreached]; exact List.Subset.refl _
  complete id hid := .inl (hreached ▸ hid)
  entered := by
    intro id scope hmem
    obtain ⟨added, hadded, hidle⟩ := hevents
    rw [hadded] at hmem
    exact .inl ((List.mem_append.mp hmem).resolve_left fun hmem => hidle _ hmem id scope rfl)

theorem refl (pass : Pass) : Reaches context pass pass := of_reached rfl (.refl pass)

theorem trans (hfirst : Reaches context pass middle) (hrest : Reaches context middle next) :
    Reaches context pass next where
  kept := List.Subset.trans hfirst.kept hrest.kept
  complete := by
    intro id hid
    rcases hrest.complete id hid with hmiddle | hcomplete
    · exact hfirst.complete id hmiddle
    · exact .inr hcomplete
  entered := by
    intro id scope hmem
    rcases hrest.entered id scope hmem with hmiddle | hreached
    · exact (hfirst.entered id scope hmiddle).imp_right fun hreached => hrest.kept hreached
    · exact .inr hreached

theorem log (pass : Pass) {event : Event} (h : ∀ id scope, event ≠ .entered id scope) :
    Reaches context pass (pass.log event) := of_reached rfl (.log pass h)

theorem openBlock (pass : Pass) (block : Block) : Reaches context pass (pass.openBlock block) :=
  of_reached rfl (.of_events_eq_cons rfl nofun)

theorem enter {node : NodeId} (pass : Pass) (h : context.CompleteAt node) :
    Reaches context pass ((pass.reach node).enter node) where
  kept := List.subset_cons_self _ _
  complete := by
    intro id hid
    rcases List.mem_cons.mp hid with rfl | hid
    · exact .inr h
    · exact .inl hid
  entered := by
    intro id scope hmem
    rcases List.mem_cons.mp hmem with heq | hmem
    · cases heq
      exact .inr (List.mem_cons_self ..)
    · exact .inl hmem

theorem leave (pass : Pass) (id : NodeId) : Reaches context pass (pass.leave id) :=
  of_reached rfl (.of_events_eq_cons rfl nofun)

theorem claim {literal : NodeId} (pass : Pass) (definition : NodeId)
    (h : context.CompleteAt literal) : Reaches context pass (pass.claim definition literal) where
  kept := List.subset_cons_self _ _
  complete := by
    intro id hid
    rcases List.mem_cons.mp hid with rfl | hid
    · exact .inr h
    · exact .inl hid
  entered := by
    intro id scope hmem
    exact .inl ((List.mem_cons.mp hmem).resolve_left nofun)

theorem of_edited (h : pass.Edited (Edit.ReachesComplete context) next) :
    Reaches context pass next := by
  refine h.related refl trans fun pass edit hedit => ?_
  cases edit with
  | report | require => exact log _ nofun
  | write => exact of_reached rfl (.of_events_eq_cons rfl nofun)
  | splice | setResult | dropResult => exact of_reached rfl (.of_events_eq rfl)
  | claim => exact claim _ _ hedit

end Pass.Reaches

open Pass in
/-- A walk that reports nothing reaches only complete nodes. -/
theorem CleanWalk.completes {context : Context} (hregistered : context.Registered)
    {onChain : List NodeId} {task : Task} {pass next : Pass}
    (h : CleanWalk context onChain task pass next) :
    task.Completes context ∧ pass.Reaches context next := by
  have hedited : ∀ {pass next : Pass}, pass.Edited (Edit.ReachesComplete context) next →
      pass.Reaches context next := .of_edited
  induction h with
  | chainEnd _ _ _ ih => exact ⟨trivial, ih.2⟩
  | chainOn _ _ _ _ ihvisit ihrest => exact ⟨trivial, ihvisit.2.trans ihrest.2⟩
  -- Only here and at defaults is a node reached, and both know that it is complete.
  | visit hosts _ _ ih =>
      have hentered := (Reaches.enter _ (hosts.completeAt ih.1)).trans ih.2
      exact ⟨trivial, hentered.trans (.leave _ _)⟩
  | unconnected => exact ⟨trivial, .refl _⟩
  | followed _ _ _ ih => exact ⟨trivial, ih.2⟩
  | @inside _ id _ pads pass last _ _ close ih =>
      have hopened : pass.Reaches context pass.openChild := .openBlock _ _
      have hclosed := (hopened.trans ih.2).trans (hedited (.paddedIf last id pads))
      rw [← close] at hclosed
      exact ⟨trivial, hclosed.kept, hclosed.complete, hclosed.entered⟩
  | noExits => exact ⟨trivial, .refl _⟩
  | moreExits _ _ ihfirst ihothers => exact ⟨trivial, ihfirst.2.trans ihothers.2⟩
  | settled => exact ⟨trivial, .refl _⟩
  | fresh _ _ _ _ ih => exact ⟨trivial, ih.2.kept, ih.2.complete, ih.2.entered⟩
  | again _ _ _ _ _ _ ih => exact ⟨trivial, ih.2⟩
  | unfed =>
      refine ⟨?_, .refl _⟩
      intro hsome
      cases hsome
  | byParameter _ feed =>
      refine ⟨fun _ => Context.connected_of_feed ?_, .log _ nofun⟩
      rw [feed]
      nofun
  | byValue _ feed _ ih =>
      refine ⟨fun _ => Context.connected_of_feed ?_,
        ih.2.trans (.log _ nofun)⟩
      rw [feed]
      nofun
  | noOperands =>
      refine ⟨?_, .refl _⟩
      intro argument hmem
      cases hmem
  | untypedOperand unknown _ ih =>
      refine ⟨?_, ih.2⟩
      intro argument hmem hknown
      rcases List.mem_cons.mp hmem with rfl | hmem
      · rw [unknown] at hknown
        cases hknown
      · exact ih.1 argument hmem hknown
  | connectedOperand _ _ _ ihinput ihothers =>
      refine ⟨?_, ((hedited (.require _ _)).trans ihinput.2).trans ihothers.2⟩
      intro argument hmem hknown
      rcases List.mem_cons.mp hmem with rfl | hmem
      · exact .inl (ihinput.1 rfl)
      · exact ihothers.1 argument hmem hknown
  | enteredOperand known text _ accepts _ ihinput ihothers =>
      have hinput := (hedited (.require _ _)).trans ihinput.2
      have hothers := (hedited (.require _ _)).trans ihothers.2
      refine ⟨?_, hinput.trans hothers⟩
      intro argument hmem hknown
      rcases List.mem_cons.mp hmem with rfl | hmem
      · exact .inr ⟨_, known, text, accepts⟩
      · exact ihothers.1 argument hmem hknown
  | noParameters => exact ⟨.noParameters, .refl _⟩
  | @literalParameter _ node seen index rest source type literal pass _ wiring accepts new _ ih =>
      obtain ⟨connection, hconnection, rfl, htype, hfound⟩ :=
        Context.exists_connection_of_wiring wiring
      have hrequired : pass.Reaches context (pass.require type.modules) :=
        hedited (.require _ _)
      have hclaimed := hrequired.trans
        (.claim _ node.id (Context.completeAt_of_literalType? htype hfound accepts))
      have hname : (context.wiring node index).name index = connection.source.localName := by
        rw [wiring]
        rfl
      rw [← hname] at new ih
      exact ⟨ih.1.parameter (.byLiteral hconnection htype hfound accepts) new,
        hclaimed.trans ih.2⟩
  | @typedParameter _ node seen index rest type pass _ wiring new _ ih =>
      have hname : (context.wiring node index).name index = numbered keys.argument index := by
        rw [wiring]
        rfl
      rw [← hname] at new ih
      exact ⟨ih.1.parameter (Context.declared_of_typed wiring).2 new,
        (hedited (.require _ _)).trans ih.2⟩
  | literal _ known accepts =>
      exact ⟨⟨_, known, accepts⟩, hedited (.trans (.require _ _) (.keep _ _ _ _))⟩
  | call hosts _ ih =>
      refine ⟨fun argument hlisted => ih.1 argument hlisted ?_, ?_⟩
      · exact hregistered hosts.kind? argument hlisted
      · exact ih.2.trans (hedited (.trans (.requireCall _ _ _) (.placeCall _ _ _ _ _)))
  | declared _ _ ih => exact ⟨trivial, ih.2.trans (hedited (.write _ _ _))⟩
  | declaredTyped _ _ ih =>
      exact ⟨trivial, ih.2.trans (hedited (.declareTyped _ _ _))⟩
  | branch _ _ _ _ _ ihcondition ihthen ihelse =>
      have hthen := (ihcondition.2.trans (hedited (.write _ _ _))).trans ihthen.2
      have helse := (hthen.trans (hedited (.splice _ _))).trans ihelse.2
      exact ⟨ihcondition.1 rfl, helse.trans (hedited (.closeElse _ _ _))⟩
  | loop _ _ _ ihcondition ihbody =>
      have hbody := (ihcondition.2.trans (hedited (.write _ _ _))).trans ihbody.2
      exact ⟨ihcondition.1 rfl, hbody.trans (hedited (.splice _ _))⟩
  | sequence _ _ ih => exact ⟨trivial, ih.2⟩
  | definition _ _ _ ihparameters ihbody =>
      have hheader := (hedited (.writeHeader _ _ _ _)).trans ihbody.2
      have hbody := ihparameters.2.trans hheader
      refine ⟨⟨fun index hless => ihparameters.1.1 index (List.mem_range.mpr hless), ?_⟩,
        (hbody.trans (hedited (.splice _ _))).trans (hedited (.write _ _ _))⟩
      rw [context.parameterNames_eq]
      exact ihparameters.1.2.1
  | code => exact ⟨trivial, hedited (.writeCode _ _)⟩
  | topLevelCode _ _ ih =>
      have hbody := (hedited (.writeCode _ _)).trans ih.2
      exact ⟨trivial, hbody.trans (hedited (.splice _ _))⟩

theorem CleanTour.reaches {context : Context} (hregistered : context.Registered) {index : Nat}
    {roots : List NodeId} {written : List Written} {pass next : Pass}
    (h : CleanTour context index roots written pass next) : pass.Reaches context next := by
  induction h with
  | done => exact .refl _
  | root first _ ih =>
      have hfirst := (Pass.Reaches.openBlock _ _).trans (first.completes hregistered).2
      exact hfirst.trans ih

end VisualScript
