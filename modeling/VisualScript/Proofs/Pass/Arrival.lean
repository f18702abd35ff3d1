import VisualScript.Proofs.Pass.Reach

/-!
# Emission gets everywhere

A clean walk misses nothing: where a node is entered, all its inputs that are fed
take their values, and all that its exits lead to is entered as well.
-/

namespace VisualScript

namespace Context

/-- The inputs that components of a kind take the value of. -/
def TakenBy (context : Context) : ComponentKind → String → Prop
  | .call function, key => ∃ argument ∈ function.arguments,
      (context.typeOf? argument.type).isSome = true ∧ key = argument.name
  | .branch, key => key = keys.condition
  | .loop, key => key = keys.condition
  | .localVariable, key => key = keys.value
  | _, _ => False

/-- The exits that the emission of a node of a kind follows by itself. -/
def LeftBy (node : Node) : ComponentKind → String → Prop
  | .branch, exit => exit = keys.thenExit ∨ exit = keys.elseExit
  | .loop, exit => exit = keys.body
  | .sequence, exit => ∃ index < numberedCount keys.exit node.outputs,
      exit = numbered keys.exit index
  | .definition, exit => exit = keys.flowOut
  | .topLevelCode, exit => exit = keys.flowOut
  | _, _ => False

variable {context : Context} {id : NodeId} {kind : ComponentKind}

theorem Takes.takenBy {key : String} (h : context.Takes id key)
    (hknown : context.kind? id = some kind) : context.TakenBy kind key := by
  cases h with
  | argument known listed typed =>
      cases Option.some.inj (hknown.symm.trans known)
      exact ⟨_, listed, typed ▸ rfl, rfl⟩
  | ofBranch known =>
      cases Option.some.inj (hknown.symm.trans known)
      rfl
  | ofLoop known =>
      cases Option.some.inj (hknown.symm.trans known)
      rfl
  | initial known =>
      cases Option.some.inj (hknown.symm.trans known)
      rfl

/-- An exit is followed by the emission of the node, or the flow goes on there. -/
theorem Exit.leftBy {exit : String} {node : Node} (h : context.Exit id exit)
    (hfound : context.graph.node? id = some node) (hknown : context.kind? id = some kind) :
    (exit = keys.flowOut ∧ kind.continuesFlow = true) ∨ LeftBy node kind exit := by
  cases h with
  | next known goesOn =>
      cases Option.some.inj (hknown.symm.trans known)
      exact .inl ⟨rfl, goesOn⟩
  | thenExit known =>
      cases Option.some.inj (hknown.symm.trans known)
      exact .inr (.inl rfl)
  | elseExit known =>
      cases Option.some.inj (hknown.symm.trans known)
      exact .inr (.inr rfl)
  | body known =>
      cases Option.some.inj (hknown.symm.trans known)
      exact .inr rfl
  | item hosts counted =>
      cases Option.some.inj (hknown.symm.trans hosts.kind?)
      cases Option.some.inj (hfound.symm.trans hosts.found)
      exact .inr ⟨_, counted, rfl⟩
  | inner known starts =>
      cases Option.some.inj (hknown.symm.trans known)
      refine .inr ?_
      cases kind <;> first | rfl | cases starts

end Context

/-- An input took a value in a scope. -/
def Served (events : List Event) (consumer : NodeId) (key : String) (scope : ScopePath) : Prop :=
  ∃ resolution, .resolved resolution ∈ events ∧ resolution.consumer = consumer ∧
    resolution.input = key ∧ resolution.scope = scope

/-- A node was entered in a scope or in one inside. -/
def Arrived (events : List Event) (id : NodeId) (scope : ScopePath) : Prop :=
  ∃ inner, scope <+: inner ∧ .entered id inner ∈ events

/-- All that the emission of a node into a scope calls for happened. -/
structure Followed (context : Context) (events : List Event) (id : NodeId) (scope : ScopePath) :
    Prop where
  inputs : ∀ {key}, context.Takes id key → context.feed id key ≠ .nothing →
    Served events id key scope
  exits : ∀ {exit connection}, context.Exit id exit →
    context.graph.firstOutgoing? id exit = some connection →
      Arrived events connection.target scope

section Later

variable {events later : List Event} {id : NodeId} {scope : ScopePath}

theorem Served.mono {key : String} (h : Served events id key scope) (hlater : events ⊆ later) :
    Served later id key scope := by
  obtain ⟨resolution, hmem, hrest⟩ := h
  exact ⟨resolution, hlater hmem, hrest⟩

theorem Arrived.mono (h : Arrived events id scope) (hlater : events ⊆ later) :
    Arrived later id scope := by
  obtain ⟨inner, hinner, hmem⟩ := h
  exact ⟨inner, hinner, hlater hmem⟩

theorem Followed.mono {context : Context} (h : Followed context events id scope)
    (hlater : events ⊆ later) : Followed context later id scope where
  inputs takes feed := (h.inputs takes feed).mono hlater
  exits exits connected := (h.exits exits connected).mono hlater

end Later

/-! ## What a walk still owes -/

/-- The event that is still to come where the flow goes on. -/
def promised (answer : Option NodeId) (scope : ScopePath) : List Event :=
  match answer with
  | none => []
  | some following => [.entered following scope]

/-- What is still to come when a piece of work is done. -/
def Task.promised : Task → ScopePath → List Event
  | visit _ answer, scope => VisualScript.promised answer scope
  | _, _ => []

/-- What a piece of work sees to by itself. -/
def Task.Fulfils (context : Context) : Task → ScopePath → List Event → Prop
  | chain start, scope, events => .entered start scope ∈ events
  | visit id _, scope, events => .entered id scope ∈ events
  | follow id exit, scope, events => ∀ {connection},
      context.graph.firstOutgoing? id exit = some connection →
        Arrived events connection.target scope
  | inside id exit _ _, scope, events => ∀ {connection},
      context.graph.firstOutgoing? id exit = some connection →
        Arrived events connection.target scope
  | exits id indices, scope, events => ∀ index ∈ indices, ∀ {connection},
      context.graph.firstOutgoing? id (numbered keys.exit index) = some connection →
        Arrived events connection.target scope
  | input consumer key _, scope, events => context.feed consumer key ≠ .nothing →
      Served events consumer key scope
  | operands node arguments _, scope, events => ∀ argument ∈ arguments,
      (context.typeOf? argument.type).isSome = true →
        context.feed node.id argument.name ≠ .nothing →
          Served events node.id argument.name scope
  | emission kind node, scope, events =>
      (∀ {key}, context.TakenBy kind key → context.feed node.id key ≠ .nothing →
        Served events node.id key scope) ∧
      ∀ {exit connection}, Context.LeftBy node kind exit →
        context.graph.firstOutgoing? node.id exit = some connection →
          Arrived events connection.target scope
  | _, _, _ => True

/-- No emission begins with an event. -/
def Event.Idle (event : Event) : Prop := ∀ id scope, event ≠ .entered id scope

theorem Pass.Adds.idle_of_edited {pass next : Pass} (h : pass.Edited (fun _ => True) next) :
    pass.Adds Event.Idle next := by
  refine .of_edited (h.mono fun edit _ => ?_)
  cases edit with
  | report => exact fun _ _ => nofun
  | require => exact fun _ _ => nofun
  | write => exact fun _ _ _ => nofun
  | claim => exact fun _ _ => nofun
  | splice | setResult | dropResult => trivial

theorem Pass.Adds.idle_openBlock (pass : Pass) (block : Block) :
    pass.Adds Event.Idle (pass.openBlock block) := .of_events_eq_cons rfl nofun

/-- All that nodes that were entered since call for happened, or is promised. -/
def Pass.Follows (context : Context) (promised : List Event) (pass next : Pass) : Prop :=
  ∀ id scope, .entered id scope ∈ next.events →
    .entered id scope ∈ pass.events ∨ Followed context (promised ++ next.events) id scope

namespace Pass.Follows

variable {context : Context} {promised owed : List Event} {pass middle next : Pass}

/-- What was promised on the way is kept in the end. -/
theorem keepPromise (hfirst : Follows context promised pass middle)
    (hrest : Follows context owed middle next) (hevents : middle.events ⊆ next.events)
    (hkept : promised ⊆ owed ++ next.events) : Follows context owed pass next := by
  intro id scope hmem
  rcases hrest id scope hmem with hmem | hfollowed
  · refine (hfirst id scope hmem).imp_right fun hfollowed => hfollowed.mono ?_
    exact List.append_subset.mpr ⟨hkept, List.subset_append_of_subset_right _ hevents⟩
  · exact .inr hfollowed

theorem trans (hfirst : Follows context [] pass middle) (hrest : Follows context owed middle next)
    (hextends : middle.Extends next) : Follows context owed pass next :=
  hfirst.keepPromise hrest hextends.events.subset (List.nil_subset _)

/-- Before a walk, no emission began. -/
theorem after (hfirst : pass.Adds Event.Idle middle) (h : Follows context owed middle next) :
    Follows context owed pass next := by
  obtain ⟨added, hadded, hidle⟩ := hfirst
  intro id scope hmem
  refine (h id scope hmem).imp_left fun hmem => ?_
  rw [hadded] at hmem
  exact (List.mem_append.mp hmem).resolve_left fun hmem => hidle _ hmem id scope rfl

/-- After a walk, no emission began. -/
theorem before (h : Follows context owed pass middle) (hrest : middle.Adds Event.Idle next) :
    Follows context owed pass next := by
  obtain ⟨added, hadded, hidle⟩ := hrest
  intro id scope hmem
  rw [hadded] at hmem ⊢
  rcases List.mem_append.mp hmem with hmem | hmem
  · exact absurd rfl (hidle _ hmem id scope)
  · refine (h id scope hmem).imp_right fun hfollowed => hfollowed.mono ?_
    exact List.append_subset.mpr ⟨List.subset_append_left _ _,
      List.subset_append_of_subset_right _ (List.subset_append_right _ _)⟩

theorem refl (pass : Pass) : Follows context owed pass pass := fun _ _ => .inl

end Pass.Follows

/-! ## Walks -/

section Walks

variable {context : Context}

/-- The flow goes on behind no node that is emitted on demand. -/
theorem CleanWalk.answer_of_isOnDemand {onChain : List NodeId} {id : NodeId}
    {answer : Option NodeId} {pass next : Pass}
    (h : CleanWalk context onChain (.visit id answer) pass next)
    (hdemand : context.isOnDemand id = true) : answer = none := by
  obtain ⟨_, kind, _, rfl, hosts, rfl, _⟩ := h.exists_emission
  rw [hosts.isOnDemand_eq] at hdemand
  refine if_neg fun hgoes => ?_
  cases kind with
  | call function =>
      have heffect : function.hasEffect = true := hgoes
      rw [ComponentKind.isOnDemand, heffect] at hdemand
      cases hdemand
  | literal | localVariable | sequence | definition | topLevelCode => cases hgoes
  | branch | loop | code => cases hdemand

/-- A node is entered, and all it calls for happens or is where the flow goes on. -/
theorem followed_of_fulfils {node : Node} {kind : ComponentKind} {scope : ScopePath}
    {events : List Event} (hosts : context.Hosts node kind)
    (h : (Task.emission kind node).Fulfils context scope events) :
    Followed context (promised (context.nextOf kind node.id) scope ++ events) node.id scope := by
  obtain ⟨hinputs, hexits⟩ := h
  constructor
  · intro key htakes hfed
    have hserved := hinputs (htakes.takenBy hosts.kind?) hfed
    exact hserved.mono (List.subset_append_right _ _)
  · intro exit connection hexit hconnected
    rcases hexit.leftBy hosts.found hosts.kind? with ⟨rfl, hgoes⟩ | hleft
    · have hnext : context.nextOf kind node.id = some connection.target := by
        rw [Context.nextOf, if_pos hgoes, hconnected]
        rfl
      rw [hnext]
      exact ⟨scope, List.prefix_rfl, List.mem_append_left _ (List.mem_singleton_self _)⟩
    · exact (hexits hleft hconnected).mono (List.subset_append_right _ _)

/-! ### What a walk sees to -/

open Pass

/-- The blocks of a branch lie in the block of the branch. -/
theorem CleanWalk.fulfils_branch {onChain : List NodeId} {node : Node} {value : Expression}
    {thenBlock elseBlock : Block} {pass start middle next : Pass}
    (condition : CleanWalk context onChain (.input node.id keys.condition (some value)) pass start)
    (thenBranch : CleanWalk context onChain (.inside node.id keys.thenExit false thenBlock)
      (start.write node.id (.ifHeader value)) middle)
    (elseBranch : CleanWalk context onChain (.inside node.id keys.elseExit false elseBlock)
      (middle.splice thenBlock) next)
    (hcondition : (Task.input node.id keys.condition (some value)).Fulfils context pass.block.path
      start.events)
    (hthen : (Task.inside node.id keys.thenExit false thenBlock).Fulfils context start.block.path
      middle.events)
    (helse : (Task.inside node.id keys.elseExit false elseBlock).Fulfils context
      middle.block.path next.events) :
    (Task.emission .branch node).Fulfils context pass.block.path
      (next.closeElse node.id elseBlock).events := by
  have hclosed : next.Extends (next.closeElse node.id elseBlock) := .of_edited (.closeElse _ _ _)
  have hspliced : middle.Extends (middle.splice thenBlock) := .of_edited (.splice _ _)
  have hheader : start.Extends (start.write node.id (.ifHeader value)) := .of_edited (.write _ _ _)
  have hmiddle := (hspliced.trans elseBranch.extends).trans hclosed
  have hstart := (hheader.trans thenBranch.extends).trans hmiddle
  have hpath : middle.block.path = start.block.path := thenBranch.extends.path
  rw [condition.extends.path] at hpath hthen
  rw [hpath] at helse
  refine ⟨fun htaken hfed => ?_, fun hleft hconnected => ?_⟩
  · cases htaken
    exact (hcondition hfed).mono hstart.events.subset
  · rcases hleft with rfl | rfl
    · exact (hthen hconnected).mono hmiddle.events.subset
    · exact (helse hconnected).mono hclosed.events.subset

theorem CleanWalk.fulfils_loop {onChain : List NodeId} {node : Node} {value : Expression}
    {inner : Block} {pass start next : Pass}
    (condition : CleanWalk context onChain (.input node.id keys.condition (some value)) pass start)
    (body : CleanWalk context onChain (.inside node.id keys.body true inner)
      (start.write node.id (.whileHeader value)) next)
    (hcondition : (Task.input node.id keys.condition (some value)).Fulfils context pass.block.path
      start.events)
    (hbody : (Task.inside node.id keys.body true inner).Fulfils context start.block.path
      next.events) :
    (Task.emission .loop node).Fulfils context pass.block.path (next.splice inner).events := by
  have hheader : start.Extends (start.write node.id (.whileHeader value)) :=
    .of_edited (.write _ _ _)
  have hspliced : next.Extends (next.splice inner) := .of_edited (.splice _ _)
  rw [condition.extends.path] at hbody
  refine ⟨fun htaken hfed => ?_, fun hleft hconnected => ?_⟩
  · cases htaken
    exact (hcondition hfed).mono ((hheader.trans body.extends).trans hspliced).events.subset
  · cases hleft
    exact (hbody hconnected).mono hspliced.events.subset

/-- An operand is served first, and those behind it are not in its way. -/
theorem Task.Fulfils.cons_operand {node : Node} {argument : Argument}
    {rest : List Argument} {result : Option Expression}
    {values operands : List (String × Expression)}
    {scope : ScopePath} {events later : List Event}
    (hinput : (Task.input node.id argument.name result).Fulfils context scope events)
    (hothers : (Task.operands node rest values).Fulfils context scope later)
    (hlater : events ⊆ later) :
    (Task.operands node (argument :: rest) operands).Fulfils context scope later := by
  intro other hmem htyped hfed
  rcases List.mem_cons.mp hmem with rfl | hmem
  · exact (hinput hfed).mono hlater
  · exact hothers other hmem htyped hfed

/-- A clean walk sees to all that it has to. -/
theorem CleanWalk.fulfils {onChain : List NodeId} {task : Task} {pass next : Pass}
    (h : CleanWalk context onChain task pass next) :
    task.Fulfils context pass.block.path next.events := by
  induction h with
  | chainEnd _ _ _ ih => exact ih
  | chainOn _ _ _ rest ihvisit _ => exact rest.extends.events.subset ihvisit
  | visit _ _ emission _ =>
      exact (emission.extends.trans (.leave _ _)).events.subset (List.mem_cons_self ..)
  | unconnected open_ =>
      intro connection hconnected
      cases open_.symm.trans hconnected
  | followed _ connected _ ih =>
      intro connection hconnected
      cases Option.some.inj (hconnected.symm.trans connected)
      exact ⟨_, List.prefix_rfl, ih⟩
  | inside _ close ih =>
      intro connection hconnected
      obtain ⟨inner, hinner, hmem⟩ := ih hconnected
      have hclosed := close ▸ Extends.of_edited (.paddedIf _ _ _)
      exact ⟨inner, (List.prefix_append _ _).trans hinner, hclosed.events.subset hmem⟩
  | noExits => exact nofun
  | moreExits first others ihfirst ihothers =>
      rw [first.extends.path] at ihothers
      intro other hmem connection hconnected
      rcases List.mem_cons.mp hmem with rfl | hmem
      · exact (ihfirst hconnected).mono others.extends.events.subset
      · exact ihothers other hmem hconnected
  | settled | fresh | again => trivial
  | unfed feed => exact fun hfed => absurd feed hfed
  | byParameter => exact fun _ => ⟨_, List.mem_cons_self .., rfl, rfl, rfl⟩
  | byValue => exact fun _ => ⟨_, List.mem_cons_self .., rfl, rfl, rfl⟩
  | noOperands => exact nofun
  | untypedOperand unknown _ ih =>
      intro other hmem htyped
      rcases List.mem_cons.mp hmem with rfl | hmem
      · rw [unknown] at htyped
        cases htyped
      · exact ih other hmem htyped
  | connectedOperand _ input others ihinput ihothers =>
      rw [input.extends.path] at ihothers
      exact .cons_operand ihinput ihothers others.extends.events.subset
  | enteredOperand _ _ input _ others ihinput ihothers =>
      have hextends := (Extends.of_edited (.require _ _)).trans others.extends
      exact .cons_operand ihinput (input.extends.path ▸ ihothers) hextends.events.subset
  | noParameters | literalParameter | typedParameter => trivial
  | literal => exact ⟨nofun, nofun⟩
  | @call _ function node values _ last _ _ ih =>
      have hplaced : last.Extends ((last.requireCall context function).placeCall context function
          node.id (.ofCall function (.ofList values))) :=
        .of_edited ((Edited.requireCall _ _ _).trans (.placeCall _ _ _ _ _))
      refine ⟨fun htaken hfed => ?_, nofun⟩
      obtain ⟨argument, hlisted, htyped, rfl⟩ := htaken
      exact (ih argument hlisted htyped hfed).mono hplaced.events.subset
  | declared _ _ ih =>
      refine ⟨fun htaken hfed => ?_, nofun⟩
      cases htaken
      exact (ih hfed).mono (Extends.of_edited (.write _ _ _)).events.subset
  | declaredTyped _ _ ih =>
      refine ⟨fun htaken hfed => ?_, nofun⟩
      cases htaken
      exact (ih hfed).mono (Extends.of_edited (.declareTyped _ _ _)).events.subset
  | branch _ condition thenBranch _ elseBranch ihcondition ihthen ihelse =>
      exact fulfils_branch condition thenBranch elseBranch ihcondition ihthen ihelse
  | loop _ condition body ihcondition ihbody =>
      exact fulfils_loop condition body ihcondition ihbody
  | sequence _ _ ih =>
      refine ⟨nofun, ?_⟩
      rintro exit connection ⟨index, hindex, rfl⟩ hconnected
      exact ih index (List.mem_range.mpr hindex) hconnected
  | @definition _ node inner _ start next _ parameters _ _ ihbody =>
      have hheader := (Extends.of_edited (.writeHeader start context node
        ((List.range (node.count keys.argumentCount)).map
          fun index => (context.wiring node index).declaration index))).path
      refine ⟨nofun, fun hleft hconnected => ?_⟩
      cases hleft
      rw [hheader, parameters.extends.path] at ihbody
      have hended : next.Extends ((next.splice inner).write node.id .blank) :=
        .of_edited (.trans (.splice _ _) (.write _ _ _))
      exact (ihbody hconnected).mono hended.events.subset
  | code => exact ⟨nofun, nofun⟩
  | @topLevelCode _ node _ pass _ _ _ ih =>
      have hwritten := (Extends.of_edited (.writeCode pass node)).path
      refine ⟨nofun, fun hleft hconnected => ?_⟩
      cases hleft
      rw [hwritten] at ih
      exact (ih hconnected).mono (Extends.of_edited (.splice _ _)).events.subset

/-! ### What a walk leaves owing -/

/-- What the emission of a node does not do is what the visit promises. -/
theorem Pass.Follows.visit {node : Node} {kind : ComponentKind} {pass next : Pass}
    (hosts : context.Hosts node kind)
    (hfulfils : (Task.emission kind node).Fulfils context pass.block.path next.events)
    (h : ((pass.reach node.id).enter node.id).Follows context [] next) :
    pass.Follows context (VisualScript.promised (context.nextOf kind node.id) pass.block.path)
      (next.leave node.id) := by
  have hentered : Follows context
      (VisualScript.promised (context.nextOf kind node.id) pass.block.path) pass next := by
    intro id scope hmem
    rcases h id scope hmem with hold | hfollowed
    · rcases List.mem_cons.mp hold with heq | hold
      · cases heq
        exact .inr (followed_of_fulfils hosts hfulfils)
      · exact .inl hold
    · exact .inr (hfollowed.mono (List.subset_append_right _ _))
  exact hentered.before (.log next nofun)

/-- A clean walk gets everywhere. -/
theorem CleanWalk.follows {onChain : List NodeId} {task : Task} {pass next : Pass}
    (h : CleanWalk context onChain task pass next) :
    pass.Follows context (task.promised pass.block.path) next := by
  have hidle : ∀ {pass next : Pass}, pass.Edited (fun _ => True) next →
      pass.Adds Event.Idle next := .idle_of_edited
  induction h with
  | chainEnd _ _ _ ih => exact ih
  | chainOn _ _ visit rest ihvisit ihrest =>
      -- The node where the flow goes on is all that the visit left owing, and the rest of the chain
      -- enters it.
      have hfollowing := rest.fulfils
      rw [visit.extends.path] at hfollowing
      have hkept := List.cons_subset.mpr ⟨hfollowing, List.nil_subset _⟩
      exact ihvisit.keepPromise ihrest rest.extends.events.subset hkept
  | visit hosts _ emission ih => exact .visit hosts emission.fulfils ih
  | unconnected => exact .refl _
  | followed _ _ _ ih => exact ih
  | @inside _ id _ pads _ last _ _ close ih =>
      have hlast := (ih.after (.idle_openBlock _ _)).before (hidle (.paddedIf last id pads))
      rw [← close] at hlast
      exact hlast
  | noExits => exact .refl _
  | moreExits _ others ihfirst ihothers => exact ihfirst.trans ihothers others.extends
  | settled => exact .refl _
  -- The flow goes on behind no node that is emitted on demand, so nothing is left owing.
  | fresh _ demand _ visit ih =>
      rw [Task.promised, visit.answer_of_isOnDemand demand] at ih
      exact ih
  | again _ demand _ _ _ visit ih =>
      rw [Task.promised, visit.answer_of_isOnDemand demand] at ih
      exact ih
  | unfed => exact .refl _
  | byParameter => exact (Follows.refl _).before (.log _ nofun)
  | byValue _ _ _ ih => exact ih.before (.log _ nofun)
  | noOperands => exact .refl _
  | untypedOperand _ _ ih => exact ih
  | connectedOperand _ _ others ihinput ihothers =>
      exact (ihinput.after (hidle (.require _ _))).trans ihothers others.extends
  | enteredOperand _ _ _ _ others ihinput ihothers =>
      have hextends := (Extends.of_edited (.require _ _)).trans others.extends
      have hinput := ihinput.after (hidle (.require _ _))
      exact hinput.trans (ihothers.after (hidle (.require _ _))) hextends
  | noParameters => exact .refl _
  | literalParameter _ _ _ _ ih =>
      exact ih.after (hidle ((Edited.require _ _).trans (.claim _ _ _)))
  | typedParameter _ _ _ ih => exact ih.after (hidle (.require _ _))
  | literal =>
      exact (Follows.refl _).before (hidle ((Edited.require _ _).trans (.keep _ _ _ _)))
  | call _ _ ih => exact ih.before (hidle ((Edited.requireCall _ _ _).trans (.placeCall _ _ _ _ _)))
  | declared _ _ ih => exact ih.before (hidle (.write _ _ _))
  | declaredTyped _ _ ih => exact ih.before (hidle (.declareTyped _ _ _))
  | @branch _ node value thenBlock _ _ start middle _ _ _ thenBranch _ elseBranch ihcondition ihthen
      ihelse =>
      have hcondition := ihcondition.before (hidle (.write start node.id (.ifHeader value)))
      have hthen := (hcondition.trans ihthen thenBranch.extends).before
        (hidle (.splice middle thenBlock))
      exact (hthen.trans ihelse elseBranch.extends).before (hidle (.closeElse _ _ _))
  | @loop _ node value _ _ start _ _ _ body ihcondition ihbody =>
      have hcondition := ihcondition.before (hidle (.write start node.id (.whileHeader value)))
      exact (hcondition.trans ihbody body.extends).before (hidle (.splice _ _))
  | sequence _ _ ih => exact ih
  | @definition _ node _ _ start _ _ _ body ihparameters ihbody =>
      have hparameters := ihparameters.before (hidle (.writeHeader start context node
        ((List.range (node.count keys.argumentCount)).map
          fun index => (context.wiring node index).declaration index)))
      exact (hparameters.trans ihbody body.extends).before
        (hidle ((Edited.splice _ _).trans (.write _ _ _)))
  | code => exact (Follows.refl _).before (hidle (.writeCode _ _))
  | topLevelCode _ _ ih =>
      exact (ih.after (hidle (.writeCode _ _))).before (hidle (.splice _ _))

end Walks

/-- A tour that reports nothing gets everywhere. -/
theorem CleanTour.follows {context : Context} {index : Nat} {roots : List NodeId}
    {written : List Written} {pass next : Pass}
    (h : CleanTour context index roots written pass next) :
    pass.events ⊆ next.events ∧ pass.Follows context [] next := by
  induction h with
  | done => exact ⟨List.Subset.refl _, Pass.Follows.refl _⟩
  | @root index _ _ _ pass _ _ first _ ih =>
      obtain ⟨hevents, hfollows⟩ := ih
      have hopened := Pass.Adds.idle_openBlock pass (Block.root index)
      have hsince := List.Subset.trans hopened.subset
        (List.Subset.trans first.extends.events.subset hevents)
      refine ⟨hsince, ?_⟩
      exact (first.follows.after hopened).keepPromise hfollows hevents (List.nil_subset _)

end VisualScript
