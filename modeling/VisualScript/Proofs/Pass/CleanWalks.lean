import VisualScript.Proofs.Pass.Edges
import VisualScript.Proofs.Pass.Growth

/-!
# Clean walks

A walk through a well-wired graph that reports nothing never meets a node that is
not there, a value that is lacking or a literal that is not valid. What is left of
its steps is told here, each with what it knows of the graph.
-/

namespace VisualScript

/-- A piece of work in a well-wired graph that reports nothing. -/
inductive CleanWalk (context : Context) : List NodeId → Task → Pass → Pass → Prop where
  | chainEnd {onChain id pass next} (flow : context.IsFlow id) (new : id ∉ onChain)
      (visit : CleanWalk context (id :: onChain) (.visit id none) pass next) :
      CleanWalk context onChain (.chain id) pass next
  | chainOn {onChain id following pass middle next} (flow : context.IsFlow id)
      (new : id ∉ onChain)
      (visit : CleanWalk context (id :: onChain) (.visit id (some following)) pass middle)
      (rest : CleanWalk context (id :: onChain) (.chain following) middle next) :
      CleanWalk context onChain (.chain id) pass next
  | visit {onChain node kind pass next} (hosts : context.Hosts node kind)
      (serves : context.IsFlow node.id ∨ context.Delivers node.id)
      (emission : CleanWalk context onChain (.emission kind node)
        ((pass.reach node.id).enter node.id) next) :
      CleanWalk context onChain (.visit node.id (context.nextOf kind node.id)) pass
        (next.leave node.id)
  | unconnected {onChain id exit pass} (open_ : context.graph.firstOutgoing? id exit = none) :
      CleanWalk context onChain (.follow id exit) pass pass
  | followed {onChain id exit connection pass next} (exits : context.Exit id exit)
      (connected : context.graph.firstOutgoing? id exit = some connection)
      (chain : CleanWalk context onChain (.chain connection.target) pass next) :
      CleanWalk context onChain (.follow id exit) pass next
  | inside {onChain id exit pads pass last next}
      (follow : CleanWalk context onChain (.follow id exit) pass.openChild last)
      (close : next = if pads then last.padded id else last) :
      CleanWalk context onChain (.inside id exit pads next.block) pass (next.backTo pass.block)
  | noExits {onChain id pass} : CleanWalk context onChain (.exits id []) pass pass
  | moreExits {onChain id index rest pass middle next}
      (first : CleanWalk context onChain (.follow id (numbered keys.exit index)) pass middle)
      (others : CleanWalk context onChain (.exits id rest) middle next) :
      CleanWalk context onChain (.exits id (index :: rest)) pass next
  | settled {onChain consumer source pass} (delivers : context.Delivers source)
      (known : if context.isOnDemand source then source ∈ pass.initiated
        else source ∈ pass.reached)
      (idle : source ∉ pass.emitting) (visible : pass.inScope source = true) :
      CleanWalk context onChain (.supply consumer source) pass pass
  | fresh {onChain consumer source answer pass next} (delivers : context.Delivers source)
      (demand : context.isOnDemand source = true) (new : source ∉ pass.initiated)
      (visit : CleanWalk context onChain (.visit source answer) (pass.initiate source) next) :
      CleanWalk context onChain (.supply consumer source) pass next
  | again {onChain consumer source answer pass next} (delivers : context.Delivers source)
      (demand : context.isOnDemand source = true) (known : source ∈ pass.initiated)
      (idle : source ∉ pass.emitting) (hidden : pass.inScope source = false)
      (visit : CleanWalk context onChain (.visit source answer) pass next) :
      CleanWalk context onChain (.supply consumer source) pass next
  | unfed {onChain consumer key pass} (feed : context.feed consumer key = .nothing) :
      CleanWalk context onChain (.input consumer key none) pass pass
  | byParameter {onChain consumer key definition name pass} (takes : context.Takes consumer key)
      (feed : context.feed consumer key = .parameter definition name) :
      CleanWalk context onChain (.input consumer key (some (.parameter definition name))) pass
        (pass.log (.resolved ⟨consumer, key, pass.block.path, definition,
          .parameter definition name, false⟩))
  | byValue {onChain consumer key source pass next} (takes : context.Takes consumer key)
      (feed : context.feed consumer key = .value source)
      (supply : CleanWalk context onChain (.supply consumer source) pass next) :
      CleanWalk context onChain (.input consumer key (some (next.valueOf source))) pass
        (next.log (.resolved ⟨consumer, key, pass.block.path, source,
          next.valueOf source, true⟩))
  | noOperands {onChain node pass} : CleanWalk context onChain (.operands node [] []) pass pass
  | untypedOperand {onChain node argument rest values pass next}
      (unknown : context.typeOf? argument.type = none)
      (others : CleanWalk context onChain (.operands node rest values) pass next) :
      CleanWalk context onChain (.operands node (argument :: rest) values) pass next
  | connectedOperand {onChain node argument type value rest values pass middle next}
      (known : context.typeOf? argument.type = some type)
      (input : CleanWalk context onChain (.input node.id argument.name (some value))
        (pass.require type.modules) middle)
      (others : CleanWalk context onChain (.operands node rest values) middle next) :
      CleanWalk context onChain
        (.operands node (argument :: rest) ((argument.name, value) :: values)) pass next
  | enteredOperand {onChain node argument type rest values pass middle next}
      (known : context.typeOf? argument.type = some type) (text : type.takesText = true)
      (input : CleanWalk context onChain (.input node.id argument.name none)
        (pass.require type.modules) middle)
      (accepts : type.accepts (type.entered node argument.name) = true)
      (others : CleanWalk context onChain (.operands node rest values)
        (middle.require type.modules) next) :
      CleanWalk context onChain (.operands node (argument :: rest)
        ((argument.name, type.literalIn node argument.name) :: values)) pass next
  | noParameters {onChain node seen pass} :
      CleanWalk context onChain (.parameters node seen []) pass pass
  | literalParameter {onChain node seen index rest source type literal pass next}
      (wiring : context.wiring node index = .byLiteral source type literal)
      (accepts : type.accepts (type.entered literal keys.value) = true)
      (new : source.localName ∉ seen)
      (others : CleanWalk context onChain (.parameters node (source.localName :: seen) rest)
        ((pass.require type.modules).claim node.id source) next) :
      CleanWalk context onChain (.parameters node seen (index :: rest)) pass next
  | typedParameter {onChain node seen index rest type pass next}
      (wiring : context.wiring node index = .typed type)
      (new : numbered keys.argument index ∉ seen)
      (others : CleanWalk context onChain
        (.parameters node (numbered keys.argument index :: seen) rest)
        (pass.require type.modules) next) :
      CleanWalk context onChain (.parameters node seen (index :: rest)) pass next
  | literal {onChain name type node pass} (hosts : context.Hosts node (.literal name))
      (known : context.typeOf? name = some type)
      (accepts : type.accepts (type.entered node keys.value) = true) :
      CleanWalk context onChain (.emission (.literal name) node) pass
        ((pass.require type.modules).keep node.id
          (context.binds type.isCopyable (context.uses node.id)) (type.literalIn node keys.value))
  | call {onChain function node values pass next} (hosts : context.Hosts node (.call function))
      (operands : CleanWalk context onChain (.operands node function.arguments values) pass next) :
      CleanWalk context onChain (.emission (.call function) node) pass
        ((next.requireCall context function).placeCall context function node.id
          (.ofCall function (.ofList values)))
  | declared {onChain node value pass next} (hosts : context.Hosts node .localVariable)
      (input : CleanWalk context onChain (.input node.id keys.value (some value)) pass next) :
      CleanWalk context onChain (.emission .localVariable node) pass
        (next.write node.id (.declare node.id value))
  | declaredTyped {onChain node pass next} (hosts : context.Hosts node .localVariable)
      (input : CleanWalk context onChain (.input node.id keys.value none) pass next) :
      CleanWalk context onChain (.emission .localVariable node) pass
        (next.declareTyped context node)
  | branch {onChain node value thenBlock elseBlock pass start middle next}
      (hosts : context.Hosts node .branch)
      (condition : CleanWalk context onChain (.input node.id keys.condition (some value)) pass
        start)
      (thenBranch : CleanWalk context onChain (.inside node.id keys.thenExit false thenBlock)
        (start.write node.id (.ifHeader value)) middle)
      (filled : thenBlock.isBlank = false)
      (elseBranch : CleanWalk context onChain (.inside node.id keys.elseExit false elseBlock)
        (middle.splice thenBlock) next) :
      CleanWalk context onChain (.emission .branch node) pass (next.closeElse node.id elseBlock)
  | loop {onChain node value inner pass start next} (hosts : context.Hosts node .loop)
      (condition : CleanWalk context onChain (.input node.id keys.condition (some value)) pass
        start)
      (body : CleanWalk context onChain (.inside node.id keys.body true inner)
        (start.write node.id (.whileHeader value)) next) :
      CleanWalk context onChain (.emission .loop node) pass (next.splice inner)
  | sequence {onChain node pass next} (hosts : context.Hosts node .sequence)
      (exits : CleanWalk context onChain
        (.exits node.id (List.range (numberedCount keys.exit node.outputs))) pass next) :
      CleanWalk context onChain (.emission .sequence node) pass next
  | definition {onChain node inner pass start next} (hosts : context.Hosts node .definition)
      (parameters : CleanWalk context onChain
        (.parameters node [] (List.range (node.count keys.argumentCount))) pass start)
      (body : CleanWalk context onChain (.inside node.id keys.flowOut true inner)
        (start.writeHeader context node ((List.range (node.count keys.argumentCount)).map
          fun index => (context.wiring node index).declaration index)) next) :
      CleanWalk context onChain (.emission .definition node) pass
        ((next.splice inner).write node.id .blank)
  | code {onChain node pass} (hosts : context.Hosts node .code) :
      CleanWalk context onChain (.emission .code node) pass (pass.writeCode node)
  | topLevelCode {onChain node inner pass next} (hosts : context.Hosts node .topLevelCode)
      (body : CleanWalk context onChain (.inside node.id keys.flowOut false inner)
        (pass.writeCode node) next) :
      CleanWalk context onChain (.emission .topLevelCode node) pass (next.splice inner)

/-- Values are got ready only of nodes that have one. -/
theorem CleanWalk.delivers {context : Context} {onChain : List NodeId} {consumer source : NodeId}
    {pass next : Pass} (h : CleanWalk context onChain (.supply consumer source) pass next) :
    context.Delivers source := by
  cases h with
  | settled delivers => exact delivers
  | fresh delivers => exact delivers
  | again delivers => exact delivers

/-! ## Walks without reports are clean -/

namespace Pass

/-- Nothing was reported. -/
def Clean (pass : Pass) : Prop := ∀ diagnostic, .reported diagnostic ∉ pass.events

theorem Clean.of_grows {pass next : Pass} (h : next.Clean) (hgrows : pass.Grows next) :
    pass.Clean := by
  intro diagnostic hmem
  obtain ⟨added, hadded, _⟩ := hgrows
  exact h diagnostic (hadded ▸ List.mem_append_right added hmem)

/-- Edits report nothing where nothing is reported after them. -/
theorem Clean.of_edited {pass next : Pass} (h : next.Clean)
    (hedited : pass.Edited Edit.ReportsErrors next) : pass.Clean :=
  h.of_grows (.of_edited hedited)

theorem not_clean_report (pass : Pass) (kind : DiagnosticKind) (node : NodeId)
    (detail : Option String) : ¬ (pass.report kind node detail).Clean := by
  intro h
  exact h _ (List.mem_cons_self ..)

theorem Clean.checkLiteral {pass : Pass} {type : LanguageType} {node : Node} {key : String}
    (h : (pass.checkLiteral type node key).Clean) :
    type.accepts (type.entered node key) = true ∧
      pass.checkLiteral type node key = pass.require type.modules := by
  unfold Pass.checkLiteral at h ⊢
  split at h
  next haccepts => exact ⟨haccepts, by rw [if_pos haccepts]⟩
  next =>
    exact absurd (h.of_edited (.require _ _)) (not_clean_report _ _ _ _)

theorem Clean.noteDuplicate {pass : Pass} {definition : NodeId} {seen : List String}
    {name : String} (h : (pass.noteDuplicate definition seen name).Clean) :
    name ∉ seen ∧ pass.noteDuplicate definition seen name = pass := by
  unfold Pass.noteDuplicate at h ⊢
  split at h
  next => exact absurd h (not_clean_report _ _ _ _)
  next hnew => exact ⟨hnew, if_neg hnew⟩

theorem Clean.closeThen {pass : Pass} {id : NodeId} {inner : Block}
    (h : (pass.closeThen id inner).Clean) :
    inner.isBlank = false ∧ pass.closeThen id inner = pass.splice inner := by
  unfold Pass.closeThen at h ⊢
  cases hblank : inner.isBlank with
  | true =>
      rw [hblank, if_pos rfl] at h
      exact absurd h (not_clean_report pass _ _ _)
  | false => exact ⟨rfl, rfl⟩

end Pass

/-- What the clean form of a walk is: a value that has to be there is. -/
def Task.Cleanly (context : Context) (onChain : List NodeId) : Task → Pass → Pass → Prop
  | demand consumer key value => fun pass next =>
      value.isSome = true ∧ CleanWalk context onChain (.input consumer key value) pass next
  | task => CleanWalk context onChain task

namespace Walk

/-- The flow goes on where the component of a node says. -/
theorem exists_kind_of_visit_some {context : Context} {onChain : List NodeId}
    {id following : NodeId} {pass next : Pass}
    (h : Walk context onChain (.visit id (some following)) pass next) :
    ∃ kind, context.kind? id = some kind ∧ context.nextOf kind id = some following := by
  cases h with
  | @emitted _ _ _ component _ _ _ found known _ goesOn =>
      refine ⟨component.kind, ?_, goesOn.symm⟩
      rw [Context.kind?, Context.component?, found, Option.bind_some, known]
      rfl

end Walk

namespace Context

theorem Wired.isFlow_of_nextOf {context : Context} (hwired : context.Wired) {id following : NodeId}
    {kind : ComponentKind} (hknown : context.kind? id = some kind)
    (h : context.nextOf kind id = some following) : context.IsFlow following := by
  unfold nextOf at h
  split at h
  next hgoes =>
    rw [Option.map_eq_some_iff] at h
    obtain ⟨connection, hconnection, rfl⟩ := h
    exact hwired.flows (.next hknown hgoes) hconnection
  next => cases h

/-- A node that serves a pass is there, with a component. -/
theorem exists_kind_of_serves {context : Context} {id : NodeId}
    (h : context.IsFlow id ∨ context.Delivers id) : ∃ kind, context.kind? id = some kind := by
  rcases h with ⟨kind, hknown, _⟩ | hdelivers
  · exact ⟨kind, hknown⟩
  · exact hdelivers.exists_kind

/-- The type of a literal that serves a pass is registered. -/
theorem Hosts.exists_type_of_serves {context : Context} {node : Node} {name : String}
    (hhosts : context.Hosts node (.literal name))
    (hserves : context.IsFlow node.id ∨ context.Delivers node.id) :
    ∃ type, context.typeOf? name = some type := by
  have hknown := hhosts.kind?
  rcases hserves with ⟨kind, hkind, hflow⟩ | hdelivers
  · rw [hknown, Option.some.injEq] at hkind
    subst hkind
    cases hflow
  · cases hdelivers with
    | literal hliteral hregistered =>
        rw [hknown, Option.some.injEq, ComponentKind.literal.injEq] at hliteral
        subst hliteral
        exact ⟨_, hregistered⟩
    | call hcall =>
        rw [hknown] at hcall
        cases hcall
    | localVariable hvariable =>
        rw [hknown] at hvariable
        cases hvariable

end Context

/-! ## The pieces of a walk without reports -/

namespace CleanWalk

variable {context : Context} {onChain : List NodeId} {node : Node} {pass start middle next : Pass}

/-- A literal that is entered for an argument is valid. -/
theorem of_enteredOperand {argument : Argument} {type : LanguageType} {rest : List Argument}
    {values : List (String × Expression)}
    (known : context.typeOf? argument.type = some type) (text : type.takesText = true)
    (hinput : CleanWalk context onChain (.input node.id argument.name none)
      (pass.require type.modules) middle)
    (hclean : (middle.checkLiteral type node argument.name).Clean)
    (hothers : CleanWalk context onChain (.operands node rest values)
      (middle.checkLiteral type node argument.name) next) :
    CleanWalk context onChain (.operands node (argument :: rest)
      ((argument.name, type.literalIn node argument.name) :: values)) pass next := by
  obtain ⟨haccepts, hsame⟩ := hclean.checkLiteral
  exact .enteredOperand known text hinput haccepts (hsame ▸ hothers)

/-- A parameter has a new name, and it is declared with a valid literal or with a type. -/
theorem of_moreParameters {seen : List String} {index : Nat} {rest : List Nat}
    (hclean : ((pass.declare node.id index (context.wiring node index)).noteDuplicate node.id seen
      ((context.wiring node index).name index)).Clean)
    (hrest : CleanWalk context onChain
      (.parameters node ((context.wiring node index).name index :: seen) rest)
      ((pass.declare node.id index (context.wiring node index)).noteDuplicate node.id seen
        ((context.wiring node index).name index)) next) :
    CleanWalk context onChain (.parameters node seen (index :: rest)) pass next := by
  obtain ⟨hnew, hsame⟩ := hclean.noteDuplicate
  -- No name came twice, so nothing was noted and only the declaration may have reported.
  rw [hsame] at hclean hrest
  cases hwiring : context.wiring node index with
  | byLiteral source type literal =>
      rw [hwiring] at hclean hnew hrest
      have hchecked : (pass.checkLiteral type literal keys.value).Clean :=
        hclean.of_edited (.claim _ _ _)
      obtain ⟨haccepts, hrequired⟩ := hchecked.checkLiteral
      have hclaimed : pass.declare node.id index (.byLiteral source type literal) =
          (pass.require type.modules).claim node.id source := by
        rw [← hrequired]
        rfl
      exact .literalParameter hwiring haccepts hnew (hclaimed ▸ hrest)
  | unsupported source component =>
      rw [hwiring] at hclean
      exact absurd hclean (Pass.not_clean_report _ _ _ _)
  | typed type =>
      rw [hwiring] at hnew hrest
      exact .typedParameter hwiring hnew hrest
  | untyped =>
      rw [hwiring] at hclean
      exact absurd hclean (Pass.not_clean_report _ _ _ _)

theorem of_literal {name : String} {type : LanguageType}
    (hosts : context.Hosts node (.literal name)) (known : context.typeOf? name = some type)
    {binds : Bool} (hbinds : binds = context.binds type.isCopyable (context.uses node.id))
    (hclean : ((pass.checkLiteral type node keys.value).keep node.id binds
      (type.literalIn node keys.value)).Clean) :
    CleanWalk context onChain (.emission (.literal name) node) pass
      ((pass.checkLiteral type node keys.value).keep node.id binds
        (type.literalIn node keys.value)) := by
  subst hbinds
  obtain ⟨haccepts, hsame⟩ := (hclean.of_edited (.keep _ _ _ _)).checkLiteral
  rw [hsame]
  exact .literal hosts known haccepts

/-- The then block of a branch is not blank. -/
theorem of_branch {condition : Expression} {thenBlock elseBlock : Block}
    (hosts : context.Hosts node .branch)
    (hcondition : CleanWalk context onChain (.input node.id keys.condition (some condition)) pass
      start)
    (hthen : CleanWalk context onChain (.inside node.id keys.thenExit false thenBlock)
      (start.write node.id (.ifHeader condition)) middle)
    (hclean : (middle.closeThen node.id thenBlock).Clean)
    (helse : CleanWalk context onChain (.inside node.id keys.elseExit false elseBlock)
      (middle.closeThen node.id thenBlock) next) :
    CleanWalk context onChain (.emission .branch node) pass (next.closeElse node.id elseBlock) := by
  obtain ⟨hfilled, hsame⟩ := hclean.closeThen
  exact .branch hosts hcondition hthen hfilled (hsame ▸ helse)

end CleanWalk

/-- A walk that leaves a clean pass is a clean walk. -/
theorem Walk.cleanly_of_clean {context : Context} (hwired : context.Wired) {onChain : List NodeId}
    {task : Task} {pass next : Pass} (h : Walk context onChain task pass next)
    (hfits : task.Fits context) (hclean : next.Clean) :
    task.Cleanly context onChain pass next := by
  -- Cleanness goes backwards through the journal, from the end of a walk to each of its pieces;
  -- the fit goes forwards along the graph.
  induction h with
  | turnBack => exact absurd hclean (Pass.not_clean_report _ _ _ _)
  | chainEnd new visit ih => exact .chainEnd hfits new (ih (.inl hfits) hclean)
  | chainOn new visit rest ihvisit ihrest =>
      obtain ⟨kind, hknown, hnext⟩ := visit.exists_kind_of_visit_some
      have hfollowing := hwired.isFlow_of_nextOf hknown hnext
      exact .chainOn hfits new (ihvisit (.inl hfits) (hclean.of_grows rest.grows))
        (ihrest hfollowing hclean)
  | missing absent =>
      obtain ⟨kind, hknown⟩ := Context.exists_kind_of_serves hfits
      rw [Context.kind?, Context.component?, absent] at hknown
      cases hknown
  | unknown => exact absurd hclean (Pass.not_clean_report _ _ _ _)
  | emitted found known emission goesOn ih =>
      obtain rfl := Graph.id_of_node? found
      subst goesOn
      have hhosts : Context.Hosts _ _ _ := ⟨found, congrArg (Option.map Component.kind) known⟩
      exact .visit hhosts hfits (ih ⟨hhosts, hfits⟩ (hclean.of_grows (.leave _ _)))
  | unconnected open_ => exact .unconnected open_
  | followed connected chain ih =>
      exact .followed hfits connected (ih (hwired.flows hfits connected) hclean)
  | @inside _ id _ pads _ last next follow close ih =>
      have hnext : next.Clean := hclean
      have hpadded : last.Edited Edit.ReportsErrors next := close ▸ .paddedIf last id pads
      exact .inside (ih hfits (hnext.of_edited hpadded)) close
  | noExits => exact .noExits
  | moreExits first others ihfirst ihothers =>
      exact .moreExits (ihfirst hfits.firstExit (hclean.of_grows others.grows))
        (ihothers hfits.otherExits hclean)
  | settled known idle visible => exact .settled hfits known idle visible
  | fresh demand new visit ih => exact .fresh hfits demand new (ih (.inr hfits) hclean)
  | again demand known idle hidden pure visit ih =>
      exact .again hfits demand known idle hidden (ih (.inr hfits) hclean)
  | refused => exact absurd hclean (Pass.not_clean_report _ _ _ _)
  | unfed feed => exact .unfed feed
  | byParameter feed => exact .byParameter hfits feed
  | byValue feed supply ih =>
      have hsupplied := hclean.of_grows (.log _ trivial)
      exact .byValue hfits feed (ih (hwired.delivers hfits feed) hsupplied)
  | found input ih => exact ⟨rfl, ih hfits hclean⟩
  | lacking => exact absurd hclean (Pass.not_clean_report _ _ _ _)
  | noOperands => exact .noOperands
  | untypedOperand unknown others ih =>
      exact .untypedOperand unknown
        (ih hfits.others hclean)
  | optionalOperand known text input others ihinput ihothers =>
      exact .connectedOperand known
        (ihinput (hfits.first known) (hclean.of_grows others.grows))
        (ihothers hfits.others hclean)
  | enteredOperand known text input others ihinput ihothers =>
      have hentered := hclean.of_grows others.grows
      exact .of_enteredOperand known text (ihinput (hfits.first known)
        (hentered.of_edited (.checkLiteral _ _ _ _))) hentered (ihothers hfits.others hclean)
  | requiredOperand known text input others ihinput ihothers =>
      exact .connectedOperand known
        (ihinput (hfits.first known) (hclean.of_grows others.grows)).2
        (ihothers hfits.others hclean)
  | lackingOperand known text input others ihinput ihothers =>
      have hmiddle := (hclean.of_grows others.grows).of_edited (.checkLiteral _ _ _ _)
      cases (ihinput (hfits.first known) hmiddle).1
  | noParameters => exact .noParameters
  | moreParameters others ih =>
      exact .of_moreParameters (hclean.of_grows others.grows) (ih trivial hclean)
  | unknownLiteral unknown =>
      obtain ⟨hhosts, hserves⟩ := hfits
      obtain ⟨type, hknown⟩ := hhosts.exists_type_of_serves hserves
      rw [unknown] at hknown
      cases hknown
  | literal known => exact .of_literal hfits.1 known rfl hclean
  | call operands ih =>
      have hoperands := hclean.of_edited ((Pass.Edited.requireCall _ _ _).trans
        (.placeCall _ _ _ _ _))
      exact .call hfits.1
        (ih (fun _ hlisted _ htyped => .argument hfits.1.kind? hlisted htyped) hoperands)
  | declared input ih =>
      exact .declared hfits.1 (ih (.initial hfits.1.kind?) (hclean.of_edited (.write _ _ _)))
  | declaredTyped input ih =>
      exact .declaredTyped hfits.1
        (ih (.initial hfits.1.kind?) (hclean.of_edited (.declareTyped _ _ _)))
  | bareBranch condition ih => cases (ih (.ofBranch hfits.1.kind?) hclean).1
  | branch condition thenBranch elseBranch ihcondition ihthen ihelse =>
      have hknown := hfits.1.kind?
      have helse := hclean.of_edited (.closeElse _ _ _)
      have hthen := helse.of_grows elseBranch.grows
      have hmiddle := hthen.of_edited (.closeThen _ _ _)
      have hstart := (hmiddle.of_grows thenBranch.grows).of_edited (.write _ _ _)
      exact .of_branch hfits.1 (ihcondition (.ofBranch hknown) hstart).2
        (ihthen (.thenExit hknown) hmiddle) hthen (ihelse (.elseExit hknown) helse)
  | bareLoop condition ih => cases (ih (.ofLoop hfits.1.kind?) hclean).1
  | loop condition body ihcondition ihbody =>
      have hknown := hfits.1.kind?
      have hbody := hclean.of_edited (.splice _ _)
      have hstart := (hbody.of_grows body.grows).of_edited (.write _ _ _)
      exact .loop hfits.1 (ihcondition (.ofLoop hknown) hstart).2 (ihbody (.body hknown) hbody)
  | sequence exits ih =>
      exact .sequence hfits.1
        (ih (fun _ hindex => .item hfits.1 (List.mem_range.mp hindex)) hclean)
  | definition parameters body ihparameters ihbody =>
      have hbody := hclean.of_edited ((Pass.Edited.splice _ _).trans (.write _ _ _))
      have hstart := (hbody.of_grows body.grows).of_edited (.writeHeader _ _ _ _)
      exact .definition hfits.1 (ihparameters trivial hstart)
        (ihbody (.inner hfits.1.kind? rfl) hbody)
  | code => exact .code hfits.1
  | topLevelCode body ih =>
      exact .topLevelCode hfits.1
        (ih (.inner hfits.1.kind? rfl) (hclean.of_edited (.splice _ _)))

/-- A tour that reports nothing goes along clean walks. -/
inductive CleanTour (context : Context) :
    Nat → List NodeId → List Written → Pass → Pass → Prop where
  | done {index pass} : CleanTour context index [] [] pass pass
  | root {index id rest written pass middle next}
      (first : CleanWalk context [] (.chain id) (pass.openBlock (Block.root index)) middle)
      (others : CleanTour context (index + 1) rest written middle next) :
      CleanTour context index (id :: rest) (middle.block.content ++ written) pass next

theorem Tour.grows {context : Context} {index : Nat} {roots : List NodeId}
    {written : List Written} {pass next : Pass} (h : Tour context index roots written pass next) :
    pass.Grows next := by
  induction h with
  | done => exact .refl _
  | root first _ ih => exact ((Pass.Grows.openBlock _ _).trans first.grows).trans ih

theorem Tour.cleanTour_of_clean {context : Context} (hwired : context.Wired) {index : Nat}
    {roots : List NodeId} {written : List Written} {pass next : Pass}
    (h : Tour context index roots written pass next)
    (hroots : ∀ id ∈ roots, ∃ kind, context.kind? id = some kind ∧ kind.isTopLevel = true)
    (hclean : next.Clean) : CleanTour context index roots written pass next := by
  induction h with
  | done => exact .done
  | root first others ih =>
      obtain ⟨kind, hknown, htop⟩ := hroots _ (List.mem_cons_self ..)
      have hflow : kind.isOnDemand = false := by
        cases kind <;> first | rfl | cases htop
      exact .root (first.cleanly_of_clean hwired ⟨kind, hknown, hflow⟩ (hclean.of_grows others.grows))
        (ih (fun id h => hroots id (List.mem_cons_of_mem _ h)) hclean)

end VisualScript
