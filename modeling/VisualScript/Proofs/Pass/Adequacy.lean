import VisualScript.Language
import VisualScript.Proofs.Pass.Ends
import VisualScript.Proofs.Pass.Walk

/-!
# Runs are walks

Every step of a pass that ends is a walk between the two states. The bound on
the steps of a chain is never felt: each step leaves one node fewer that the
chain could still come to.
-/

namespace VisualScript

open Emit

/-- A test that fails where another does, and somewhere else as well, passes less often. -/
theorem countP_lt_countP {α : Type} {test weaker : α → Bool} {list : List α}
    (hweaker : ∀ item, test item = true → weaker item = true) {item : α} (hmem : item ∈ list)
    (hpasses : weaker item = true) (hfails : test item = false) :
    list.countP test < list.countP weaker := by
  induction list with
  | nil => cases hmem
  | cons first rest ih =>
      have hle : rest.countP test ≤ rest.countP weaker :=
        List.countP_mono_left fun item _ => hweaker item
      rcases List.mem_cons.mp hmem with rfl | hrest
      · rw [List.countP_cons_of_neg (by simp [hfails]), List.countP_cons_of_pos hpasses]
        omega
      · have hlt := ih hrest
        rw [List.countP_cons, List.countP_cons]
        cases htest : test first with
        | false =>
            simp only [Bool.false_eq_true, if_false]
            omega
        | true =>
            simp only [hweaker first htest, if_true]
            omega

namespace Graph

/-- The number of nodes that are not on the chains being walked. -/
def offChain (graph : Graph) (onChain : List NodeId) : Nat :=
  graph.nodes.countP fun node => node.id ∉ onChain

theorem offChain_le_size (graph : Graph) (onChain : List NodeId) :
    graph.offChain onChain ≤ graph.size := List.countP_le_length

/-- A node that joins the chains is one fewer that is not on them. -/
theorem offChain_cons_lt {graph : Graph} {onChain : List NodeId} {id : NodeId} {node : Node}
    (hfound : graph.node? id = some node) (hnew : id ∉ onChain) :
    graph.offChain (id :: onChain) < graph.offChain onChain := by
  refine countP_lt_countP ?_ (mem_of_node? hfound) ?_ ?_
  · intro other h
    simp only [List.mem_cons, not_or, Bool.decide_and, Bool.and_eq_true] at h
    exact h.2
  · simpa [id_of_node? hfound] using hnew
  · simp [id_of_node? hfound]

end Graph

/-- A way to emit nodes whose steps are walks. -/
def Visit.Walks (visit : Visit) (context : Context) : Prop :=
  ∀ {onChain id pass answer next}, (visit onChain id).Ends pass answer next →
    Walk context onChain (.visit id answer) pass next

namespace Walk

variable {context : Context} {onChain : List NodeId} {pass next : Pass}

/-- The flow goes on only behind nodes that are there. -/
theorem exists_node_of_visit_some {id following : NodeId}
    (h : Walk context onChain (.visit id (some following)) pass next) :
    ∃ node, context.graph.node? id = some node := by
  cases h with
  | emitted found => exact ⟨_, found⟩

end Walk

namespace Surroundings

/-! ## Flow -/

theorem chain_walks {visit : Visit} {context : Context} (hvisit : visit.Walks context)
    (bound : Nat) (onChain : List NodeId) (id : NodeId) {pass next : Pass}
    (hbound : context.graph.offChain onChain + 2 ≤ bound)
    (h : (chain visit bound onChain id).Ends pass () next) :
    Walk context onChain (.chain id) pass next := by
  -- The bound is at least two more than the nodes off the chains: one for a target that is not
  -- there, one to turn back. A step that goes on takes one node off and one step.
  induction bound generalizing onChain id pass with
  | zero => omega
  | succ bound ih =>
      unfold chain at h
      split at h
      next hagain =>
        simp only [report, ends_modify] at h
        exact h ▸ .turnBack hagain
      next hnew =>
        obtain ⟨answer, middle, hfirst, hrest⟩ := ends_bind.mp h
        have hwalk := hvisit hfirst
        cases answer with
        | none =>
            obtain ⟨_, rfl⟩ := ends_pure.mp hrest
            exact .chainEnd hnew hwalk
        | some following =>
            obtain ⟨node, hnode⟩ := hwalk.exists_node_of_visit_some
            have hless := Graph.offChain_cons_lt hnode hnew
            exact .chainOn hnew hwalk (ih _ _ (by omega) hrest)

variable {around : Surroundings} {pass next : Pass}

theorem follow_walks (hvisit : around.visit.Walks around.context) {id : NodeId} {exit : String}
    (h : (around.follow id exit).Ends pass () next) :
    Walk around.context around.onChain (.follow id exit) pass next := by
  unfold follow at h
  split at h
  next connection hconnected =>
    refine .followed hconnected (chain_walks hvisit _ _ _ ?_ h)
    have := around.context.graph.offChain_le_size around.onChain
    unfold chainBound
    omega
  next hopen =>
    obtain ⟨_, rfl⟩ := ends_pure.mp h
    exact .unconnected hopen

theorem followInside_walks (hvisit : around.visit.Walks around.context) {id : NodeId}
    {exit : String} {inner : Block} (h : (around.followInside id exit).Ends pass inner next) :
    Walk around.context around.onChain (.inside id exit false inner) pass next := by
  obtain ⟨last, hfollow, rfl, rfl⟩ := ends_inChild.mp h
  exact .inside (follow_walks hvisit hfollow) rfl

theorem body_walks (hvisit : around.visit.Walks around.context) {id : NodeId}
    {exit : String} {inner : Block} (h : (around.body id exit).Ends pass inner next) :
    Walk around.context around.onChain (.inside id exit true inner) pass next := by
  obtain ⟨last, hbody, rfl, rfl⟩ := ends_inChild.mp h
  simp only [ends_bind, ends_get] at hbody
  obtain ⟨_, middle, hfollow, _, _, ⟨rfl, rfl⟩, hpad⟩ := hbody
  refine .inside (follow_walks hvisit hfollow) ?_
  unfold Pass.padded
  split at hpad
  next hblank =>
    rw [if_pos rfl, if_pos hblank]
    exact (ends_modify.mp hpad).symm
  next hblank =>
    rw [if_pos rfl, if_neg hblank]
    exact (ends_pure.mp hpad).2.symm

/-! ## Values -/

/-- Get the value of a source ready for a consumer. -/
def supply (around : Surroundings) (consumer source : NodeId) : Emit Unit :=
  if around.context.isOnDemand source then around.initiate consumer source
  else checkReached consumer source

theorem supply_walks (hvisit : around.visit.Walks around.context) {consumer source : NodeId}
    (h : (around.supply consumer source).Ends pass () next) :
    Walk around.context around.onChain (.supply consumer source) pass next := by
  unfold supply at h
  split at h
  next hdemand =>
    simp only [initiate, ends_bind, ends_get] at h
    obtain ⟨_, _, ⟨rfl, rfl⟩, h⟩ := h
    split at h
    next hnew =>
      simp only [ends_bind, ends_modify, ends_discard] at h
      obtain ⟨_, _, rfl, _, h⟩ := h
      exact .fresh hdemand hnew (hvisit h)
    next hknown =>
      rw [Decidable.not_not] at hknown
      split at h
      next hbusy =>
        obtain rfl := ends_modify.mp h
        exact .refused (.needsItself hdemand hknown hbusy)
      next hidle =>
        split at h
        next hvisible =>
          obtain ⟨_, rfl⟩ := ends_pure.mp h
          exact .settled (by simpa [hdemand] using hknown) hidle hvisible
        next hhidden =>
          rw [Bool.not_eq_true] at hhidden
          split at h
          next hpure =>
            obtain ⟨_, h⟩ := ends_discard.mp h
            exact .again hdemand hknown hidle hhidden hpure (hvisit h)
          next himpure =>
            obtain rfl := ends_modify.mp h
            rw [Bool.not_eq_true] at himpure
            exact .refused (.boundElsewhere hdemand hknown hidle hhidden himpure)
  next hflow =>
    rw [Bool.not_eq_true] at hflow
    simp only [checkReached, ends_bind, ends_get] at h
    obtain ⟨_, _, ⟨rfl, rfl⟩, h⟩ := h
    split at h
    next hbusy =>
      obtain rfl := ends_modify.mp h
      exact .refused (.underWay hflow hbusy)
    next hidle =>
      split at h
      next hunreached =>
        obtain rfl := ends_modify.mp h
        exact .refused (.unreached hflow hidle hunreached)
      next hreached =>
        rw [Decidable.not_not] at hreached
        split at h
        next hhidden =>
          obtain rfl := ends_modify.mp h
          rw [Bool.not_eq_true'] at hhidden
          exact .refused (.executedElsewhere hflow hidle hreached hhidden)
        next hvisible =>
          obtain ⟨_, rfl⟩ := ends_pure.mp h
          rw [Bool.not_eq_true', Bool.not_eq_false] at hvisible
          exact .settled (by simpa [hflow] using hreached) hidle hvisible

/-- What an input takes, told by where its value comes from. -/
theorem optionalInput_eq (around : Surroundings) (consumer : NodeId) (key : String) :
    around.optionalInput consumer key =
      match around.context.feed consumer key with
      | .nothing => pure none
      | .parameter definition name => do
          let scope := (← get).block.path
          Emit.log (.resolved ⟨consumer, key, scope, definition, .parameter definition name, false⟩)
          return some (.parameter definition name)
      | .value source => do
          let scope := (← get).block.path
          around.supply consumer source
          let value := (← get).valueOf source
          Emit.log (.resolved ⟨consumer, key, scope, source, value, true⟩)
          return some value := by
  -- Both sides look up the connection, the node and its kind in the same order.
  unfold optionalInput Context.feed
  cases around.context.graph.firstIncoming? consumer key with
  | none => rfl
  | some connection =>
      cases hnode : around.context.graph.node? connection.source with
      | none => simp only [hnode]
      | some node =>
          have hdemand : ((around.context.catalog.get? node.name).map Component.kind).all
              ComponentKind.isOnDemand = around.context.isOnDemand connection.source := by
            simp [Context.isOnDemand, Context.component?, hnode, Option.all_map]
          simp only [hnode, hdemand]
          split
          next hkind =>
            cases parameterName? around.context.graph connection.source connection.output <;> rfl
          next hkind =>
            dsimp only [supply]
            cases around.context.isOnDemand connection.source <;> rfl

theorem optionalInput_walks (hvisit : around.visit.Walks around.context) {consumer : NodeId}
    {key : String} {value : Option Expression}
    (h : (around.optionalInput consumer key).Ends pass value next) :
    Walk around.context around.onChain (.input consumer key value) pass next := by
  rw [optionalInput_eq] at h
  split at h
  next hfeed =>
    obtain ⟨rfl, rfl⟩ := ends_pure.mp h
    exact .unfed hfeed
  next definition name hfeed =>
    simp only [log, ends_bind, ends_get, ends_modify, ends_pure] at h
    obtain ⟨_, _, ⟨rfl, rfl⟩, _, _, rfl, rfl, rfl⟩ := h
    exact .byParameter hfeed
  next source hfeed =>
    simp only [log, ends_bind, ends_get, ends_modify, ends_pure] at h
    obtain ⟨_, _, ⟨rfl, rfl⟩, _, middle, hsupply, _, _, ⟨rfl, rfl⟩, _, _, rfl, rfl, rfl⟩ := h
    exact .byValue hfeed (supply_walks hvisit hsupply)

theorem input_walks (hvisit : around.visit.Walks around.context) {consumer : NodeId}
    {key : String} {value : Option Expression}
    (h : (around.input consumer key).Ends pass value next) :
    Walk around.context around.onChain (.demand consumer key value) pass next := by
  obtain ⟨found, middle, hinput, h⟩ := ends_bind.mp h
  have hwalk := optionalInput_walks hvisit hinput
  cases found with
  | none =>
      simp only [Option.isNone_none, if_true, report, ends_bind, ends_modify, ends_pure] at h
      obtain ⟨_, _, rfl, rfl, rfl⟩ := h
      exact .lacking hwalk
  | some found =>
      simp only [Option.isNone_some, Bool.false_eq_true, if_false, ends_pure] at h
      obtain ⟨rfl, rfl⟩ := h
      exact .found hwalk

/-! ## Literals and calls -/

theorem ends_literal {type : LanguageType} {node : Node} {key : String} {value : Expression} :
    (literal type node key).Ends pass value next ↔
      type.literalIn node key = value ∧ pass.checkLiteral type node key = next := by
  unfold literal Pass.checkLiteral LanguageType.literalIn LanguageType.entered
  cases haccepts : type.accepts ((node.text? key).getD type.defaultLiteral) <;>
    simp [-bind_pure_comp, haccepts, require, report, ends_bind, ends_modify, ends_pure]

theorem ends_bindOrKeep {id : NodeId} {binds : Bool} {value : Expression} :
    (bindOrKeep id binds value).Ends pass () next ↔ pass.keep id binds value = next := by
  unfold bindOrKeep Pass.keep
  cases binds with
  | false => exact ends_modify
  | true => simp only [if_true, write, ends_bind, ends_modify, exists_eq_left', exists_const]

theorem operand_walks (hvisit : around.visit.Walks around.context) {node : Node}
    {argument : Argument} {rest : List Argument} {found : Option (String × Expression)}
    {values : List (String × Expression)} {middle : Pass}
    (h : (around.operand node argument).Ends pass found middle)
    (hrest : Walk around.context around.onChain (.operands node rest values) middle next) :
    Walk around.context around.onChain (.operands node (argument :: rest)
      (found.toList ++ values)) pass next := by
  unfold operand at h
  cases hknown : around.context.typeOf? argument.type with
  | none =>
    rw [hknown] at h
    obtain ⟨rfl, rfl⟩ := ends_pure.mp h
    exact .untypedOperand hknown hrest
  | some type =>
    rw [hknown] at h
    obtain ⟨_, _, hmodules, h⟩ := ends_bind.mp h
    obtain rfl := ends_modify.mp hmodules
    split at h
    next htext =>
      obtain ⟨value, last, hinput, h⟩ := ends_bind.mp h
      have hwalk := optionalInput_walks hvisit hinput
      cases value with
      | none =>
          simp only [ends_bind, ends_literal, ends_pure] at h
          obtain ⟨_, _, ⟨rfl, rfl⟩, rfl, rfl⟩ := h
          exact .enteredOperand hknown htext hwalk hrest
      | some value =>
          obtain ⟨rfl, rfl⟩ := ends_pure.mp h
          exact .optionalOperand hknown htext hwalk hrest
    next htext =>
      rw [Bool.not_eq_true] at htext
      obtain ⟨value, last, hinput, h⟩ := ends_bind.mp h
      have hwalk := input_walks hvisit hinput
      cases value with
      | none =>
          simp only [ends_bind, ends_literal, ends_pure] at h
          obtain ⟨_, _, ⟨rfl, rfl⟩, rfl, rfl⟩ := h
          exact .lackingOperand hknown htext hwalk hrest
      | some value =>
          obtain ⟨rfl, rfl⟩ := ends_pure.mp h
          exact .requiredOperand hknown htext hwalk hrest

theorem operands_walks (hvisit : around.visit.Walks around.context) {node : Node}
    {arguments : List Argument} {found : List (Option (String × Expression))}
    (h : (arguments.mapM (around.operand node)).Ends pass found next) :
    Walk around.context around.onChain (.operands node arguments (found.filterMap id))
      pass next := by
  induction arguments generalizing found pass with
  | nil =>
      obtain ⟨rfl, rfl⟩ := ends_pure.mp h
      exact .noOperands
  | cons argument rest ih =>
      rw [List.mapM_cons] at h
      simp only [ends_bind, ends_pure] at h
      obtain ⟨first, middle, hfirst, others, last, hothers, rfl, rfl⟩ := h
      have hwalk := operand_walks hvisit hfirst (ih hothers)
      cases first <;> exact hwalk

theorem emitLiteral_walks {name : String} {node : Node}
    (h : (around.emitLiteral name node).Ends pass () next) :
    Walk around.context around.onChain (.emission (.literal name) node) pass next := by
  unfold emitLiteral at h
  cases hknown : around.context.typeOf? name with
  | none =>
      rw [hknown] at h
      obtain ⟨_, rfl⟩ := ends_pure.mp h
      exact .unknownLiteral hknown
  | some type =>
      rw [hknown] at h
      simp only [ends_bind, ends_literal, ends_bindOrKeep] at h
      obtain ⟨_, _, ⟨rfl, rfl⟩, rfl⟩ := h
      exact .literal hknown

theorem emitCall_walks (hvisit : around.visit.Walks around.context) {function : Callable}
    {node : Node} (h : (around.emitCall function node).Ends pass () next) :
    Walk around.context around.onChain (.emission (.call function) node) pass next := by
  simp only [emitCall, require, ends_bind, ends_modify] at h
  obtain ⟨operands, middle, hoperands, _, _, rfl, _, _, rfl, h⟩ := h
  suffices hnext : next = (middle.requireCall around.context function).placeCall around.context
      function node.id (.ofCall function (.ofList (operands.filterMap id))) from
    hnext ▸ .call (operands_walks hvisit hoperands)
  unfold Pass.placeCall
  split at h
  next heffect =>
    rw [if_pos heffect]
    exact (ends_modify.mp h).symm
  next heffect =>
    rw [if_neg heffect]
    exact (ends_bindOrKeep.mp h).symm

theorem emitVariable_walks (hvisit : around.visit.Walks around.context) {node : Node}
    (h : (around.emitVariable node).Ends pass () next) :
    Walk around.context around.onChain (.emission .localVariable node) pass next := by
  obtain ⟨value, middle, hinput, h⟩ := ends_bind.mp h
  have hwalk := optionalInput_walks hvisit hinput
  cases value with
  | some value =>
      obtain rfl := ends_modify.mp h
      exact .declared hwalk
  | none =>
      -- Without a type the modules are not required, so the two forms are compared case by case.
      suffices hnext : next = middle.declareTyped around.context node from
        hnext ▸ .declaredTyped hwalk
      unfold Pass.declareTyped
      dsimp only at h
      cases htype : around.context.registry.getOrAny? (node.text? keys.typeName) with
      | none =>
          simp only [htype, write, ends_modify] at h
          exact h.symm
      | some type =>
          simp only [htype, write, require, ends_bind, ends_modify] at h
          obtain ⟨_, _, rfl, rfl⟩ := h
          rfl

/-! ## Control -/

theorem ends_closeElse {id : NodeId} {inner : Block} :
    (if !inner.isBlank then do
        Emit.write id .elseHeader
        Emit.splice inner
      else pure () : Emit Unit).Ends pass () next ↔ pass.closeElse id inner = next := by
  unfold Pass.closeElse
  cases inner.isBlank with
  | true => simp only [Bool.not_true, Bool.false_eq_true, if_false, if_true, ends_pure, true_and]
  | false =>
      simp only [Bool.not_false, Bool.false_eq_true, if_false, if_true, write, splice, ends_bind,
        ends_modify, exists_eq_left', exists_const]

theorem emitBranch_walks (hvisit : around.visit.Walks around.context) {node : Node}
    (h : (around.emitBranch node).Ends pass () next) :
    Walk around.context around.onChain (.emission .branch node) pass next := by
  obtain ⟨value, start, hinput, h⟩ := ends_bind.mp h
  have hwalk := input_walks hvisit hinput
  cases value with
  | none =>
      obtain ⟨_, rfl⟩ := ends_pure.mp h
      exact .bareBranch hwalk
  | some value =>
      simp only [write, splice, ends_bind, ends_modify] at h
      obtain ⟨_, _, rfl, thenBlock, middle, hthen, h⟩ := h
      have hrest : ∃ elseBlock last, (around.followInside node.id keys.elseExit).Ends
          (middle.closeThen node.id thenBlock) elseBlock last ∧
          last.closeElse node.id elseBlock = next := by
        unfold Pass.closeThen
        split at h
        next hblank =>
          simp only [report, ends_bind, ends_modify] at h
          obtain ⟨_, _, rfl, _, _, rfl, elseBlock, last, helse, h⟩ := h
          rw [if_pos hblank]
          exact ⟨elseBlock, last, helse, ends_closeElse.mp h⟩
        next hblank =>
          simp only [ends_bind, ends_modify] at h
          obtain ⟨_, _, rfl, elseBlock, last, helse, h⟩ := h
          rw [if_neg hblank]
          exact ⟨elseBlock, last, helse, ends_closeElse.mp h⟩
      obtain ⟨elseBlock, last, helse, rfl⟩ := hrest
      exact .branch hwalk (followInside_walks hvisit hthen) (followInside_walks hvisit helse)

theorem emitLoop_walks (hvisit : around.visit.Walks around.context) {node : Node}
    (h : (around.emitLoop node).Ends pass () next) :
    Walk around.context around.onChain (.emission .loop node) pass next := by
  obtain ⟨value, start, hinput, h⟩ := ends_bind.mp h
  have hwalk := input_walks hvisit hinput
  cases value with
  | none =>
      obtain ⟨_, rfl⟩ := ends_pure.mp h
      exact .bareLoop hwalk
  | some value =>
      simp only [write, splice, ends_bind, ends_modify] at h
      obtain ⟨_, _, rfl, inner, last, hbody, rfl⟩ := h
      exact .loop hwalk (body_walks hvisit hbody)

theorem exits_walks (hvisit : around.visit.Walks around.context) {id : NodeId}
    {indices : List Nat}
    (h : (indices.forM fun index => around.follow id (numbered keys.exit index)).Ends
      pass () next) :
    Walk around.context around.onChain (.exits id indices) pass next := by
  induction indices generalizing pass with
  | nil =>
      obtain ⟨_, rfl⟩ := ends_pure.mp h
      exact .noExits
  | cons index rest ih =>
      obtain ⟨_, middle, hfirst, hrest⟩ := ends_bind.mp h
      exact .moreExits (follow_walks hvisit hfirst) (ih hrest)

theorem emitCode_walks (hvisit : around.visit.Walks around.context) {node : Node}
    (topLevel : Bool) (h : (around.emitCode topLevel node).Ends pass () next) :
    Walk around.context around.onChain
      (.emission (if topLevel then .topLevelCode else .code) node) pass next := by
  have hrest : (if topLevel then around.followInside node.id keys.flowOut >>= Emit.splice
      else pure () : Emit Unit).Ends (pass.writeCode node) () next := by
    unfold emitCode at h
    unfold Pass.writeCode
    dsimp only at h
    cases hempty : ((node.text? keys.code).getD "").isEmpty with
    | true =>
        simp only [hempty, Bool.not_true, Bool.false_eq_true, if_false] at h
        exact h
    | false =>
        simp only [hempty, Bool.not_false, if_true] at h
        obtain ⟨_, start, hwrite, h⟩ := ends_bind.mp h
        obtain rfl := ends_modify.mp hwrite
        exact h
  cases topLevel with
  | false =>
      obtain ⟨_, rfl⟩ := ends_pure.mp hrest
      exact .code
  | true =>
      obtain ⟨inner, last, hbody, hrest⟩ := ends_bind.mp hrest
      obtain rfl := ends_modify.mp hrest
      exact .topLevelCode (followInside_walks hvisit hbody)

/-! ## Functions -/

theorem ends_parameter {node : Node} {index : Nat} {answer : String × String} :
    (around.parameter node index).Ends pass answer next ↔
      ((around.context.wiring node index).name index,
        (around.context.wiring node index).declaration index) = answer ∧
      pass.declare node.id index (around.context.wiring node index) = next := by
  unfold parameter Context.wiring
  cases around.context.graph.firstIncoming? node.id (numbered keys.argument index) with
  | some connection =>
      unfold wiredParameter
      dsimp only
      cases around.context.literalType? connection.source <;>
        cases around.context.graph.node? connection.source <;>
        simp only [report, ends_bind, ends_literal, ends_modify, ends_pure, Wiring.name,
          Wiring.declaration, Pass.declare, and_assoc, exists_and_left, exists_eq_left',
          exists_const]
  | none =>
      unfold typedParameter
      dsimp only
      cases ((node.textAt? keys.typeName index).bind around.context.registry.get?).filter
          fun type => !type.isAny <;>
        simp only [report, require, ends_bind, ends_modify, ends_pure, Wiring.name,
          Wiring.declaration, Pass.declare, exists_eq_left', exists_const]

theorem parameters_walks {node : Node} {seen : List String} {indices : List Nat}
    {declarations : List String}
    (h : (around.parameters node seen indices).Ends pass declarations next) :
    declarations = (indices.map fun index =>
        (around.context.wiring node index).declaration index) ∧
      Walk around.context around.onChain (.parameters node seen indices) pass next := by
  induction indices generalizing seen pass declarations with
  | nil =>
      obtain ⟨rfl, rfl⟩ := ends_pure.mp h
      exact ⟨rfl, .noParameters⟩
  | cons index rest ih =>
      unfold parameters at h
      simp only [ends_bind, ends_parameter] at h
      obtain ⟨_, _, ⟨rfl, rfl⟩, h⟩ := h
      dsimp only at h
      have hrest : ∃ later, (around.parameters node
          ((around.context.wiring node index).name index :: seen) rest).Ends
            ((pass.declare node.id index (around.context.wiring node index)).noteDuplicate node.id
              seen ((around.context.wiring node index).name index)) later next ∧
          (around.context.wiring node index).declaration index :: later = declarations := by
        unfold Pass.noteDuplicate
        split at h
        next hagain =>
          simp only [report, ends_bind, ends_modify, ends_pure] at h
          obtain ⟨_, _, rfl, later, _, hlater, rfl, rfl⟩ := h
          rw [if_pos hagain]
          exact ⟨later, hlater, rfl⟩
        next hnew =>
          simp only [ends_bind, ends_pure] at h
          obtain ⟨later, _, hlater, rfl, rfl⟩ := h
          rw [if_neg hnew]
          exact ⟨later, hlater, rfl⟩
      obtain ⟨later, hlater, rfl⟩ := hrest
      obtain ⟨rfl, hwalk⟩ := ih hlater
      exact ⟨rfl, .moreParameters hwalk⟩

theorem emitDefinition_walks (hvisit : around.visit.Walks around.context) {node : Node}
    (h : (around.emitDefinition node).Ends pass () next) :
    Walk around.context around.onChain (.emission .definition node) pass next := by
  obtain ⟨declarations, start, hparameters, h⟩ := ends_bind.mp h
  obtain ⟨rfl, hwalk⟩ := parameters_walks hparameters
  have hrest : ∃ inner last, (around.body node.id keys.flowOut).Ends
      (start.writeHeader around.context node ((List.range (node.count keys.argumentCount)).map
        fun index => (around.context.wiring node index).declaration index)) inner last ∧
      (last.splice inner).write node.id .blank = next := by
    unfold Pass.writeHeader
    split at h
    next hmarks =>
      simp only [write, splice, ends_bind, ends_modify] at h
      obtain ⟨_, _, rfl, _, _, rfl, inner, last, hbody, _, _, rfl, rfl⟩ := h
      rw [if_pos hmarks]
      exact ⟨inner, last, hbody, rfl⟩
    next hmarks =>
      simp only [write, splice, ends_bind, ends_modify] at h
      obtain ⟨_, _, rfl, inner, last, hbody, _, _, rfl, rfl⟩ := h
      rw [if_neg hmarks]
      exact ⟨inner, last, hbody, rfl⟩
  obtain ⟨inner, last, hbody, rfl⟩ := hrest
  exact .definition hwalk (body_walks hvisit hbody)

/-- What a component writes is a walk if what it visits is. -/
theorem emit_walks (hvisit : around.visit.Walks around.context) {kind : ComponentKind}
    {node : Node} (h : (around.emit kind node).Ends pass () next) :
    Walk around.context around.onChain (.emission kind node) pass next := by
  cases kind with
  | literal name => exact emitLiteral_walks h
  | call function => exact emitCall_walks hvisit h
  | branch => exact emitBranch_walks hvisit h
  | loop => exact emitLoop_walks hvisit h
  | sequence => exact .sequence (exits_walks hvisit h)
  | definition => exact emitDefinition_walks hvisit h
  | localVariable => exact emitVariable_walks hvisit h
  | code => exact emitCode_walks hvisit false h
  | topLevelCode => exact emitCode_walks hvisit true h

end Surroundings

namespace Context

theorem emitNode_walks {context : Context} {deeper : Visit} (hdeeper : deeper.Walks context)
    {onChain : List NodeId} {id : NodeId} {node : Node} {component : Component}
    {answer : Option NodeId} {pass next : Pass} (hfound : context.graph.node? id = some node)
    (hknown : context.catalog.get? node.name = some component)
    (h : (context.emitNode (some deeper) onChain component node).Ends (pass.reach id)
      answer next) :
    Walk context onChain (.visit id answer) pass next := by
  obtain rfl := Graph.id_of_node? hfound
  simp only [emitNode, ends_bind, ends_modify] at h
  obtain ⟨_, _, rfl, _, last, hemit, _, _, rfl, h⟩ := h
  have hwalk := @Surroundings.emit_walks ⟨context, deeper, onChain⟩ _ _ hdeeper _ _ hemit
  have hanswer : answer = context.nextOf component.kind node.id ∧ next = last.leave node.id := by
    unfold nextOf
    split at h
    next hgoes =>
      rw [if_pos hgoes]
      exact ⟨(ends_pure.mp h).1.symm, (ends_pure.mp h).2.symm⟩
    next hstays =>
      rw [if_neg hstays]
      exact ⟨(ends_pure.mp h).1.symm, (ends_pure.mp h).2.symm⟩
  obtain ⟨hanswer, rfl⟩ := hanswer
  exact .emitted hfound hknown hwalk hanswer

theorem reach_walks {context : Context} {deeper : Option Visit}
    (hdeeper : ∀ visit, deeper = some visit → visit.Walks context) :
    (context.reach deeper).Walks context := by
  intro onChain id pass answer next h
  unfold reach at h
  cases hfound : context.graph.node? id with
  | none =>
      rw [hfound] at h
      obtain ⟨rfl, rfl⟩ := ends_pure.mp h
      exact .missing hfound
  | some node =>
      rw [hfound] at h
      obtain ⟨_, _, hreach, h⟩ := ends_bind.mp h
      obtain rfl := ends_modify.mp hreach
      cases hknown : context.catalog.get? node.name with
      | none =>
          rw [hknown] at h
          simp only [report, ends_bind, ends_modify, ends_pure] at h
          obtain ⟨_, _, rfl, rfl, rfl⟩ := h
          exact .unknown hfound hknown
      | some component =>
          rw [hknown] at h
          cases deeper with
          | none => exact absurd h not_ends_throw
          | some visit => exact emitNode_walks (hdeeper visit rfl) hfound hknown h

/-- Visits are walks, however many emissions may nest. -/
theorem visit_walks (context : Context) (depth : Nat) : (context.visit depth).Walks context := by
  induction depth with
  | zero =>
      refine reach_walks ?_
      intro visit h
      cases h
  | succ depth ih =>
      refine reach_walks ?_
      intro visit h
      cases h
      exact ih

theorem emitRoots_tours (context : Context) {index : Nat} {roots : List NodeId}
    {written : List Written} {pass next : Pass}
    (h : (context.emitRoots index roots).Ends pass written next) :
    Tour context index roots written pass next := by
  induction roots generalizing index written pass with
  | nil =>
      obtain ⟨rfl, rfl⟩ := ends_pure.mp h
      exact .done
  | cons id rest ih =>
      simp only [emitRoots, ends_bind, ends_modify, ends_get, ends_pure] at h
      obtain ⟨_, _, rfl, _, middle, hchain, _, _, ⟨rfl, rfl⟩, later, _, hrest, rfl, rfl⟩ := h
      refine .root (Surroundings.chain_walks (context.visit_walks _) _ _ _ ?_ hchain) (ih hrest)
      have := context.graph.offChain_le_size []
      unfold Surroundings.chainBound
      omega

/-- A run that ends is a tour of the top-level nodes. -/
theorem run_tours {context : Context} {written : List Written} {pass : Pass}
    (h : context.run = .ok (written, pass)) :
    Tour context 0 context.roots written { block := Block.root 0 } pass :=
  context.emitRoots_tours h

end Context

/-- Compiling runs a pass that is a tour of the top-level nodes. -/
theorem Language.tour_of_compile {language : Language} {options : CompileOptions} {graph : Graph}
    {compilation : Compilation} (h : language.compile options graph = .ok compilation) :
    ∃ written pass, (language.context options graph).run = .ok (written, pass) ∧
      compilation = .ofPass written pass ∧
      Tour (language.context options graph) 0 (language.context options graph).roots written
        { block := Block.root 0 } pass := by
  unfold compile at h
  split at h
  next written pass hrun =>
    rw [Except.ok.injEq] at h
    exact ⟨written, pass, hrun, h.symm, Context.run_tours hrun⟩
  next hrun => cases h

end VisualScript
