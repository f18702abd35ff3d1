import VisualScript.Proofs.Pass.Sound

/-!
# Routes through the graph

A walk told in short: which nodes are entered in which order, where blocks open, and
where a node binds its value. A route runs along the flow; an errand is run for the
values that a node on it takes, and emits the nodes that are emitted on demand. All
else that happens changes nothing about where nodes are emitted and bound.
-/

namespace VisualScript

/-! ## What does not matter to scopes -/

/-- What an event writes. -/
def Event.written? : Event → Option Written
  | wrote written => some written
  | _ => none

/-- Whether an event enters no node and opens no block, binds nothing, and does not say
that something is out of sight. -/
def Event.isIdle : Event → Bool
  | opened _ => false
  | entered _ _ => false
  | finished _ => false
  | wrote written => written.statement.boundNode?.isNone
  | reported diagnostic => diagnostic.kind ≠ .valueOutOfScope
  | _ => true

/-- How much of a kind a journal says was written. -/
def tally (counted : Written → Bool) (events : List Event) : Nat :=
  (events.filterMap Event.written?).countP counted

@[simp] theorem tally_cons_wrote (counted : Written → Bool) (written : Written)
    (events : List Event) : tally counted (.wrote written :: events) =
      tally counted events + if counted written then 1 else 0 :=
  List.countP_cons

theorem tally_cons_of_written? {event : Event} (h : event.written? = none)
    (counted : Written → Bool) (events : List Event) :
    tally counted (event :: events) = tally counted events := by
  rw [tally, List.filterMap_cons_none h]
  rfl

/-- Whether an edit binds nothing, takes over no block, and does not say that something is out of
sight. -/
def Edit.IsStill : Edit → Prop
  | report .valueOutOfScope _ _ => False
  | write _ statement => statement.boundNode? = none
  | splice _ => False
  | _ => True

namespace Pass

/-- Nothing changed about where nodes were emitted and bound. All that was laid into the
block was written meanwhile or handed over. -/
structure Still (laid : List Written) (pass next : Pass) : Prop where
  scopes : next.scopes = pass.scopes
  emitting : next.emitting = pass.emitting
  path : next.block.path = pass.block.path
  children : next.block.children = pass.block.children
  initiated : pass.initiated ⊆ next.initiated
  journal : pass.Adds (fun event => event.isIdle = true) next
  content : ∀ counted, next.block.content.countP counted + tally counted pass.events ≤
    pass.block.content.countP counted + laid.countP counted + tally counted next.events

namespace Still

variable {pass middle next : Pass} {laid : List Written}

theorem refl (pass : Pass) : Still [] pass pass where
  scopes := rfl
  emitting := rfl
  path := rfl
  children := rfl
  initiated := List.Subset.refl _
  journal := .refl pass
  content _ := Nat.le_refl _

theorem append {more : List Written} (hfirst : Still laid pass middle)
    (hrest : Still more middle next) : Still (laid ++ more) pass next where
  scopes := hrest.scopes.trans hfirst.scopes
  emitting := hrest.emitting.trans hfirst.emitting
  path := hrest.path.trans hfirst.path
  children := hrest.children.trans hfirst.children
  initiated := List.Subset.trans hfirst.initiated hrest.initiated
  journal := hfirst.journal.trans hrest.journal
  content counted := by
    have hfirst := hfirst.content counted
    have hrest := hrest.content counted
    rw [List.countP_append]
    omega

theorem trans (hfirst : Still laid pass middle) (hrest : Still [] middle next) :
    Still laid pass next :=
  List.append_nil laid ▸ hfirst.append hrest

/-- What is known of other things may change. -/
theorem of_eq (hscopes : next.scopes = pass.scopes) (hemitting : next.emitting = pass.emitting)
    (hblock : next.block = pass.block) (hinitiated : pass.initiated ⊆ next.initiated)
    (hevents : next.events = pass.events) : Still [] pass next where
  scopes := hscopes
  emitting := hemitting
  path := congrArg Block.path hblock
  children := congrArg Block.children hblock
  initiated := hinitiated
  journal := .of_events_eq hevents
  content _ := by rw [hblock, hevents]; exact Nat.le_refl _

theorem initiate (pass : Pass) (id : NodeId) : Still [] pass (pass.initiate id) :=
  of_eq rfl rfl rfl (List.subset_cons_self _ _) rfl

theorem reach (pass : Pass) (id : NodeId) : Still [] pass (pass.reach id) :=
  of_eq rfl rfl rfl (List.Subset.refl _) rfl

/-- Something happened that is no writing. -/
theorem of_events_eq_cons {event : Event} (hevents : next.events = event :: pass.events)
    (hidle : event.isIdle = true) (hwritten : event.written? = none)
    (hscopes : next.scopes = pass.scopes) (hemitting : next.emitting = pass.emitting)
    (hblock : next.block = pass.block) (hinitiated : pass.initiated ⊆ next.initiated) :
    Still [] pass next where
  scopes := hscopes
  emitting := hemitting
  path := congrArg Block.path hblock
  children := congrArg Block.children hblock
  initiated := hinitiated
  journal := .of_events_eq_cons hevents hidle
  content counted := by
    rw [hblock, hevents, tally_cons_of_written? hwritten]
    exact Nat.le_refl _

theorem log (pass : Pass) {event : Event} (hidle : event.isIdle = true)
    (hwritten : event.written? = none) : Still [] pass (pass.log event) :=
  of_events_eq_cons rfl hidle hwritten rfl rfl rfl (List.Subset.refl _)

theorem write (pass : Pass) (node : NodeId) (statement : Statement)
    (h : statement.boundNode? = none) : Still [] pass (pass.write node statement) where
  scopes := rfl
  emitting := rfl
  path := rfl
  children := rfl
  initiated := List.Subset.refl _
  journal := by
    refine .of_events_eq_cons rfl ?_
    rw [Event.isIdle, h]
    rfl
  content counted := by
    let written : Written := ⟨pass.block.path, node, statement⟩
    change (pass.block.content ++ [written]).countP counted + _ ≤
      _ + tally counted (.wrote written :: pass.events)
    rw [List.countP_append, List.countP_singleton, tally_cons_wrote, List.countP_nil]
    omega

theorem of_edited (h : pass.Edited Edit.IsStill next) : Still [] pass next := by
  refine h.related refl trans fun pass edit hedit => ?_
  cases edit with
  | report kind => cases kind <;> first | exact log _ rfl rfl | cases hedit
  | require => exact log _ rfl rfl
  | write => exact write _ _ _ hedit
  | splice => cases hedit
  | setResult | dropResult => exact of_eq rfl rfl rfl (List.Subset.refl _) rfl
  | claim => exact of_events_eq_cons rfl rfl rfl rfl rfl rfl (List.subset_cons_self _ _)

theorem splice (pass : Pass) (inner : Block) :
    Still inner.content pass (pass.splice inner) where
  scopes := rfl
  emitting := rfl
  path := rfl
  children := rfl
  initiated := List.Subset.refl _
  journal := .of_events_eq rfl
  content counted := by
    change (pass.block.content ++ inner.content).countP counted + _ ≤ _
    rw [List.countP_append]
    exact Nat.le_refl _

/-- What was handed over may be dropped. -/
theorem drop (h : Still [] pass next) (laid : List Written) : Still laid pass next where
  scopes := h.scopes
  emitting := h.emitting
  path := h.path
  children := h.children
  initiated := h.initiated
  journal := h.journal
  content counted := by
    have hcontent := h.content counted
    rw [List.countP_nil] at hcontent
    omega

theorem closeThen (pass : Pass) (id : NodeId) (inner : Block) :
    Still inner.content pass (pass.closeThen id inner) := by
  have hnoted : Still [] pass
      (if inner.isBlank then pass.report .thenBranchExpected id none else pass) := by
    split
    next => exact of_edited (.report _ _ _)
    next => exact refl _
  exact hnoted.append (splice _ inner)

theorem closeElse (pass : Pass) (id : NodeId) (inner : Block) :
    Still inner.content pass (pass.closeElse id inner) := by
  unfold Pass.closeElse
  split
  next => exact (refl _).drop _
  next => exact (write pass id _ rfl).append (splice _ inner)

end Still

/-- What a node has to write for its own value is written: a statement that binds the
value, or none that binds anything. -/
inductive Stores (id : NodeId) : Bool → Pass → Pass → Prop where
  | kept {pass next} (still : Still [] pass next) : Stores id false pass next
  | bound {pass middle next statement} (before : Still [] pass middle)
      (binds : statement.boundNode? = some id)
      (after : Still [] (middle.write id statement) next) : Stores id true pass next

end Pass

namespace Context

/-- Whether a node of a kind is bound to its local when it is emitted. -/
def bindsAt (context : Context) (kind : ComponentKind) (id : NodeId) : Bool :=
  match kind with
  | .literal name => (context.typeOf? name).any fun type =>
      context.binds type.isCopyable (context.uses id)
  | .call function =>
      if function.hasEffect then context.callUses function id ≠ 0
      else context.bindsCall function id
  | .localVariable => true
  | _ => false

end Context

/-! ## Errands -/

/-- A consumer has values got ready. Nodes that are emitted on demand are emitted the
first time, and pure ones again where they cannot be seen. -/
inductive Errand (context : Context) : NodeId → Pass → Pass → Prop where
  | still {consumer pass next} (still : pass.Still [] next) : Errand context consumer pass next
  | trans {consumer pass middle next} (first : Errand context consumer pass middle)
      (rest : Errand context consumer middle next) : Errand context consumer pass next
  | refused {consumer source pass kind node detail}
      (objection : Objection context pass consumer source kind node detail) :
      Errand context consumer pass (pass.report kind node detail)
  | fresh {consumer node kind pass ready last} (hosts : context.Hosts node kind)
      (demand : kind.isOnDemand = true) (new : node.id ∉ pass.initiated)
      (taken : Errand context node.id (((pass.initiate node.id).reach node.id).enter node.id) ready)
      (stored : ready.Stores node.id (context.bindsAt kind node.id) last) :
      Errand context consumer pass (last.leave node.id)
  | again {consumer node kind pass ready last} (hosts : context.Hosts node kind)
      (demand : kind.isOnDemand = true) (known : node.id ∈ pass.initiated)
      (idle : node.id ∉ pass.emitting) (hidden : pass.inScope node.id = false)
      (pure : context.isPure node.id = true)
      (taken : Errand context node.id ((pass.reach node.id).enter node.id) ready)
      (stored : ready.Stores node.id (context.bindsAt kind node.id) last) :
      Errand context consumer pass (last.leave node.id)

/-! ## Routes -/

/-- The exits that the emission of a node follows into blocks inside. -/
def ComponentKind.blockExits : ComponentKind → List String
  | branch => [keys.thenExit, keys.elseExit]
  | loop => [keys.body]
  | definition => [keys.flowOut]
  | topLevelCode => [keys.flowOut]
  | _ => []

/-- A piece of the way along the flow. -/
inductive Leg where
  /-- From a node on. -/
  | chain (start : NodeId)
  /-- From where the flow goes on behind a node. -/
  | onward (following : Option NodeId)
  | follow (id : NodeId) (exit : String)
  /-- Along numbered exits one after another, in the same block. -/
  | items (id : NodeId) (indices : List Nat)
  /-- Along exits one after another, each in a block inside. -/
  | blocks (id : NodeId) (exits : List String)

/-- Where the emission of a node leads the flow itself. -/
def ComponentKind.leg (kind : ComponentKind) (node : Node) : Leg :=
  match kind with
  | .sequence => .items node.id (List.range (numberedCount keys.exit node.outputs))
  | kind => .blocks node.id kind.blockExits

/-- A leg leads from one state of a pass to another, given the nodes on the flow chains
being walked. -/
inductive Route (context : Context) : List NodeId → Leg → Pass → Pass → Prop where
  | turnBack {onChain id pass} (again : id ∈ onChain) :
      Route context onChain (.chain id) pass (pass.report .flowCycle id none)
  | chain {onChain node kind pass ready start last next} (new : node.id ∉ onChain)
      (hosts : context.Hosts node kind) (flow : kind.isOnDemand = false)
      (taken : Errand context node.id ((pass.reach node.id).enter node.id) ready)
      (stored : ready.Stores node.id (context.bindsAt kind node.id) start)
      (exits : Route context (node.id :: onChain) (kind.leg node) start last)
      (onward : Route context (node.id :: onChain) (.onward (context.nextOf kind node.id))
        (last.leave node.id) next) :
      Route context onChain (.chain node.id) pass next
  | stop {onChain pass} : Route context onChain (.onward none) pass pass
  | goOn {onChain following pass next} (rest : Route context onChain (.chain following) pass next) :
      Route context onChain (.onward (some following)) pass next
  | unconnected {onChain id exit pass} (open_ : context.graph.firstOutgoing? id exit = none) :
      Route context onChain (.follow id exit) pass pass
  | followed {onChain id exit connection pass next}
      (connected : context.graph.firstOutgoing? id exit = some connection)
      (chain : Route context onChain (.chain connection.target) pass next) :
      Route context onChain (.follow id exit) pass next
  | noItems {onChain id pass} : Route context onChain (.items id []) pass pass
  | moreItems {onChain id index rest pass middle next}
      (first : Route context onChain (.follow id (numbered keys.exit index)) pass middle)
      (others : Route context onChain (.items id rest) middle next) :
      Route context onChain (.items id (index :: rest)) pass next
  /-- What decides about the blocks is missing, which was reported. -/
  | lacking {onChain id exits pass key}
      (fault : .reported (Diagnostic.of .inputExpected (some id) (some key)) ∈ pass.events) :
      Route context onChain (.blocks id exits) pass pass
  | noBlocks {onChain id pass} : Route context onChain (.blocks id []) pass pass
  | moreBlocks {onChain id exit rest pass last inner middle next}
      (follow : Route context onChain (.follow id exit) pass.openChild last)
      (closed : last.Still [] inner)
      (laid : (inner.backTo pass.block).Still inner.block.content middle)
      (others : Route context onChain (.blocks id rest) middle next) :
      Route context onChain (.blocks id (exit :: rest)) pass next

/-- The emission of a node from when it is entered: an errand for the values it takes,
what it writes for its own value, and where it leads the flow. -/
def Emission (context : Context) (onChain : List NodeId) (kind : ComponentKind) (node : Node)
    (pass next : Pass) : Prop :=
  ∃ ready start, Errand context node.id pass ready ∧
    ready.Stores node.id (context.bindsAt kind node.id) start ∧
    if kind.isOnDemand = true then next = start
    else Route context onChain (kind.leg node) start next

/-- What a piece of work is in short. -/
def Task.Routed (context : Context) (onChain : List NodeId) : Task → Pass → Pass → Prop
  | chain start, pass, next => Route context onChain (.chain start) pass next
  | visit id answer, pass, next =>
      (context.kind? id = none ∧ pass.Still [] next) ∨
        ∃ node kind last, context.Hosts node kind ∧ node.id = id ∧
          answer = context.nextOf kind id ∧
          Emission context onChain kind node ((pass.reach id).enter id) last ∧
          next = last.leave id
  | follow id exit, pass, next => Route context onChain (.follow id exit) pass next
  | inside id exit _ inner, pass, next => ∃ last closed,
      Route context onChain (.follow id exit) pass.openChild last ∧ last.Still [] closed ∧
        inner = closed.block ∧ next = closed.backTo pass.block
  | exits id indices, pass, next => Route context onChain (.items id indices) pass next
  | supply consumer _, pass, next => Errand context consumer pass next
  | input consumer _ _, pass, next => Errand context consumer pass next
  | demand consumer key value, pass, next => Errand context consumer pass next ∧
      (value = none →
        .reported (Diagnostic.of .inputExpected (some consumer) (some key)) ∈ next.events)
  | operands node _ _, pass, next => Errand context node.id pass next
  | parameters _ _ _, pass, next => pass.Still [] next
  | emission kind node, pass, next => Emission context onChain kind node pass next

namespace Pass.Stores

variable {context : Context} {pass next : Pass}

theorem ofKeep (pass : Pass) (id : NodeId) (binds : Bool) (value : Expression) :
    Stores id binds pass (pass.keep id binds value) := by
  cases binds with
  | true =>
      have hdropped : Still [] (pass.write id (.bind id value))
          ((pass.write id (.bind id value)).dropResult id) :=
        .of_eq rfl rfl rfl (List.Subset.refl _) rfl
      exact .bound (.refl _) rfl hdropped
  | false => exact .kept (.of_eq rfl rfl rfl (List.Subset.refl _) rfl)

/-- Other things may be done before. -/
theorem after {middle : Pass} {id : NodeId} {binds : Bool} (hfirst : Still [] pass middle)
    (hrest : Stores id binds middle next) : Stores id binds pass next := by
  cases hrest with
  | kept still => exact .kept (hfirst.append still)
  | bound before binds after => exact .bound (hfirst.append before) binds after

theorem ofCall (pass : Pass) (function : Callable) (id : NodeId) (call : Expression) :
    Stores id (context.bindsAt (.call function) id) pass
      ((pass.requireCall context function).placeCall context function id call) := by
  apply after (Still.of_edited (.requireCall pass context function))
  unfold Pass.placeCall Context.bindsAt
  dsimp only
  split
  next =>
    by_cases huses : context.callUses function id = 0
    · simp only [huses, ne_eq, not_true_eq_false, decide_false, if_true]
      exact .kept (.of_edited (.write _ _ _))
    · simp only [huses, ne_eq, not_false_eq_true, decide_true, if_false]
      exact .bound (.refl _) rfl (.refl _)
  next => exact ofKeep _ _ _ _

theorem ofDeclareTyped (pass : Pass) (node : Node) :
    Stores node.id true pass (pass.declareTyped context node) := by
  unfold Pass.declareTyped
  dsimp only
  split
  next => exact .bound (.of_edited (.require _ _)) rfl (.refl _)
  next => exact .bound (.refl _) rfl (.refl _)

end Pass.Stores

namespace Errand

variable {context : Context} {consumer : NodeId} {pass middle next : Pass}

/-- Other things may be done behind an errand, or before it. -/
theorem andStill (h : Errand context consumer pass middle) (hstill : middle.Still [] next) :
    Errand context consumer pass next :=
  h.trans (.still hstill)

theorem after (hstill : pass.Still [] middle) (h : Errand context consumer middle next) :
    Errand context consumer pass next :=
  trans (.still hstill) h

/-- An operand is got ready where its type is required, and the others behind it. -/
theorem operand {modules : List String}
    (hinput : Errand context consumer (pass.require modules) middle)
    (hothers : Errand context consumer middle next) : Errand context consumer pass next :=
  (hinput.after (.of_edited (.require _ _))).trans hothers

end Errand

/-! ## Walks in short -/

section Visits

variable {context : Context} {onChain : List NodeId} {id : NodeId} {answer : Option NodeId}
  {pass middle next : Pass}

/-- A chain goes from a node along what its emission follows, and on behind it. -/
theorem Route.of_visit (hflow : context.IsFlow id) (hnew : id ∉ onChain)
    (hvisit : (Task.visit id answer).Routed context (id :: onChain) pass middle)
    (honward : Route context (id :: onChain) (.onward answer) middle next) :
    Route context onChain (.chain id) pass next := by
  rcases hvisit with ⟨hunknown, _⟩ | ⟨node, kind, last, hhosts, rfl, hanswer, hemission, rfl⟩
  · obtain ⟨kind, hkind, _⟩ := hflow
    rw [hunknown] at hkind
    cases hkind
  · obtain ⟨ready, start, htaken, hstored, hexits⟩ := hemission
    have hkind : kind.isOnDemand = false := hhosts.isOnDemand_eq.symm.trans hflow.isOnDemand_eq
    rw [hkind, if_neg Bool.false_ne_true] at hexits
    exact .chain hnew hhosts hkind htaken hstored hexits (hanswer ▸ honward)

/-- What an emission on demand consists of: an errand, and what the node writes for its own
value. -/
theorem Emission.stores_of_isOnDemand {kind : ComponentKind} {node : Node}
    (h : Emission context onChain kind node pass next) (hkind : kind.isOnDemand = true) :
    ∃ ready, Errand context node.id pass ready ∧
      ready.Stores node.id (context.bindsAt kind node.id) next := by
  obtain ⟨ready, start, htaken, hstored, hrest⟩ := h
  rw [if_pos hkind] at hrest
  exact ⟨ready, htaken, hrest ▸ hstored⟩

/-- The first emission of a node on demand is a part of an errand. -/
theorem Errand.of_visit_fresh (hdemand : context.isOnDemand id = true)
    (hnew : id ∉ pass.initiated)
    (hvisit : (Task.visit id answer).Routed context onChain (pass.initiate id) next)
    (consumer : NodeId) : Errand context consumer pass next := by
  rcases hvisit with ⟨_, hstill⟩ | ⟨node, kind, last, hhosts, rfl, _, hemission, rfl⟩
  · exact .still ((Pass.Still.initiate pass id).trans hstill)
  · have hkind : kind.isOnDemand = true := hhosts.isOnDemand_eq.symm.trans hdemand
    obtain ⟨ready, htaken, hstored⟩ := hemission.stores_of_isOnDemand hkind
    exact .fresh hhosts hkind hnew htaken hstored

/-- So is each emission of a pure node that is out of sight. -/
theorem Errand.of_visit_again (hdemand : context.isOnDemand id = true)
    (hknown : id ∈ pass.initiated) (hidle : id ∉ pass.emitting)
    (hhidden : pass.inScope id = false) (hpure : context.isPure id = true)
    (hvisit : (Task.visit id answer).Routed context onChain pass next)
    (consumer : NodeId) : Errand context consumer pass next := by
  rcases hvisit with ⟨_, hstill⟩ | ⟨node, kind, last, hhosts, rfl, _, hemission, rfl⟩
  · exact .still hstill
  · have hkind : kind.isOnDemand = true := hhosts.isOnDemand_eq.symm.trans hdemand
    obtain ⟨ready, htaken, hstored⟩ := hemission.stores_of_isOnDemand hkind
    exact .again hhosts hkind hknown hidle hhidden hpure htaken hstored

end Visits

open Pass in
/-- Every walk through a well-wired graph is a route or an errand. -/
theorem Walk.routed {context : Context} (hwired : context.Wired) {onChain : List NodeId}
    {task : Task} {pass next : Pass} (h : Walk context onChain task pass next)
    (hfits : task.Fits context) : task.Routed context onChain pass next := by
  induction h with
  | turnBack again => exact .turnBack again
  | chainEnd new _ ih => exact .of_visit hfits new (ih (.inl hfits)) .stop
  | chainOn new visit _ ihvisit ihrest =>
      obtain ⟨kind, hknown, hnext⟩ := visit.exists_kind_of_visit_some
      have hrest := ihrest (hwired.isFlow_of_nextOf hknown hnext)
      exact .of_visit hfits new (ihvisit (.inl hfits)) (.goOn hrest)
  | missing absent =>
      refine .inl ⟨?_, .refl _⟩
      rw [Context.kind?, Context.component?, absent]
      rfl
  | @unknown _ id _ pass found unknown =>
      refine .inl ⟨?_, ?_⟩
      · rw [Context.kind?, Context.component?, found, Option.bind_some, unknown]
        rfl
      · exact (Still.reach pass id).trans (.of_edited (.report _ _ _))
  | emitted found known _ goesOn ih =>
      obtain rfl := Graph.id_of_node? found
      have hhosts : Context.Hosts _ _ _ := ⟨found, congrArg (Option.map Component.kind) known⟩
      exact .inr ⟨_, _, _, hhosts, rfl, goesOn, ih ⟨hhosts, hfits⟩, rfl⟩
  | unconnected open_ => exact .unconnected open_
  | followed connected _ ih => exact .followed connected (ih (hwired.flows hfits connected))
  | inside _ close ih => exact ⟨_, _, ih hfits, close ▸ .of_edited (.paddedIf _ _ _), rfl, rfl⟩
  | noExits => exact .noItems
  | moreExits _ _ ihfirst ihothers =>
      exact .moreItems (ihfirst hfits.firstExit) (ihothers hfits.otherExits)
  | settled => exact .still (.refl _)
  | fresh demand new _ ih => exact .of_visit_fresh demand new (ih (.inr hfits)) _
  | again demand known idle hidden pure _ ih =>
      exact .of_visit_again demand known idle hidden pure (ih (.inr hfits)) _
  | refused objection => exact .refused objection
  | unfed => exact .still (.refl _)
  | byParameter => exact .still (.log _ rfl rfl)
  | byValue feed _ ih => exact (ih (hwired.delivers hfits feed)).andStill (.log _ rfl rfl)
  | found _ ih =>
      refine ⟨ih hfits, fun hnone => ?_⟩
      cases hnone
  | lacking _ ih =>
      exact ⟨(ih hfits).andStill (.of_edited (.report _ _ _)), fun _ => List.mem_cons_self ..⟩
  | noOperands => exact .still (.refl _)
  | untypedOperand _ _ ih => exact ih hfits.others
  | optionalOperand known _ _ _ ihinput ihothers =>
      exact .operand (ihinput (hfits.first known)) (ihothers hfits.others)
  | enteredOperand known _ _ _ ihinput ihothers =>
      have hinput := ihinput (hfits.first known)
      exact .operand (hinput.andStill (.of_edited (.checkLiteral _ _ _ _))) (ihothers hfits.others)
  | requiredOperand known _ _ _ ihinput ihothers =>
      exact .operand (ihinput (hfits.first known)).1 (ihothers hfits.others)
  | lackingOperand known _ _ _ ihinput ihothers =>
      have hinput := (ihinput (hfits.first known)).1
      exact .operand (hinput.andStill (.of_edited (.checkLiteral _ _ _ _))) (ihothers hfits.others)
  | noParameters => exact .refl _
  | moreParameters _ ih =>
      exact (Still.of_edited (.trans (.declare _ _ _ _) (.noteDuplicate _ _ _ _))).trans
        (ih trivial)
  | @unknownLiteral _ name node pass unknown =>
      refine ⟨pass, pass, .still (.refl _), ?_, rfl⟩
      rw [Context.bindsAt, unknown]
      exact .kept (.refl _)
  | @literal _ name type node pass known =>
      refine ⟨_, _, .still (.of_edited (.checkLiteral pass type node keys.value)), ?_, rfl⟩
      rw [Context.bindsAt, known]
      exact .ofKeep _ _ _ _
  | @call _ function node values _ ready _ ih =>
      refine ⟨ready, _, ih fun _ hlisted _ htyped => .argument hfits.1.kind? hlisted htyped,
        .ofCall ready function node.id (.ofCall function (.ofList values)), ?_⟩
      split
      next => rfl
      next => exact .noBlocks
  | declared _ ih =>
      exact ⟨_, _, ih (.initial hfits.1.kind?), .bound (.refl _) rfl (.refl _), rfl⟩
  | declaredTyped _ ih => exact ⟨_, _, ih (.initial hfits.1.kind?), .ofDeclareTyped _ _, rfl⟩
  | bareBranch _ ih =>
      obtain ⟨htaken, hfault⟩ := ih (.ofBranch hfits.1.kind?)
      exact ⟨_, _, htaken, .kept (.refl _), .lacking (hfault rfl)⟩
  | @branch _ node value _ _ _ start _ _ _ _ _ ihcondition ihthen ihelse =>
      have hheader : start.Still [] (start.write node.id (.ifHeader value)) :=
        .of_edited (.write _ _ _)
      have hknown := hfits.1.kind?
      obtain ⟨_, _, hthen, hpadded, rfl, rfl⟩ := ihthen (.thenExit hknown)
      obtain ⟨_, _, helse, hpadded', rfl, rfl⟩ := ihelse (.elseExit hknown)
      refine ⟨_, _, (ihcondition (.ofBranch hknown)).1, .kept hheader, ?_⟩
      exact .moreBlocks hthen hpadded (.closeThen _ _ _)
        (.moreBlocks helse hpadded' (.closeElse _ _ _) .noBlocks)
  | bareLoop _ ih =>
      obtain ⟨htaken, hfault⟩ := ih (.ofLoop hfits.1.kind?)
      exact ⟨_, _, htaken, .kept (.refl _), .lacking (hfault rfl)⟩
  | @loop _ node value _ _ start _ _ _ ihcondition ihbody =>
      have hheader : start.Still [] (start.write node.id (.whileHeader value)) :=
        .of_edited (.write _ _ _)
      have hknown := hfits.1.kind?
      obtain ⟨_, _, hbody, hpadded, rfl, rfl⟩ := ihbody (.body hknown)
      refine ⟨_, _, (ihcondition (.ofLoop hknown)).1, .kept hheader, ?_⟩
      exact .moreBlocks hbody hpadded (.splice _ _) .noBlocks
  | sequence _ ih =>
      exact ⟨_, _, .still (.refl _), .kept (.refl _),
        ih fun _ hmem => .item hfits.1 (List.mem_range.mp hmem)⟩
  | @definition _ node _ _ start _ _ _ ihparameters ihbody =>
      obtain ⟨_, _, hbody, hpadded, rfl, rfl⟩ := ihbody (.inner hfits.1.kind? rfl)
      have hexits := Route.moreBlocks hbody hpadded
        ((Still.splice _ _).trans (.of_edited (.write _ node.id .blank))) .noBlocks
      exact ⟨start, _, .still (ihparameters trivial), .kept (.of_edited (.writeHeader _ _ _ _)),
        hexits⟩
  | @code _ node pass =>
      exact ⟨pass, _, .still (.refl _), .kept (.of_edited (.writeCode pass node)), .noBlocks⟩
  | @topLevelCode _ node _ pass _ _ ih =>
      obtain ⟨_, _, hbody, hpadded, rfl, rfl⟩ := ih (.inner hfits.1.kind? rfl)
      refine ⟨pass, _, .still (.refl _), .kept (.of_edited (.writeCode pass node)), ?_⟩
      exact .moreBlocks hbody hpadded (.splice _ _) .noBlocks

end VisualScript
