import Mathlib.Logic.Relation
import VisualScript.Proofs.Pass.Reach

/-!
# Reported cycles are there

A pass reports a cycle of the flow only on a node from which the flow leads back to
it, and a cycle of values only on a node whose value depends on itself. Nodes on the
chains lead to the node where a chain goes on, and nodes that are being emitted for
their values depend on the node whose value is being got ready.
-/

namespace VisualScript

open Relation (TransGen ReflTransGen)

/-- The inputs for values of a component: a condition, the arguments of a call, or the
value of a variable. -/
def ComponentKind.valueInputs : ComponentKind → List String
  | call function => function.arguments.map Argument.name
  | branch => [keys.condition]
  | loop => [keys.condition]
  | localVariable => [keys.value]
  | _ => []

namespace Context

/-- The flow goes from a node to another by an exit that emission follows. -/
def FlowsTo (context : Context) (id next : NodeId) : Prop :=
  ∃ exit connection, context.Exit id exit ∧
    context.graph.firstOutgoing? id exit = some connection ∧ connection.target = next

/-- A node takes the value of another, which is no function and first in one of the
inputs for values. -/
def TakesFrom (context : Context) (consumer source : NodeId) : Prop :=
  ∃ kind, context.kind? consumer = some kind ∧
    ∃ key ∈ kind.valueInputs, context.feed consumer key = .value source

/-- The cycles that diagnostics of a kind are about. -/
def Loops (context : Context) : DiagnosticKind → NodeId → Prop
  | .flowCycle, id => TransGen context.FlowsTo id id
  | .dataCycle, id => TransGen context.TakesFrom id id
  | _, _ => True

/-- Whether a node is of a kind that can have a value. -/
def Valued (context : Context) (id : NodeId) : Prop :=
  ∃ kind, context.kind? id = some kind ∧ kind.hasValue = true

variable {context : Context}

theorem Delivers.valued {id : NodeId} (h : context.Delivers id) : context.Valued id := by
  obtain ⟨kind, hknown⟩ := h.exists_kind
  exact ⟨kind, hknown, h.hasValue hknown⟩

theorem Takes.takesFrom {consumer source : NodeId} {key : String}
    (h : context.Takes consumer key) (hfeed : context.feed consumer key = .value source) :
    context.TakesFrom consumer source := by
  cases h with
  | argument known listed _ => exact ⟨_, known, _, List.mem_map_of_mem listed, hfeed⟩
  | ofBranch known => exact ⟨_, known, _, List.mem_singleton_self _, hfeed⟩
  | ofLoop known => exact ⟨_, known, _, List.mem_singleton_self _, hfeed⟩
  | initial known => exact ⟨_, known, _, List.mem_singleton_self _, hfeed⟩

/-- The flow goes on behind a node along an exit. -/
theorem FlowsTo.of_nextOf {id following : NodeId} {kind : ComponentKind}
    (hknown : context.kind? id = some kind) (h : context.nextOf kind id = some following) :
    context.FlowsTo id following := by
  unfold nextOf at h
  split at h
  next hgoes =>
    obtain ⟨connection, hconnected, rfl⟩ := Option.map_eq_some_iff.mp h
    exact ⟨_, _, .next hknown hgoes, hconnected, rfl⟩
  next => cases h

end Context

/-- Whether an event is no report of a cycle that is not there. -/
def Event.Founded (context : Context) : Event → Prop
  | reported diagnostic => ∃ id, diagnostic.node = some id ∧ context.Loops diagnostic.kind id
  | _ => True

theorem Event.founded_of_isWriting {context : Context} {event : Event}
    (h : event.isWriting = true) : event.Founded context := by
  cases event <;> first | exact trivial | cases h

/-- Whether an edit is no report of a cycle that is not there. -/
def Edit.IsFounded (context : Context) : Edit → Prop
  | report kind id _ => context.Loops kind id
  | _ => True

/-! ## Reports on the way -/

namespace Pass.Adds

variable {context : Context} {pass next : Pass}

theorem founded (h : pass.Edited (Edit.IsFounded context) next) :
    Adds (Event.Founded context) pass next := by
  refine .of_edited (h.mono fun edit hedit => ?_)
  cases edit with
  | report kind id => exact ⟨id, rfl, hedit⟩
  | write => exact fun _ => trivial
  | require | splice | setResult | dropResult | claim => exact trivial

theorem aroundVisit {id : NodeId}
    (h : Adds (Event.Founded context) ((pass.reach id).enter id) next) :
    Adds (Event.Founded context) pass (next.leave id) :=
  have hentered : Event.Founded context (.entered id pass.block.path) := trivial
  have hfinished : Event.Founded context (.finished id) := trivial
  ((log (pass.reach id) hentered).trans h).trans (log next hfinished)

end Pass.Adds

/-! ## Nodes under way -/

/-- No emission is under way after a walk that was not before. -/
theorem Walk.emitting_subset {context : Context} {onChain : List NodeId} {task : Task}
    {pass next : Pass} (h : Walk context onChain task pass next) :
    next.emitting ⊆ pass.emitting := by
  have hordered : Pass.Ordered fun pass next => next.emitting ⊆ pass.emitting := by
    constructor
    case refl => exact fun _ => List.Subset.refl _
    case trans => exact fun hfirst hrest => List.Subset.trans hrest hfirst
    case edit =>
      intro pass edit hedit
      rw [(Pass.Edited.step .refl hedit).emitting_eq]
      exact List.Subset.refl _
    case resolve => exact fun _ _ => List.Subset.refl _
    case initiate => exact fun _ _ => List.Subset.refl _
    case reach => exact fun _ _ => List.Subset.refl _
    case visit =>
      intro pass next id h busy hbusy
      obtain ⟨hmem, hne⟩ := List.mem_filter.mp hbusy
      exact (List.mem_cons.mp (h hmem)).resolve_left (of_decide_eq_true hne)
    case inside => exact fun h => h
  exact h.related hordered

theorem Tour.emitting_subset {context : Context} {index : Nat} {roots : List NodeId}
    {written : List Written} {pass next : Pass}
    (h : Tour context index roots written pass next) : next.emitting ⊆ pass.emitting := by
  induction h with
  | done => exact List.Subset.refl _
  | root first _ ih => exact List.Subset.trans ih first.emitting_subset

/-- No node is being emitted for its value. -/
def Pass.Calm (context : Context) (pass : Pass) : Prop :=
  ∀ busy ∈ pass.emitting, ¬ context.Valued busy

/-- All nodes that are being emitted for their values depend on a node. -/
def Pass.Awaits (context : Context) (pass : Pass) (id : NodeId) : Prop :=
  ∀ busy ∈ pass.emitting, context.Valued busy → ReflTransGen context.TakesFrom busy id

/-- All nodes on the chains lead to a node. -/
def Context.Trails (context : Context) (onChain : List NodeId) (id : NodeId) : Prop :=
  ∀ earlier ∈ onChain, ReflTransGen context.FlowsTo earlier id

/-- How a piece of work hangs together with the nodes on the chains and with those that
are being emitted. -/
def Task.Trails (context : Context) (onChain : List NodeId) : Task → Pass → Prop
  | chain start, pass =>
      (∀ earlier ∈ onChain, TransGen context.FlowsTo earlier start) ∧ pass.Calm context
  | visit id _, pass =>
      (context.IsFlow id → context.Trails onChain id ∧ pass.Calm context) ∧
        (context.isOnDemand id = true → pass.Awaits context id)
  | follow id _, pass => context.Trails onChain id ∧ pass.Calm context
  | inside id _ _ _, pass => context.Trails onChain id ∧ pass.Calm context
  | exits id _, pass => context.Trails onChain id ∧ pass.Calm context
  | supply consumer source, pass =>
      context.TakesFrom consumer source ∧ pass.Awaits context consumer
  | input consumer _ _, pass => pass.Awaits context consumer
  | demand consumer _ _, pass => pass.Awaits context consumer
  | operands node _ _, pass => pass.Awaits context node.id
  | parameters _ _ _, _ => True
  | emission kind node, pass => pass.Awaits context node.id ∧
      (kind.isOnDemand = false → context.Trails onChain node.id) ∧
      (kind.hasValue = false → pass.Calm context)

namespace Pass

variable {context : Context} {pass next : Pass} {id : NodeId}

theorem Calm.of_subset (h : pass.Calm context) (hsubset : next.emitting ⊆ pass.emitting) :
    next.Calm context :=
  fun busy hbusy => h busy (hsubset hbusy)

theorem Calm.of_edited (h : pass.Calm context)
    (hedited : pass.Edited (fun _ => True) next) : next.Calm context :=
  h.of_subset (hedited.emitting_eq ▸ List.Subset.refl _)

theorem Awaits.of_subset (h : pass.Awaits context id)
    (hsubset : next.emitting ⊆ pass.emitting) : next.Awaits context id :=
  fun busy hbusy => h busy (hsubset hbusy)

theorem Awaits.of_edited (h : pass.Awaits context id)
    (hedited : pass.Edited (fun _ => True) next) : next.Awaits context id :=
  h.of_subset (hedited.emitting_eq ▸ List.Subset.refl _)

/-- What waits for the value of a consumer waits for that of its source. -/
theorem Awaits.of_takesFrom {consumer source : NodeId} (h : pass.Awaits context consumer)
    (htakes : context.TakesFrom consumer source) : pass.Awaits context source :=
  fun busy hbusy hvalued => (h busy hbusy hvalued).tail htakes

/-- The source of an input that is being emitted for its value depends on itself. -/
theorem Awaits.transGen {consumer source : NodeId} (h : pass.Awaits context consumer)
    (htakes : context.TakesFrom consumer source) (hbusy : source ∈ pass.emitting)
    (hdelivers : context.Delivers source) : TransGen context.TakesFrom source source :=
  .tail' (h source hbusy hdelivers.valued) htakes

end Pass

/-- An objection to a source that is being emitted is that its value depends on itself. -/
theorem Objection.loops {context : Context} {pass : Pass} {consumer source node : NodeId}
    {kind : DiagnosticKind} {detail : Option String}
    (h : Objection context pass consumer source kind node detail)
    (hdelivers : context.Delivers source) (htakes : context.TakesFrom consumer source)
    (hawaits : pass.Awaits context consumer) : context.Loops kind node := by
  cases h with
  | needsItself _ _ busy => exact hawaits.transGen htakes busy hdelivers
  | underWay _ busy => exact hawaits.transGen htakes busy hdelivers
  | boundElsewhere => exact trivial
  | unreached => exact trivial
  | executedElsewhere => exact trivial

/-- A node of the flow trails what led to it when it joins the chains. -/
theorem Task.trails_visit {context : Context} {onChain : List NodeId} {id : NodeId}
    {pass : Pass} (answer : Option NodeId) (hflow : context.IsFlow id)
    (h : (Task.chain id).Trails context onChain pass) :
    (Task.visit id answer).Trails context (id :: onChain) pass := by
  refine ⟨fun _ => ⟨?_, h.2⟩, fun hdemand => ?_⟩
  · exact List.forall_mem_cons.mpr ⟨.refl, fun earlier hmem => (h.1 earlier hmem).to_reflTransGen⟩
  · rw [hflow.isOnDemand_eq] at hdemand
    cases hdemand

/-- What follows in the flow trails it and what led to it. -/
theorem Task.trails_following {context : Context} {onChain : List NodeId} {id following : NodeId}
    {kind : ComponentKind} {next : Pass} (hknown : context.kind? id = some kind)
    (hnext : context.nextOf kind id = some following)
    (htrails : context.Trails onChain id) (hcalm : next.Calm context) :
    (Task.chain following).Trails context onChain next :=
  ⟨fun earlier hmem => .tail' (htrails earlier hmem) (.of_nextOf hknown hnext), hcalm⟩

/-- What awaits a consumer awaits the sources that are emitted for it on demand. -/
theorem Task.trails_source {context : Context} {onChain : List NodeId} {consumer source : NodeId}
    {pass next : Pass} (answer : Option NodeId) (hdemand : context.isOnDemand source = true)
    (h : (Task.supply consumer source).Trails context onChain pass)
    (hsubset : next.emitting ⊆ pass.emitting) :
    (Task.visit source answer).Trails context onChain next := by
  refine ⟨fun hflow => ?_, fun _ => (h.2.of_takesFrom h.1).of_subset hsubset⟩
  rw [hflow.isOnDemand_eq] at hdemand
  cases hdemand

/-- A node that is visited is under way itself from when it is entered. -/
theorem Task.trails_emission {context : Context} {onChain : List NodeId} {node : Node}
    {kind : ComponentKind} {answer : Option NodeId} {pass : Pass}
    (hosts : context.Hosts node kind)
    (h : (Task.visit node.id answer).Trails context onChain pass) :
    (Task.emission kind node).Trails context onChain ((pass.reach node.id).enter node.id) := by
  have hknown := hosts.kind?
  have hflow : kind.isOnDemand = false → context.IsFlow node.id :=
    fun hkind => ⟨kind, hknown, hkind⟩
  refine ⟨?_, fun hkind => (h.1 (hflow hkind)).1, fun hkind => ?_⟩
  · rintro busy hbusy hvalued
    rcases List.mem_cons.mp hbusy with rfl | hbusy
    · exact .refl
    · cases hdemand : kind.isOnDemand with
      | true => exact h.2 (hosts.isOnDemand_eq.trans hdemand) busy hbusy hvalued
      | false => exact absurd hvalued ((h.1 (hflow hdemand)).2 busy hbusy)
  · -- A kind without values is of the flow, so nothing else is under way for its value.
    have hdemand : kind.isOnDemand = false := by
      cases kind <;> first | rfl | cases hkind
    rintro busy hbusy ⟨other, hother, hvalue⟩
    rcases List.mem_cons.mp hbusy with rfl | hbusy
    · cases Option.some.inj (hknown.symm.trans hother)
      rw [hkind] at hvalue
      cases hvalue
    · exact (h.1 (hflow hdemand)).2 busy hbusy ⟨other, hother, hvalue⟩

/-! ## Walks -/

open Pass in
/-- A walk through a well-wired graph reports only cycles that are there. -/
theorem Walk.founded {context : Context} (hwired : context.Wired) {onChain : List NodeId}
    {task : Task} {pass next : Pass} (h : Walk context onChain task pass next)
    (hfits : task.Fits context) (htrails : task.Trails context onChain pass) :
    pass.Adds (Event.Founded context) next := by
  have hfounded : ∀ {pass next : Pass}, pass.Edited (Edit.IsFounded context) next →
      pass.Adds (Event.Founded context) next := .founded
  have hoperand : ∀ {modules : List String} {pass middle next : Pass},
      (pass.require modules).Adds (Event.Founded context) middle →
      middle.Adds (Event.Founded context) next → pass.Adds (Event.Founded context) next :=
    fun hinput hothers => ((hfounded (.require _ _)).trans hinput).trans hothers
  -- The chains and the emissions under way are led along the edges of the graph, so that a node
  -- met again closes a cycle.
  induction h with
  | turnBack again => exact hfounded (.report _ _ _ (htrails.1 _ again))
  | chainEnd _ _ ih => exact ih (.inl hfits) (Task.trails_visit _ hfits htrails)
  | @chainOn _ _ following _ _ _ _ visit _ ihvisit ihrest =>
      obtain ⟨kind, hknown, hnext⟩ := visit.exists_kind_of_visit_some
      have hvisit := Task.trails_visit (some following) hfits htrails
      have hrest := Task.trails_following hknown hnext (hvisit.1 hfits).1
        (htrails.2.of_subset visit.emitting_subset)
      exact (ihvisit (.inl hfits) hvisit).trans
        (ihrest (hwired.isFlow_of_nextOf hknown hnext) hrest)
  | missing => exact .refl _
  | @unknown _ id _ pass _ _ =>
      have hreached : pass.Adds (Event.Founded context) (pass.reach id) := .of_events_eq rfl
      exact hreached.trans (hfounded (.report _ _ _))
  | emitted found known _ _ ih =>
      obtain rfl := Graph.id_of_node? found
      have hhosts : Context.Hosts _ _ _ := ⟨found, congrArg (Option.map Component.kind) known⟩
      have hemission := ih ⟨hhosts, hfits⟩ (Task.trails_emission hhosts htrails)
      exact hemission.aroundVisit
  | unconnected => exact .refl _
  | followed connected _ ih =>
      refine ih (hwired.flows hfits connected) ⟨fun earlier hmem => ?_, htrails.2⟩
      exact .tail' (htrails.1 earlier hmem) ⟨_, _, hfits, connected, rfl⟩
  | @inside _ id _ pads pass last _ _ close ih =>
      have hopened : pass.Adds (Event.Founded context) pass.openChild :=
        .of_silent Event.founded_of_isWriting (.openBlock _ _)
      have hclosed := (hopened.trans (ih hfits htrails)).trans (hfounded (.paddedIf last id pads))
      rw [← close] at hclosed
      exact hclosed
  | noExits => exact .refl _
  | moreExits first _ ihfirst ihothers =>
      exact (ihfirst hfits.firstExit htrails).trans
        (ihothers hfits.otherExits ⟨htrails.1, htrails.2.of_subset first.emitting_subset⟩)
  | settled => exact .refl _
  | fresh demand _ _ ih =>
      exact ih (.inr hfits) (Task.trails_source _ demand htrails (List.Subset.refl _))
  | again demand _ _ _ _ _ ih =>
      exact ih (.inr hfits) (Task.trails_source _ demand htrails (List.Subset.refl _))
  | refused objection => exact hfounded (.report _ _ _ (objection.loops hfits htrails.1 htrails.2))
  | unfed => exact .refl _
  | byParameter => exact .log _ trivial
  | byValue feed _ ih =>
      have hsupply := ih (hwired.delivers hfits feed) ⟨hfits.takesFrom feed, htrails⟩
      exact hsupply.trans (.log _ trivial)
  | found _ ih => exact ih hfits htrails
  | lacking _ ih => exact (ih hfits htrails).trans (hfounded (.report _ _ _))
  | noOperands => exact .refl _
  | untypedOperand _ _ ih => exact ih hfits.others htrails
  | optionalOperand known _ input _ ihinput ihothers =>
      exact hoperand (ihinput (hfits.first known) htrails)
        (ihothers hfits.others (htrails.of_subset input.emitting_subset))
  | enteredOperand known _ input _ ihinput ihothers =>
      have hinput := ihinput (hfits.first known) htrails
      have hawaits := htrails.of_subset input.emitting_subset
      exact hoperand (hinput.trans (hfounded (.checkLiteral _ _ _ _)))
        (ihothers hfits.others (hawaits.of_edited (.checkLiteral _ _ _ _)))
  | requiredOperand known _ input _ ihinput ihothers =>
      exact hoperand (ihinput (hfits.first known) htrails)
        (ihothers hfits.others (htrails.of_subset input.emitting_subset))
  | lackingOperand known _ input _ ihinput ihothers =>
      have hinput := ihinput (hfits.first known) htrails
      have hawaits := htrails.of_subset input.emitting_subset
      exact hoperand (hinput.trans (hfounded (.checkLiteral _ _ _ _)))
        (ihothers hfits.others (hawaits.of_edited (.checkLiteral _ _ _ _)))
  | noParameters => exact .refl _
  | moreParameters _ ih =>
      exact (hfounded ((Edited.declare _ _ _ _).trans (.noteDuplicate _ _ _ _))).trans
        (ih trivial trivial)
  | unknownLiteral => exact .refl _
  | literal =>
      exact hfounded ((Edited.checkLiteral _ _ _ _).trans (.keep _ _ _ _))
  | @call _ function _ _ _ last _ ih =>
      have hoperands := ih (fun _ hlisted _ htyped => .argument hfits.1.kind? hlisted htyped)
        htrails.1
      exact (hoperands.trans (hfounded (.requireCall last context function))).trans
        (hfounded (.placeCall _ _ _ _ _))
  | declared _ ih =>
      exact (ih (.initial hfits.1.kind?) htrails.1).trans (hfounded (.write _ _ _))
  | declaredTyped _ ih =>
      exact (ih (.initial hfits.1.kind?) htrails.1).trans (hfounded (.declareTyped _ _ _))
  | bareBranch _ ih => exact ih (.ofBranch hfits.1.kind?) htrails.1
  | branch condition thenBranch _ ihcondition ihthen ihelse =>
      obtain ⟨hawaits, htrail, hcalm⟩ := htrails
      have hknown := hfits.1.kind?
      have hstart := (hcalm rfl).of_subset condition.emitting_subset
      have hmiddle := hstart.of_subset thenBranch.emitting_subset
      have hthen := ((ihcondition (.ofBranch hknown) hawaits).trans (hfounded (.write _ _ _))).trans
        (ihthen (.thenExit hknown) ⟨htrail rfl, hstart⟩)
      have helse := ihelse (.elseExit hknown) ⟨htrail rfl, hmiddle.of_edited (.closeThen _ _ _)⟩
      exact ((hthen.trans (hfounded (.closeThen _ _ _))).trans helse).trans
        (hfounded (.closeElse _ _ _))
  | bareLoop _ ih => exact ih (.ofLoop hfits.1.kind?) htrails.1
  | loop condition _ ihcondition ihbody =>
      obtain ⟨hawaits, htrail, hcalm⟩ := htrails
      have hknown := hfits.1.kind?
      have hstart := (hcalm rfl).of_subset condition.emitting_subset
      have hbody := ((ihcondition (.ofLoop hknown) hawaits).trans (hfounded (.write _ _ _))).trans
        (ihbody (.body hknown) ⟨htrail rfl, hstart⟩)
      exact hbody.trans (hfounded (.splice _ _))
  | sequence _ ih =>
      exact ih (fun _ hmem => .item hfits.1 (List.mem_range.mp hmem))
        ⟨htrails.2.1 rfl, htrails.2.2 rfl⟩
  | definition parameters _ ihparameters ihbody =>
      obtain ⟨_, htrail, hcalm⟩ := htrails
      have hstart := (hcalm rfl).of_subset parameters.emitting_subset
      have hbody := ihbody (.inner hfits.1.kind? rfl)
        ⟨htrail rfl, hstart.of_edited (.writeHeader _ context _ _)⟩
      have hwritten := (hfounded (.writeHeader _ _ _ _)).trans hbody
      exact (((ihparameters trivial trivial).trans hwritten).trans
        (hfounded (.splice _ _))).trans (hfounded (.write _ _ _))
  | code => exact hfounded (.writeCode _ _)
  | topLevelCode _ ih =>
      obtain ⟨_, htrail, hcalm⟩ := htrails
      have hbody := ih (.inner hfits.1.kind? rfl)
        ⟨htrail rfl, (hcalm rfl).of_edited (.writeCode _ _)⟩
      exact ((hfounded (.writeCode _ _)).trans hbody).trans (hfounded (.splice _ _))

/-- A tour of a well-wired graph reports only cycles that are there. -/
theorem Tour.founded {context : Context} (hwired : context.Wired) {index : Nat}
    {roots : List NodeId} {written : List Written} {pass next : Pass}
    (h : Tour context index roots written pass next)
    (hroots : ∀ id ∈ roots, context.IsFlow id) (hidle : pass.emitting = []) :
    pass.Adds (Event.Founded context) next := by
  induction h with
  | done => exact .refl _
  | @root index id rest _ pass middle _ first _ ih =>
      have hopened : pass.Adds (Event.Founded context) (pass.openBlock (Block.root index)) :=
        .of_silent Event.founded_of_isWriting (.openBlock _ _)
      have hcalm : (pass.openBlock (Block.root index)).Calm context := by
        intro busy hbusy
        change busy ∈ pass.emitting at hbusy
        simp [hidle] at hbusy
      have hfirst := first.founded hwired (hroots id (List.mem_cons_self ..)) ⟨nofun, hcalm⟩
      have hmiddle : middle.emitting = [] :=
        List.subset_nil.mp (hidle ▸ first.emitting_subset)
      exact (hopened.trans hfirst).trans
        (ih (fun other hmem => hroots other (List.mem_cons_of_mem _ hmem)) hmiddle)

end VisualScript
