import Mathlib.Logic.Relation
import VisualScript.Proofs.Pass.Adequacy
import VisualScript.Proofs.Pass.Reach

/-!
# Single steps

A walk told flat, as a run of single steps, for what has nothing to do with blocks: which
nodes a pass asks for, reaches and uses. What each kind of step preserves holds at the end
of every pass, be it of a graph with mistakes or of one without.
-/

namespace VisualScript

/-! ## What changes nothing -/

/-- Whether an event tells neither that a node was reached or used, nor that it should have
been. -/
def Event.isAside : Event → Bool
  | entered _ _ => false
  | claimed _ _ _ => false
  | resolved resolution => !resolution.ofSource
  | reported diagnostic =>
      diagnostic.kind ≠ .usedBeforeExecuted && diagnostic.kind ≠ .nodeNotProcessed
  | _ => true

theorem Event.isAside_of_isWriting {event : Event} (h : event.isWriting = true) :
    event.isAside = true := by
  cases event <;> first | rfl | cases h

/-- Whether an edit changes nothing about which nodes were reached and used. -/
def Edit.IsAside : Edit → Prop
  | report .usedBeforeExecuted _ _ => False
  | report .nodeNotProcessed _ _ => False
  | claim _ _ => False
  | _ => True

namespace Pass

/-- Nothing changed about which nodes were asked for, reached and used, but that emissions
may have ended. -/
structure Aside (pass next : Pass) : Prop where
  initiated : next.initiated = pass.initiated
  reached : next.reached = pass.reached
  emitting : next.emitting ⊆ pass.emitting
  journal : pass.Adds (fun event => event.isAside = true) next

namespace Aside

variable {pass middle next : Pass}

theorem refl (pass : Pass) : Aside pass pass := ⟨rfl, rfl, List.Subset.refl _, .refl _⟩

theorem trans (hfirst : Aside pass middle) (hrest : Aside middle next) : Aside pass next where
  initiated := hrest.initiated.trans hfirst.initiated
  reached := hrest.reached.trans hfirst.reached
  emitting := List.Subset.trans hrest.emitting hfirst.emitting
  journal := hfirst.journal.trans hrest.journal

theorem of_silent (h : pass.Silent next) : Aside pass next where
  initiated := h.initiated
  reached := h.reached
  emitting := by simp [h.emitting]
  journal := .of_silent Event.isAside_of_isWriting h

theorem log (pass : Pass) {event : Event} (h : event.isAside = true) :
    Aside pass (pass.log event) := ⟨rfl, rfl, List.Subset.refl _, .log _ h⟩

theorem of_edited (h : pass.Edited Edit.IsAside next) : Aside pass next := by
  refine h.related refl trans fun pass edit hedit => ?_
  cases edit with
  | report kind => cases kind <;> first | exact log _ rfl | cases hedit
  | require => exact log _ rfl
  | write => exact of_silent (.write _ _ _)
  | splice => exact of_silent (.splice _ _)
  | setResult => exact ⟨rfl, rfl, List.Subset.refl _, .of_events_eq rfl⟩
  | dropResult => exact ⟨rfl, rfl, List.Subset.refl _, .of_events_eq rfl⟩
  | claim => cases hedit

theorem leave (pass : Pass) (id : NodeId) : Aside pass (pass.leave id) := by
  constructor
  case emitting => exact List.filter_sublist.subset
  case journal => exact .log { pass with emitting := _ } rfl
  all_goals rfl

/-- What happened in a block inside happened for the block around it. -/
theorem padIf (pass : Pass) (id : NodeId) (pads : Bool) (outer : Block) :
    Aside pass ((if pads then pass.padded id else pass).backTo outer) :=
  (of_edited (.paddedIf _ _ _)).trans (of_silent (.backTo _ _))

end Aside

end Pass

/-! ## Steps -/

/-- A node is visited as things stand, or right after its value was asked for. -/
inductive Asking (context : Context) (id : NodeId) (pass : Pass) : Pass → Prop where
  | not : Asking context id pass pass
  | value {node} (demand : context.isOnDemand id = true)
      (found : context.graph.node? id = some node) : Asking context id pass (pass.initiate id)

/-- A step that a pass takes. -/
inductive Step (context : Context) : Pass → Pass → Prop where
  | aside {pass next} (nothing : pass.Aside next) : Step context pass next
  /-- A node without a component is reached. -/
  | stray {id node pass ready} (asking : Asking context id pass ready)
      (found : context.graph.node? id = some node)
      (unknown : context.catalog.get? node.name = none) : Step context pass (ready.reach id)
  /-- The emission of a node begins. -/
  | enter {id node component pass ready} (asking : Asking context id pass ready)
      (found : context.graph.node? id = some node)
      (known : context.catalog.get? node.name = some component) :
      Step context pass ((ready.reach id).enter id)
  /-- A literal is made a default. -/
  | claim {definition literal name pass} (known : context.kind? literal = some (.literal name)) :
      Step context pass (pass.claim definition literal)
  /-- The value of a node is used that was asked for, reached or is on its way. -/
  | take {resolution pass} (own : resolution.ofSource = true)
      (known : resolution.source ∈ pass.initiated ∨ resolution.source ∈ pass.reached ∨
        resolution.source ∈ pass.emitting) : Step context pass (pass.log (.resolved resolution))
  /-- The value of a node is used that the flow did not reach. -/
  | miss {resolution pass} (own : resolution.ofSource = true)
      (flow : context.isOnDemand resolution.source = false)
      (unreached : resolution.source ∉ pass.reached) :
      Step context pass ((pass.report .usedBeforeExecuted resolution.consumer
        (some resolution.source.text)).log (.resolved resolution))

/-- Steps taken one after another. -/
abbrev Course (context : Context) : Pass → Pass → Prop := Relation.ReflTransGen (Step context)

variable {context : Context} {pass next : Pass}

theorem Asking.reached_eq {id : NodeId} {ready : Pass} (h : Asking context id pass ready) :
    ready.reached = pass.reached := by
  cases h <;> rfl

theorem Asking.emitting_eq {id : NodeId} {ready : Pass} (h : Asking context id pass ready) :
    ready.emitting = pass.emitting := by
  cases h <;> rfl

theorem Asking.events_eq {id : NodeId} {ready : Pass} (h : Asking context id pass ready) :
    ready.events = pass.events := by
  cases h <;> rfl

/-- Only the visited node may have been asked for. -/
theorem Asking.initiated_subset {id : NodeId} {ready : Pass} (h : Asking context id pass ready) :
    ready.initiated ⊆ id :: pass.initiated := by
  cases h with
  | not => simp
  | value => simp [Pass.initiate]

/-- What was reached stays so. -/
theorem Step.reached_subset (h : Step context pass next) : pass.reached ⊆ next.reached := by
  cases h with
  | aside nothing => simp [nothing.reached]
  | stray asking => simp [Pass.reach, asking.reached_eq]
  | enter asking => simp [Pass.enter, Pass.log, Pass.reach, asking.reached_eq]
  | claim => simp [Pass.claim, Pass.log, Pass.setResult, Pass.initiate, Pass.reach]
  | take => simp [Pass.log]
  | miss => simp [Pass.log, Pass.report]

/-- What every step preserves is preserved by all of them. -/
theorem Course.preserve {invariant : Pass → Prop}
    (hstep : ∀ pass next, Step context pass next → invariant pass → invariant next)
    (h : Course context pass next) (hpass : invariant pass) : invariant next := by
  induction h with
  | refl => exact hpass
  | tail _ last ih => exact hstep _ _ last ih

theorem Course.reached_subset (h : Course context pass next) : pass.reached ⊆ next.reached := by
  induction h with
  | refl => exact List.Subset.refl _
  | tail _ last ih => exact List.Subset.trans ih last.reached_subset

theorem Pass.Aside.course (h : pass.Aside next) : Course context pass next := .single (.aside h)

/-- A literal that becomes a default is checked and claimed; other arguments change nothing
about what was reached. -/
theorem Pass.course_declare (context : Context) (pass : Pass) (node : Node) (index : Nat) :
    Course context pass (pass.declare node.id index (context.wiring node index)) := by
  cases hwiring : context.wiring node index with
  | byLiteral source type literal =>
      obtain ⟨name, hknown, _⟩ := Context.kind?_of_wiring hwiring
      exact (Pass.Aside.of_edited (.checkLiteral _ _ _ _)).course.tail (.claim hknown)
  | unsupported source component => exact (Pass.Aside.of_edited (.report _ _ _)).course
  | typed type => exact (Pass.Aside.of_edited (.require _ _)).course
  | untyped => exact (Pass.Aside.of_edited (.report _ _ _)).course

/-! ## Walks as runs of steps -/

/-- How a piece of work is told by steps. A node is reached when it is visited, whether or not
its value was just asked for, and the value of a source is used once it is ready. -/
def Task.Course (context : Context) : Task → Pass → Pass → Prop
  | visit id _, pass, next =>
      (∀ before, Asking context id before pass → VisualScript.Course context before next) ∧
        ∀ node, context.graph.node? id = some node → id ∈ next.reached
  | supply consumer source, pass, next =>
      ∀ node, context.graph.node? source = some node → ∀ resolution : Resolution,
        resolution.consumer = consumer → resolution.source = source →
          resolution.ofSource = true →
            VisualScript.Course context pass (next.log (.resolved resolution))
  | _, pass, next => VisualScript.Course context pass next

/-- A source whose value an objection is raised against is used all the same. -/
theorem Objection.course {consumer source node : NodeId} {kind : DiagnosticKind}
    {detail : Option String} (h : Objection context pass consumer source kind node detail)
    {resolution : Resolution} (hconsumer : resolution.consumer = consumer)
    (hsource : resolution.source = source) (hown : resolution.ofSource = true) :
    Course context pass ((pass.report kind node detail).log (.resolved resolution)) := by
  subst hconsumer hsource
  cases h with
  | needsItself _ known _ =>
      have hreport : pass.Aside (pass.report .dataCycle resolution.source none) :=
        .of_edited (.report _ _ _)
      exact hreport.course.tail (.take hown (.inl known))
  | boundElsewhere _ known _ _ _ =>
      have hreport : pass.Aside (pass.report .valueOutOfScope resolution.consumer
          (some resolution.source.text)) := .of_edited (.report _ _ _)
      exact hreport.course.tail (.take hown (.inl known))
  | underWay _ busy =>
      have hreport : pass.Aside (pass.report .dataCycle resolution.source none) :=
        .of_edited (.report _ _ _)
      exact hreport.course.tail (.take hown (.inr (.inr busy)))
  | unreached flow _ unreached => exact .single (.miss hown flow unreached)
  | executedElsewhere _ _ reached _ =>
      have hreport : pass.Aside (pass.report .valueOutOfScope resolution.consumer
          (some resolution.source.text)) := .of_edited (.report _ _ _)
      exact hreport.course.tail (.take hown (.inr (.inl reached)))

/-- Values come from nodes that are there. -/
theorem Context.exists_node_of_feed {consumer source : NodeId} {key : String}
    (h : context.feed consumer key = .value source) :
    ∃ node, context.graph.node? source = some node := by
  unfold feed at h
  split at h
  next => cases h
  next connection _ =>
    split at h
    next => cases h
    next node hnode =>
      split at h
      next =>
        split at h
        next => cases h
        next => cases h
      next =>
        cases h
        exact ⟨node, hnode⟩

/-- A walk is a run of single steps. -/
theorem Walk.course {onChain : List NodeId} {task : Task}
    (h : Walk context onChain task pass next) : task.Course context pass next := by
  -- Asking for a value is no step of its own: the visit that follows takes it into its first one.
  induction h with
  | turnBack => exact (Pass.Aside.of_edited (.report _ _ _)).course
  | chainEnd _ _ ih => exact ih.1 _ .not
  | chainOn _ _ _ ihvisit ihrest => exact (ihvisit.1 _ .not).trans ihrest
  | missing absent =>
      refine ⟨fun before hasking => ?_, fun node hnode => ?_⟩
      · cases hasking with
        | not => exact .refl
        | value _ found => cases absent.symm.trans found
      · cases absent.symm.trans hnode
  | unknown found unknown =>
      refine ⟨fun before hasking => ?_, fun node hnode => ?_⟩
      · have hstray : Step context before _ := .stray hasking found unknown
        exact (Relation.ReflTransGen.single hstray).tail (.aside (.of_edited (.report _ _ _)))
      · simp [Pass.report, Pass.log, Pass.reach]
  | @emitted _ id node component _ pass _ found known _ _ ih =>
      have hleave := ih.tail (.aside (.leave _ id))
      refine ⟨fun before hasking => ?_, fun node hnode => ?_⟩
      · exact (Relation.ReflTransGen.single (.enter hasking found known)).trans hleave
      · apply Course.reached_subset hleave
        simp [Pass.enter, Pass.log, Pass.reach]
  | unconnected => exact .refl
  | followed _ _ ih => exact ih
  | inside _ close ih =>
      have hopened := (Pass.Aside.of_silent (.openBlock _ _)).course.trans ih
      subst close
      exact hopened.tail (.aside (.padIf _ _ _ _))
  | noExits => exact .refl
  | moreExits _ _ ihfirst ihothers => exact ihfirst.trans ihothers
  | @settled _ consumer source pass known idle visible =>
      intro node _ resolution _ hsource hown
      subst hsource
      refine .single (.take hown ?_)
      split at known
      next => exact .inl known
      next => exact .inr (.inl known)
  | fresh demand _ _ ih =>
      intro node hnode resolution _ hsource hown
      subst hsource
      exact (ih.1 _ (.value demand hnode)).tail (.take hown (.inr (.inl (ih.2 node hnode))))
  | again _ _ _ _ _ _ ih =>
      intro node hnode resolution _ hsource hown
      subst hsource
      exact (ih.1 _ .not).tail (.take hown (.inr (.inl (ih.2 node hnode))))
  | refused objection =>
      intro node _ resolution hconsumer hsource hown
      exact objection.course hconsumer hsource hown
  | unfed => exact .refl
  | byParameter => exact (Pass.Aside.log _ rfl).course
  | byValue feed _ ih =>
      obtain ⟨node, hnode⟩ := Context.exists_node_of_feed feed
      exact ih node hnode _ rfl rfl rfl
  | found _ ih => exact ih
  | lacking _ ih => exact ih.tail (.aside (.of_edited (.report _ _ _)))
  | noOperands => exact .refl
  | untypedOperand _ _ ih => exact ih
  | optionalOperand _ _ _ _ ihinput ihothers =>
      exact ((Pass.Aside.of_edited (.require _ _)).course.trans ihinput).trans ihothers
  | enteredOperand _ _ _ _ ihinput ihothers =>
      have hinput := (Pass.Aside.of_edited (.require _ _)).course.trans ihinput
      exact (hinput.tail (.aside (.of_edited (.checkLiteral _ _ _ _)))).trans ihothers
  | requiredOperand _ _ _ _ ihinput ihothers =>
      exact ((Pass.Aside.of_edited (.require _ _)).course.trans ihinput).trans ihothers
  | lackingOperand _ _ _ _ ihinput ihothers =>
      have hinput := (Pass.Aside.of_edited (.require _ _)).course.trans ihinput
      exact (hinput.tail (.aside (.of_edited (.checkLiteral _ _ _ _)))).trans ihothers
  | noParameters => exact .refl
  | @moreParameters _ node _ index _ pass _ _ ih =>
      have hdeclare := pass.course_declare context node index
      exact (hdeclare.tail (.aside (.of_edited (.noteDuplicate _ _ _ _)))).trans ih
  | unknownLiteral => exact .refl
  | literal => exact (Pass.Aside.of_edited (.trans (.checkLiteral _ _ _ _) (.keep _ _ _ _))).course
  | @call _ function _ _ _ last _ ih =>
      have hrequired := ih.tail (.aside (.of_edited (.requireCall last context function)))
      exact hrequired.tail (.aside (.of_edited (.placeCall _ _ _ _ _)))
  | declared _ ih => exact ih.tail (.aside (.of_edited (.write _ _ _)))
  | declaredTyped _ ih => exact ih.tail (.aside (.of_edited (.declareTyped _ _ _)))
  | bareBranch _ ih => exact ih
  | branch _ _ _ ihcondition ihthen ihelse =>
      have hthen := (ihcondition.tail (.aside (.of_edited (.write _ _ _)))).trans ihthen
      have helse := (hthen.tail (.aside (.of_edited (.closeThen _ _ _)))).trans ihelse
      exact helse.tail (.aside (.of_edited (.closeElse _ _ _)))
  | bareLoop _ ih => exact ih
  | loop _ _ ihcondition ihbody =>
      have hbody := (ihcondition.tail (.aside (.of_edited (.write _ _ _)))).trans ihbody
      exact hbody.tail (.aside (.of_edited (.splice _ _)))
  | sequence _ ih => exact ih
  | @definition _ _ inner _ _ next _ _ ihparameters ihbody =>
      have hbody := (ihparameters.tail (.aside (.of_edited (.writeHeader _ _ _ _)))).trans ihbody
      have hspliced := hbody.tail (.aside (.of_edited (.splice next inner)))
      exact hspliced.tail (.aside (.of_edited (.write _ _ _)))
  | code => exact (Pass.Aside.of_edited (.writeCode _ _)).course
  | topLevelCode _ ih =>
      have hbody := (Pass.Aside.of_edited (.writeCode _ _)).course.trans ih
      exact hbody.tail (.aside (.of_edited (.splice _ _)))

theorem Tour.course {index : Nat} {roots : List NodeId} {written : List Written}
    (h : Tour context index roots written pass next) : Course context pass next := by
  induction h with
  | done => exact .refl
  | root first _ ih =>
      have hfirst := (Pass.Aside.of_silent (.openBlock _ _)).course.trans first.course
      exact hfirst.trans ih

/-- What steps preserve holds at the end of a pass if it holds at the beginning. -/
theorem Language.holds_of_compile {language : Language} {options : CompileOptions}
    {graph : Graph} {compilation : Compilation} {invariant : Pass → Prop}
    (h : language.compile options graph = .ok compilation)
    (hinitial : invariant { block := Block.root 0 })
    (hstep : ∀ pass next, Step (language.context options graph) pass next → invariant pass →
      invariant next) :
    ∃ written pass, compilation = .ofPass written pass ∧ invariant pass := by
  obtain ⟨written, pass, _, rfl, htour⟩ := tour_of_compile h
  exact ⟨written, pass, rfl, htour.course.preserve hstep hinitial⟩

end VisualScript
