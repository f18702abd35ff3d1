import VisualScript.Proofs.Pass.Frame

/-!
# What emission comes to

Which nodes a root leads emission to, read off the graph alone. All that happens while
the body of a root is emitted concerns such nodes, and lies in the blocks of the root.
-/

namespace VisualScript

namespace Context

/-- One node leads emission to another: the flow goes there, or the value is taken. -/
inductive Leads (context : Context) : NodeId → NodeId → Prop where
  | flow {id exit connection} (exits : context.Exit id exit)
      (connected : context.graph.firstOutgoing? id exit = some connection) :
      Leads context id connection.target
  | value {id key source} (takes : context.Takes id key)
      (feed : context.feed id key = .value source) : Leads context id source

/-- The nodes that a root leads emission to. -/
inductive Below (context : Context) (root : NodeId) : NodeId → Prop where
  | first {id} (leads : context.Leads root id) : Below context root id
  | next {id other} (below : Below context root id) (leads : context.Leads id other) :
      Below context root other

variable {context : Context} {root : NodeId}

/-- The last step to a node below a root. -/
theorem Below.exists_leads {id : NodeId} (h : context.Below root id) :
    ∃ earlier, (earlier = root ∨ context.Below root earlier) ∧ context.Leads earlier id := by
  cases h with
  | first leads => exact ⟨root, .inl rfl, leads⟩
  | next below leads => exact ⟨_, .inr below, leads⟩

theorem Below.of_leads {id other : NodeId} (h : id = root ∨ context.Below root id)
    (hleads : context.Leads id other) : context.Below root other := by
  rcases h with rfl | hbelow
  · exact .first hleads
  · exact .next hbelow hleads

/-- No root leads emission to a top-level node. -/
theorem Below.isTopLevel_eq (hwired : context.Wired) {id : NodeId}
    (h : context.Below root id) {kind : ComponentKind} (hknown : context.kind? id = some kind) :
    kind.isTopLevel = false := by
  -- A node below a root was led to by the flow or for its value, and no top-level node takes part
  -- in either.
  obtain ⟨earlier, _, hleads⟩ := h.exists_leads
  cases hleads with
  | flow exits connected => exact hwired.inner exits connected hknown
  | value takes feed =>
      have hvalue := (hwired.delivers takes feed).hasValue hknown
      cases kind <;> first | rfl | cases hvalue

/-- Top-level nodes take no values. -/
theorem Takes.isTopLevel_eq {id : NodeId} {key : String} (h : context.Takes id key)
    {kind : ComponentKind} (hknown : context.kind? id = some kind) : kind.isTopLevel = false := by
  cases h with
  | argument known => exact Option.some.inj (hknown.symm.trans known) ▸ rfl
  | ofBranch known => exact Option.some.inj (hknown.symm.trans known) ▸ rfl
  | ofLoop known => exact Option.some.inj (hknown.symm.trans known) ▸ rfl
  | initial known => exact Option.some.inj (hknown.symm.trans known) ▸ rfl

/-- Literals take no values. -/
theorem Takes.ne_literal {id : NodeId} {key : String} (h : context.Takes id key)
    (name : String) : context.kind? id ≠ some (.literal name) := by
  intro hliteral
  cases h with
  | argument known => cases hliteral.symm.trans known
  | ofBranch known => cases hliteral.symm.trans known
  | ofLoop known => cases hliteral.symm.trans known
  | initial known => cases hliteral.symm.trans known

/-- Literals lead emission nowhere. -/
theorem Leads.ne_literal {id other : NodeId} (h : context.Leads id other) (name : String) :
    context.kind? id ≠ some (.literal name) := by
  intro hliteral
  cases h with
  | value takes => exact takes.ne_literal name hliteral
  | flow exits =>
      cases exits with
      | next known goesOn =>
          cases Option.some.inj (hliteral.symm.trans known)
          cases goesOn
      | thenExit known => cases hliteral.symm.trans known
      | elseExit known => cases hliteral.symm.trans known
      | body known => cases hliteral.symm.trans known
      | item hosts => cases hliteral.symm.trans hosts.kind?
      | inner known starts =>
          cases Option.some.inj (hliteral.symm.trans known)
          cases starts

/-- The flow leads to where it goes on. -/
theorem Leads.of_nextOf {id following : NodeId} {kind : ComponentKind}
    (hknown : context.kind? id = some kind) (h : context.nextOf kind id = some following) :
    context.Leads id following := by
  unfold nextOf at h
  split at h
  next hgoes =>
    obtain ⟨connection, hconnected, rfl⟩ := Option.map_eq_some_iff.mp h
    exact .flow (.next hknown hgoes) hconnected
  next => cases h

end Context

/-- A visit is the emission of a node that is there. -/
theorem CleanWalk.exists_emission {context : Context} {onChain : List NodeId} {id : NodeId}
    {answer : Option NodeId} {pass next : Pass}
    (h : CleanWalk context onChain (.visit id answer) pass next) :
    ∃ node kind last, node.id = id ∧ context.Hosts node kind ∧
      answer = context.nextOf kind id ∧
      CleanWalk context onChain (.emission kind node) ((pass.reach id).enter id) last ∧
      next = last.leave id := by
  cases h with
  | visit hosts _ emission => exact ⟨_, _, _, rfl, hosts, rfl, emission, rfl⟩

/-! ## Bodies of roots -/

/-- What happens in the body of a root: nothing is made a default, and only nodes that
the root leads emission to are emitted and take values, in the blocks of the root. -/
def Event.InBody (context : Context) (root : NodeId) (scope : ScopePath) : Event → Prop
  | entered id inner => context.Below root id ∧ scope <+: inner
  | resolved resolution => context.Below root resolution.consumer ∧ scope <+: resolution.scope
  | claimed _ _ _ => False
  | _ => True

theorem Event.inBody_of_isWriting {context : Context} {root : NodeId} {scope : ScopePath}
    {event : Event} (h : event.isWriting = true) : event.InBody context root scope := by
  cases event <;> first | exact trivial | cases h

/-- Whether a piece of work belongs to the body of a root. -/
def Task.InBody (context : Context) (root : NodeId) : Task → Prop
  | chain start => context.Below root start
  | visit id _ => context.Below root id
  | follow id _ => id = root ∨ context.Below root id
  | inside id _ _ _ => id = root ∨ context.Below root id
  | exits id _ => context.Below root id
  | supply _ source => context.Below root source
  | input consumer _ _ => context.Below root consumer
  | demand consumer _ _ => context.Below root consumer
  | operands node _ _ => context.Below root node.id
  | parameters _ _ _ => False
  | emission _ node => context.Below root node.id

/-- Whether the journal tells of nothing but writing where an edit is made. -/
def Edit.TellsWriting : Edit → Prop
  | report _ _ _ => False
  | claim _ _ => False
  | _ => True

namespace Pass.Adds

variable {property : Event → Prop} {pass next : Pass}
  (hwriting : ∀ {event : Event}, event.isWriting = true → property event)

include hwriting

/-! What holds of all writing holds of the steps that only write. -/

theorem of_silent (h : pass.Silent next) : Adds property pass next := by
  obtain ⟨added, hadded, hsilent⟩ := h.journal
  exact ⟨added, hadded, fun event hmem => hwriting (hsilent event hmem)⟩

theorem of_writing (h : pass.Edited Edit.TellsWriting next) : Adds property pass next := by
  refine of_edited (h.mono fun edit hedit => ?_)
  cases edit with
  | require => exact hwriting rfl
  | write => exact fun _ => hwriting rfl
  | report => cases hedit
  | claim => cases hedit
  | splice | setResult | dropResult => exact trivial

end Pass.Adds

open Pass in
/-- What a walk in the body of a root adds lies in the body. -/
theorem CleanWalk.inBody {context : Context} (hwired : context.Wired) {root : NodeId}
    {scope : ScopePath} {onChain : List NodeId} {task : Task} {pass next : Pass}
    (h : CleanWalk context onChain task pass next) (htask : task.InBody context root)
    (hscope : scope <+: pass.block.path) :
    pass.Adds (Event.InBody context root scope) next := by
  have hwritten : ∀ {pass next : Pass}, pass.Edited Edit.TellsWriting next →
      pass.Adds (Event.InBody context root scope) next := .of_writing Event.inBody_of_isWriting
  -- The journal only grows by what each piece adds, so each case comes down to two facts: the
  -- piece is again about a node below the root, and the blocks only get deeper.
  induction h with
  | chainEnd _ _ _ ih => exact ih htask hscope
  | chainOn _ _ visit _ ihvisit ihrest =>
      obtain ⟨_, kind, _, rfl, hosts, hanswer, _⟩ := visit.exists_emission
      have hleads := Context.Leads.of_nextOf hosts.kind? hanswer.symm
      have hfollowing := Context.Below.of_leads (.inr htask) hleads
      exact (ihvisit htask hscope).trans (ihrest hfollowing (visit.extends.path ▸ hscope))
  | visit _ _ _ ih =>
      have hentered : Event.InBody context root scope (.entered _ _) := ⟨htask, hscope⟩
      exact ((Adds.log _ hentered).trans (ih htask hscope)).trans (.log _ trivial)
  | unconnected => exact .refl _
  | followed exits connected _ ih =>
      exact ih (Context.Below.of_leads htask (.flow exits connected)) hscope
  | @inside _ id _ pads pass last _ _ close ih =>
      have hopened : pass.Adds (Event.InBody context root scope) pass.openChild :=
        .of_silent Event.inBody_of_isWriting (.openBlock _ _)
      have hclosed := (hopened.trans (ih htask (hscope.trans (List.prefix_append _ _)))).trans
        (hwritten (.paddedIf last id pads))
      rw [← close] at hclosed
      exact hclosed
  | noExits => exact .refl _
  | moreExits first _ ihfirst ihothers =>
      exact (ihfirst (.inr htask) hscope).trans (ihothers htask (first.extends.path ▸ hscope))
  | settled => exact .refl _
  | fresh _ _ _ _ ih => exact ih htask hscope
  | again _ _ _ _ _ _ ih => exact ih htask hscope
  | unfed => exact .refl _
  | byParameter => exact .log _ ⟨htask, hscope⟩
  | byValue takes feed _ ih =>
      have hsource := Context.Below.of_leads (.inr htask) (.value takes feed)
      exact (ih hsource hscope).trans (.log _ ⟨htask, hscope⟩)
  | noOperands => exact .refl _
  | untypedOperand _ _ ih => exact ih htask hscope
  | connectedOperand _ input _ ihinput ihothers =>
      have hinput := (hwritten (.require _ _)).trans (ihinput htask hscope)
      exact hinput.trans (ihothers htask (input.extends.path ▸ hscope))
  | enteredOperand _ _ input _ _ ihinput ihothers =>
      have hinput := (hwritten (.require _ _)).trans (ihinput htask hscope)
      have hothers := (hwritten (.require _ _)).trans
        (ihothers htask (input.extends.path ▸ hscope))
      exact hinput.trans hothers
  -- Parameters are declared by roots alone, and no root is below a root.
  | noParameters => cases htask
  | literalParameter => cases htask
  | typedParameter => cases htask
  | literal => exact (hwritten (.require _ _)).trans (hwritten (.keep _ _ _ _))
  | @call _ function _ _ _ last _ _ ih =>
      have hcall := (ih htask hscope).trans (hwritten (.requireCall last context function))
      exact hcall.trans (hwritten (.placeCall _ _ _ _ _))
  | declared _ _ ih => exact (ih htask hscope).trans (hwritten (.write _ _ _))
  | declaredTyped _ _ ih => exact (ih htask hscope).trans (hwritten (.declareTyped _ _ _))
  | branch _ condition thenBranch _ _ ihcondition ihthen ihelse =>
      have hstart := condition.extends.path ▸ hscope
      have hmiddle := thenBranch.extends.path ▸ hstart
      have hthen := ((ihcondition htask hscope).trans (hwritten (.write _ _ _))).trans
        (ihthen (.inr htask) hstart)
      have helse := (hthen.trans (hwritten (.splice _ _))).trans (ihelse (.inr htask) hmiddle)
      exact helse.trans (hwritten (.closeElse _ _ _))
  | loop _ condition _ ihcondition ihbody =>
      have hstart := condition.extends.path ▸ hscope
      have hbody := ((ihcondition htask hscope).trans (hwritten (.write _ _ _))).trans
        (ihbody (.inr htask) hstart)
      exact hbody.trans (hwritten (.splice _ _))
  | sequence _ _ ih => exact ih htask hscope
  | definition hosts => cases htask.isTopLevel_eq hwired hosts.kind?
  | code => exact hwritten (.writeCode _ _)
  | topLevelCode hosts => cases htask.isTopLevel_eq hwired hosts.kind?

end VisualScript
