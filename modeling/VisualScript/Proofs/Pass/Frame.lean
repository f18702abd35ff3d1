import VisualScript.Proofs.Pass.CleanWalks

/-!
# What clean walks leave alone

Writing changes nothing that is known of nodes. A piece of work ends in the block
it began in, and what was asked for, reached or told in the journal stays so.
-/

namespace VisualScript

/-! ## The order of scopes -/

theorem lt_child_of_prefix {scope path : ScopePath} (h : scope <+: path) (index : Nat) :
    scope < path ++ [index] := by
  obtain ⟨rest, rfl⟩ := h
  induction scope with
  | nil =>
      cases rest with
      | nil => exact List.Lex.nil
      | cons first rest => exact List.Lex.nil
  | cons first scope ih => exact List.Lex.cons ih

/-- All that is inside a child comes before the next child. -/
theorem grandchild_lt_child (path : ScopePath) (index inner : Nat) :
    path ++ [index] ++ [inner] < path ++ [index + 1] := by
  induction path with
  | nil => exact List.Lex.rel (Nat.lt_succ_self index)
  | cons first path ih => exact List.Lex.cons ih

/-! ## What stays -/

/-- Whether an event tells of nothing but writing. -/
def Event.isWriting : Event → Bool
  | opened _ => true
  | wrote _ => true
  | required _ => true
  | _ => false

namespace Pass

/-- Nothing that is known of nodes changed, and what happened is only writing. -/
structure Silent (pass next : Pass) : Prop where
  results : next.results = pass.results
  initiated : next.initiated = pass.initiated
  reached : next.reached = pass.reached
  emitting : next.emitting = pass.emitting
  scopes : next.scopes = pass.scopes
  journal : pass.Adds (fun event => event.isWriting = true) next

namespace Silent

variable {pass middle next : Pass}

theorem refl (pass : Pass) : Silent pass pass := ⟨rfl, rfl, rfl, rfl, rfl, .refl pass⟩

theorem trans (hfirst : Silent pass middle) (hrest : Silent middle next) : Silent pass next where
  results := hrest.results.trans hfirst.results
  initiated := hrest.initiated.trans hfirst.initiated
  reached := hrest.reached.trans hfirst.reached
  emitting := hrest.emitting.trans hfirst.emitting
  scopes := hrest.scopes.trans hfirst.scopes
  journal := hfirst.journal.trans hrest.journal

theorem log (pass : Pass) (event : Event) (h : event.isWriting = true) :
    Silent pass (pass.log event) :=
  ⟨rfl, rfl, rfl, rfl, rfl, .log pass h⟩

theorem write (pass : Pass) (node : NodeId) (statement : Statement) :
    Silent pass (pass.write node statement) :=
  ⟨rfl, rfl, rfl, rfl, rfl, .of_events_eq_cons rfl rfl⟩

theorem openBlock (pass : Pass) (block : Block) : Silent pass (pass.openBlock block) :=
  ⟨rfl, rfl, rfl, rfl, rfl, .of_events_eq_cons rfl rfl⟩

theorem splice (pass : Pass) (inner : Block) : Silent pass (pass.splice inner) :=
  ⟨rfl, rfl, rfl, rfl, rfl, .of_events_eq rfl⟩

theorem backTo (pass : Pass) (outer : Block) : Silent pass (pass.backTo outer) :=
  ⟨rfl, rfl, rfl, rfl, rfl, .of_events_eq rfl⟩

end Silent

end Pass

/-- Whether an edit only writes. -/
def Edit.IsWriting : Edit → Prop
  | require _ => True
  | write _ _ => True
  | splice _ => True
  | _ => False

namespace Pass

/-- All that happened is that something was written into the same block. -/
abbrev Quiet (pass next : Pass) : Prop := pass.Edited Edit.IsWriting next

namespace Quiet

variable {pass next : Pass}

theorem toSilent (h : Quiet pass next) : Silent pass next := by
  refine h.related .refl .trans fun pass edit hedit => ?_
  cases edit with
  | require modules => exact .log _ _ rfl
  | write node statement => exact .write _ _ _
  | splice inner => exact .splice _ _
  | report => cases hedit
  | setResult => cases hedit
  | dropResult => cases hedit
  | claim => cases hedit

end Quiet

/-- The block is the same, and what was asked for, reached or told stays so. -/
structure Extends (pass next : Pass) : Prop where
  path : next.block.path = pass.block.path
  initiated : pass.initiated ⊆ next.initiated
  reached : pass.reached ⊆ next.reached
  events : pass.events <:+ next.events

namespace Extends

variable {pass middle next : Pass}

theorem refl (pass : Pass) : Extends pass pass where
  path := rfl
  initiated := List.Subset.refl _
  reached := List.Subset.refl _
  events := List.suffix_rfl

theorem trans (hfirst : Extends pass middle) (hrest : Extends middle next) :
    Extends pass next where
  path := hrest.path.trans hfirst.path
  initiated := List.Subset.trans hfirst.initiated hrest.initiated
  reached := List.Subset.trans hfirst.reached hrest.reached
  events := hfirst.events.trans hrest.events

theorem log (pass : Pass) (event : Event) : Extends pass (pass.log event) where
  path := rfl
  initiated := List.Subset.refl _
  reached := List.Subset.refl _
  events := List.suffix_cons _ _

theorem of_edited (h : pass.Edited (fun _ => True) next) : Extends pass next := by
  refine h.related refl trans fun pass edit _ => ?_
  cases edit with
  | report => exact log _ _
  | require => exact log _ _
  | write => exact ⟨rfl, List.Subset.refl _, List.Subset.refl _, List.suffix_cons _ _⟩
  | splice | setResult | dropResult =>
      exact ⟨rfl, List.Subset.refl _, List.Subset.refl _, List.suffix_rfl⟩
  | claim =>
      exact ⟨rfl, List.subset_cons_self _ _, List.subset_cons_self _ _, List.suffix_cons _ _⟩

theorem of_quiet (h : Quiet pass next) : Extends pass next :=
  of_edited h.any

theorem enter (pass : Pass) (id : NodeId) : Extends pass ((pass.reach id).enter id) where
  path := rfl
  initiated := List.Subset.refl _
  reached := List.subset_cons_self _ _
  events := List.suffix_cons _ _

theorem leave (pass : Pass) (id : NodeId) : Extends pass (pass.leave id) where
  path := rfl
  initiated := List.Subset.refl _
  reached := List.Subset.refl _
  events := List.suffix_cons _ _

theorem initiate (pass : Pass) (id : NodeId) : Extends pass (pass.initiate id) where
  path := rfl
  initiated := List.subset_cons_self _ _
  reached := List.Subset.refl _
  events := List.suffix_rfl

/-- What was done in a block inside counts for the block around it. -/
theorem inside (h : Extends pass.openChild next) : Extends pass (next.backTo pass.block) where
  path := rfl
  initiated := h.initiated
  reached := h.reached
  events := (List.suffix_cons _ _).trans h.events

end Extends

end Pass

open Pass in
theorem CleanWalk.extends {context : Context} {onChain : List NodeId} {task : Task}
    {pass next : Pass} (h : CleanWalk context onChain task pass next) : pass.Extends next := by
  induction h with
  | chainEnd _ _ _ ih => exact ih
  | chainOn _ _ _ _ ihvisit ihrest => exact ihvisit.trans ihrest
  | visit _ _ _ ih => exact ((Extends.enter _ _).trans ih).trans (.leave _ _)
  | unconnected => exact .refl _
  | followed _ _ _ ih => exact ih
  | inside _ close ih => exact .inside (ih.trans (close ▸ .of_edited (.paddedIf _ _ _)))
  | noExits => exact .refl _
  | moreExits _ _ ihfirst ihothers => exact ihfirst.trans ihothers
  | settled => exact .refl _
  | fresh _ _ _ _ ih => exact (Extends.initiate _ _).trans ih
  | again _ _ _ _ _ _ ih => exact ih
  | unfed => exact .refl _
  | byParameter => exact .log _ _
  | byValue _ _ _ ih => exact ih.trans (.log _ _)
  | noOperands => exact .refl _
  | untypedOperand _ _ ih => exact ih
  | connectedOperand _ _ _ ihinput ihothers =>
      exact ((Extends.of_edited (.require _ _)).trans ihinput).trans ihothers
  | enteredOperand _ _ _ _ _ ihinput ihothers =>
      have hfirst := (Extends.of_edited (.require _ _)).trans ihinput
      exact (hfirst.trans (.of_edited (.require _ _))).trans ihothers
  | noParameters => exact .refl _
  | literalParameter _ _ _ _ ih =>
      exact ((Extends.of_edited (.require _ _)).trans (.of_edited (.claim _ _ _))).trans ih
  | typedParameter _ _ _ ih => exact (Extends.of_edited (.require _ _)).trans ih
  | literal => exact (Extends.of_edited (.require _ _)).trans (.of_edited (.keep _ _ _ _))
  | call _ _ ih =>
      exact (ih.trans (.of_edited (.requireCall _ _ _))).trans (.of_edited (.placeCall _ _ _ _ _))
  | declared _ _ ih => exact ih.trans (.of_edited (.write _ _ _))
  | declaredTyped _ _ ih => exact ih.trans (.of_edited (.declareTyped _ _ _))
  | branch _ _ _ _ _ ihcondition ihthen ihelse =>
      have hthen := (ihcondition.trans (.of_edited (.write _ _ _))).trans ihthen
      exact ((hthen.trans (.of_edited (.splice _ _))).trans ihelse).trans
        (.of_edited (.closeElse _ _ _))
  | loop _ _ _ ihcondition ihbody =>
      exact ((ihcondition.trans (.of_edited (.write _ _ _))).trans ihbody).trans
        (.of_edited (.splice _ _))
  | sequence _ _ ih => exact ih
  | definition _ _ _ ihparameters ihbody =>
      have hbody := (ihparameters.trans (.of_edited (.writeHeader _ _ _ _))).trans ihbody
      exact (hbody.trans (.of_edited (.splice _ _))).trans (.of_edited (.write _ _ _))
  | code => exact .of_edited (.writeCode _ _)
  | topLevelCode _ _ ih =>
      exact ((Extends.of_edited (.writeCode _ _)).trans ih).trans (.of_edited (.splice _ _))

end VisualScript
