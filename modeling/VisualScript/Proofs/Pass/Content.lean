import VisualScript.Proofs.Pass.Growth

/-!
# Blocks hold what was written

Whatever a piece of work leaves in the block being written stood there before or was
written meanwhile, also where blocks inside were laid into it. So all that a program
says was written in the pass.
-/

namespace VisualScript

/-- Whether an edit lays no other block into the one being written. -/
def Edit.LaysNothing : Edit → Prop
  | splice _ => False
  | _ => True

/-- All that stands in the block stood there before or is in the journal. -/
structure Pass.Records (pass next : Pass) : Prop where
  journal : pass.events <:+ next.events
  content : ∀ written ∈ next.block.content,
    written ∈ pass.block.content ∨ .wrote written ∈ next.events

namespace Pass.Records

variable {pass middle next : Pass}

theorem of_block (hjournal : pass.events <:+ next.events) (hblock : next.block = pass.block) :
    Records pass next :=
  ⟨hjournal, fun _ hmem => .inl (hblock ▸ hmem)⟩

theorem refl (pass : Pass) : Records pass pass := of_block (List.suffix_refl _) rfl

theorem trans (hfirst : Records pass middle) (hrest : Records middle next) :
    Records pass next where
  journal := hfirst.journal.trans hrest.journal
  content := by
    intro written hmem
    rcases hrest.content written hmem with hmem | hwrote
    · exact (hfirst.content written hmem).imp_right (hrest.journal.subset ·)
    · exact .inr hwrote

theorem log (pass : Pass) (event : Event) : Records pass (pass.log event) :=
  of_block (List.suffix_cons _ _) rfl

theorem of_edited (h : pass.Edited Edit.LaysNothing next) : Records pass next := by
  refine h.related refl trans fun pass edit hedit => ?_
  cases edit with
  | report | require => exact log _ _
  | write node statement =>
      refine ⟨List.suffix_cons _ _, fun written hmem => ?_⟩
      rcases List.mem_append.mp hmem with hmem | hmem
      · exact .inl hmem
      · obtain rfl := List.mem_singleton.mp hmem
        exact .inr (List.mem_cons_self ..)
  | splice => cases hedit
  | setResult | dropResult => exact of_block (List.suffix_refl _) rfl
  | claim => exact of_block (List.suffix_cons _ _) rfl

/-- A complete block that was recorded is laid into the block around it. -/
theorem splice (pass : Pass) {inner : Block}
    (hinner : ∀ written ∈ inner.content, .wrote written ∈ pass.events) :
    Records pass (pass.splice inner) :=
  ⟨List.suffix_refl _, fun written hmem => (List.mem_append.mp hmem).imp_right (hinner written)⟩

theorem closeThen (pass : Pass) (id : NodeId) {inner : Block}
    (hinner : ∀ written ∈ inner.content, .wrote written ∈ pass.events) :
    Records pass (pass.closeThen id inner) := by
  unfold Pass.closeThen
  split
  next =>
    have hreported : ∀ written ∈ inner.content,
        .wrote written ∈ (pass.report .thenBranchExpected id none).events :=
      fun written hmem => List.mem_cons_of_mem _ (hinner written hmem)
    exact (log _ _).trans (splice _ hreported)
  next => exact splice _ hinner

theorem closeElse (pass : Pass) (id : NodeId) {inner : Block}
    (hinner : ∀ written ∈ inner.content, .wrote written ∈ pass.events) :
    Records pass (pass.closeElse id inner) := by
  unfold Pass.closeElse
  split
  next => exact refl _
  next =>
    have hheaded : ∀ written ∈ inner.content, .wrote written ∈ (pass.write id .elseHeader).events :=
      fun written hmem => List.mem_cons_of_mem _ (hinner written hmem)
    exact (of_edited (.write _ _ _)).trans (splice _ hheaded)

end Pass.Records

/-- What a piece of work records. A block inside is recorded itself and leaves the one
around it as it was. -/
def Task.Records : Task → Pass → Pass → Prop
  | .inside _ _ _ inner, pass, next =>
      Pass.Records pass next ∧ ∀ written ∈ inner.content, .wrote written ∈ next.events
  | _, pass, next => Pass.Records pass next

open Pass in
theorem Walk.records {context : Context} {onChain : List NodeId} {task : Task} {pass next : Pass}
    (h : Walk context onChain task pass next) : task.Records pass next := by
  have hedited : ∀ {pass next : Pass}, pass.Edited Edit.LaysNothing next → pass.Records next :=
    .of_edited
  induction h with
  | turnBack => exact hedited (.report _ _ _)
  | chainEnd _ _ ih => exact ih
  | chainOn _ _ _ ihvisit ihrest => exact Records.trans ihvisit ihrest
  | missing => exact .refl _
  | @unknown _ id _ pass =>
      have hreached : pass.Records (pass.reach id) := .of_block (List.suffix_refl _) rfl
      exact hreached.trans (hedited (.report _ _ _))
  | @emitted _ id _ _ _ pass _ _ _ _ _ ih =>
      have hentered : pass.Records ((pass.reach id).enter id) :=
        .of_block (List.suffix_cons _ _) rfl
      exact (hentered.trans ih).trans (.of_block (List.suffix_cons _ _) rfl)
  | unconnected => exact .refl _
  | followed _ _ ih => exact ih
  | @inside _ id _ pads pass last next _ close ih =>
      have hclosed := Records.trans ih (hedited (.paddedIf last id pads))
      rw [← close] at hclosed
      have hjournal : pass.events <:+ next.events :=
        (List.suffix_cons _ _).trans hclosed.journal
      refine ⟨⟨hjournal, fun written hmem => .inl hmem⟩, fun written hmem => ?_⟩
      -- The block inside was empty when it was opened.
      exact (hclosed.content written hmem).resolve_left List.not_mem_nil
  | noExits => exact .refl _
  | moreExits _ _ ihfirst ihothers => exact Records.trans ihfirst ihothers
  | settled => exact .refl _
  | @fresh _ _ source _ pass _ _ _ _ ih =>
      have hinitiated : pass.Records (pass.initiate source) := .of_block (List.suffix_refl _) rfl
      exact hinitiated.trans ih
  | again _ _ _ _ _ _ ih => exact ih
  | refused => exact hedited (.report _ _ _)
  | unfed => exact .refl _
  | byParameter => exact .log _ _
  | byValue _ _ ih => exact Records.trans ih (.log _ _)
  | found _ ih => exact ih
  | lacking _ ih => exact Records.trans ih (hedited (.report _ _ _))
  | noOperands => exact .refl _
  | untypedOperand _ _ ih => exact ih
  | optionalOperand _ _ _ _ ihinput ihothers =>
      exact ((hedited (.require _ _)).trans ihinput).trans ihothers
  | enteredOperand _ _ _ _ ihinput ihothers =>
      have hinput := (hedited (.require _ _)).trans ihinput
      exact (hinput.trans (hedited (.checkLiteral _ _ _ _))).trans ihothers
  | requiredOperand _ _ _ _ ihinput ihothers =>
      exact ((hedited (.require _ _)).trans ihinput).trans ihothers
  | lackingOperand _ _ _ _ ihinput ihothers =>
      have hinput := (hedited (.require _ _)).trans ihinput
      exact (hinput.trans (hedited (.checkLiteral _ _ _ _))).trans ihothers
  | noParameters => exact .refl _
  | moreParameters _ ih =>
      exact (hedited (.trans (.declare _ _ _ _) (.noteDuplicate _ _ _ _))).trans ih
  | unknownLiteral => exact .refl _
  | literal => exact hedited (.trans (.checkLiteral _ _ _ _) (.keep _ _ _ _))
  | call _ ih =>
      exact Records.trans ih (hedited (.trans (.requireCall _ _ _) (.placeCall _ _ _ _ _)))
  | declared _ ih => exact Records.trans ih (hedited (.write _ _ _))
  | declaredTyped _ ih => exact Records.trans ih (hedited (.declareTyped _ _ _))
  | bareBranch _ ih => exact ih
  | branch _ _ _ ihcondition ihthen ihelse =>
      obtain ⟨hthen, hthenBlock⟩ := ihthen
      obtain ⟨helse, helseBlock⟩ := ihelse
      have hbranch := Records.trans ihcondition ((hedited (.write _ _ _)).trans hthen)
      exact ((hbranch.trans (.closeThen _ _ hthenBlock)).trans helse).trans
        (.closeElse _ _ helseBlock)
  | bareLoop _ ih => exact ih
  | loop _ _ ihcondition ihbody =>
      obtain ⟨hbody, hinner⟩ := ihbody
      have hloop := Records.trans ihcondition ((hedited (.write _ _ _)).trans hbody)
      exact hloop.trans (.splice _ hinner)
  | sequence _ ih => exact ih
  | definition _ _ ihparameters ihbody =>
      obtain ⟨hbody, hinner⟩ := ihbody
      have hheader := Records.trans ihparameters ((hedited (.writeHeader _ _ _ _)).trans hbody)
      exact (hheader.trans (.splice _ hinner)).trans (hedited (.write _ _ _))
  | code => exact hedited (.writeCode _ _)
  | topLevelCode _ ih =>
      obtain ⟨hbody, hinner⟩ := ih
      exact ((hedited (.writeCode _ _)).trans hbody).trans (.splice _ hinner)

/-- All that a program says was written in the pass. -/
theorem Tour.wrote {context : Context} {index : Nat} {roots : List NodeId}
    {laid : List Written} {pass next : Pass} (h : Tour context index roots laid pass next) :
    pass.events <:+ next.events ∧ ∀ written ∈ laid, .wrote written ∈ next.events := by
  induction h with
  | done => exact ⟨List.suffix_refl _, fun _ hmem => absurd hmem List.not_mem_nil⟩
  | root first _ ih =>
      obtain ⟨hjournal, hrest⟩ := ih
      have hfirst : Pass.Records _ _ := first.records
      refine ⟨((List.suffix_cons _ _).trans hfirst.journal).trans hjournal, fun written hmem => ?_⟩
      rcases List.mem_append.mp hmem with hmem | hmem
      · have hwrote := (hfirst.content written hmem).resolve_left List.not_mem_nil
        exact hjournal.subset hwrote
      · exact hrest written hmem

end VisualScript
