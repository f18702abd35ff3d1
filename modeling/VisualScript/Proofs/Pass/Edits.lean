import VisualScript.Proofs.Pass.Walk

/-!
# Edits

What a pass does besides going from node to node comes down to a few single edits of its state.
What each of its operations changes is told here once, as a run of such edits, so what every
edit of some kind preserves is preserved by all operations that are made of edits of that kind.
-/

namespace VisualScript

/-- A single edit of the state of a pass. -/
inductive Edit where
  | report (kind : DiagnosticKind) (node : NodeId) (detail : Option String)
  | require (modules : List String)
  | write (node : NodeId) (statement : Statement)
  | splice (inner : Block)
  | setResult (node : NodeId) (value : Expression)
  | dropResult (node : NodeId)
  | claim (definition literal : NodeId)

def Edit.apply (pass : Pass) : Edit → Pass
  | report kind node detail => pass.report kind node detail
  | require modules => pass.require modules
  | write node statement => pass.write node statement
  | splice inner => pass.splice inner
  | setResult node value => pass.setResult node value
  | dropResult node => pass.dropResult node
  | claim definition literal => pass.claim definition literal

namespace Pass

/-- Edits of a kind lead from one state of a pass to another. -/
inductive Edited (allowed : Edit → Prop) (pass : Pass) : Pass → Prop where
  | refl : Edited allowed pass pass
  | step {middle edit} (before : Edited allowed pass middle) (last : allowed edit) :
      Edited allowed pass (edit.apply middle)

namespace Edited

variable {allowed : Edit → Prop} {pass middle next : Pass}

theorem trans (hfirst : Edited allowed pass middle) (hrest : Edited allowed middle next) :
    Edited allowed pass next := by
  induction hrest with
  | refl => exact hfirst
  | step _ last ih => exact ih.step last

theorem mono {wider : Edit → Prop} (h : Edited allowed pass next)
    (hwider : ∀ edit, allowed edit → wider edit) : Edited wider pass next := by
  induction h with
  | refl => exact .refl
  | step _ last ih => exact ih.step (hwider _ last)

theorem any (h : Edited allowed pass next) : Edited (fun _ => True) pass next :=
  h.mono fun _ _ => trivial

/-- What holds from before an edit of the kind to after it holds over all of them. -/
theorem related {relation : Pass → Pass → Prop} (h : Edited allowed pass next)
    (hrefl : ∀ pass, relation pass pass)
    (htrans : ∀ {pass middle next}, relation pass middle → relation middle next →
      relation pass next)
    (hedit : ∀ pass edit, allowed edit → relation pass (edit.apply pass)) :
    relation pass next := by
  induction h with
  | refl => exact hrefl pass
  | step _ last ih => exact htrans ih (hedit _ _ last)

/-- What no edit of the kind changes stays the same. -/
theorem same {α : Type} (h : Edited allowed pass next) (view : Pass → α)
    (hedit : ∀ pass edit, allowed edit → view (edit.apply pass) = view pass) :
    view next = view pass := by
  induction h with
  | refl => rfl
  | step _ last ih => exact (hedit _ _ last).trans ih

/-- All edits are made in the same block. -/
theorem path (h : Edited allowed pass next) : next.block.path = pass.block.path := by
  refine h.same (fun pass => pass.block.path) fun pass edit _ => ?_
  cases edit <;> rfl

theorem children_eq (h : Edited allowed pass next) :
    next.block.children = pass.block.children := by
  refine h.same (fun pass => pass.block.children) fun pass edit _ => ?_
  cases edit <;> rfl

/-- What is under way stays so. -/
theorem emitting_eq (h : Edited allowed pass next) : next.emitting = pass.emitting := by
  refine h.same Pass.emitting fun pass edit _ => ?_
  cases edit <;> rfl

theorem scopes_eq (h : Edited allowed pass next) : next.scopes = pass.scopes := by
  refine h.same Pass.scopes fun pass edit _ => ?_
  cases edit <;> rfl

/-! ## What the operations change -/

variable (pass : Pass)

theorem report {kind : DiagnosticKind} (node : NodeId) (detail : Option String)
    (hreport : allowed (.report kind node detail) := by trivial) :
    Edited allowed pass (pass.report kind node detail) := .step .refl hreport

theorem require (modules : List String) (hrequire : allowed (.require modules) := by trivial) :
    Edited allowed pass (pass.require modules) := .step .refl hrequire

theorem write (node : NodeId) (statement : Statement)
    (hwrite : allowed (.write node statement) := by trivial) :
    Edited allowed pass (pass.write node statement) := .step .refl hwrite

theorem splice (inner : Block) (hsplice : allowed (.splice inner) := by trivial) :
    Edited allowed pass (pass.splice inner) := .step .refl hsplice

theorem claim (definition literal : NodeId)
    (hclaim : allowed (.claim definition literal) := by trivial) :
    Edited allowed pass (pass.claim definition literal) := .step .refl hclaim

theorem checkLiteral (type : LanguageType) (node : Node) (key : String)
    (hreport : ∀ detail, allowed (.report .invalidLiteral node.id detail) := by intros; trivial)
    (hrequire : allowed (.require type.modules) := by trivial) :
    Edited allowed pass (pass.checkLiteral type node key) := by
  apply Edited.trans _ (require _ _ hrequire)
  split
  next => exact .refl
  next => exact report _ _ _ (hreport _)

theorem keep (id : NodeId) (binds : Bool) (value : Expression)
    (hwrite : allowed (.write id (.bind id value)) := by trivial)
    (hdrop : allowed (.dropResult id) := by trivial)
    (hset : allowed (.setResult id value) := by trivial) :
    Edited allowed pass (pass.keep id binds value) := by
  unfold Pass.keep
  split
  next => exact .step (write _ _ _ hwrite) hdrop
  next => exact .step .refl hset

theorem requireCall (context : Context) (function : Callable)
    (hrequire : ∀ modules, allowed (.require modules) := by intros; trivial) :
    Edited allowed pass (pass.requireCall context function) :=
  (require _ _ (hrequire _)).trans (require _ _ (hrequire _))

theorem placeCall (context : Context) (function : Callable) (id : NodeId) (call : Expression)
    (hrun : allowed (.write id (.run call)) := by trivial)
    (hwrite : allowed (.write id (.bind id call)) := by trivial)
    (hdrop : allowed (.dropResult id) := by trivial)
    (hset : allowed (.setResult id call) := by trivial) :
    Edited allowed pass (pass.placeCall context function id call) := by
  unfold Pass.placeCall
  split
  next =>
    apply write
    split
    next => exact hrun
    next => exact hwrite
  next => exact keep _ _ _ _ hwrite hdrop hset

theorem declare (definition : NodeId) (index : Nat) (wiring : Wiring)
    (hinvalid : ∀ node detail, allowed (.report .invalidLiteral node detail) := by intros; trivial)
    (hunsupported : ∀ detail, allowed (.report .unsupportedArgument definition detail) := by
      intros; trivial)
    (huntyped : ∀ detail, allowed (.report .argumentTypeExpected definition detail) := by
      intros; trivial)
    (hrequire : ∀ modules, allowed (.require modules) := by intros; trivial)
    (hclaim : ∀ source type literal, wiring = .byLiteral source type literal →
      allowed (.claim definition source) := by intros; trivial) :
    Edited allowed pass (pass.declare definition index wiring) := by
  cases wiring with
  | byLiteral source type literal =>
      have hchecked := checkLiteral pass type literal keys.value (hinvalid _) (hrequire _)
      exact hchecked.trans (claim _ _ _ (hclaim _ _ _ rfl))
  | unsupported source component => exact report _ _ _ (hunsupported _)
  | typed type => exact require _ _ (hrequire _)
  | untyped => exact report _ _ _ (huntyped _)

theorem noteDuplicate (definition : NodeId) (seen : List String) (name : String)
    (hreport : ∀ detail, allowed (.report .duplicateArgument definition detail) := by
      intros; trivial) :
    Edited allowed pass (pass.noteDuplicate definition seen name) := by
  unfold Pass.noteDuplicate
  split
  next => exact report _ _ _ (hreport _)
  next => exact .refl

theorem writeHeader (context : Context) (node : Node) (declarations : List String)
    (hmark : allowed (.write node.id .exportMark) := by trivial)
    (hheader : ∀ name, allowed (.write node.id (.definition name declarations)) := by
      intros; trivial) :
    Edited allowed pass (pass.writeHeader context node declarations) := by
  apply Edited.trans _ (write _ _ _ (hheader _))
  split
  next => exact write _ _ _ hmark
  next => exact .refl

theorem writeCode (node : Node)
    (hcode : ∀ code, allowed (.write node.id (.code code)) := by intros; trivial) :
    Edited allowed pass (pass.writeCode node) := by
  unfold Pass.writeCode
  split
  next => exact .refl
  next => exact write _ _ _ (hcode _)

theorem declareTyped (context : Context) (node : Node)
    (hrequire : ∀ modules, allowed (.require modules) := by intros; trivial)
    (hwrite : ∀ type, allowed (.write node.id (.declareTyped node.id type)) := by
      intros; trivial) :
    Edited allowed pass (pass.declareTyped context node) := by
  apply Edited.trans _ (write _ _ _ (hwrite _))
  split
  next => exact require _ _ (hrequire _)
  next => exact .refl

theorem padded (id : NodeId) (hwrite : allowed (.write id .pass) := by trivial) :
    Edited allowed pass (pass.padded id) := by
  unfold Pass.padded
  split
  next => exact write _ _ _ hwrite
  next => exact .refl

theorem paddedIf (id : NodeId) (pads : Bool)
    (hwrite : allowed (.write id .pass) := by trivial) :
    Edited allowed pass (if pads then pass.padded id else pass) := by
  split
  next => exact padded _ _ hwrite
  next => exact .refl

theorem closeThen (id : NodeId) (inner : Block)
    (hreport : allowed (.report .thenBranchExpected id none) := by trivial)
    (hsplice : allowed (.splice inner) := by trivial) :
    Edited allowed pass (pass.closeThen id inner) := by
  apply Edited.trans _ (splice _ _ hsplice)
  split
  next => exact report _ _ _ hreport
  next => exact .refl

theorem closeElse (id : NodeId) (inner : Block)
    (hwrite : allowed (.write id .elseHeader) := by trivial)
    (hsplice : allowed (.splice inner) := by trivial) :
    Edited allowed pass (pass.closeElse id inner) := by
  unfold Pass.closeElse
  split
  next => exact .refl
  next => exact (write _ _ _ hwrite).trans (splice _ _ hsplice)

end Edited

end Pass

/-! ## What all walks do -/

/-- Whether all that an edit reports are errors. -/
def Edit.ReportsErrors : Edit → Prop
  | report kind _ _ => kind.severity = .error
  | _ => True

/-- Objections are errors. -/
theorem Objection.severity_eq {context : Context} {pass : Pass} {consumer source node : NodeId}
    {kind : DiagnosticKind} {detail : Option String}
    (h : Objection context pass consumer source kind node detail) : kind.severity = .error := by
  cases h <;> rfl

/-- What holds from before each single change to after it, and over several of them. A node is
entered and left again, and a block is opened and handed back. -/
structure Pass.Ordered (relation : Pass → Pass → Prop) : Prop where
  refl (pass : Pass) : relation pass pass
  trans {pass middle next : Pass} :
    relation pass middle → relation middle next → relation pass next
  edit (pass : Pass) (edit : Edit) : edit.ReportsErrors → relation pass (edit.apply pass)
  resolve (pass : Pass) (resolution : Resolution) : relation pass (pass.log (.resolved resolution))
  initiate (pass : Pass) (id : NodeId) : relation pass (pass.initiate id)
  reach (pass : Pass) (id : NodeId) : relation pass (pass.reach id)
  visit {pass next : Pass} (id : NodeId) :
    relation (pass.enter id) next → relation pass (next.leave id)
  inside {pass next : Pass} : relation pass.openChild next → relation pass (next.backTo pass.block)

/-- So it holds over all pieces of work. -/
theorem Walk.related {context : Context} {relation : Pass → Pass → Prop}
    (hordered : Pass.Ordered relation) {onChain : List NodeId} {task : Task} {pass next : Pass}
    (h : Walk context onChain task pass next) : relation pass next := by
  have hedited : ∀ {pass next : Pass}, pass.Edited Edit.ReportsErrors next → relation pass next :=
    fun h => h.related hordered.refl hordered.trans hordered.edit
  induction h with
  | turnBack => exact hedited (.report _ _ _)
  | chainEnd _ _ ih => exact ih
  | chainOn _ _ _ ihvisit ihrest => exact hordered.trans ihvisit ihrest
  | missing => exact hordered.refl _
  | unknown => exact hordered.trans (hordered.reach _ _) (hedited (.report _ _ _))
  | emitted _ _ _ _ ih => exact hordered.trans (hordered.reach _ _) (hordered.visit _ ih)
  | unconnected => exact hordered.refl _
  | followed _ _ ih => exact ih
  | inside _ close ih =>
      rw [close]
      exact hordered.inside (hordered.trans ih (hedited (.paddedIf _ _ _)))
  | noExits => exact hordered.refl _
  | moreExits _ _ ihfirst ihothers => exact hordered.trans ihfirst ihothers
  | settled => exact hordered.refl _
  | fresh _ _ _ ih => exact hordered.trans (hordered.initiate _ _) ih
  | again _ _ _ _ _ _ ih => exact ih
  | refused objection => exact hedited (.report _ _ _ objection.severity_eq)
  | unfed => exact hordered.refl _
  | byParameter => exact hordered.resolve _ _
  | byValue _ _ ih => exact hordered.trans ih (hordered.resolve _ _)
  | found _ ih => exact ih
  | lacking _ ih => exact hordered.trans ih (hedited (.report _ _ _))
  | noOperands => exact hordered.refl _
  | untypedOperand _ _ ih => exact ih
  | optionalOperand _ _ _ _ ihinput ihothers =>
      exact hordered.trans (hordered.trans (hedited (.require _ _)) ihinput) ihothers
  | enteredOperand _ _ _ _ ihinput ihothers =>
      have hinput := hordered.trans (hedited (.require _ _)) ihinput
      exact hordered.trans (hordered.trans hinput (hedited (.checkLiteral _ _ _ _))) ihothers
  | requiredOperand _ _ _ _ ihinput ihothers =>
      exact hordered.trans (hordered.trans (hedited (.require _ _)) ihinput) ihothers
  | lackingOperand _ _ _ _ ihinput ihothers =>
      have hinput := hordered.trans (hedited (.require _ _)) ihinput
      exact hordered.trans (hordered.trans hinput (hedited (.checkLiteral _ _ _ _))) ihothers
  | noParameters => exact hordered.refl _
  | moreParameters _ ih =>
      exact hordered.trans (hedited ((Pass.Edited.declare _ _ _ _).trans (.noteDuplicate _ _ _ _)))
        ih
  | unknownLiteral => exact hordered.refl _
  | literal =>
      exact hordered.trans (hedited (.checkLiteral _ _ _ _)) (hedited (.keep _ _ _ _))
  | call _ ih =>
      exact hordered.trans (hordered.trans ih (hedited (.requireCall _ _ _)))
        (hedited (.placeCall _ _ _ _ _))
  | declared _ ih => exact hordered.trans ih (hedited (.write _ _ _))
  | declaredTyped _ ih => exact hordered.trans ih (hedited (.declareTyped _ _ _))
  | bareBranch _ ih => exact ih
  | branch _ _ _ ihcondition ihthen ihelse =>
      have hthen := hordered.trans (hordered.trans ihcondition (hedited (.write _ _ _))) ihthen
      have helse := hordered.trans (hordered.trans hthen (hedited (.closeThen _ _ _))) ihelse
      exact hordered.trans helse (hedited (.closeElse _ _ _))
  | bareLoop _ ih => exact ih
  | loop _ _ ihcondition ihbody =>
      have hbody := hordered.trans (hordered.trans ihcondition (hedited (.write _ _ _))) ihbody
      exact hordered.trans hbody (hedited (.splice _ _))
  | sequence _ ih => exact ih
  | definition _ _ ihparameters ihbody =>
      have hbody := hordered.trans
        (hordered.trans ihparameters (hedited (.writeHeader _ _ _ _))) ihbody
      exact hordered.trans (hordered.trans hbody (hedited (.splice _ _))) (hedited (.write _ _ _))
  | code => exact hedited (.writeCode _ _)
  | topLevelCode _ ih =>
      exact hordered.trans (hordered.trans (hedited (.writeCode _ _)) ih) (hedited (.splice _ _))

end VisualScript
