import VisualScript.Proofs.Pass.Outline

/-!
# Ways to write

When values are bound to names and whether functions are marked is a matter of
writing alone. A graph that is compiled in two such ways needs the same modules and
has the same faults, apart from blocks that are blank.
-/

namespace VisualScript

open Emit

/-- The context with another way to write. -/
def Context.restyled (context : Context) (inlining : InlineStrategy) (marks : Bool) : Context :=
  { context with options := { context.options with inlining := inlining, exportMarks := marks } }

/-- Two ways to emit nodes mirror each other, whatever node they are asked to emit. -/
def Visit.Mirrors (visit other : Visit) : Prop :=
  ∀ onChain id, Emit.Mirrors Pass.Alike Eq (visit onChain id) (other onChain id)

namespace Surroundings

variable {context : Context} {inlining : InlineStrategy} {marks : Bool} {onChain : List NodeId}
  {visit other : Visit}

/-- Values that are given on both sides or on none. -/
def BothGiven {α β : Type} (value : Option α) (value' : Option β) : Prop :=
  value.isSome = value'.isSome

/-! ## Values -/

theorem mirrors_report (kind : DiagnosticKind) (node : NodeId) (detail : Option String) :
    Mirrors Pass.Alike Eq (Emit.report kind node detail) (Emit.report kind node detail) :=
  mirrors_modify fun halike => halike.report _ _ _

theorem mirrors_log {event event' : Event} (h : event.outline? = event'.outline?) :
    Mirrors Pass.Alike Eq (Emit.log event) (Emit.log event') :=
  mirrors_modify fun halike => halike.log h

theorem mirrors_require (modules : List String) :
    Mirrors Pass.Alike Eq (Emit.require modules) (Emit.require modules) :=
  mirrors_modify fun halike => halike.require _

theorem mirrors_write (node : NodeId) (statement statement' : Statement) :
    Mirrors Pass.Alike Eq (Emit.write node statement) (Emit.write node statement') :=
  (discreet_write _ _).mirrors (discreet_write _ _)

theorem mirrors_splice (inner inner' : Block) :
    Mirrors Pass.Alike Eq (Emit.splice inner) (Emit.splice inner') :=
  (discreet_splice _).mirrors (discreet_splice _)

theorem mirrors_literal (type : LanguageType) (node : Node) (key : String) :
    Mirrors Pass.Alike Eq (literal type node key) (literal type node key) := by
  refine Mirrors.ite ?_ ?_
  · exact (mirrors_report _ _ _).andThen fun _ =>
      (mirrors_require _).andThen fun _ => mirrors_pure rfl
  · exact (mirrors_require _).andThen fun _ => mirrors_pure rfl

/-- That a block is blank may be said on one side only. -/
theorem discreet_thenBranchExpected (id : NodeId) :
    Discreet (Emit.report .thenBranchExpected id none) :=
  discreet_modify fun pass => .thenBranchExpected pass id

theorem discreet_bindOrKeep (id : NodeId) (binds : Bool) (value : Expression) :
    Discreet (bindOrKeep id binds value) :=
  .ite ((discreet_write id _).andThen (discreet_modify fun pass => .dropResult pass id))
    (discreet_modify fun pass => .setResult pass id value)

theorem mirrors_emitLiteral (name : String) (node : Node) :
    Mirrors Pass.Alike Eq (emitLiteral ⟨context, visit, onChain⟩ name node)
      (emitLiteral ⟨context.restyled inlining marks, other, onChain⟩ name node) := by
  unfold emitLiteral
  dsimp only [Context.restyled]
  cases context.typeOf? name with
  | none => exact mirrors_pure rfl
  | some type =>
      exact (mirrors_literal _ _ _).andThen fun _ =>
        (discreet_bindOrKeep _ _ _).mirrors (discreet_bindOrKeep _ _ _)

/-- The literal of an operand counts where nothing is connected, on both sides or on none. -/
theorem mirrors_operand_of_connected {type : LanguageType} {node : Node} {key : String}
    {value value' : Option Expression} (hgiven : BothGiven value value') :
    Mirrors Pass.Alike Anyhow
      (match value with
        | some value => pure (some (key, value))
        | none => do return some (key, ← literal type node key))
      (match value' with
        | some value => pure (some (key, value))
        | none => do return some (key, ← literal type node key)) := by
  cases value <;> cases value' <;> cases hgiven
  · exact (mirrors_literal _ _ _).andThen fun _ => mirrors_pure trivial
  · exact mirrors_pure trivial

section Demand

variable (hvisit : ∀ id, Mirrors Pass.Alike Eq (visit onChain id) (other onChain id))

include hvisit

theorem mirrors_initiate (consumer source : NodeId) :
    Mirrors Pass.Alike Eq (initiate ⟨context, visit, onChain⟩ consumer source)
      (initiate ⟨context.restyled inlining marks, other, onChain⟩ consumer source) := by
  refine mirrors_get.bind fun pass pass' halike => ?_
  dsimp only [Context.restyled]
  rw [halike.initiated, halike.emitting, halike.inScope]
  refine Mirrors.ite ?_ (Mirrors.ite (mirrors_report _ _ _) (Mirrors.ite (mirrors_pure rfl)
    (Mirrors.ite (hvisit source).discard (mirrors_report _ _ _))))
  exact (mirrors_modify fun halike => halike.initiate source).andThen fun _ =>
    (hvisit source).discard

omit hvisit in
theorem mirrors_checkReached (consumer source : NodeId) :
    Mirrors Pass.Alike Eq (checkReached consumer source) (checkReached consumer source) := by
  refine mirrors_get.bind fun pass pass' halike => ?_
  rw [halike.emitting, halike.reached, halike.inScope]
  exact Mirrors.ite (mirrors_report _ _ _) (Mirrors.ite (mirrors_report _ _ _)
    (Mirrors.ite (mirrors_report _ _ _) (mirrors_pure rfl)))

theorem mirrors_supply (consumer source : NodeId) :
    Mirrors Pass.Alike Eq (supply ⟨context, visit, onChain⟩ consumer source)
      (supply ⟨context.restyled inlining marks, other, onChain⟩ consumer source) :=
  Mirrors.ite (mirrors_initiate hvisit consumer source) (mirrors_checkReached consumer source)

theorem mirrors_optionalInput (consumer : NodeId) (key : String) :
    Mirrors Pass.Alike BothGiven (optionalInput ⟨context, visit, onChain⟩ consumer key)
      (optionalInput ⟨context.restyled inlining marks, other, onChain⟩ consumer key) := by
  have hfeed : (context.restyled inlining marks).feed consumer key =
      context.feed consumer key := rfl
  rw [optionalInput_eq, optionalInput_eq]
  dsimp only
  rw [hfeed]
  cases context.feed consumer key with
  | nothing => exact mirrors_pure rfl
  | parameter definition name =>
      refine mirrors_get.bind fun pass pass' halike => ?_
      rw [halike.path]
      exact (mirrors_log rfl).andThen fun _ => mirrors_pure rfl
  | value source =>
      refine mirrors_get.bind fun pass pass' halike => ?_
      rw [halike.path]
      refine (mirrors_supply hvisit consumer source).andThen fun _ => ?_
      refine mirrors_get.bind fun _ _ _ => ?_
      refine Mirrors.andThen (mirrors_log ?_) fun _ => mirrors_pure rfl
      rfl

theorem mirrors_input (consumer : NodeId) (key : String) :
    Mirrors Pass.Alike BothGiven (input ⟨context, visit, onChain⟩ consumer key)
      (input ⟨context.restyled inlining marks, other, onChain⟩ consumer key) := by
  refine (mirrors_optionalInput hvisit consumer key).bind fun value value' hgiven => ?_
  have hsame : value.isNone = value'.isNone := by
    rw [← Option.not_isSome, ← Option.not_isSome, hgiven]
  rw [hsame]
  refine Mirrors.ite ?_ (mirrors_pure hgiven)
  exact (mirrors_report _ _ _).andThen fun _ => mirrors_pure hgiven

theorem mirrors_operand (node : Node) (argument : Argument) :
    Mirrors Pass.Alike Anyhow (operand ⟨context, visit, onChain⟩ node argument)
      (operand ⟨context.restyled inlining marks, other, onChain⟩ node argument) := by
  unfold operand
  dsimp only [Context.restyled]
  cases context.typeOf? argument.type with
  | none => exact mirrors_pure trivial
  | some type =>
      refine (mirrors_require _).andThen fun _ => Mirrors.ite ?_ ?_
      · exact (mirrors_optionalInput hvisit _ _).bind fun value value' hgiven =>
          mirrors_operand_of_connected hgiven
      · exact (mirrors_input hvisit _ _).bind fun value value' hgiven =>
          mirrors_operand_of_connected hgiven

theorem mirrors_operands (node : Node) (arguments : List Argument) :
    Mirrors Pass.Alike Anyhow (arguments.mapM (operand ⟨context, visit, onChain⟩ node))
      (arguments.mapM (operand ⟨context.restyled inlining marks, other, onChain⟩ node)) := by
  induction arguments with
  | nil => exact mirrors_pure trivial
  | cons argument rest ih =>
      rw [List.mapM_cons, List.mapM_cons]
      exact (mirrors_operand hvisit node argument).bind fun _ _ _ =>
        ih.bind fun _ _ _ => mirrors_pure trivial

theorem mirrors_emitCall (function : Callable) (node : Node) :
    Mirrors Pass.Alike Eq (emitCall ⟨context, visit, onChain⟩ function node)
      (emitCall ⟨context.restyled inlining marks, other, onChain⟩ function node) := by
  refine (mirrors_operands hvisit node _).bind fun _ _ _ => ?_
  refine (mirrors_require _).andThen fun _ => (mirrors_require _).andThen fun _ => ?_
  exact Mirrors.ite (mirrors_write _ _ _)
    ((discreet_bindOrKeep _ _ _).mirrors (discreet_bindOrKeep _ _ _))

theorem mirrors_emitVariable (node : Node) :
    Mirrors Pass.Alike Eq (emitVariable ⟨context, visit, onChain⟩ node)
      (emitVariable ⟨context.restyled inlining marks, other, onChain⟩ node) := by
  refine (mirrors_optionalInput hvisit _ _).bind fun value value' hgiven => ?_
  cases value <;> cases value' <;> cases hgiven
  · dsimp only [Context.restyled]
    cases context.registry.getOrAny? (node.text? keys.typeName) with
    | none => exact mirrors_write _ _ _
    | some type => exact (mirrors_require _).andThen fun _ => mirrors_write _ _ _
  · exact mirrors_write _ _ _

end Demand

/-! ## Flow -/

theorem mirrors_chain (hvisit : visit.Mirrors other) (bound : Nat) (onChain : List NodeId)
    (id : NodeId) :
    Mirrors Pass.Alike Eq (chain visit bound onChain id) (chain other bound onChain id) := by
  induction bound generalizing onChain id with
  | zero => exact mirrors_pure rfl
  | succ bound ih =>
      refine Mirrors.ite (mirrors_report _ _ _) ?_
      refine (hvisit (id :: onChain) id).andThen fun answer => ?_
      cases answer with
      | none => exact mirrors_pure rfl
      | some following => exact ih (id :: onChain) following

section Flow

variable (hvisit : visit.Mirrors other)

include hvisit

theorem mirrors_follow (id : NodeId) (exit : String) :
    Mirrors Pass.Alike Eq (follow ⟨context, visit, onChain⟩ id exit)
      (follow ⟨context.restyled inlining marks, other, onChain⟩ id exit) := by
  unfold follow
  dsimp only [Context.restyled]
  cases context.graph.firstOutgoing? id exit with
  | none => exact mirrors_pure rfl
  | some connection => exact mirrors_chain hvisit _ _ _

theorem mirrors_followInside (id : NodeId) (exit : String) :
    Mirrors Pass.Alike Anyhow (followInside ⟨context, visit, onChain⟩ id exit)
      (followInside ⟨context.restyled inlining marks, other, onChain⟩ id exit) :=
  (mirrors_follow hvisit id exit).inChild

theorem mirrors_body (id : NodeId) (exit : String) :
    Mirrors Pass.Alike Anyhow (body ⟨context, visit, onChain⟩ id exit)
      (body ⟨context.restyled inlining marks, other, onChain⟩ id exit) := by
  refine Mirrors.inChild ((mirrors_follow hvisit id exit).andThen fun _ => ?_)
  refine mirrors_get.bind fun _ _ _ => ?_
  exact (Discreet.ite (discreet_write _ _) discreet_pure).mirrors
    (.ite (discreet_write _ _) discreet_pure)

theorem mirrors_emitSequence (node : Node) :
    Mirrors Pass.Alike Eq (emitSequence ⟨context, visit, onChain⟩ node)
      (emitSequence ⟨context.restyled inlining marks, other, onChain⟩ node) := by
  unfold emitSequence
  induction List.range (numberedCount keys.exit node.outputs) with
  | nil => exact mirrors_pure rfl
  | cons index rest ih => exact (mirrors_follow hvisit node.id _).andThen fun _ => ih

theorem mirrors_emitCode (topLevel : Bool) (node : Node) :
    Mirrors Pass.Alike Eq (emitCode ⟨context, visit, onChain⟩ topLevel node)
      (emitCode ⟨context.restyled inlining marks, other, onChain⟩ topLevel node) := by
  have hrest : Mirrors Pass.Alike Eq
      (if topLevel then followInside ⟨context, visit, onChain⟩ node.id keys.flowOut >>= Emit.splice
        else pure ())
      (if topLevel then
        followInside ⟨context.restyled inlining marks, other, onChain⟩ node.id keys.flowOut >>=
          Emit.splice
        else pure ()) :=
    Mirrors.ite ((mirrors_followInside hvisit _ _).bind fun _ _ _ => mirrors_splice _ _)
      (mirrors_pure rfl)
  exact Mirrors.ite ((mirrors_write _ _ _).andThen fun _ => hrest) hrest

omit hvisit in
theorem mirrors_parameters (node : Node) (seen : List String) (indices : List Nat) :
    Mirrors Pass.Alike Eq (parameters ⟨context, visit, onChain⟩ node seen indices)
      (parameters ⟨context.restyled inlining marks, other, onChain⟩ node seen indices) := by
  induction indices generalizing seen with
  | nil => exact mirrors_pure rfl
  | cons index rest ih =>
      have hfirst : Mirrors Pass.Alike Eq (parameter ⟨context, visit, onChain⟩ node index)
          (parameter ⟨context.restyled inlining marks, other, onChain⟩ node index) := by
        intro pass pass' halike
        exact .inl ⟨_, _, _, _, ends_parameter.mpr ⟨rfl, rfl⟩, ends_parameter.mpr ⟨rfl, rfl⟩, rfl,
          halike.declare _ _ _⟩
      unfold parameters
      refine hfirst.andThen fun answer => ?_
      obtain ⟨name, declaration⟩ := answer
      have hrest := (ih (name :: seen)).andThen fun declarations =>
        mirrors_pure (Eq.refl (declaration :: declarations))
      exact Mirrors.ite ((mirrors_report _ _ _).andThen fun _ => hrest) hrest

theorem mirrors_emitDefinition (node : Node) :
    Mirrors Pass.Alike Eq (emitDefinition ⟨context, visit, onChain⟩ node)
      (emitDefinition ⟨context.restyled inlining marks, other, onChain⟩ node) := by
  refine (mirrors_parameters node [] _).andThen fun declarations => ?_
  -- One of the two may be marked where the other is not.
  dsimp only
  rw [ite_bind, ite_bind]
  refine Mirrors.andThen (Discreet.mirrors ?_ ?_) fun _ => ?_
  · exact .ite (discreet_write _ _) discreet_pure
  · exact .ite (discreet_write _ _) discreet_pure
  · refine (mirrors_write _ _ _).andThen fun _ => (mirrors_body hvisit _ _).bind fun _ _ _ => ?_
    exact (mirrors_splice _ _).andThen fun _ => mirrors_write _ _ _

theorem mirrors_emitBranch (node : Node) :
    Mirrors Pass.Alike Eq (emitBranch ⟨context, visit, onChain⟩ node)
      (emitBranch ⟨context.restyled inlining marks, other, onChain⟩ node) := by
  refine (mirrors_input (hvisit onChain) _ _).bind fun value value' hgiven => ?_
  cases value <;> cases value' <;> cases hgiven
  · exact mirrors_pure rfl
  · refine (mirrors_write _ _ _).andThen fun _ => ?_
    refine (mirrors_followInside hvisit _ _).bind fun inner inner' _ => ?_
    -- The then block may be blank on one side only, and so may the else block.
    dsimp only
    rw [ite_bind, ite_bind]
    refine Mirrors.andThen (Discreet.mirrors ?_ ?_) fun _ => ?_
    · exact .ite (discreet_thenBranchExpected _) discreet_pure
    · exact .ite (discreet_thenBranchExpected _) discreet_pure
    · refine (mirrors_splice _ _).andThen fun _ => ?_
      refine (mirrors_followInside hvisit _ _).bind fun _ _ _ => Discreet.mirrors ?_ ?_
      · exact .ite ((discreet_write _ _).andThen (discreet_splice _)) discreet_pure
      · exact .ite ((discreet_write _ _).andThen (discreet_splice _)) discreet_pure

theorem mirrors_emitLoop (node : Node) :
    Mirrors Pass.Alike Eq (emitLoop ⟨context, visit, onChain⟩ node)
      (emitLoop ⟨context.restyled inlining marks, other, onChain⟩ node) := by
  refine (mirrors_input (hvisit onChain) _ _).bind fun value value' hgiven => ?_
  cases value <;> cases value' <;> cases hgiven
  · exact mirrors_pure rfl
  · exact (mirrors_write _ _ _).andThen fun _ =>
      (mirrors_body hvisit _ _).bind fun _ _ _ => mirrors_splice _ _

/-- What components write mirrors if visits do. -/
theorem mirrors_emit (kind : ComponentKind) (node : Node) :
    Mirrors Pass.Alike Eq (emit ⟨context, visit, onChain⟩ kind node)
      (emit ⟨context.restyled inlining marks, other, onChain⟩ kind node) := by
  cases kind with
  | literal name => exact mirrors_emitLiteral name node
  | call function => exact mirrors_emitCall (hvisit onChain) function node
  | localVariable => exact mirrors_emitVariable (hvisit onChain) node
  | branch => exact mirrors_emitBranch hvisit node
  | loop => exact mirrors_emitLoop hvisit node
  | sequence => exact mirrors_emitSequence hvisit node
  | definition => exact mirrors_emitDefinition hvisit node
  | code => exact mirrors_emitCode hvisit false node
  | topLevelCode => exact mirrors_emitCode hvisit true node

end Flow

end Surroundings

namespace Context

variable (context : Context) (inlining : InlineStrategy) (marks : Bool)

theorem mirrors_emitNode {deeper deeper' : Option Visit}
    (h : Option.Rel Visit.Mirrors deeper deeper') (onChain : List NodeId) (component : Component)
    (node : Node) :
    Mirrors Pass.Alike Eq (context.emitNode deeper onChain component node)
      ((context.restyled inlining marks).emitNode deeper' onChain component node) := by
  cases h with
  | none => exact mirrors_throw
  | some hvisit =>
      refine (mirrors_modify fun halike => halike.enter _).andThen fun _ => ?_
      refine (Surroundings.mirrors_emit hvisit _ _).andThen fun _ => ?_
      refine (mirrors_modify fun halike => halike.leave _).andThen fun _ => ?_
      exact Mirrors.ite (mirrors_pure rfl) (mirrors_pure rfl)

theorem mirrors_reach {deeper deeper' : Option Visit}
    (h : Option.Rel Visit.Mirrors deeper deeper') :
    (context.reach deeper).Mirrors ((context.restyled inlining marks).reach deeper') := by
  intro onChain id
  unfold reach
  dsimp only [restyled]
  cases context.graph.node? id with
  | none => exact mirrors_pure rfl
  | some node =>
      refine (mirrors_modify fun halike => halike.reach _).andThen fun _ => ?_
      cases context.catalog.get? node.name with
      | none => exact (Surroundings.mirrors_report _ _ _).andThen fun _ => mirrors_pure rfl
      | some component => exact context.mirrors_emitNode inlining marks h onChain component node

theorem mirrors_visit (depth : Nat) :
    (context.visit depth).Mirrors ((context.restyled inlining marks).visit depth) := by
  induction depth with
  | zero => exact context.mirrors_reach inlining marks .none
  | succ depth ih => exact context.mirrors_reach inlining marks (.some ih)

theorem mirrors_emitRoots (index : Nat) (roots : List NodeId) :
    Mirrors Pass.Alike Anyhow (context.emitRoots index roots)
      ((context.restyled inlining marks).emitRoots index roots) := by
  induction roots generalizing index with
  | nil => exact mirrors_pure trivial
  | cons id rest ih =>
      refine (mirrors_modify fun halike => halike.openBlock rfl rfl).andThen fun _ => ?_
      refine (Surroundings.mirrors_chain ?_ _ _ _).andThen fun _ => ?_
      · exact context.mirrors_visit inlining marks context.options.maxDepth
      · refine mirrors_get.bind fun _ _ _ => ?_
        exact (ih (index + 1)).bind fun _ _ _ => mirrors_pure trivial

/-- Runs that differ in how they write end alike, or all go too deep. -/
theorem run_restyled :
    (∃ written written' pass pass', context.run = .ok (written, pass) ∧
      (context.restyled inlining marks).run = .ok (written', pass') ∧ pass.Alike pass') ∨
    (context.run = .error .tooDeep ∧ (context.restyled inlining marks).run = .error .tooDeep) := by
  have hroots := context.mirrors_emitRoots inlining marks 0 context.roots
  rcases hroots _ _ (.refl { block := Block.root 0 })
    with ⟨written, written', pass, pass', hend, hend', _, halike⟩ | hdeep
  · exact .inl ⟨written, written', pass, pass', hend, hend', halike⟩
  · exact .inr hdeep

end Context

/-! ## Compilations -/

namespace Event

/-- What an event reports, if not that a block is blank. -/
def fault? (event : Event) : Option Diagnostic :=
  event.diagnostic?.filter (·.kind ≠ .thenBranchExpected)

theorem fault?_eq_bind (event : Event) : event.fault? = event.outline?.bind diagnostic? := by
  cases event with
  | reported diagnostic =>
      by_cases hblank : diagnostic.kind = .thenBranchExpected
      · simp [fault?, outline?, diagnostic?, hblank]
      · simp [fault?, outline?, diagnostic?, hblank]
  | _ => rfl

theorem usedSource?_eq_bind (event : Event) :
    event.usedSource? = event.outline?.bind usedSource? := by
  cases event with
  | reported diagnostic =>
      change none = (if _ then none else some _ : Option Event).bind usedSource?
      split
      next => rfl
      next => rfl
  | _ => rfl

theorem modules_eq_flatMap (event : Event) :
    event.modules = event.outline?.toList.flatMap modules := by
  cases event with
  | reported diagnostic =>
      change [] = (if _ then none else some _ : Option Event).toList.flatMap modules
      split
      next => rfl
      next => rfl
  | required names => exact (List.append_nil names).symm
  | _ => rfl

end Event

namespace Pass.Alike

variable {pass other : Pass}

theorem journal (h : pass.Alike other) : pass.events.reverse.filterMap Event.outline? =
    other.events.reverse.filterMap Event.outline? := by
  rw [List.filterMap_reverse, List.filterMap_reverse, h.events]

/-- What is read off outlines reads the same in passes that are alike. -/
theorem filterMap_eq {α : Type} (h : pass.Alike other) {read inner : Event → Option α}
    (hread : ∀ event, read event = event.outline?.bind inner) :
    pass.events.reverse.filterMap read = other.events.reverse.filterMap read := by
  rw [funext hread, ← List.filterMap_filterMap, h.journal, List.filterMap_filterMap]

theorem modules_eq (h : pass.Alike other) : pass.events.reverse.flatMap Event.modules =
    other.events.reverse.flatMap Event.modules := by
  have houtline : ∀ events : List Event, events.flatMap Event.modules =
      (events.filterMap Event.outline?).flatMap Event.modules := by
    intro events
    induction events with
    | nil => rfl
    | cons event rest ih =>
        rw [List.flatMap_cons, List.filterMap_cons, ih, event.modules_eq_flatMap]
        cases event.outline? with
        | none => rfl
        | some kept => simp
  rw [houtline, h.journal, ← houtline]

/-- Passes that are alike have the same faults. -/
theorem unreached_eq (h : pass.Alike other) :
    Compilation.unreached pass.events.reverse pass.reached =
      Compilation.unreached other.events.reverse other.reached := by
  unfold Compilation.unreached
  rw [h.filterMap_eq Event.usedSource?_eq_bind, h.reached]

end Pass.Alike

/-- The diagnostics of a compilation that do not say that a block is blank. -/
def Compilation.faults (compilation : Compilation) : Diagnostics :=
  compilation.diagnostics.filter (·.kind ≠ .thenBranchExpected)

theorem Compilation.faults_ofPass (written : List Written) (pass : Pass) :
    (ofPass written pass).faults = pass.events.reverse.filterMap Event.fault? ++
      (unreached pass.events.reverse pass.reached).filter (·.kind ≠ .thenBranchExpected) := by
  unfold faults ofPass
  dsimp only
  rw [List.filter_append, List.filter_filterMap]
  rfl

/-- The outcomes of a compilation with two ways to write: both need the same modules and
have the same faults, or in both emissions nest too deep. -/
theorem Language.compile_restyled (language : Language) (graph : Graph) (options : CompileOptions)
    (inlining : InlineStrategy) (marks : Bool) :
    (∃ compilation other, language.compile options graph = .ok compilation ∧
      language.compile { options with inlining := inlining, exportMarks := marks } graph =
        .ok other ∧
      compilation.modules = other.modules ∧ compilation.faults = other.faults) ∨
    (language.compile options graph = .error .tooDeep ∧
      language.compile { options with inlining := inlining, exportMarks := marks } graph =
        .error .tooDeep) := by
  have hrestyled : language.context { options with inlining := inlining, exportMarks := marks }
      graph = (language.context options graph).restyled inlining marks := rfl
  unfold compile
  rw [hrestyled]
  rcases (language.context options graph).run_restyled inlining marks with
    ⟨written, written', pass, pass', hrun, hrun', halike⟩ | ⟨hdeep, hdeep'⟩
  · rw [hrun, hrun']
    refine .inl ⟨_, _, rfl, rfl, congrArg distinct halike.modules_eq, ?_⟩
    rw [Compilation.faults_ofPass, Compilation.faults_ofPass,
      halike.filterMap_eq Event.fault?_eq_bind, halike.unreached_eq]
  · rw [hdeep, hdeep']
    exact .inr ⟨rfl, rfl⟩

end VisualScript
