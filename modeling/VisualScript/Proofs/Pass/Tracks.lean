import VisualScript.Proofs.Pass.Adequacy

/-!
# Steps that run side by side

Two ways to emit nodes are compared through all that is built on them: where the
first step ends, the second ends in the same way, and an invariant is kept. The
one notion serves twice, to show that more room changes nothing and to show that
with enough room every step ends.
-/

namespace VisualScript

namespace Emit

variable {α β : Type} {fails : Prop} {inv : Pass → Prop}

/-- Where an invariant holds, the first step ends, the second ends in the same way,
and the invariant is kept. If failing is allowed, the first may go too deep instead. -/
def Tracks (fails : Prop) (inv : Pass → Prop) (step other : Emit α) : Prop :=
  ∀ pass, inv pass →
    (∃ answer next, Ends step pass answer next ∧ Ends other pass answer next ∧ inv next) ∨
      (fails ∧ step pass = .error .tooDeep)

/-- The invariant that asks nothing. -/
def Anywhere (_ : Pass) : Prop := True

theorem tracks_pure (answer : α) : Tracks fails inv (pure answer) (pure answer) := by
  intro pass h
  exact .inl ⟨answer, pass, rfl, rfl, h⟩

theorem tracks_get : Tracks fails inv get get := by
  intro pass h
  exact .inl ⟨pass, pass, rfl, rfl, h⟩

theorem tracks_modify {change : Pass → Pass} (hkeeps : ∀ pass, inv pass → inv (change pass)) :
    Tracks fails inv (modify change) (modify change) := by
  intro pass h
  exact .inl ⟨(), change pass, rfl, rfl, hkeeps pass h⟩

theorem Tracks.bind {step other : Emit α} {continuation continuation' : α → Emit β}
    (hfirst : Tracks fails inv step other)
    (hrest : ∀ answer, Tracks fails inv (continuation answer) (continuation' answer)) :
    Tracks fails inv (step >>= continuation) (other >>= continuation') := by
  intro pass h
  rcases hfirst pass h with ⟨answer, middle, hstep, hother, hmiddle⟩ | ⟨hfails, hdeep⟩
  · rcases hrest answer middle hmiddle with ⟨result, next, hend, hend', hnext⟩ | ⟨hfails, hdeep⟩
    · exact .inl ⟨result, next, ends_bind.mpr ⟨answer, middle, hstep, hend⟩,
        ends_bind.mpr ⟨answer, middle, hother, hend'⟩, hnext⟩
    · refine .inr ⟨hfails, ?_⟩
      change (step pass >>= fun outcome => continuation outcome.1 outcome.2) = _
      rw [hstep]
      exact hdeep
  · refine .inr ⟨hfails, ?_⟩
    change (step pass >>= fun outcome => continuation outcome.1 outcome.2) = _
    rw [hdeep]
    rfl

theorem Tracks.discard {step other : Emit α} (h : Tracks fails inv step other) :
    Tracks fails inv (discard step) (discard other) :=
  h.bind fun _ => tracks_pure ()

theorem Tracks.ite {condition : Prop} [Decidable condition] {step step' other other' : Emit α}
    (hthen : Tracks fails inv step step') (helse : Tracks fails inv other other') :
    Tracks fails inv (if condition then step else other)
      (if condition then step' else other') := by
  split
  next => exact hthen
  next => exact helse

/-- What changes the state in one way only, and not whether nodes are settled. -/
theorem tracks_anywhere {change : Pass → Pass} :
    Tracks fails Anywhere (modify change) (modify change) :=
  tracks_modify fun _ _ => trivial

theorem Tracks.inChild {body body' : Emit Unit} (h : Tracks fails Anywhere body body') :
    Tracks fails Anywhere (inChild body) (inChild body') :=
  tracks_get.bind fun _ => tracks_anywhere.bind fun _ => h.bind fun _ => tracks_get.bind fun _ =>
    tracks_anywhere.bind fun _ => tracks_pure _

end Emit

open Emit

/-- Invariants that writing, reporting and keeping results do not touch. -/
structure Pass.Lasting (inv : Pass → Prop) : Prop where
  log : ∀ {pass} event, inv pass → inv (pass.log event)
  write : ∀ {pass} node statement, inv pass → inv (pass.write node statement)
  setResult : ∀ {pass} node value, inv pass → inv (pass.setResult node value)
  dropResult : ∀ {pass} node, inv pass → inv (pass.dropResult node)

theorem Pass.lasting_anywhere : Pass.Lasting Anywhere where
  log _ _ := trivial
  write _ _ _ := trivial
  setResult _ _ _ := trivial
  dropResult _ _ := trivial

namespace Surroundings

variable {fails : Prop} {inv : Pass → Prop} {context : Context} {onChain : List NodeId}
  {visit other : Visit}

/-! ## Values -/

section Values

variable (hlasting : Pass.Lasting inv)
  (hsupply : ∀ consumer source, Tracks fails inv
    (supply ⟨context, visit, onChain⟩ consumer source)
    (supply ⟨context, other, onChain⟩ consumer source))

include hlasting

theorem tracks_report (kind : DiagnosticKind) (node : NodeId) (detail : Option String) :
    Tracks fails inv (Emit.report kind node detail) (Emit.report kind node detail) :=
  tracks_modify fun _ => hlasting.log _

theorem tracks_require (modules : List String) :
    Tracks fails inv (Emit.require modules) (Emit.require modules) :=
  tracks_modify fun _ => hlasting.log _

theorem tracks_write (node : NodeId) (statement : Statement) :
    Tracks fails inv (Emit.write node statement) (Emit.write node statement) :=
  tracks_modify fun _ => hlasting.write _ _

theorem tracks_literal (type : LanguageType) (node : Node) (key : String) :
    Tracks fails inv (literal type node key) (literal type node key) := by
  refine Tracks.ite ?_ ?_
  · exact (tracks_report hlasting _ _ _).bind fun _ =>
      (tracks_require hlasting _).bind fun _ => tracks_pure _
  · exact (tracks_require hlasting _).bind fun _ => tracks_pure _

theorem tracks_bindOrKeep (id : NodeId) (binds : Bool) (value : Expression) :
    Tracks fails inv (bindOrKeep id binds value) (bindOrKeep id binds value) := by
  refine Tracks.ite ?_ ?_
  · exact (tracks_write hlasting _ _).bind fun _ => tracks_modify fun _ => hlasting.dropResult _
  · exact tracks_modify fun _ => hlasting.setResult _ _

include hsupply

theorem tracks_optionalInput (consumer : NodeId) (key : String) :
    Tracks fails inv (optionalInput ⟨context, visit, onChain⟩ consumer key)
      (optionalInput ⟨context, other, onChain⟩ consumer key) := by
  rw [optionalInput_eq, optionalInput_eq]
  cases context.feed consumer key with
  | nothing => exact tracks_pure none
  | parameter definition name =>
      exact tracks_get.bind fun _ =>
        (tracks_modify fun _ => hlasting.log _).bind fun _ => tracks_pure _
  | value source =>
      exact tracks_get.bind fun _ => (hsupply consumer source).bind fun _ =>
        tracks_get.bind fun _ => (tracks_modify fun _ => hlasting.log _).bind fun _ => tracks_pure _

theorem tracks_input (consumer : NodeId) (key : String) :
    Tracks fails inv (input ⟨context, visit, onChain⟩ consumer key)
      (input ⟨context, other, onChain⟩ consumer key) := by
  refine (tracks_optionalInput hlasting hsupply consumer key).bind fun value => ?_
  refine Tracks.ite ?_ (tracks_pure _)
  exact (tracks_report hlasting _ _ _).bind fun _ => tracks_pure _

theorem tracks_operand (node : Node) (argument : Argument) :
    Tracks fails inv (operand ⟨context, visit, onChain⟩ node argument)
      (operand ⟨context, other, onChain⟩ node argument) := by
  unfold operand
  dsimp only
  cases context.typeOf? argument.type with
  | none => exact tracks_pure none
  | some type =>
      refine (tracks_require hlasting _).bind fun _ => ?_
      refine Tracks.ite ?_ ?_
      · refine (tracks_optionalInput hlasting hsupply _ _).bind fun value => ?_
        cases value with
        | some value => exact tracks_pure _
        | none => exact (tracks_literal hlasting _ _ _).bind fun _ => tracks_pure _
      · refine (tracks_input hlasting hsupply _ _).bind fun value => ?_
        cases value with
        | some value => exact tracks_pure _
        | none => exact (tracks_literal hlasting _ _ _).bind fun _ => tracks_pure _

theorem tracks_operands (node : Node) (arguments : List Argument) :
    Tracks fails inv (arguments.mapM (operand ⟨context, visit, onChain⟩ node))
      (arguments.mapM (operand ⟨context, other, onChain⟩ node)) := by
  induction arguments with
  | nil => exact tracks_pure []
  | cons argument rest ih =>
      rw [List.mapM_cons, List.mapM_cons]
      exact (tracks_operand hlasting hsupply node argument).bind fun _ =>
        ih.bind fun _ => tracks_pure _

theorem tracks_emitCall (function : Callable) (node : Node) :
    Tracks fails inv (emitCall ⟨context, visit, onChain⟩ function node)
      (emitCall ⟨context, other, onChain⟩ function node) := by
  refine (tracks_operands hlasting hsupply node _).bind fun operands => ?_
  refine (tracks_require hlasting _).bind fun _ => (tracks_require hlasting _).bind fun _ => ?_
  exact Tracks.ite (tracks_write hlasting _ _) (tracks_bindOrKeep hlasting _ _ _)

theorem tracks_emitVariable (node : Node) :
    Tracks fails inv (emitVariable ⟨context, visit, onChain⟩ node)
      (emitVariable ⟨context, other, onChain⟩ node) := by
  refine (tracks_optionalInput hlasting hsupply _ _).bind fun value => ?_
  cases value with
  | some value => exact tracks_write hlasting _ _
  | none =>
      dsimp only
      cases context.registry.getOrAny? (node.text? keys.typeName) with
      | none => exact tracks_write hlasting _ _
      | some type => exact (tracks_require hlasting _).bind fun _ => tracks_write hlasting _ _

omit hsupply in
theorem tracks_emitLiteral (name : String) (node : Node) :
    Tracks fails inv (emitLiteral ⟨context, visit, onChain⟩ name node)
      (emitLiteral ⟨context, other, onChain⟩ name node) := by
  unfold emitLiteral
  dsimp only
  cases context.typeOf? name with
  | none => exact tracks_pure _
  | some type =>
      exact (tracks_literal hlasting _ _ _).bind fun _ => tracks_bindOrKeep hlasting _ _ _

/-- What emits values on demand keeps an invariant of values. -/
theorem tracks_emit_of_isOnDemand {kind : ComponentKind} (hkind : kind.isOnDemand = true)
    (node : Node) : Tracks fails inv (emit ⟨context, visit, onChain⟩ kind node)
      (emit ⟨context, other, onChain⟩ kind node) := by
  cases kind with
  | literal name => exact tracks_emitLiteral hlasting name node
  | call function => exact tracks_emitCall hlasting hsupply function node
  | localVariable => exact tracks_emitVariable hlasting hsupply node
  | branch => cases hkind
  | loop => cases hkind
  | sequence => cases hkind
  | definition => cases hkind
  | code => cases hkind
  | topLevelCode => cases hkind

end Values

/-! ## Flow -/

/-- Chains track each other if the visits of their nodes do, for as long as the
nodes on the chains fit some condition. -/
theorem tracks_chain {fits : List NodeId → Prop}
    (hgrows : ∀ {onChain} id, fits onChain → fits (id :: onChain))
    (hvisit : ∀ {onChain} id, fits onChain → id ∉ onChain →
      Tracks fails Anywhere (visit (id :: onChain) id) (other (id :: onChain) id))
    (bound : Nat) (onChain : List NodeId) (id : NodeId) (hfits : fits onChain) :
    Tracks fails Anywhere (chain visit bound onChain id) (chain other bound onChain id) := by
  induction bound generalizing onChain id with
  | zero => exact tracks_pure ()
  | succ bound ih =>
      unfold chain
      split
      next => exact tracks_anywhere
      next hnew =>
        refine (hvisit id hfits hnew).bind fun answer => ?_
        cases answer with
        | none => exact tracks_pure ()
        | some following => exact ih (id :: onChain) following (hgrows id hfits)

section Flow

variable (hsupply : ∀ consumer source, Tracks fails Anywhere
    (supply ⟨context, visit, onChain⟩ consumer source)
    (supply ⟨context, other, onChain⟩ consumer source))
  (hchain : ∀ id, Tracks fails Anywhere
    (chain visit (chainBound context.graph) onChain id)
    (chain other (chainBound context.graph) onChain id))

include hchain

theorem tracks_follow (id : NodeId) (exit : String) :
    Tracks fails Anywhere (follow ⟨context, visit, onChain⟩ id exit)
      (follow ⟨context, other, onChain⟩ id exit) := by
  unfold follow
  dsimp only
  cases context.graph.firstOutgoing? id exit with
  | none => exact tracks_pure ()
  | some connection => exact hchain connection.target

theorem tracks_followInside (id : NodeId) (exit : String) :
    Tracks fails Anywhere (followInside ⟨context, visit, onChain⟩ id exit)
      (followInside ⟨context, other, onChain⟩ id exit) :=
  (tracks_follow hchain id exit).inChild

theorem tracks_body (id : NodeId) (exit : String) :
    Tracks fails Anywhere (body ⟨context, visit, onChain⟩ id exit)
      (body ⟨context, other, onChain⟩ id exit) :=
  Tracks.inChild <| (tracks_follow hchain id exit).bind fun _ => tracks_get.bind fun _ =>
    Tracks.ite tracks_anywhere (tracks_pure ())

theorem tracks_emitSequence (node : Node) :
    Tracks fails Anywhere (emitSequence ⟨context, visit, onChain⟩ node)
      (emitSequence ⟨context, other, onChain⟩ node) := by
  unfold emitSequence
  induction List.range (numberedCount keys.exit node.outputs) with
  | nil => exact tracks_pure ()
  | cons index rest ih => exact (tracks_follow hchain node.id _).bind fun _ => ih

theorem tracks_emitCode (topLevel : Bool) (node : Node) :
    Tracks fails Anywhere (emitCode ⟨context, visit, onChain⟩ topLevel node)
      (emitCode ⟨context, other, onChain⟩ topLevel node) := by
  have hrest : Tracks fails Anywhere
      (if topLevel then followInside ⟨context, visit, onChain⟩ node.id keys.flowOut >>= Emit.splice
        else pure ())
      (if topLevel then followInside ⟨context, other, onChain⟩ node.id keys.flowOut >>= Emit.splice
        else pure ()) :=
    Tracks.ite ((tracks_followInside hchain _ _).bind fun _ => tracks_anywhere) (tracks_pure ())
  exact Tracks.ite (tracks_anywhere.bind fun _ => hrest) hrest

omit hchain in
theorem tracks_parameters (node : Node) (seen : List String) (indices : List Nat) :
    Tracks fails Anywhere (parameters ⟨context, visit, onChain⟩ node seen indices)
      (parameters ⟨context, other, onChain⟩ node seen indices) := by
  induction indices generalizing seen with
  | nil => exact tracks_pure []
  | cons index rest ih =>
      have hfirst : Tracks fails Anywhere (parameter ⟨context, visit, onChain⟩ node index)
          (parameter ⟨context, other, onChain⟩ node index) := by
        intro pass _
        exact .inl ⟨_, _, ends_parameter.mpr ⟨rfl, rfl⟩, ends_parameter.mpr ⟨rfl, rfl⟩, trivial⟩
      have hrest : ∀ name declaration, Tracks fails Anywhere
          (do return declaration ::
            (← parameters ⟨context, visit, onChain⟩ node (name :: seen) rest))
          (do return declaration ::
            (← parameters ⟨context, other, onChain⟩ node (name :: seen) rest)) :=
        fun name _ => (ih (name :: seen)).bind fun _ => tracks_pure _
      unfold parameters
      refine hfirst.bind fun answer => ?_
      obtain ⟨name, declaration⟩ := answer
      exact Tracks.ite (tracks_anywhere.bind fun _ => hrest name declaration)
        (hrest name declaration)

theorem tracks_emitDefinition (node : Node) :
    Tracks fails Anywhere (emitDefinition ⟨context, visit, onChain⟩ node)
      (emitDefinition ⟨context, other, onChain⟩ node) := by
  refine (tracks_parameters node [] _).bind fun declarations => ?_
  have hrest : Tracks fails Anywhere
      (do
        Emit.write node.id (.definition ((node.text? keys.functionName).getD "") declarations)
        Emit.splice (← body ⟨context, visit, onChain⟩ node.id keys.flowOut)
        Emit.write node.id .blank)
      (do
        Emit.write node.id (.definition ((node.text? keys.functionName).getD "") declarations)
        Emit.splice (← body ⟨context, other, onChain⟩ node.id keys.flowOut)
        Emit.write node.id .blank) :=
    tracks_anywhere.bind fun _ => (tracks_body hchain _ _).bind fun _ =>
      tracks_anywhere.bind fun _ => tracks_anywhere
  exact Tracks.ite (tracks_anywhere.bind fun _ => hrest) hrest

include hsupply

theorem tracks_emitBranch (node : Node) :
    Tracks fails Anywhere (emitBranch ⟨context, visit, onChain⟩ node)
      (emitBranch ⟨context, other, onChain⟩ node) := by
  refine (tracks_input Pass.lasting_anywhere hsupply _ _).bind fun value => ?_
  cases value with
  | none => exact tracks_pure ()
  | some value =>
      have hrest : Tracks fails Anywhere
          (do
            let elseBlock ← followInside ⟨context, visit, onChain⟩ node.id keys.elseExit
            if !elseBlock.isBlank then
              Emit.write node.id .elseHeader
              Emit.splice elseBlock)
          (do
            let elseBlock ← followInside ⟨context, other, onChain⟩ node.id keys.elseExit
            if !elseBlock.isBlank then
              Emit.write node.id .elseHeader
              Emit.splice elseBlock) :=
        (tracks_followInside hchain _ _).bind fun _ =>
          Tracks.ite (tracks_anywhere.bind fun _ => tracks_anywhere) (tracks_pure ())
      refine tracks_anywhere.bind fun _ => (tracks_followInside hchain _ _).bind fun _ => ?_
      exact Tracks.ite (tracks_anywhere.bind fun _ => tracks_anywhere.bind fun _ => hrest)
        (tracks_anywhere.bind fun _ => hrest)

theorem tracks_emitLoop (node : Node) :
    Tracks fails Anywhere (emitLoop ⟨context, visit, onChain⟩ node)
      (emitLoop ⟨context, other, onChain⟩ node) := by
  refine (tracks_input Pass.lasting_anywhere hsupply _ _).bind fun value => ?_
  cases value with
  | none => exact tracks_pure ()
  | some value =>
      exact tracks_anywhere.bind fun _ => (tracks_body hchain _ _).bind fun _ => tracks_anywhere

/-- What components write tracks if values and chains do. -/
theorem tracks_emit (kind : ComponentKind) (node : Node) :
    Tracks fails Anywhere (emit ⟨context, visit, onChain⟩ kind node)
      (emit ⟨context, other, onChain⟩ kind node) := by
  have hlasting := Pass.lasting_anywhere
  cases kind with
  | literal name => exact tracks_emitLiteral hlasting name node
  | call function => exact tracks_emitCall hlasting hsupply function node
  | localVariable => exact tracks_emitVariable hlasting hsupply node
  | branch => exact tracks_emitBranch hsupply hchain node
  | loop => exact tracks_emitLoop hsupply hchain node
  | sequence => exact tracks_emitSequence hchain node
  | definition => exact tracks_emitDefinition hchain node
  | code => exact tracks_emitCode hchain false node
  | topLevelCode => exact tracks_emitCode hchain true node

end Flow

end Surroundings

end VisualScript
