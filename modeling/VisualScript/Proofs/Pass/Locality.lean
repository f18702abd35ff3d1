import VisualScript.Proofs.Graph.Restriction
import VisualScript.Proofs.Pass.Depth
import VisualScript.Proofs.Pass.Division

/-!
# Emission within a part of a graph

At the nodes of a part of a graph that no connection leaves, a pass over the graph does
what a pass over the part does.
-/

namespace VisualScript

open Emit

namespace Division

variable {context : Context} {division : Division} {onChain : List NodeId} {visit other : Visit}
  {node : NodeId}

/-! ## Single steps -/

theorem mirrors_report (hmem : division.members node = true) (kind : DiagnosticKind)
    (detail : Option String) :
    Mirrors division.Alike Eq (Emit.report kind node detail) (Emit.report kind node detail) :=
  mirrors_modify fun halike => halike.report hmem _ _

theorem mirrors_require (modules : List String) :
    Mirrors division.Alike Eq (Emit.require modules) (Emit.require modules) :=
  mirrors_modify fun halike => halike.require _

theorem mirrors_write (hmem : division.members node = true) (statement : Statement) :
    Mirrors division.Alike Eq (Emit.write node statement) (Emit.write node statement) :=
  mirrors_modify fun halike => halike.write hmem _

theorem mirrors_splice {inner inner' : Block}
    (h : SameContent division.members inner.content inner'.content) :
    Mirrors division.Alike Eq (Emit.splice inner) (Emit.splice inner') :=
  mirrors_modify fun halike => halike.splice h

theorem mirrors_literal (type : LanguageType) {literal : Node}
    (hmem : division.members literal.id = true) (key : String) :
    Mirrors division.Alike Eq (Surroundings.literal type literal key)
      (Surroundings.literal type literal key) := by
  refine Mirrors.ite ?_ ?_
  · exact (mirrors_report hmem _ _).andThen fun _ =>
      (mirrors_require _).andThen fun _ => mirrors_pure rfl
  · exact (mirrors_require _).andThen fun _ => mirrors_pure rfl

theorem mirrors_bindOrKeep (hmem : division.members node = true) (binds : Bool)
    (value : Expression) :
    Mirrors division.Alike Eq (Surroundings.bindOrKeep node binds value)
      (Surroundings.bindOrKeep node binds value) := by
  refine Mirrors.ite ?_ ?_
  · exact (mirrors_write hmem _).andThen fun _ =>
      mirrors_modify fun halike => halike.alter hmem (.dropResult node)
  · exact mirrors_modify fun halike => halike.alter hmem (.setResult node value)

/-- What is done in a new block. The blocks that come of it have the same content. -/
theorem mirrors_inChild {body body' : Emit Unit} (h : Mirrors division.Alike Eq body body') :
    Mirrors division.Alike
      (fun inner inner' => SameContent division.members inner.content inner'.content)
      (inChild body) (inChild body') := by
  refine mirrors_get.bind fun outer outer' houter => ?_
  refine (mirrors_modify fun halike => halike.openChild).andThen fun _ => h.andThen fun _ => ?_
  refine mirrors_get.bind fun inner inner' hinner => ?_
  exact (mirrors_modify fun halike => halike.backTo houter.block).andThen fun _ =>
    mirrors_pure hinner.block.content

/-! ## Values -/

section Splits

variable (hsplits : context.graph.Splits division.members)

include hsplits

theorem mirrors_emitLiteral (name : String) {literal : Node}
    (hmem : division.members literal.id = true) :
    Mirrors division.Alike Eq
      (Surroundings.emitLiteral ⟨context, visit, onChain⟩ name literal)
      (Surroundings.emitLiteral ⟨context.restrict division.members, other, onChain⟩ name
        literal) := by
  unfold Surroundings.emitLiteral
  dsimp only
  rw [Context.uses_restrict hsplits hmem]
  dsimp only [Context.restrict]
  cases context.typeOf? name with
  | none => exact mirrors_pure rfl
  | some type =>
      exact (mirrors_literal _ hmem _).andThen fun _ => mirrors_bindOrKeep hmem _ _

end Splits

/-- The flow goes on alike, at a node of the part if it does. -/
def SameNext (division : Division) (answer answer' : Option NodeId) : Prop :=
  answer = answer' ∧ ∀ {id}, answer = some id → division.members id = true

/-- Two ways to emit nodes mirror each other on the nodes of the part. -/
def Visits (division : Division) (visit other : Visit) : Prop :=
  ∀ onChain {id}, division.members id = true →
    Mirrors division.Alike division.SameNext (visit onChain id) (other onChain id)

theorem mirrors_checkReached {consumer source : NodeId}
    (hconsumer : division.members consumer = true) (hsource : division.members source = true) :
    Mirrors division.Alike Eq (Surroundings.checkReached consumer source)
      (Surroundings.checkReached consumer source) := by
  refine mirrors_get.bind fun full part halike => ?_
  have hfacts := halike.own.facts hsource
  have hemitting : (source ∈ full.emitting) = (source ∈ part.emitting) :=
    congrArg Facts.emitting hfacts
  have hreached : (source ∈ full.reached) = (source ∈ part.reached) :=
    congrArg Facts.reached hfacts
  simp only [hemitting, hreached, halike.inScope_eq hsource]
  exact Mirrors.ite (mirrors_report hsource _ _) (Mirrors.ite (mirrors_report hconsumer _ _)
    (Mirrors.ite (mirrors_report hconsumer _ _) (mirrors_pure rfl)))

/-- The literal of an operand counts where nothing is connected. -/
theorem mirrors_operand_of_connected (type : LanguageType) {node : Node}
    (hmem : division.members node.id = true) (key : String) (value : Option Expression) :
    Mirrors division.Alike Eq
      (match value with
        | some value => pure (some (key, value))
        | none => do return some (key, ← Surroundings.literal type node key))
      (match value with
        | some value => pure (some (key, value))
        | none => do return some (key, ← Surroundings.literal type node key)) := by
  cases value with
  | none => exact (mirrors_literal _ hmem _).andThen fun _ => mirrors_pure rfl
  | some value => exact mirrors_pure rfl

section Demand

variable (hsplits : context.graph.Splits division.members) (hvisit : division.Visits visit other)

include hsplits hvisit

omit hsplits in
theorem mirrors_initiate {consumer source : NodeId}
    (hconsumer : division.members consumer = true) (hsource : division.members source = true) :
    Mirrors division.Alike Eq
      (Surroundings.initiate ⟨context, visit, onChain⟩ consumer source)
      (Surroundings.initiate ⟨context.restrict division.members, other, onChain⟩ consumer
        source) := by
  refine mirrors_get.bind fun full part halike => ?_
  have hfacts := halike.own.facts hsource
  have hinitiated : (source ∈ full.initiated) = (source ∈ part.initiated) :=
    congrArg Facts.initiated hfacts
  have hemitting : (source ∈ full.emitting) = (source ∈ part.emitting) :=
    congrArg Facts.emitting hfacts
  simp only [hinitiated, hemitting, halike.inScope_eq hsource, Context.component?_restrict hsource]
  refine Mirrors.ite ?_ (Mirrors.ite (mirrors_report hsource _ _) (Mirrors.ite (mirrors_pure rfl)
    (Mirrors.ite (hvisit onChain hsource).discard (mirrors_report hconsumer _ _))))
  exact (mirrors_modify fun halike => halike.alter hsource (.initiate source)).andThen fun _ =>
    (hvisit onChain hsource).discard

omit hsplits in
theorem mirrors_supply {consumer source : NodeId}
    (hconsumer : division.members consumer = true) (hsource : division.members source = true) :
    Mirrors division.Alike Eq
      (Surroundings.supply ⟨context, visit, onChain⟩ consumer source)
      (Surroundings.supply ⟨context.restrict division.members, other, onChain⟩ consumer
        source) := by
  unfold Surroundings.supply
  dsimp only
  rw [Context.isOnDemand_restrict hsource]
  exact Mirrors.ite (mirrors_initiate hvisit hconsumer hsource)
    (mirrors_checkReached hconsumer hsource)

theorem mirrors_optionalInput {consumer : NodeId} (hmem : division.members consumer = true)
    (key : String) :
    Mirrors division.Alike Eq
      (Surroundings.optionalInput ⟨context, visit, onChain⟩ consumer key)
      (Surroundings.optionalInput ⟨context.restrict division.members, other, onChain⟩ consumer
        key) := by
  rw [Surroundings.optionalInput_eq, Surroundings.optionalInput_eq]
  dsimp only
  rw [Context.feed_restrict hsplits hmem]
  cases hfeed : context.feed consumer key with
  | nothing => exact mirrors_pure rfl
  | parameter definition name =>
      refine mirrors_get.bind fun _ _ _ => ?_
      exact (mirrors_modify fun halike => halike.note rfl rfl rfl).andThen fun _ =>
        mirrors_pure rfl
  | value source =>
      have hsource := Context.source_of_feed hsplits hmem hfeed
      refine mirrors_get.bind fun _ _ _ => ?_
      refine (mirrors_supply hvisit hmem hsource).andThen fun _ => ?_
      refine mirrors_get.bind fun full part halike => ?_
      rw [halike.valueOf_eq hsource]
      refine Mirrors.andThen (mirrors_modify fun halike => halike.log rfl ?_ rfl)
        fun _ => mirrors_pure rfl
      intro mention hmention
      cases hmention
      exact hsource

theorem mirrors_input {consumer : NodeId} (hmem : division.members consumer = true)
    (key : String) :
    Mirrors division.Alike Eq
      (Surroundings.input ⟨context, visit, onChain⟩ consumer key)
      (Surroundings.input ⟨context.restrict division.members, other, onChain⟩ consumer key) := by
  refine (mirrors_optionalInput hsplits hvisit hmem key).andThen fun value => ?_
  exact Mirrors.ite ((mirrors_report hmem _ _).andThen fun _ => mirrors_pure rfl)
    (mirrors_pure rfl)

theorem mirrors_operand {node : Node} (hmem : division.members node.id = true)
    (argument : Argument) :
    Mirrors division.Alike Eq
      (Surroundings.operand ⟨context, visit, onChain⟩ node argument)
      (Surroundings.operand ⟨context.restrict division.members, other, onChain⟩ node
        argument) := by
  unfold Surroundings.operand
  dsimp only [Context.restrict]
  cases context.typeOf? argument.type with
  | none => exact mirrors_pure rfl
  | some type =>
      refine (mirrors_require _).andThen fun _ => Mirrors.ite ?_ ?_
      · exact (mirrors_optionalInput hsplits hvisit hmem _).andThen
          (mirrors_operand_of_connected type hmem _)
      · exact (mirrors_input hsplits hvisit hmem _).andThen
          (mirrors_operand_of_connected type hmem _)

theorem mirrors_operands {node : Node} (hmem : division.members node.id = true)
    (arguments : List Argument) :
    Mirrors division.Alike Eq
      (arguments.mapM (Surroundings.operand ⟨context, visit, onChain⟩ node))
      (arguments.mapM
        (Surroundings.operand ⟨context.restrict division.members, other, onChain⟩ node)) := by
  induction arguments with
  | nil => exact mirrors_pure rfl
  | cons argument rest ih =>
      rw [List.mapM_cons, List.mapM_cons]
      exact (mirrors_operand hsplits hvisit hmem argument).andThen fun _ =>
        ih.andThen fun _ => mirrors_pure rfl

theorem mirrors_emitCall (function : Callable) {node : Node}
    (hmem : division.members node.id = true) :
    Mirrors division.Alike Eq
      (Surroundings.emitCall ⟨context, visit, onChain⟩ function node)
      (Surroundings.emitCall ⟨context.restrict division.members, other, onChain⟩ function
        node) := by
  unfold Surroundings.emitCall
  refine (mirrors_operands hsplits hvisit hmem _).andThen fun operands => ?_
  dsimp only
  rw [Context.uses_restrict hsplits hmem]
  refine (mirrors_require _).andThen fun _ => (mirrors_require _).andThen fun _ => ?_
  exact Mirrors.ite (mirrors_write hmem _) (mirrors_bindOrKeep hmem _ _)

theorem mirrors_emitVariable {node : Node} (hmem : division.members node.id = true) :
    Mirrors division.Alike Eq
      (Surroundings.emitVariable ⟨context, visit, onChain⟩ node)
      (Surroundings.emitVariable ⟨context.restrict division.members, other, onChain⟩ node) := by
  refine (mirrors_optionalInput hsplits hvisit hmem _).andThen fun value => ?_
  cases value with
  | some value => exact mirrors_write hmem _
  | none =>
      dsimp only [Context.restrict]
      cases context.registry.getOrAny? (node.text? keys.typeName) with
      | none => exact mirrors_write hmem _
      | some type => exact (mirrors_require _).andThen fun _ => mirrors_write hmem _

end Demand

/-! ## Flow -/

theorem mirrors_chain (hvisit : division.Visits visit other) (bound : Nat) (onChain : List NodeId)
    {id : NodeId} (hmem : division.members id = true) :
    Mirrors division.Alike Eq (Surroundings.chain visit bound onChain id)
      (Surroundings.chain other bound onChain id) := by
  induction bound generalizing onChain id with
  | zero => exact mirrors_pure rfl
  | succ bound ih =>
      refine Mirrors.ite (mirrors_report hmem _ _) ?_
      refine (hvisit (id :: onChain) hmem).bind fun answer answer' hnext => ?_
      -- The chain goes on within the part, which is what the induction asks for.
      obtain ⟨rfl, hmember⟩ := hnext
      cases answer with
      | none => exact mirrors_pure rfl
      | some following => exact ih (id :: onChain) (hmember rfl)

/-- In the part of a graph, the bound on chains in the graph is as good as its own. -/
theorem chain_restrict (hwalks : other.Walks (context.restrict division.members))
    (onChain : List NodeId) (id : NodeId) :
    Surroundings.chain other (Surroundings.chainBound context.graph) onChain id =
      Surroundings.chain other
        (Surroundings.chainBound (context.restrict division.members).graph) onChain id := by
  -- The graph has no fewer nodes than the part, so its bound exceeds what the part needs.
  have hsize := context.graph.size_restrict_le division.members
  obtain ⟨extra, hextra⟩ := Nat.exists_eq_add_of_le hsize
  have hbound : Surroundings.chainBound context.graph =
      Surroundings.chainBound (context.restrict division.members).graph + extra := by
    unfold Surroundings.chainBound Context.restrict
    dsimp only
    omega
  rw [hbound]
  refine Surroundings.chain_add_bound hwalks _ _ _ _ (Nat.add_le_add_right ?_ 2)
  exact Graph.offChain_le_size _ _

section Flow

variable (hsplits : context.graph.Splits division.members) (hvisit : division.Visits visit other)
  (hwalks : other.Walks (context.restrict division.members))

include hsplits hvisit hwalks

theorem mirrors_follow {id : NodeId} (hmem : division.members id = true) (exit : String) :
    Mirrors division.Alike Eq (Surroundings.follow ⟨context, visit, onChain⟩ id exit)
      (Surroundings.follow ⟨context.restrict division.members, other, onChain⟩ id exit) := by
  unfold Surroundings.follow
  dsimp only
  have hfound : (context.restrict division.members).graph.firstOutgoing? id exit =
      context.graph.firstOutgoing? id exit := Graph.firstOutgoing?_restrict hsplits hmem exit
  rw [hfound]
  cases hconnected : context.graph.firstOutgoing? id exit with
  | none => exact mirrors_pure rfl
  | some connection =>
      dsimp only
      rw [← chain_restrict hwalks]
      exact mirrors_chain hvisit _ _ (hsplits.target_of_firstOutgoing? hmem hconnected)

theorem mirrors_followInside {id : NodeId} (hmem : division.members id = true) (exit : String) :
    Mirrors division.Alike
      (fun inner inner' => SameContent division.members inner.content inner'.content)
      (Surroundings.followInside ⟨context, visit, onChain⟩ id exit)
      (Surroundings.followInside ⟨context.restrict division.members, other, onChain⟩ id exit) :=
  mirrors_inChild (mirrors_follow hsplits hvisit hwalks hmem exit)

theorem mirrors_body {id : NodeId} (hmem : division.members id = true) (exit : String) :
    Mirrors division.Alike
      (fun inner inner' => SameContent division.members inner.content inner'.content)
      (Surroundings.body ⟨context, visit, onChain⟩ id exit)
      (Surroundings.body ⟨context.restrict division.members, other, onChain⟩ id exit) := by
  refine mirrors_inChild ((mirrors_follow hsplits hvisit hwalks hmem exit).andThen fun _ => ?_)
  refine mirrors_get.bind fun full part halike => ?_
  rw [halike.block.content.isBlank_eq]
  exact Mirrors.ite (mirrors_write hmem _) (mirrors_pure rfl)

theorem mirrors_emitSequence {node : Node} (hmem : division.members node.id = true) :
    Mirrors division.Alike Eq (Surroundings.emitSequence ⟨context, visit, onChain⟩ node)
      (Surroundings.emitSequence ⟨context.restrict division.members, other, onChain⟩ node) := by
  unfold Surroundings.emitSequence
  induction List.range (numberedCount keys.exit node.outputs) with
  | nil => exact mirrors_pure rfl
  | cons index rest ih =>
      exact (mirrors_follow hsplits hvisit hwalks hmem _).andThen fun _ => ih

theorem mirrors_emitCode (topLevel : Bool) {node : Node} (hmem : division.members node.id = true) :
    Mirrors division.Alike Eq (Surroundings.emitCode ⟨context, visit, onChain⟩ topLevel node)
      (Surroundings.emitCode ⟨context.restrict division.members, other, onChain⟩ topLevel
        node) := by
  have hrest : Mirrors division.Alike Eq
      (if topLevel then
        Surroundings.followInside ⟨context, visit, onChain⟩ node.id keys.flowOut >>= Emit.splice
        else pure ())
      (if topLevel then
        Surroundings.followInside ⟨context.restrict division.members, other, onChain⟩ node.id
          keys.flowOut >>= Emit.splice
        else pure ()) :=
    Mirrors.ite ((mirrors_followInside hsplits hvisit hwalks hmem _).bind
      fun _ _ hinner => mirrors_splice hinner) (mirrors_pure rfl)
  exact Mirrors.ite ((mirrors_write hmem _).andThen fun _ => hrest) hrest

omit hvisit hwalks in
theorem mirrors_parameter {node : Node} (hmem : division.members node.id = true) (index : Nat) :
    Mirrors division.Alike Eq (Surroundings.parameter ⟨context, visit, onChain⟩ node index)
      (Surroundings.parameter ⟨context.restrict division.members, other, onChain⟩ node
        index) := by
  intro full part halike
  have hwiring := Context.wiring_restrict hsplits hmem index
  refine .inl ⟨_, _, _, _, Surroundings.ends_parameter.mpr ⟨rfl, rfl⟩,
    Surroundings.ends_parameter.mpr ⟨rfl, rfl⟩, ?_, ?_⟩
  · dsimp only
    rw [hwiring]
  · dsimp only
    rw [hwiring]
    cases hsource : context.wiring node index with
    | byLiteral source type literal =>
        obtain ⟨rfl, hliteral⟩ := Context.member_of_wiring hsplits hmem hsource
        exact (halike.checkLiteral type hliteral _).claim _ hliteral
    | unsupported source component => exact halike.report hmem _ _
    | typed type => exact halike.require _
    | untyped => exact halike.report hmem _ _

omit hvisit hwalks in
theorem mirrors_parameters {node : Node} (hmem : division.members node.id = true)
    (seen : List String) (indices : List Nat) :
    Mirrors division.Alike Eq
      (Surroundings.parameters ⟨context, visit, onChain⟩ node seen indices)
      (Surroundings.parameters ⟨context.restrict division.members, other, onChain⟩ node seen
        indices) := by
  induction indices generalizing seen with
  | nil => exact mirrors_pure rfl
  | cons index rest ih =>
      unfold Surroundings.parameters
      refine (mirrors_parameter hsplits hmem index).andThen fun answer => ?_
      obtain ⟨name, declaration⟩ := answer
      dsimp only
      rw [ite_bind, ite_bind]
      refine (Mirrors.ite (mirrors_report hmem _ _) (mirrors_pure rfl)).andThen fun _ => ?_
      exact (ih (name :: seen)).andThen fun _ => mirrors_pure rfl

theorem mirrors_emitDefinition {node : Node} (hmem : division.members node.id = true) :
    Mirrors division.Alike Eq (Surroundings.emitDefinition ⟨context, visit, onChain⟩ node)
      (Surroundings.emitDefinition ⟨context.restrict division.members, other, onChain⟩ node) := by
  refine (mirrors_parameters hsplits hmem [] _).andThen fun declarations => ?_
  dsimp only
  rw [ite_bind, ite_bind]
  refine Mirrors.andThen (Mirrors.ite (mirrors_write hmem _) (mirrors_pure rfl)) fun _ => ?_
  refine (mirrors_write hmem _).andThen fun _ => ?_
  exact (mirrors_body hsplits hvisit hwalks hmem _).bind fun _ _ hinner =>
    (mirrors_splice hinner).andThen fun _ => mirrors_write hmem _

theorem mirrors_emitBranch {node : Node} (hmem : division.members node.id = true) :
    Mirrors division.Alike Eq (Surroundings.emitBranch ⟨context, visit, onChain⟩ node)
      (Surroundings.emitBranch ⟨context.restrict division.members, other, onChain⟩ node) := by
  refine (mirrors_input hsplits hvisit hmem _).andThen fun value => ?_
  cases value with
  | none => exact mirrors_pure rfl
  | some condition =>
      refine (mirrors_write hmem _).andThen fun _ => ?_
      refine (mirrors_followInside hsplits hvisit hwalks hmem _).bind fun inner inner' hinner => ?_
      dsimp only
      rw [ite_bind, ite_bind, hinner.isBlank_eq]
      refine (Mirrors.ite (mirrors_report hmem _ _) (mirrors_pure rfl)).andThen fun _ => ?_
      refine (mirrors_splice hinner).andThen fun _ => ?_
      refine (mirrors_followInside hsplits hvisit hwalks hmem _).bind fun last last' hlast => ?_
      rw [hlast.isBlank_eq]
      exact Mirrors.ite ((mirrors_write hmem _).andThen fun _ => mirrors_splice hlast)
        (mirrors_pure rfl)

theorem mirrors_emitLoop {node : Node} (hmem : division.members node.id = true) :
    Mirrors division.Alike Eq (Surroundings.emitLoop ⟨context, visit, onChain⟩ node)
      (Surroundings.emitLoop ⟨context.restrict division.members, other, onChain⟩ node) := by
  refine (mirrors_input hsplits hvisit hmem _).andThen fun value => ?_
  cases value with
  | none => exact mirrors_pure rfl
  | some condition =>
      exact (mirrors_write hmem _).andThen fun _ =>
        (mirrors_body hsplits hvisit hwalks hmem _).bind fun _ _ hinner => mirrors_splice hinner

/-- What components write mirrors if visits do. -/
theorem mirrors_emit (kind : ComponentKind) {node : Node}
    (hmem : division.members node.id = true) :
    Mirrors division.Alike Eq (Surroundings.emit ⟨context, visit, onChain⟩ kind node)
      (Surroundings.emit ⟨context.restrict division.members, other, onChain⟩ kind node) := by
  cases kind with
  | literal name => exact mirrors_emitLiteral hsplits name hmem
  | call function => exact mirrors_emitCall hsplits hvisit function hmem
  | localVariable => exact mirrors_emitVariable hsplits hvisit hmem
  | branch => exact mirrors_emitBranch hsplits hvisit hwalks hmem
  | loop => exact mirrors_emitLoop hsplits hvisit hwalks hmem
  | sequence => exact mirrors_emitSequence hsplits hvisit hwalks hmem
  | definition => exact mirrors_emitDefinition hsplits hvisit hwalks hmem
  | code => exact mirrors_emitCode hsplits hvisit hwalks false hmem
  | topLevelCode => exact mirrors_emitCode hsplits hvisit hwalks true hmem

end Flow

/-! ## Visits -/

section Visits

variable (hsplits : context.graph.Splits division.members)

include hsplits

theorem mirrors_emitNode {deeper deeper' : Option Visit}
    (h : Option.Rel division.Visits deeper deeper')
    (hwalks : ∀ visit ∈ deeper', visit.Walks (context.restrict division.members))
    (onChain : List NodeId) (component : Component) {node : Node}
    (hmem : division.members node.id = true) :
    Mirrors division.Alike division.SameNext
      (context.emitNode deeper onChain component node)
      ((context.restrict division.members).emitNode deeper' onChain component node) := by
  cases h with
  | none => exact mirrors_throw
  | some hvisit =>
      refine (mirrors_modify fun halike => halike.enter hmem).andThen fun _ => ?_
      refine (mirrors_emit hsplits hvisit (hwalks _ rfl) _ hmem).andThen fun _ => ?_
      refine (mirrors_modify fun halike => halike.leave hmem).andThen fun _ => ?_
      refine Mirrors.ite (mirrors_pure ⟨?_, ?_⟩) (mirrors_pure ⟨rfl, nofun⟩)
      · exact congrArg (Option.map _) (Graph.firstOutgoing?_restrict hsplits hmem _).symm
      · intro id hnext
        obtain ⟨connection, hconnected, rfl⟩ := Option.map_eq_some_iff.mp hnext
        exact hsplits.target_of_firstOutgoing? hmem hconnected

theorem mirrors_reach {deeper deeper' : Option Visit}
    (h : Option.Rel division.Visits deeper deeper')
    (hwalks : ∀ visit ∈ deeper', visit.Walks (context.restrict division.members)) :
    division.Visits (context.reach deeper) ((context.restrict division.members).reach deeper') := by
  intro onChain id hmem
  have hfound : (context.restrict division.members).graph.node? id = context.graph.node? id :=
    Graph.node?_restrict hmem
  unfold Context.reach
  rw [hfound]
  cases hnode : context.graph.node? id with
  | none => exact mirrors_pure ⟨rfl, nofun⟩
  | some node =>
      obtain rfl := Graph.id_of_node? hnode
      refine (mirrors_modify fun halike => halike.alter hmem (.reach _)).andThen fun _ => ?_
      dsimp only [Context.restrict]
      cases context.catalog.get? node.name with
      | none => exact (mirrors_report hmem _ _).andThen fun _ => mirrors_pure ⟨rfl, nofun⟩
      | some component => exact mirrors_emitNode hsplits h hwalks onChain component hmem

theorem mirrors_visit (depth : Nat) :
    division.Visits (context.visit depth) ((context.restrict division.members).visit depth) := by
  induction depth with
  | zero => exact mirrors_reach hsplits .none nofun
  | succ depth ih =>
      -- Visits one level deeper do walk, which is what chains of the part are bounded by.
      refine mirrors_reach hsplits (.some ih) fun visit hvisit => ?_
      cases hvisit
      exact Context.visit_walks _ depth

/-- A chain from a root of the part is the same in the graph and in the part. -/
theorem mirrors_root {root : NodeId} (hmem : division.members root = true) :
    Mirrors division.Alike Eq
      (Surroundings.chain (context.visit context.options.maxDepth)
        (Surroundings.chainBound context.graph) [] root)
      (Surroundings.chain
        ((context.restrict division.members).visit context.options.maxDepth)
        (Surroundings.chainBound (context.restrict division.members).graph) [] root) := by
  rw [← chain_restrict (Context.visit_walks _ _)]
  exact mirrors_chain (mirrors_visit hsplits _) _ _ hmem

end Visits

end Division

end VisualScript
