import VisualScript.Pass.Basic

/-!
# Emission

How the components write themselves. Emission asks the traversal around it for
other nodes: values are emitted when they are first needed, flow when an exit
leads to it.
-/

namespace VisualScript

/-- Emit a node into the current block, given the nodes on the flow chains being
walked. The answer is where the flow goes on. -/
abbrev Visit := List NodeId → NodeId → Emit (Option NodeId)

/-- What the emission of a node has around it. -/
structure Surroundings where
  context : Context
  /-- How other nodes are emitted. -/
  visit : Visit
  /-- The nodes on the flow chains being walked. -/
  onChain : List NodeId

namespace Surroundings

/-! ## Flow -/

/-- Emit a node and then everything the flow leads to from it. A node that is on
a chain already is not emitted again. No chain has more steps than the bound. -/
def chain (visit : Visit) : Nat → List NodeId → NodeId → Emit Unit
  | 0, _, _ => return
  | bound + 1, onChain, id => do
      if id ∈ onChain then Emit.report .flowCycle id none
      else
        match ← visit (id :: onChain) id with
        | some next => chain visit bound (id :: onChain) next
        | none => return

/-- A bound on the steps of a chain: every node of the graph, one that is none,
and the one at which the chain turns back. -/
def chainBound (graph : Graph) : Nat := graph.size + 2

/-- Follow an exit into the current block, if it is connected. -/
def follow (around : Surroundings) (id : NodeId) (exit : String) : Emit Unit :=
  match around.context.graph.firstOutgoing? id exit with
  | some connection =>
      chain around.visit (chainBound around.context.graph) around.onChain connection.target
  | none => return

/-- Follow an exit into a new block. -/
def followInside (around : Surroundings) (id : NodeId) (exit : String) : Emit Block :=
  Emit.inChild (around.follow id exit)

/-! ## Values -/

/-- The name under which the body of a function sees the parameter behind one of
the outputs of its definition: the local of what is wired into the argument, else
the key of the argument. -/
def parameterName? (graph : Graph) (definition : NodeId) (output : String) : Option String := do
  let stem := keys.exit.toList
  if !stem.isPrefixOf output.toList then none
  let index ← Text.count? (output.toList.drop stem.length)
  let input := numbered keys.argument index
  match graph.firstIncoming? definition input with
  | some connection => return connection.source.localName
  | none => return input

/-- Report that a consumer cannot see what a source bound. -/
def reportOutOfScope (consumer source : NodeId) : Emit Unit :=
  Emit.report .valueOutOfScope consumer (some source.text)

/-- Emit an on-demand source the first time its value is needed. A pure source
that was emitted where the current block cannot see it is emitted again; any
other is reported. -/
def initiate (around : Surroundings) (consumer source : NodeId) : Emit Unit := do
  let pass ← get
  if source ∉ pass.initiated then
    modify (·.initiate source)
    discard (around.visit around.onChain source)
  else if source ∈ pass.emitting then Emit.report .dataCycle source none
  else if pass.inScope source then return
  else if (around.context.component? source).any (·.kind.isPure) then
    discard (around.visit around.onChain source)
  else reportOutOfScope consumer source

/-- Check that a source that the flow has to reach was reached and can be seen. -/
def checkReached (consumer source : NodeId) : Emit Unit := do
  let pass ← get
  if source ∈ pass.emitting then Emit.report .dataCycle source none
  else if source ∉ pass.reached then
    Emit.report .usedBeforeExecuted consumer (some source.text)
  else if !pass.inScope source then reportOutOfScope consumer source

/-- The value connected to an input, if there is one. -/
def optionalInput (around : Surroundings) (consumer : NodeId) (input : String) :
    Emit (Option Expression) := do
  let some connection := around.context.graph.firstIncoming? consumer input | return none
  let source := connection.source
  let some node := around.context.graph.node? source | return none
  let kind := (around.context.catalog.get? node.name).map Component.kind
  let scope := (← get).block.path
  if kind = some .definition then
    match parameterName? around.context.graph source connection.output with
    | none => return none
    | some name =>
        Emit.log (.resolved ⟨consumer, input, scope, source, .parameter source name, false⟩)
        return some (.parameter source name)
  if kind.all ComponentKind.isOnDemand then around.initiate consumer source
  else checkReached consumer source
  let value := (← get).valueOf source
  Emit.log (.resolved ⟨consumer, input, scope, source, value, true⟩)
  return some value

/-- The value connected to an input. That there is none is reported. -/
def input (around : Surroundings) (consumer : NodeId) (key : String) :
    Emit (Option Expression) := do
  let value ← around.optionalInput consumer key
  if value.isNone then Emit.report .inputExpected consumer (some key)
  return value

/-! ## Literals and calls -/

/-- The literal of a type in a node's data. One that the type does not take is
reported but written all the same. -/
def literal (type : LanguageType) (node : Node) (key : String) : Emit Expression := do
  let entered := (node.text? key).getD type.defaultLiteral
  if !type.accepts entered then
    Emit.report .invalidLiteral node.id
      (some ("`" ++ entered ++ "` is not a valid " ++ type.displayName))
  Emit.require type.modules
  return .literal (type.write entered)

/-- Bind a value to the local of its node, which stands for the node from then on,
or let the value itself stand for the node. -/
def bindOrKeep (id : NodeId) (binds : Bool) (value : Expression) : Emit Unit := do
  if binds then
    Emit.write id (.bind id value)
    modify (·.dropResult id)
  else modify (·.setResult id value)

def emitLiteral (around : Surroundings) (type : String) (node : Node) : Emit Unit := do
  let some type := around.context.typeOf? type | return
  let value ← literal type node keys.value
  bindOrKeep node.id (around.context.binds type.isCopyable (around.context.uses node.id)) value

/-- The value of an argument of a call: what is connected, else the literal in
the node's data. An argument whose type has no literals has to be connected. -/
def operand (around : Surroundings) (node : Node) (argument : Argument) :
    Emit (Option (String × Expression)) := do
  let some type := around.context.typeOf? argument.type | return none
  Emit.require type.modules
  let connected ←
    if type.takesText then around.optionalInput node.id argument.name
    else around.input node.id argument.name
  match connected with
  | some value => return some (argument.name, value)
  | none => return some (argument.name, ← literal type node argument.name)

/-- Emit a call. A call with an effect is written where the flow is; the value
of one without is bound or kept like a literal. -/
def emitCall (around : Surroundings) (function : Callable) (node : Node) : Emit Unit := do
  let operands ← function.arguments.mapM (around.operand node)
  let result := around.context.typeOf? function.result
  Emit.require ((result.map LanguageType.modules).getD [])
  Emit.require function.modules
  let call := Expression.ofCall function (.ofList (operands.filterMap id))
  let isVoid := result.all LanguageType.isVoid
  let uses := if isVoid then 0 else around.context.uses node.id
  if function.hasEffect then
    Emit.write node.id (if uses = 0 then .run call else .bind node.id call)
  else
    bindOrKeep node.id
      (!isVoid && around.context.binds (result.any LanguageType.isCopyable) uses) call

/-- Emit a variable: declared with the value connected to it, else with the type
selected in its data. -/
def emitVariable (around : Surroundings) (node : Node) : Emit Unit := do
  match ← around.optionalInput node.id keys.value with
  | some value => Emit.write node.id (.declare node.id value)
  | none =>
      let type := around.context.registry.getOrAny? (node.text? keys.typeName)
      if let some type := type then Emit.require type.modules
      Emit.write node.id
        (.declareTyped node.id ((type.map LanguageType.displayName).getD ""))

/-! ## Control -/

/-- Emit a branch. The else block is left out if it is blank; a blank then block
is reported. -/
def emitBranch (around : Surroundings) (node : Node) : Emit Unit := do
  let some condition ← around.input node.id keys.condition | return
  Emit.write node.id (.ifHeader condition)
  let thenBlock ← around.followInside node.id keys.thenExit
  if thenBlock.isBlank then Emit.report .thenBranchExpected node.id none
  Emit.splice thenBlock
  let elseBlock ← around.followInside node.id keys.elseExit
  if !elseBlock.isBlank then
    Emit.write node.id .elseHeader
    Emit.splice elseBlock

/-- Follow an exit into a new block that does nothing if nothing else is in it. -/
def body (around : Surroundings) (id : NodeId) (exit : String) : Emit Block :=
  Emit.inChild do
    around.follow id exit
    if (← get).block.isBlank then Emit.write id .pass

def emitLoop (around : Surroundings) (node : Node) : Emit Unit := do
  let some condition ← around.input node.id keys.condition | return
  Emit.write node.id (.whileHeader condition)
  Emit.splice (← around.body node.id keys.body)

/-- Emit a sequence: follow its exits one after another into the current block. -/
def emitSequence (around : Surroundings) (node : Node) : Emit Unit :=
  (List.range (numberedCount keys.exit node.outputs)).forM fun index =>
    around.follow node.id (numbered keys.exit index)

/-- Emit code as it stands. At the top level the flow goes on one scope deeper. -/
def emitCode (around : Surroundings) (topLevel : Bool) (node : Node) : Emit Unit := do
  let code := (node.text? keys.code).getD ""
  if !code.isEmpty then Emit.write node.id (.code code)
  if topLevel then Emit.splice (← around.followInside node.id keys.flowOut)

/-! ## Functions -/

/-- Declare a parameter whose argument something is wired into. A literal becomes
its default and emits nothing of its own; anything else is reported. -/
def wiredParameter (around : Surroundings) (definition source : NodeId) :
    Emit (String × String) := do
  let name := source.localName
  match around.context.literalType? source, around.context.graph.node? source with
  | some type, some node =>
      let value ← literal type node keys.value
      modify (·.claim definition source)
      return (name, name ++ " = " ++ value.text)
  | _, node =>
      Emit.report .unsupportedArgument definition (some ((node.map Node.name).getD "?"))
      return (name, name)

/-- Declare a parameter whose argument nothing is wired into, with the type
selected in the node's data. The wildcard is no type for a parameter. -/
def typedParameter (around : Surroundings) (node : Node) (index : Nat) :
    Emit (String × String) := do
  let key := numbered keys.argument index
  let type := (node.textAt? keys.typeName index).bind around.context.registry.get?
  match type.filter fun type => !type.isAny with
  | some type =>
      Emit.require type.modules
      return (key, key ++ ": " ++ type.displayName)
  | none =>
      Emit.report .argumentTypeExpected node.id (some key)
      return (key, key)

/-- Declare a parameter. The answer is its name and its declaration. -/
def parameter (around : Surroundings) (node : Node) (index : Nat) : Emit (String × String) :=
  match around.context.graph.firstIncoming? node.id (numbered keys.argument index) with
  | some connection => around.wiredParameter node.id connection.source
  | none => around.typedParameter node index

/-- Declare parameters. A name that comes again is reported each time. -/
def parameters (around : Surroundings) (node : Node) (seen : List String) :
    List Nat → Emit (List String)
  | [] => return []
  | index :: rest => do
      let (name, declaration) ← around.parameter node index
      if name ∈ seen then Emit.report .duplicateArgument node.id (some name)
      return declaration :: (← around.parameters node (name :: seen) rest)

/-- Emit the definition of a function. -/
def emitDefinition (around : Surroundings) (node : Node) : Emit Unit := do
  let declarations ← around.parameters node [] (List.range (node.count keys.argumentCount))
  if around.context.options.exportMarks then Emit.write node.id .exportMark
  Emit.write node.id (.definition ((node.text? keys.functionName).getD "") declarations)
  Emit.splice (← around.body node.id keys.flowOut)
  Emit.write node.id .blank

def emit (around : Surroundings) (kind : ComponentKind) (node : Node) : Emit Unit :=
  match kind with
  | .literal type => around.emitLiteral type node
  | .call function => around.emitCall function node
  | .branch => around.emitBranch node
  | .loop => around.emitLoop node
  | .sequence => around.emitSequence node
  | .definition => around.emitDefinition node
  | .localVariable => around.emitVariable node
  | .code => around.emitCode false node
  | .topLevelCode => around.emitCode true node

end Surroundings

end VisualScript
