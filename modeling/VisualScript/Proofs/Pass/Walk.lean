import VisualScript.Pass.Traversal

/-!
# Walks

What a pass does, told once as a relation between the state before and the state
after each piece of its work. A walk knows neither how deep emissions may nest
nor how long a chain may get; that runs are walks is proved where the bounds are
accounted for. Properties of passes are proved by induction over walks.
-/

namespace VisualScript

/-! ## What the pieces read -/

/-- Where the value of an input comes from. -/
inductive Feed where
  | nothing
  /-- A parameter of the function that a node defines. -/
  | parameter (definition : NodeId) (name : String)
  /-- The value of a node itself. -/
  | value (source : NodeId)

/-- How an argument of a function is declared. -/
inductive Wiring where
  /-- With a literal as its default. -/
  | byLiteral (source : NodeId) (type : LanguageType) (literal : Node)
  /-- By something that cannot be a default. -/
  | unsupported (source : NodeId) (component : String)
  | typed (type : LanguageType)
  | untyped

namespace Context

/-- Where the value of an input comes from: the source of the oldest connection. -/
def feed (context : Context) (consumer : NodeId) (input : String) : Feed :=
  match context.graph.firstIncoming? consumer input with
  | none => .nothing
  | some connection =>
      match context.graph.node? connection.source with
      | none => .nothing
      | some node =>
          if (context.catalog.get? node.name).map Component.kind = some .definition then
            match Surroundings.parameterName? context.graph connection.source
                connection.output with
            | none => .nothing
            | some name => .parameter connection.source name
          else .value connection.source

/-- Whether a node is emitted when its value is asked for. -/
def isOnDemand (context : Context) (id : NodeId) : Bool :=
  (context.component? id).all (·.kind.isOnDemand)

/-- Whether a node may be emitted again where its value cannot be seen. -/
def isPure (context : Context) (id : NodeId) : Bool :=
  (context.component? id).any (·.kind.isPure)

/-- How an argument of a function is declared. -/
def wiring (context : Context) (node : Node) (index : Nat) : Wiring :=
  match context.graph.firstIncoming? node.id (numbered keys.argument index) with
  | some connection =>
      match context.literalType? connection.source,
          context.graph.node? connection.source with
      | some type, some literal => .byLiteral connection.source type literal
      | _, source => .unsupported connection.source ((source.map Node.name).getD "?")
  | none =>
      match ((node.textAt? keys.typeName index).bind context.registry.get?).filter
          fun type => !type.isAny with
      | some type => .typed type
      | none => .untyped

/-- The number of uses of the result of a call. -/
def callUses (context : Context) (function : Callable) (id : NodeId) : Nat :=
  if (context.typeOf? function.result).all LanguageType.isVoid then 0 else context.uses id

/-- Whether the value of a call without an effect is bound to a name. -/
def bindsCall (context : Context) (function : Callable) (id : NodeId) : Bool :=
  !(context.typeOf? function.result).all LanguageType.isVoid &&
    context.binds ((context.typeOf? function.result).any LanguageType.isCopyable)
      (context.callUses function id)

/-- Where the flow goes on behind a node. -/
def nextOf (context : Context) (kind : ComponentKind) (id : NodeId) : Option NodeId :=
  if kind.continuesFlow then
    (context.graph.firstOutgoing? id keys.flowOut).map Connection.target
  else none

end Context

namespace Wiring

/-- The name of the parameter. -/
def name (index : Nat) : Wiring → String
  | byLiteral source _ _ => source.localName
  | unsupported source _ => source.localName
  | typed _ => numbered keys.argument index
  | untyped => numbered keys.argument index

end Wiring

namespace LanguageType

/-- The literal of the type in a node's data. -/
def entered (type : LanguageType) (node : Node) (key : String) : String :=
  (node.text? key).getD type.defaultLiteral

/-- The literal of the type in a node's data, as it is written. -/
def literalIn (type : LanguageType) (node : Node) (key : String) : Expression :=
  .literal (type.write (type.entered node key))

end LanguageType

/-- How a parameter is declared in the header of its function. -/
def Wiring.declaration (index : Nat) : Wiring → String
  | byLiteral source type literal =>
      source.localName ++ " = " ++ (type.literalIn literal keys.value).text
  | unsupported source _ => source.localName
  | typed type => numbered keys.argument index ++ ": " ++ type.displayName
  | untyped => numbered keys.argument index

/-! ## What the pieces change -/

namespace Pass

/-- Check a literal and require the modules of its type. -/
def checkLiteral (pass : Pass) (type : LanguageType) (node : Node) (key : String) : Pass :=
  (if type.accepts (type.entered node key) then pass
  else pass.report .invalidLiteral node.id
    (some ("`" ++ type.entered node key ++ "` is not a valid " ++ type.displayName))).require
      type.modules

/-- Bind a value to the local of its node, or let it stand for the node. -/
def keep (pass : Pass) (id : NodeId) (binds : Bool) (value : Expression) : Pass :=
  if binds then (pass.write id (.bind id value)).dropResult id else pass.setResult id value

/-- Require the modules of a call. -/
def requireCall (pass : Pass) (context : Context) (function : Callable) : Pass :=
  (pass.require (((context.typeOf? function.result).map LanguageType.modules).getD [])
    ).require function.modules

/-- Write or keep a call whose operands are known. -/
def placeCall (pass : Pass) (context : Context) (function : Callable) (id : NodeId)
    (call : Expression) : Pass :=
  if function.hasEffect then
    pass.write id (if context.callUses function id = 0 then .run call else .bind id call)
  else pass.keep id (context.bindsCall function id) call

/-- Declare an argument. -/
def declare (pass : Pass) (definition : NodeId) (index : Nat) : Wiring → Pass
  | .byLiteral source type literal =>
      (pass.checkLiteral type literal keys.value).claim definition source
  | .unsupported _ component => pass.report .unsupportedArgument definition (some component)
  | .typed type => pass.require type.modules
  | .untyped =>
      pass.report .argumentTypeExpected definition (some (numbered keys.argument index))

/-- Report a parameter whose name came before. -/
def noteDuplicate (pass : Pass) (definition : NodeId) (seen : List String) (name : String) :
    Pass :=
  if name ∈ seen then pass.report .duplicateArgument definition (some name) else pass

/-- Write the header of a function. -/
def writeHeader (pass : Pass) (context : Context) (node : Node) (declarations : List String) :
    Pass :=
  (if context.options.exportMarks then pass.write node.id .exportMark else pass).write node.id
    (.definition ((node.text? keys.functionName).getD "") declarations)

/-- Write code as it stands. -/
def writeCode (pass : Pass) (node : Node) : Pass :=
  if ((node.text? keys.code).getD "").isEmpty then pass
  else pass.write node.id (.code ((node.text? keys.code).getD ""))

/-- Declare a variable without a value. -/
def declareTyped (pass : Pass) (context : Context) (node : Node) : Pass :=
  let type := context.registry.getOrAny? (node.text? keys.typeName)
  (match type with
    | some type => pass.require type.modules
    | none => pass).write node.id
      (.declareTyped node.id ((type.map LanguageType.displayName).getD ""))

/-- Let a block say that it does nothing if nothing else is in it. -/
def padded (pass : Pass) (id : NodeId) : Pass :=
  if pass.block.isBlank then pass.write id .pass else pass

/-- Lay a then block into the current one. A blank one is reported. -/
def closeThen (pass : Pass) (id : NodeId) (inner : Block) : Pass :=
  (if inner.isBlank then pass.report .thenBranchExpected id none else pass).splice inner

/-- Lay an else block into the current one unless it is blank. -/
def closeElse (pass : Pass) (id : NodeId) (inner : Block) : Pass :=
  if inner.isBlank then pass else (pass.write id .elseHeader).splice inner

end Pass

/-- What can be said against using the value of a source as things stand: the kind
of the diagnostic, the node it is about, and the detail. -/
inductive Objection (context : Context) (pass : Pass) (consumer source : NodeId) :
    DiagnosticKind → NodeId → Option String → Prop where
  /-- The source is being emitted for its value. -/
  | needsItself (demand : context.isOnDemand source = true) (known : source ∈ pass.initiated)
      (busy : source ∈ pass.emitting) :
      Objection context pass consumer source .dataCycle source none
  /-- The source was emitted out of sight, and not for good. -/
  | boundElsewhere (demand : context.isOnDemand source = true) (known : source ∈ pass.initiated)
      (idle : source ∉ pass.emitting) (hidden : pass.inScope source = false)
      (impure : context.isPure source = false) :
      Objection context pass consumer source .valueOutOfScope consumer (some source.text)
  | underWay (flow : context.isOnDemand source = false) (busy : source ∈ pass.emitting) :
      Objection context pass consumer source .dataCycle source none
  /-- The flow did not reach the source. -/
  | unreached (flow : context.isOnDemand source = false) (idle : source ∉ pass.emitting)
      (unreached : source ∉ pass.reached) :
      Objection context pass consumer source .usedBeforeExecuted consumer (some source.text)
  /-- The flow reached the source out of sight. -/
  | executedElsewhere (flow : context.isOnDemand source = false) (idle : source ∉ pass.emitting)
      (reached : source ∈ pass.reached) (hidden : pass.inScope source = false) :
      Objection context pass consumer source .valueOutOfScope consumer (some source.text)

/-! ## Walks -/

/-- A piece of the work of a pass, with its answer. -/
inductive Task where
  /-- Emit a node and what the flow leads to from it. -/
  | chain (start : NodeId)
  /-- Emit a node. The answer is where the flow goes on. -/
  | visit (id : NodeId) (next : Option NodeId)
  /-- Follow an exit into the current block. -/
  | follow (id : NodeId) (exit : String)
  /-- Follow an exit into a new block. -/
  | inside (id : NodeId) (exit : String) (pads : Bool) (inner : Block)
  /-- Follow the numbered exits one after another. -/
  | exits (id : NodeId) (indices : List Nat)
  /-- Get the value of a source ready. -/
  | supply (consumer source : NodeId)
  /-- Take the value of an input, if there is one. -/
  | input (consumer : NodeId) (key : String) (value : Option Expression)
  /-- Take the value of an input that has to be there. -/
  | demand (consumer : NodeId) (key : String) (value : Option Expression)
  /-- Take the operands of a call. -/
  | operands (node : Node) (arguments : List Argument) (values : List (String × Expression))
  /-- Declare the parameters of a function, given the names of those before. -/
  | parameters (node : Node) (seen : List String) (indices : List Nat)
  /-- Let the component of a node write. -/
  | emission (kind : ComponentKind) (node : Node)

/-- The node that a piece of work is about to settle. -/
def Task.pending : Task → Option NodeId
  | visit id _ => some id
  | _ => none

/-- A piece of work leads from one state of a pass to another, given the nodes on
the flow chains being walked. -/
inductive Walk (context : Context) : List NodeId → Task → Pass → Pass → Prop where
  | turnBack {onChain id pass} (again : id ∈ onChain) :
      Walk context onChain (.chain id) pass (pass.report .flowCycle id none)
  | chainEnd {onChain id pass next} (new : id ∉ onChain)
      (visit : Walk context (id :: onChain) (.visit id none) pass next) :
      Walk context onChain (.chain id) pass next
  | chainOn {onChain id following pass middle next} (new : id ∉ onChain)
      (visit : Walk context (id :: onChain) (.visit id (some following)) pass middle)
      (rest : Walk context (id :: onChain) (.chain following) middle next) :
      Walk context onChain (.chain id) pass next
  | missing {onChain id pass} (absent : context.graph.node? id = none) :
      Walk context onChain (.visit id none) pass pass
  | unknown {onChain id node pass} (found : context.graph.node? id = some node)
      (unknown : context.catalog.get? node.name = none) :
      Walk context onChain (.visit id none) pass
        ((pass.reach id).report .unknownComponent id (some node.name))
  | emitted {onChain id node component answer pass next}
      (found : context.graph.node? id = some node)
      (known : context.catalog.get? node.name = some component)
      (emission : Walk context onChain (.emission component.kind node)
        ((pass.reach id).enter id) next)
      (goesOn : answer = context.nextOf component.kind id) :
      Walk context onChain (.visit id answer) pass (next.leave id)
  | unconnected {onChain id exit pass} (open_ : context.graph.firstOutgoing? id exit = none) :
      Walk context onChain (.follow id exit) pass pass
  | followed {onChain id exit connection pass next}
      (connected : context.graph.firstOutgoing? id exit = some connection)
      (chain : Walk context onChain (.chain connection.target) pass next) :
      Walk context onChain (.follow id exit) pass next
  | inside {onChain id exit pads pass last next}
      (follow : Walk context onChain (.follow id exit) pass.openChild last)
      (close : next = if pads then last.padded id else last) :
      Walk context onChain (.inside id exit pads next.block) pass (next.backTo pass.block)
  | noExits {onChain id pass} : Walk context onChain (.exits id []) pass pass
  | moreExits {onChain id index rest pass middle next}
      (first : Walk context onChain (.follow id (numbered keys.exit index)) pass middle)
      (others : Walk context onChain (.exits id rest) middle next) :
      Walk context onChain (.exits id (index :: rest)) pass next
  | settled {onChain consumer source pass}
      (known : if context.isOnDemand source then source ∈ pass.initiated
        else source ∈ pass.reached)
      (idle : source ∉ pass.emitting) (visible : pass.inScope source = true) :
      Walk context onChain (.supply consumer source) pass pass
  | fresh {onChain consumer source answer pass next} (demand : context.isOnDemand source = true)
      (new : source ∉ pass.initiated)
      (visit : Walk context onChain (.visit source answer) (pass.initiate source) next) :
      Walk context onChain (.supply consumer source) pass next
  | again {onChain consumer source answer pass next} (demand : context.isOnDemand source = true)
      (known : source ∈ pass.initiated) (idle : source ∉ pass.emitting)
      (hidden : pass.inScope source = false) (pure : context.isPure source = true)
      (visit : Walk context onChain (.visit source answer) pass next) :
      Walk context onChain (.supply consumer source) pass next
  | refused {onChain consumer source pass kind node detail}
      (objection : Objection context pass consumer source kind node detail) :
      Walk context onChain (.supply consumer source) pass (pass.report kind node detail)
  | unfed {onChain consumer key pass} (feed : context.feed consumer key = .nothing) :
      Walk context onChain (.input consumer key none) pass pass
  | byParameter {onChain consumer key definition name pass}
      (feed : context.feed consumer key = .parameter definition name) :
      Walk context onChain (.input consumer key (some (.parameter definition name))) pass
        (pass.log (.resolved ⟨consumer, key, pass.block.path, definition,
          .parameter definition name, false⟩))
  | byValue {onChain consumer key source pass next}
      (feed : context.feed consumer key = .value source)
      (supply : Walk context onChain (.supply consumer source) pass next) :
      Walk context onChain (.input consumer key (some (next.valueOf source))) pass
        (next.log (.resolved ⟨consumer, key, pass.block.path, source,
          next.valueOf source, true⟩))
  | found {onChain consumer key value pass next}
      (input : Walk context onChain (.input consumer key (some value)) pass next) :
      Walk context onChain (.demand consumer key (some value)) pass next
  | lacking {onChain consumer key pass next}
      (input : Walk context onChain (.input consumer key none) pass next) :
      Walk context onChain (.demand consumer key none) pass
        (next.report .inputExpected consumer (some key))
  | noOperands {onChain node pass} : Walk context onChain (.operands node [] []) pass pass
  | untypedOperand {onChain node argument rest values pass next}
      (unknown : context.typeOf? argument.type = none)
      (others : Walk context onChain (.operands node rest values) pass next) :
      Walk context onChain (.operands node (argument :: rest) values) pass next
  | optionalOperand {onChain node argument type value rest values pass middle next}
      (known : context.typeOf? argument.type = some type) (text : type.takesText = true)
      (input : Walk context onChain (.input node.id argument.name (some value))
        (pass.require type.modules) middle)
      (others : Walk context onChain (.operands node rest values) middle next) :
      Walk context onChain (.operands node (argument :: rest) ((argument.name, value) :: values))
        pass next
  | enteredOperand {onChain node argument type rest values pass middle next}
      (known : context.typeOf? argument.type = some type) (text : type.takesText = true)
      (input : Walk context onChain (.input node.id argument.name none)
        (pass.require type.modules) middle)
      (others : Walk context onChain (.operands node rest values)
        (middle.checkLiteral type node argument.name) next) :
      Walk context onChain (.operands node (argument :: rest)
        ((argument.name, type.literalIn node argument.name) :: values)) pass next
  | requiredOperand {onChain node argument type value rest values pass middle next}
      (known : context.typeOf? argument.type = some type) (text : type.takesText = false)
      (input : Walk context onChain (.demand node.id argument.name (some value))
        (pass.require type.modules) middle)
      (others : Walk context onChain (.operands node rest values) middle next) :
      Walk context onChain (.operands node (argument :: rest) ((argument.name, value) :: values))
        pass next
  | lackingOperand {onChain node argument type rest values pass middle next}
      (known : context.typeOf? argument.type = some type) (text : type.takesText = false)
      (input : Walk context onChain (.demand node.id argument.name none)
        (pass.require type.modules) middle)
      (others : Walk context onChain (.operands node rest values)
        (middle.checkLiteral type node argument.name) next) :
      Walk context onChain (.operands node (argument :: rest)
        ((argument.name, type.literalIn node argument.name) :: values)) pass next
  | noParameters {onChain node seen pass} :
      Walk context onChain (.parameters node seen []) pass pass
  | moreParameters {onChain node seen index rest pass next}
      (others : Walk context onChain
        (.parameters node ((context.wiring node index).name index :: seen) rest)
        ((pass.declare node.id index (context.wiring node index)).noteDuplicate node.id seen
          ((context.wiring node index).name index)) next) :
      Walk context onChain (.parameters node seen (index :: rest)) pass next
  | unknownLiteral {onChain name node pass} (unknown : context.typeOf? name = none) :
      Walk context onChain (.emission (.literal name) node) pass pass
  | literal {onChain name type node pass} (known : context.typeOf? name = some type) :
      Walk context onChain (.emission (.literal name) node) pass
        ((pass.checkLiteral type node keys.value).keep node.id
          (context.binds type.isCopyable (context.uses node.id)) (type.literalIn node keys.value))
  | call {onChain function node values pass next}
      (operands : Walk context onChain (.operands node function.arguments values) pass next) :
      Walk context onChain (.emission (.call function) node) pass
        ((next.requireCall context function).placeCall context function node.id
          (.ofCall function (.ofList values)))
  | declared {onChain node value pass next}
      (input : Walk context onChain (.input node.id keys.value (some value)) pass next) :
      Walk context onChain (.emission .localVariable node) pass
        (next.write node.id (.declare node.id value))
  | declaredTyped {onChain node pass next}
      (input : Walk context onChain (.input node.id keys.value none) pass next) :
      Walk context onChain (.emission .localVariable node) pass (next.declareTyped context node)
  | bareBranch {onChain node pass next}
      (condition : Walk context onChain (.demand node.id keys.condition none) pass next) :
      Walk context onChain (.emission .branch node) pass next
  | branch {onChain node value thenBlock elseBlock pass start middle next}
      (condition : Walk context onChain (.demand node.id keys.condition (some value)) pass start)
      (thenBranch : Walk context onChain (.inside node.id keys.thenExit false thenBlock)
        (start.write node.id (.ifHeader value)) middle)
      (elseBranch : Walk context onChain (.inside node.id keys.elseExit false elseBlock)
        (middle.closeThen node.id thenBlock) next) :
      Walk context onChain (.emission .branch node) pass (next.closeElse node.id elseBlock)
  | bareLoop {onChain node pass next}
      (condition : Walk context onChain (.demand node.id keys.condition none) pass next) :
      Walk context onChain (.emission .loop node) pass next
  | loop {onChain node value inner pass start next}
      (condition : Walk context onChain (.demand node.id keys.condition (some value)) pass start)
      (body : Walk context onChain (.inside node.id keys.body true inner)
        (start.write node.id (.whileHeader value)) next) :
      Walk context onChain (.emission .loop node) pass (next.splice inner)
  | sequence {onChain node pass next}
      (exits : Walk context onChain
        (.exits node.id (List.range (numberedCount keys.exit node.outputs))) pass next) :
      Walk context onChain (.emission .sequence node) pass next
  | definition {onChain node inner pass start next}
      (parameters : Walk context onChain
        (.parameters node [] (List.range (node.count keys.argumentCount))) pass start)
      (body : Walk context onChain (.inside node.id keys.flowOut true inner)
        (start.writeHeader context node ((List.range (node.count keys.argumentCount)).map
          fun index => (context.wiring node index).declaration index)) next) :
      Walk context onChain (.emission .definition node) pass
        ((next.splice inner).write node.id .blank)
  | code {onChain node pass} :
      Walk context onChain (.emission .code node) pass (pass.writeCode node)
  | topLevelCode {onChain node inner pass next}
      (body : Walk context onChain (.inside node.id keys.flowOut false inner)
        (pass.writeCode node) next) :
      Walk context onChain (.emission .topLevelCode node) pass (next.splice inner)

/-- Top-level nodes are emitted one after another, the first of them as the root
with the given index, each into a root block of its own. -/
inductive Tour (context : Context) : Nat → List NodeId → List Written → Pass → Pass → Prop where
  | done {index pass} : Tour context index [] [] pass pass
  | root {index id rest written pass middle next}
      (first : Walk context [] (.chain id) (pass.openBlock (Block.root index)) middle)
      (others : Tour context (index + 1) rest written middle next) :
      Tour context index (id :: rest) (middle.block.content ++ written) pass next

end VisualScript
