import VisualScript.Component.Basic
import VisualScript.Graph.Basic

/-!
# The ports of a fresh node

What ports a component gives a node, as far as its data goes, and what it fills
into the data where a field is missing.
-/

namespace VisualScript

namespace Node

/-- Add the input through which the flow arrives. -/
def addFlowIn (node : Node) : Node := node.addInput keys.flowIn .flow

/-- Add an output through which the flow leaves. -/
def addFlowOut (node : Node) (key : String) : Node := node.addOutput key .flow

/-- Add the exits of a sequence from one number up to another, the second left out. -/
def addExits (node : Node) (first last : Nat) : Node :=
  (List.range' first (last - first)).foldl
    (fun node index => node.addFlowOut (numbered keys.exit index)) node

/-- The socket of the type that a node's data selects, the wildcard where there
is no such type. -/
def selectedSocket (registry : Registry) (selected : Option String) : Socket :=
  ((registry.getOrAny? selected).map LanguageType.socket).getD registry.anySocket

/-- Add the ports of an argument of a function: the input that takes its default
and the output that gives its value to the body. -/
def addArgument (registry : Registry) (node : Node) (index : Nat) : Node :=
  let label := toString (index + 1)
  let input : Port := ⟨"Argument " ++ label, registry.anySocket⟩
  let output : Port :=
    ⟨"Output " ++ label, selectedSocket registry (node.textAt? keys.typeName index)⟩
  (node.addInput (numbered keys.argument index) input).addOutput (numbered keys.exit index) output

/-- Add the ports of arguments from one number up to another, the second left out. -/
def addArguments (registry : Registry) (node : Node) (first last : Nat) : Node :=
  (List.range' first (last - first)).foldl (addArgument registry) node

/-- Add the input of an argument of a call, with the default literal of its type
where nothing was entered. -/
def addOperand (typeOf? : String → Option LanguageType) (node : Node) (argument : Argument) :
    Node :=
  match typeOf? argument.type with
  | none => node
  | some type =>
      let node := node.addInput argument.name ⟨argument.name, type.socket⟩
      match type.description.defaultLiteral with
      | some literal => node.setNewData argument.name (.string literal)
      | none => node

def addCall (typeOf? : String → Option LanguageType) (function : Callable) (node : Node) : Node :=
  let node := match typeOf? function.result with
    | some type =>
        if type.isVoid then node else node.addOutput keys.result ⟨"Result", type.socket⟩
    | none => node
  let node := if function.hasEffect then node.addFlowIn.addFlowOut keys.flowOut else node
  function.arguments.foldl (addOperand typeOf?) node

def addCondition (registry : Registry) (node : Node) : Node :=
  node.addInput keys.condition ⟨"Condition", registry.logicSocket⟩

end Node

/-- Give a node the ports of a component, and the data that it lacks. The types that the
component names are found in the registry unless it is said how. -/
def ComponentKind.build (kind : ComponentKind) (registry : Registry) (node : Node)
    (typeOf? : String → Option LanguageType := registry.get?) : Node :=
  match kind with
  | literal name =>
      match typeOf? name with
      | none => node
      | some type =>
          (node.addOutput keys.result ⟨"Result", type.socket⟩).setNewData keys.value
            (.string type.defaultLiteral)
  | call function => node.addCall typeOf? function
  | branch =>
      (((node.addFlowIn.addFlowOut keys.flowOut).addFlowOut keys.thenExit).addFlowOut
        keys.elseExit).addCondition registry
  | loop => ((node.addFlowIn.addFlowOut keys.flowOut).addFlowOut keys.body).addCondition registry
  | sequence => node.addFlowIn.addExits 0 (node.count keys.exitCount)
  | definition =>
      (node.addFlowOut keys.flowOut).addArguments registry 0 (node.count keys.argumentCount)
  | localVariable =>
      (node.addOutput keys.result
        ⟨"Result", Node.selectedSocket registry (node.text? keys.typeName)⟩).addInput keys.value
          ⟨"Value", registry.anySocket⟩
  | code => (node.addFlowIn.addFlowOut keys.flowOut).setNewData keys.code (.string "")
  | topLevelCode => (node.addFlowOut keys.flowOut).setNewData keys.code (.string "")

end VisualScript
