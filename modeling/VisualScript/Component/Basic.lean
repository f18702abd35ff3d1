import VisualScript.Graph.Basic
import VisualScript.Language.Registry

/-!
# Components

What a node can be an instance of: a literal of a type, a call of a function, or
one of the built-in components that steer execution.
-/

namespace VisualScript

/-- What a component does. -/
inductive ComponentKind where
  /-- A literal of the type with a machine name. -/
  | literal (type : String)
  | call (function : Callable)
  | branch
  | loop
  | sequence
  /-- The definition of a function of the program, where execution starts. -/
  | definition
  /-- A local that can be assigned to. -/
  | localVariable
  /-- Code that is put in the flow as it stands. -/
  | code
  /-- Code that is put at the top of the program as it stands. -/
  | topLevelCode
  deriving Repr, DecidableEq, Inhabited

/-- A component with its name and its path in menus. -/
structure Component where
  name : String
  group : List String
  kind : ComponentKind
  deriving Repr, DecidableEq, Inhabited

namespace ComponentKind

/-- Whether a pass starts from such nodes. -/
def isTopLevel : ComponentKind → Bool
  | definition => true
  | topLevelCode => true
  | _ => false

/-- Whether a node is emitted when its value is first asked for, and not when
the flow of execution reaches it. -/
def isOnDemand : ComponentKind → Bool
  | literal _ => true
  | localVariable => true
  | call function => !function.hasEffect
  | _ => false

/-- Whether emitting a node again gives the same value. -/
def isPure : ComponentKind → Bool
  | literal _ => true
  | call function => !function.hasEffect
  | _ => false

/-- Whether the flow goes on behind a node. -/
def continuesFlow : ComponentKind → Bool
  | call function => function.hasEffect
  | branch => true
  | loop => true
  | code => true
  | _ => false

end ComponentKind

/-- The keys of the ports that components share, and of the data they read. -/
structure Keys where
  flowIn : String := "fin"
  flowOut : String := "fout"
  result : String := "result"
  condition : String := "inValue"
  value : String := "value"
  thenExit : String := "then"
  elseExit : String := "else"
  body : String := "body"
  /-- What the keys of numbered inputs and outputs start with. -/
  argument : String := "arg"
  exit : String := "out"
  /-- Data fields. -/
  exitCount : String := "numExits"
  argumentCount : String := "numArgs"
  typeName : String := "typeName"
  functionName : String := "name"
  code : String := "code"

/-- The keys in use. -/
def keys : Keys := {}

/-- The key of a numbered port. -/
def numbered (stem : String) (index : Nat) : String := stem ++ toString index

/-- How many ports numbered from zero on a map has without a gap. -/
def numberedCount (stem : String) (ports : OrderedMap String Port) : Nat :=
  ((List.range ports.size).takeWhile fun index => ports.contains (numbered stem index)).length

end VisualScript
