/-!
# Descriptions of a language

What a language service tells about its types and functions: a core that is
always there, and the user's types and functions on top of it. Descriptions are
plain data. Nothing here checks that the names in them refer to anything.
-/

namespace VisualScript

/-- A named argument and the machine name of its type. -/
structure Argument where
  name : String
  type : String
  deriving Repr, DecidableEq, Inhabited

/-- A type. Other descriptions refer to it by its machine name. -/
structure TypeDescription where
  machineName : String := ""
  /-- The machine name of the value type that this type qualifies. -/
  base : Option String := none
  /-- The name in generated declarations and menus. -/
  displayName : String := ""
  isConst : Bool := false
  isRef : Bool := false
  /-- Values can be copied into a local binding. -/
  copyable : Bool := false
  isBlock : Bool := false
  /-- The literal used where none was entered. -/
  defaultLiteral : Option String := none
  /-- How a literal is written, with placeholders for what was entered. -/
  template : Option String := none
  group : Option String := none
  /-- What a literal has to match. -/
  pattern : Option String := none
  /-- The literals that may be entered. -/
  values : Option (List String) := none
  /-- The modules that a program has to require to use the type. -/
  modules : List String := []
  /-- The parameters of the type itself, such as the fields of a structure. -/
  parameters : List Argument := []
  deriving Repr, DecidableEq, Inhabited

structure FunctionDescription where
  /-- The display name, and the name of a call that has no template. -/
  name : String := ""
  /-- The machine name that was given, empty if there is none. -/
  givenMachineName : String := ""
  /-- The machine name of the type of the result. -/
  result : String := ""
  arguments : List Argument := []
  /-- Functions with an effect take part in the flow of execution. -/
  hasEffect : Bool := false
  /-- How a call is written, with placeholders for the arguments. -/
  template : Option String := none
  /-- The modules that a program has to require to call the function. -/
  modules : List String := []
  deriving Repr, DecidableEq, Inhabited

/-- The machine name of a function, its display name if none was given. -/
def FunctionDescription.machineName (description : FunctionDescription) : String :=
  if description.givenMachineName.isEmpty then description.name else description.givenMachineName

/-- The part of a language that is always there. -/
structure CoreDescription where
  /-- The machine name of the type of conditions. -/
  logicType : String := ""
  /-- The machine names of the wildcard types. -/
  anyTypes : List String := []
  /-- The machine names of the types without values. -/
  voidTypes : List String := []
  types : List TypeDescription := []
  functions : List FunctionDescription := []
  deriving Repr, DecidableEq, Inhabited

/-- The part of a language that its users add. -/
structure UserDescription where
  types : List TypeDescription := []
  functions : List FunctionDescription := []
  deriving Repr, DecidableEq, Inhabited

namespace CoreDescription

/-- Whether a machine name is that of a wildcard type. -/
def isAny (core : CoreDescription) (name : String) : Bool := core.anyTypes.contains name

/-- Whether a machine name is that of a type without values. -/
def isVoid (core : CoreDescription) (name : String) : Bool := core.voidTypes.contains name

end CoreDescription

end VisualScript
