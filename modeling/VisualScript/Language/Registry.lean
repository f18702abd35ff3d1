import VisualScript.Language.Callable
import VisualScript.Language.LanguageType

/-!
# Registries

The types and functions of a language, gathered from the description of its
core and that of its users. Users' types come first and are completed from the
core; functions are taken only if all their types are known. What is left out
is noticed.
-/

namespace VisualScript

/-- Something left out of a language. -/
inductive LanguageNotice where
  /-- A second type with a machine name. -/
  | duplicateType (type : String)
  /-- A pattern that is none, on a type that is kept. -/
  | invalidPattern (type pattern : String)
  | unknownArgumentType (function argument type : String)
  /-- An argument whose type has no values. -/
  | voidArgument (function argument : String)
  | unknownResultType (function type : String)
  /-- A second component with a name. -/
  | duplicateComponent (name : String)
  deriving Repr, DecidableEq, Inhabited

/-- Complete a user's type from a type of the core: the core's word counts where
it says something, but the names and qualifiers stay the user's. -/
def TypeDescription.completedBy (user core : TypeDescription) : TypeDescription where
  machineName := user.machineName
  base := user.base
  displayName := if core.displayName.isEmpty then user.displayName else core.displayName
  isConst := user.isConst
  isRef := user.isRef
  copyable := core.copyable || user.copyable
  isBlock := core.isBlock || user.isBlock
  defaultLiteral := core.defaultLiteral <|> user.defaultLiteral
  template := core.template <|> user.template
  group := core.group <|> user.group
  pattern := core.pattern <|> user.pattern
  values := core.values <|> user.values
  modules := if core.modules.isEmpty then user.modules else core.modules
  parameters := if core.parameters.isEmpty then user.parameters else core.parameters

/-- The type of the core that completes a user's type: that of the base name if
there is one, else that of the type's own name. References have no use for the
base. Of core types with one name the last counts. -/
def CoreDescription.counterpart? (core : CoreDescription) (user : TypeDescription) :
    Option TypeDescription :=
  let named := OrderedMap.ofList (core.types.map fun type => (type.machineName, type))
  match user.base, user.isRef with
  | some base, false => named.get? base <|> named.get? user.machineName
  | _, _ => named.get? user.machineName

/-- The types and functions of a language. -/
structure Registry where
  /-- The types by machine name, in the order of registration. -/
  types : OrderedMap String LanguageType := .empty
  functions : List Callable := []
  any : Option String := none
  /-- The machine name of the type of conditions. -/
  logic : Option String := none
  deriving Repr, DecidableEq, Inhabited

namespace Registry

def get? (registry : Registry) (name : String) : Option LanguageType := registry.types.get? name

def anyType? (registry : Registry) : Option LanguageType := registry.any.bind registry.get?

def logicType? (registry : Registry) : Option LanguageType := registry.logic.bind registry.get?

/-- The name of the wildcard socket where no wildcard type is registered. -/
def anySocketName : String := "any"

def anySocket (registry : Registry) : Socket :=
  (registry.anyType?.map LanguageType.socket).getD (.any anySocketName)

def logicSocket (registry : Registry) : Socket :=
  (registry.logicType?.map LanguageType.socket).getD registry.anySocket

/-- The type of a machine name, the wildcard type where there is none. -/
def getOrAny? (registry : Registry) (name : Option String) : Option LanguageType :=
  name.bind registry.get? <|> registry.anyType?

/-! ## Building -/

/-- Put a type under its machine name. -/
def addType (core : CoreDescription) (registry : Registry) (type : LanguageType) : Registry where
  types := registry.types.insert type.machineName type
  functions := registry.functions
  any := registry.any
  logic := if type.machineName = core.logicType then some type.machineName else registry.logic

/-- Why a function cannot be taken, if so: an argument or the result has an
unknown type, or an argument has a type without values. -/
def refusal? (registry : Registry) (function : FunctionDescription) : Option LanguageNotice :=
  let ofArgument (argument : Argument) : Option LanguageNotice :=
    match registry.get? argument.type with
    | none => some (.unknownArgumentType function.name argument.name argument.type)
    | some type => if type.isVoid then some (.voidArgument function.name argument.name) else none
  function.arguments.findSome? ofArgument <|>
    if registry.types.contains function.result then none
    else some (.unknownResultType function.name function.result)

/-- A registry being built, and what was noticed so far. -/
structure Draft where
  registry : Registry := {}
  notices : List LanguageNotice := []

namespace Draft

def notice (draft : Draft) (notice : LanguageNotice) : Draft :=
  { draft with notices := draft.notices ++ [notice] }

def register (engine : Pattern.Engine) (core : CoreDescription) (draft : Draft)
    (description : TypeDescription) : Draft :=
  let type := LanguageType.ofDescription engine core description
  let draft := { draft with registry := draft.registry.addType core type }
  match type.description.pattern, type.validator with
  | some pattern, none => draft.notice (.invalidPattern type.machineName pattern)
  | _, _ => draft

/-- Register a user's type, completed from the core, unless its name is taken. -/
def addUserType (engine : Pattern.Engine) (core : CoreDescription) (draft : Draft)
    (description : TypeDescription) : Draft :=
  if draft.registry.types.contains description.machineName then
    draft.notice (.duplicateType description.machineName)
  else
    draft.register engine core <|
      match core.counterpart? description with
      | some counterpart => description.completedBy counterpart
      | none => description

/-- Register a type of the core unless its name is taken. -/
def addCoreType (engine : Pattern.Engine) (core : CoreDescription) (draft : Draft)
    (description : TypeDescription) : Draft :=
  if draft.registry.types.contains description.machineName then draft
  else draft.register engine core description

/-- Settle the wildcard type: the first one registered. -/
def settleAny (draft : Draft) : Draft :=
  let any := (draft.registry.types.values.find? LanguageType.isAny).map LanguageType.machineName
  { draft with registry := { draft.registry with any := any } }

/-- Take a function unless there is something against it. -/
def addFunction (origin : Origin) (draft : Draft) (description : FunctionDescription) : Draft :=
  match draft.registry.refusal? description with
  | some refusal => draft.notice refusal
  | none =>
      { draft with
        registry := { draft.registry with
          functions := draft.registry.functions ++ [⟨description, origin⟩] } }

end Draft

/-- The registry of a language and what was left out of it: the types of the
users before those of the core, and the functions likewise. The engine reads the patterns
that literals have to match. -/
def draft (core : CoreDescription) (user : UserDescription)
    (engine : Pattern.Engine := Pattern.ofText?) : Draft :=
  let types := core.types.foldl (Draft.addCoreType engine core)
    (user.types.foldl (Draft.addUserType engine core) {})
  core.functions.foldl (Draft.addFunction .core)
    (user.functions.foldl (Draft.addFunction .user) types.settleAny)

def build (core : CoreDescription) (user : UserDescription)
    (engine : Pattern.Engine := Pattern.ofText?) : Registry :=
  (draft core user engine).registry

end Registry

end VisualScript
