import VisualScript.Language.Description
import VisualScript.Language.Template
import VisualScript.Pattern.Basic
import VisualScript.Socket

/-!
# Types of a language

A registered type: its description, its standing in the language, and which
literals it takes and how they are written.
-/

namespace VisualScript

structure LanguageType where
  description : TypeDescription
  /-- Whether the type has no values. -/
  isVoid : Bool
  /-- Whether the type stands for all types. -/
  isAny : Bool
  /-- What literals have to match. A pattern that could not be read asks nothing. -/
  validator : Option Pattern
  deriving Repr, DecidableEq, Inhabited

namespace LanguageType

def ofDescription (engine : Pattern.Engine) (core : CoreDescription)
    (description : TypeDescription) : LanguageType where
  description := description
  isVoid := core.isVoid description.machineName
  isAny := core.isAny description.machineName
  validator := description.pattern.bind engine

def machineName (type : LanguageType) : String := type.description.machineName

/-- The name in declarations and menus. -/
def displayName (type : LanguageType) : String := type.description.displayName

/-- Whether values may be bound to a local name. -/
def isCopyable (type : LanguageType) : Bool := type.description.copyable

def isRef (type : LanguageType) : Bool := type.description.isRef

def modules (type : LanguageType) : List String := type.description.modules

/-- The literal used where none was entered. -/
def defaultLiteral (type : LanguageType) : String := type.description.defaultLiteral.getD ""

/-- The socket of ports that carry the type. Qualified types share the name of
the type they qualify. -/
def socket (type : LanguageType) : Socket :=
  let name := type.description.base.getD type.machineName
  if type.isAny then .any name
  else .data name (Qualifier.ofFlags type.description.isConst type.description.isRef)

/-- Whether literals can be entered as text: the description says which are
valid or how they are written. -/
def takesText (type : LanguageType) : Bool :=
  type.description.pattern.isSome || type.description.template.isSome ||
    type.description.values.isSome

/-- Whether a literal is valid: one of the values, if they are listed, and a
match of the pattern, if there is one. -/
def accepts (type : LanguageType) (literal : String) : Bool :=
  type.description.values.all (·.contains literal) && type.validator.all (·.isMatch literal)

/-- How a literal is written. -/
def write (type : LanguageType) (literal : String) : String :=
  match type.description.template with
  | some template => Template.fill template (some literal) .empty
  | none => literal

end LanguageType

end VisualScript
