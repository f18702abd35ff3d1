import VisualScript.Language.Description
import VisualScript.Language.Operator
import VisualScript.Language.Template

/-!
# Functions that can be called

A registered function, and how a call of it is written: by its template, else
as an operator, else by its name with the arguments in parentheses.
-/

namespace VisualScript

/-- Which part of a language a function comes from. -/
inductive Origin where
  | core
  | user
  deriving Repr, DecidableEq, Inhabited

/-- A function of a language. -/
structure Callable where
  description : FunctionDescription
  origin : Origin
  deriving Repr, DecidableEq, Inhabited

namespace Callable

def name (function : Callable) : String := function.description.name

/-- The machine name, by which the function is found in menus. -/
def machineName (function : Callable) : String := function.description.machineName

/-- The machine name of the type of the result. -/
def result (function : Callable) : String := function.description.result

/-- The arguments in the order of the call. -/
def arguments (function : Callable) : List Argument := function.description.arguments

/-- Whether a call does more than give a result. -/
def hasEffect (function : Callable) : Bool := function.description.hasEffect

def modules (function : Callable) : List String := function.description.modules

/-- The text of a call with the given argument texts, empty where one is missing. -/
def call (function : Callable) (texts : OrderedMap String String) : String :=
  match function.description.template with
  | some template => Template.fill template none texts
  | none =>
      let operands := function.arguments.map fun argument => (texts.get? argument.name).getD ""
      (Operator.render? function.name operands).getD
        (function.name ++ "(" ++ ", ".intercalate operands ++ ")")

end Callable

end VisualScript
