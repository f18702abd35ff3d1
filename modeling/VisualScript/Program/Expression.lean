import VisualScript.Graph.Basic
import VisualScript.Language.Callable

/-!
# Expressions

The values that statements are made of. An expression keeps its parts, so what
it refers to can be read off it. A call keeps its text as well, which is put
together only once however often the value is used.
-/

namespace VisualScript

/-- A value in a program. -/
inductive Expression where
  /-- The local that holds the value of a node. -/
  | name (node : NodeId)
  /-- A parameter of the function that a node defines. -/
  | parameter (definition : NodeId) (key : String)
  | literal (written : String)
  /-- A call of a function with the values of its arguments by name, and its text. -/
  | call (function : Callable) (arguments : OrderedMap String Expression) (written : String)
  deriving Repr, Inhabited

namespace Expression

def text : Expression → String
  | .name node => node.localName
  | .parameter _ key => key
  | .literal written => written
  | .call _ _ written => written

/-- The call of a function with the values of its arguments by name. -/
def ofCall (function : Callable) (arguments : OrderedMap String Expression) : Expression :=
  .call function arguments (function.call (arguments.mapValues text))

@[simp] theorem text_ofCall (function : Callable) (arguments : OrderedMap String Expression) :
    (ofCall function arguments).text = function.call (arguments.mapValues text) := rfl

end Expression

end VisualScript
