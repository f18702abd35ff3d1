/-!
# Operators

Functions whose name is an operator are called by it. A binary call is put in
parentheses, a call with one operand is not.
-/

namespace VisualScript.Operator

/-- The names of operators between two operands. -/
def binary : List String :=
  ["+", "-", "*", "/", "%", "==", "!=", "<", ">", "<=", ">=", "&&", "||", "^^", "&", "|", "^",
    "<<", ">>", "<<<", ">>>"]

/-- The names of operators in front of their operand. -/
def leading : List String := ["!", "~", "-", "+", "++", "--"]

/-- The names of operators behind their operand, and how they are written. -/
def trailing : List (String × String) := [("+++", "++"), ("---", "--")]

/-- The call of a name as an operator, if the name is one for so many operands. -/
def render? (name : String) (operands : List String) : Option String :=
  match operands with
  | [left, right] =>
      if name ∈ binary then some ("(" ++ left ++ " " ++ name ++ " " ++ right ++ ")") else none
  | [operand] =>
      if name ∈ leading then some (name ++ operand)
      else (trailing.lookup name).map fun sign => operand ++ sign
  | _ => none

end VisualScript.Operator
