import VisualScript.Pattern.Machine
import VisualScript.Pattern.Meaning
import VisualScript.Pattern.Reading
import VisualScript.Pattern.Size
import VisualScript.Pattern.Words

/-!
# Patterns

A pattern that literals of a type have to match. A literal matches if some part
of it does; a pattern that means the whole literal says so with anchors.
-/

namespace VisualScript

/-- A pattern that can be searched for. -/
structure Pattern where
  machine : Pattern.Machine
  deriving Repr, DecidableEq, Inhabited

namespace Pattern

/-- An expression in a form that can be searched for: a list of words as it stands, and
any other if its machines are small enough. -/
def Regular.searchable? (expression : Regular) : Option Regular :=
  if expression.isDictionary || expression.fits then some expression
  else expression.words?.map fun words => .choice (words.map .text)

/-- The pattern of a text, if the text is one that can be searched for. -/
def ofText? (text : String) : Option Pattern := do
  let (expression, _) ← (← Tree.ofText? text).regular? {}
  return ⟨Machine.ofRegular (← expression.searchable?)⟩

/-- What reads the texts of patterns: the pattern of a text, if the text is one. -/
abbrev Engine := String → Option Pattern

/-- Whether some part of a text matches. -/
def isMatch (pattern : Pattern) (text : String) : Bool := pattern.machine.search text.toList

end Pattern

end VisualScript
