/-!
# Texts by their beginnings

What reads one of many texts reads what they have in common only once.
-/

namespace VisualScript.Pattern

/-- Add a text, given by its first part and the rest, to others that are grouped by
their first part. -/
def addText {α : Type} [DecidableEq α] (first : α) (rest : List α) :
    List (α × List (List α)) → List (α × List (List α))
  | [] => [(first, [rest])]
  | (other, rests) :: groups =>
      if first = other then (other, rest :: rests) :: groups
      else (other, rests) :: addText first rest groups

/-- The texts that are not empty, grouped by their first part, which is taken off. -/
def byBeginning {α : Type} [DecidableEq α] (texts : List (List α)) :
    List (α × List (List α)) :=
  texts.foldr (fun text groups => match text with
    | [] => groups
    | first :: rest => addText first rest groups) []

/-- The length of the longest of some texts. -/
def longest {α : Type} (texts : List (List α)) : Nat :=
  texts.foldl (fun length text => max length text.length) 0

end VisualScript.Pattern
