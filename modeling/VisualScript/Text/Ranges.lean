import VisualScript.Text.Digits
import VisualScript.Text.Line

/-!
# Ranges of code points as text

The tables of characters are texts. They list ranges of code points in hexadecimal digits,
with blanks between them: `41-5a` is a range, first and last included, `aa` is one code
point, and `100-12e/2` is every second code point of a range.
-/

namespace VisualScript.Text

/-- The pieces between the blanks and newlines, one more than there are of them. -/
def words : List Char → List (List Char)
  | [] => [[]]
  | c :: rest => if c = ' ' ∨ c = '\n' then [] :: words rest else consFirst c (words rest)

/-- The number that hexadecimal digits write. -/
def codePoint (digits : List Char) : Nat :=
  digits.foldl (fun value digit => value * 16 + (hexValue? digit).getD 0) 0

/-- What stands before the first of the given marks, and behind it if there is one. -/
def cutAt (mark : Char) (text : List Char) : List Char × Option (List Char) :=
  match text.span (· ≠ mark) with
  | (before, []) => (before, none)
  | (before, _ :: behind) => (before, some behind)

/-- The code points from the first to the last, in steps. -/
def runMembers (first last step : Nat) : List Nat :=
  (List.range ((last - first) / step + 1)).map fun i => first + i * step

/-- The ranges that a word of a table stands for. -/
def rangesOfWord (word : List Char) : List (Nat × Nat) :=
  let (first, rest) := cutAt '-' word
  match rest.map (cutAt '/') with
  | none => [(codePoint first, codePoint first)]
  | some (last, none) => [(codePoint first, codePoint last)]
  | some (last, some step) =>
      (runMembers (codePoint first) (codePoint last) (codePoint step)).map fun n => (n, n)

/-- The ranges that a table lists. -/
def rangesOf (table : String) : List (Nat × Nat) :=
  ((words table.toList).filter fun word => !word.isEmpty).flatMap rangesOfWord

example : rangesOf "41-5a aa 100-104/2" =
    [(0x41, 0x5A), (0xAA, 0xAA), (0x100, 0x100), (0x102, 0x102), (0x104, 0x104)] := by
  decide

end VisualScript.Text
