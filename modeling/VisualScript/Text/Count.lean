import VisualScript.Text.Blank
import VisualScript.Text.Digits

/-!
# Counts in texts

Natural numbers of 64 bits as they are written in data fields and port names:
decimal digits, with a plus sign in front of them if one likes.
-/

namespace VisualScript.Text

/-- The largest count, `2 ^ 64 - 1`. -/
def largestCount : Nat := 0xFFFFFFFFFFFFFFFF

/-- The count that a text writes. -/
def count? (text : List Char) : Option Nat :=
  let digits := match text with
    | '+' :: rest => rest
    | text => text
  if digits.isEmpty || !digits.all Char.isDigit then none
  else if natOfDigits digits ≤ largestCount then some (natOfDigits digits) else none

end VisualScript.Text
