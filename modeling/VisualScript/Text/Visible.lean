/-!
# Visible text

How text is shown in a terminal: tabs as four blanks, control characters as
their pictures, and nothing that changes the direction of writing.
-/

namespace VisualScript.Text

/-- What is shown for a character. -/
def visible (c : Char) : List Char :=
  let n := c.toNat
  if c = '\n' then [c]
  else if c = '\t' then [' ', ' ', ' ', ' ']
  else if n < 0x20 then [Char.ofNat (0x2400 + n)]
  else if n = 0x7F then [Char.ofNat 0x2421]
  else if n = 0x200D then []
  else if (0x202A ≤ n ∧ n ≤ 0x202E) ∨ (0x2066 ≤ n ∧ n ≤ 0x2069) then [Char.ofNat 0xFFFD]
  else [c]

/-- What is shown for a text. -/
def visibleText (text : List Char) : List Char := text.flatMap visible

/-- A tab as four blanks, anything else as it is. -/
def expandTab (c : Char) : List Char := if c = '\t' then [' ', ' ', ' ', ' '] else [c]

end VisualScript.Text
