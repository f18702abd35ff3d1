/-!
# Lines of a text

Two ways to cut a text at its newlines: into the pieces between them, and into
the pieces that keep the newline they end with. Laying the pieces end to end
gives the text back.
-/

namespace VisualScript.Text

/-- Add a character in front of the first of some pieces. -/
def consFirst (c : Char) : List (List Char) → List (List Char)
  | [] => [[c]]
  | piece :: rest => (c :: piece) :: rest

/-- The pieces between the newlines, one more than there are newlines. -/
def pieces : List Char → List (List Char)
  | [] => [[]]
  | c :: rest => if c = '\n' then [] :: pieces rest else consFirst c (pieces rest)

/-- The pieces that end after each newline. The last one may end without a
newline, and there is no empty piece. -/
def endedPieces : List Char → List (List Char)
  | [] => []
  | c :: rest => if c = '\n' then [c] :: endedPieces rest else consFirst c (endedPieces rest)

/-- Drop the newline, or the carriage return and newline, that a piece ends with. -/
def dropEnding (piece : List Char) : List Char :=
  match piece.reverse with
  | '\n' :: '\r' :: rest => rest.reverse
  | '\n' :: rest => rest.reverse
  | _ => piece

/-- The lines of a text without their endings. -/
def lines (text : List Char) : List (List Char) := (endedPieces text).map dropEnding

/-- The number of bytes that characters take in UTF-8. -/
def byteLength : List Char → Nat
  | [] => 0
  | c :: rest => c.utf8Size + byteLength rest

/-- Texts laid end to end take the bytes of both. -/
@[simp] theorem byteLength_append (first second : List Char) :
    byteLength (first ++ second) = byteLength first + byteLength second := by
  induction first with
  | nil => simp [byteLength]
  | cons c rest ih => simp [byteLength, ih, Nat.add_assoc]

theorem flatten_consFirst (c : Char) (ps : List (List Char)) :
    (consFirst c ps).flatten = c :: ps.flatten := by
  cases ps <;> rfl

/-- Nothing is lost between the pieces that keep their newlines. -/
theorem flatten_endedPieces (text : List Char) : (endedPieces text).flatten = text := by
  induction text with
  | nil => rfl
  | cons c rest ih =>
      by_cases hc : c = '\n' <;> simp [endedPieces, hc, flatten_consFirst, ih]

theorem pieces_ne_nil (text : List Char) : pieces text ≠ [] := by
  cases text with
  | nil => simp [pieces]
  | cons c rest =>
      by_cases hc : c = '\n'
      · simp [pieces, hc]
      · cases hp : pieces rest <;> simp [pieces, hc, hp, consFirst]

end VisualScript.Text
