import VisualScript.Diagnostic.Basic
import VisualScript.Text.Line
import VisualScript.Text.Visible

/-!
# Source snippets

A diagnostic shown with the line of the program it is about. The layout is made
of inked pieces, which come out as plain text or with the colors of a terminal.
-/

namespace VisualScript

namespace Snippet

/-- How a piece of a line is shown. -/
inductive Ink where
  | plain
  | strong
  | gutter
  | error
  | warning
  deriving Repr, DecidableEq

def Ink.code : Ink → String
  | plain => ""
  | strong => "\x1b[1m"
  | gutter => "\x1b[1m\x1b[94m"
  | error => "\x1b[1m\x1b[91m"
  | warning => "\x1b[1m\x1b[33m"

def reset : String := "\x1b[0m"

/-- A line of inked pieces. -/
abbrev Row := List (Ink × List Char)

def pieceText (colored : Bool) (piece : Ink × List Char) : String :=
  if !colored || piece.1 = .plain || piece.2.isEmpty then String.ofList piece.2
  else piece.1.code ++ String.ofList piece.2 ++ reset

/-- A row with neighbouring pieces of one ink joined and empty pieces left out. -/
def joinPieces : Row → Row
  | [] => []
  | (ink, text) :: rest =>
      if text.isEmpty then joinPieces rest
      else
        match joinPieces rest with
        | (next, more) :: others =>
            if ink = next then (ink, text ++ more) :: others
            else (ink, text) :: (next, more) :: others
        | [] => [(ink, text)]

def rowsText (colored : Bool) (rows : List Row) : String :=
  "\n".intercalate (rows.map fun row => String.join ((joinPieces row).map (pieceText colored)))

def blanks (count : Nat) : Ink × List Char := (.plain, List.replicate count ' ')

def Ink.ofSeverity : Severity → Ink
  | .error => error
  | .warning => warning

/-- The heading: the severity and the message, whose further lines are indented
to its first character. -/
def heading (severity : Severity) (message : String) : List Row :=
  let word := severity.text.toList
  match Text.pieces (Text.visibleText message.toList) with
  | [] => []
  | first :: rest =>
      [(Ink.ofSeverity severity, word), (.strong, ": ".toList ++ first)] ::
        rest.map fun line => [blanks (word.length + 2), (.strong, line)]

/-- The bar between line numbers and lines. -/
def bar : Ink × List Char := (.gutter, ['|'])

/-- A row without line number: the bar and what stands behind it. -/
def unnumbered (width : Nat) (row : Row) : Row := blanks (width + 1) :: bar :: row

/-- A numbered row: the bar and what stands behind it. The bar stays in its place
when the number is longer than the width. -/
def numbered (width number : Nat) (row : Row) : Row :=
  let digits := (toString number).toList
  (.gutter, digits) :: blanks (width + 1 - digits.length) :: bar :: row

/-- A text behind a blank, or nothing if it is empty. -/
def behindBlank (text : List Char) : Row := if text.isEmpty then [] else [(.plain, ' ' :: text)]

/-- A hint, whose further lines are indented to its first character. -/
def hintRows (width : Nat) (hint : String) : List Row :=
  match Text.pieces hint.toList with
  | [] => []
  | first :: rest =>
      [blanks (width + 1), (.gutter, "= ".toList), (.strong, "note".toList),
        (.plain, ": ".toList ++ first)] ::
        rest.map fun line => [blanks (width + 9), (.plain, line)]

/-- A line of the program to point at. -/
structure Mark where
  /-- The number of the line, counted from one. -/
  number : Nat
  /-- The line without its ending. -/
  line : List Char
  /-- The next line, if the mark is the newline of an empty line and reaches up to it. -/
  next : Option (List Char)

/-- The rows that point at a line on behalf of a node. -/
def Mark.rows (mark : Mark) (ink : Ink) (label : String) : List Row :=
  let width := (toString mark.number).length
  let behind (carets : List Char) : Row :=
    [blanks 1, (ink, carets), blanks 1, (ink, label.toList)]
  match mark.next with
  | some next =>
      [numbered width mark.number [blanks 1, (ink, ['/'])],
        numbered width (mark.number + 1) ([blanks 1, (ink, ['|'])] ++
          behindBlank (Text.visibleText next)),
        unnumbered width (behind ['|', '_', '^'])]
  | none =>
      let shown := Text.visibleText mark.line
      [numbered width mark.number (behindBlank shown),
        unnumbered width (behind (List.replicate (max shown.length 1) '^'))]

/-- All rows of a diagnostic that points at a line. -/
def rows (diagnostic : Diagnostic) (path : Option String) (mark : Mark) (label : String) :
    List Row :=
  let number := (toString mark.number).toList
  let width := number.length
  heading diagnostic.severity diagnostic.message ++
    (match path with
      | some path =>
          [[blanks width, (.gutter, "--> ".toList),
            (.plain, path.toList ++ ':' :: number ++ ":1".toList)]]
      | none => []) ++
    unnumbered width [] :: mark.rows (Ink.ofSeverity diagnostic.severity) label ++
    (if diagnostic.hints.isEmpty then []
      else unnumbered width [] :: diagnostic.hints.flatMap (hintRows width))

end Snippet

end VisualScript
