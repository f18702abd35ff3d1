import VisualScript.OrderedMap

/-!
# Templates

Text with placeholders. A placeholder is a dollar sign and the longest run of
name characters behind it, which may be empty. Filling a template looks at
every placeholder once: text put in its place is never searched again.
-/

namespace VisualScript

namespace Template

/-- A part of a template. -/
inductive Piece where
  /-- A character that stands for itself. -/
  | char (c : Char)
  | placeholder (name : List Char)
  deriving Repr, DecidableEq

/-- Whether a character belongs to the name of a placeholder: ASCII letters,
digits and the underscore. -/
def isNameChar (c : Char) : Bool := c.isAlphanum || c = '_'

/-- Cut a text into pieces. `name` holds the name characters read so far, last
one first, while the text continues a placeholder. -/
def cut (name : Option (List Char)) : List Char → List Piece
  | [] => name.toList.map fun read => .placeholder read.reverse
  | c :: rest =>
      match name with
      | none => if c = '$' then cut (some []) rest else .char c :: cut none rest
      | some read =>
          if isNameChar c then cut (some (c :: read)) rest
          else
            .placeholder read.reverse ::
              if c = '$' then cut (some []) rest else .char c :: cut none rest

def pieces (template : List Char) : List Piece := cut none template

/-- What a piece turns into. A placeholder becomes the argument it names, else
the value, else it stays as it is. -/
def Piece.fill (value : Option (List Char)) (arguments : OrderedMap String String) :
    Piece → List Char
  | .char c => [c]
  | .placeholder name =>
      match arguments.get? (String.ofList name), value with
      | some argument, none => if name = [] then '$' :: name else argument.toList
      | some argument, some value => if name = [] then value else argument.toList
      | none, some value => value
      | none, none => '$' :: name

def fill (template : String) (value : Option String) (arguments : OrderedMap String String) :
    String :=
  String.ofList ((pieces template.toList).flatMap (Piece.fill (value.map String.toList) arguments))

end Template

end VisualScript
