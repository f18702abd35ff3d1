import VisualScript.Pattern.Break

/-!
# Names of sets of characters

What is written behind a backslash and the letter p: the name of a property, or of one and
of its value.
-/

namespace VisualScript.Pattern

/-- What a set of characters is asked for by. -/
inductive Query where
  /-- A general category, a script, or a property that characters have or not. -/
  | plain (name : List Char)
  /-- A value of a property. -/
  | valued (property value : List Char)
  deriving Repr, DecidableEq

namespace Query

/-- Whether a name begins with a word that says nothing. -/
def hasLead : List Char → Bool
  | c :: d :: _ => c.toLower = 'i' && d.toLower = 's'
  | _ => false

/-- A name as it is looked up: without a leading `is`, without blanks and marks between
words, without case and what is beyond ASCII. Where only a `c` would be left, the whole is
the name of a property that has no values. -/
def loose (name : List Char) : String :=
  let rest := if hasLead name then name.drop 2 else name
  let kept := rest.filter fun c => c.toNat < 0x80 && c ≠ ' ' && c ≠ '_' && c ≠ '-'
  let lowered := String.ofList (kept.map Char.toLower)
  if hasLead name && lowered = "c" then "isc" else lowered

/-- The short names of general categories that name other properties too. Alone they stand
for the categories. -/
def ambiguous : List String := ["cf", "sc", "lc"]

/-- The set of a query, if its names are known. -/
def set? : Query → Option CharSet
  | plain name =>
      let name := loose name
      let property := if ambiguous.contains name then none else CharSet.property? name
      property <|> CharSet.category? name <|> CharSet.script? name
  | valued property value =>
      let value := loose value
      match loose property with
      | "gc" | "generalcategory" => CharSet.category? value
      | "sc" | "script" => CharSet.script? value
      | "scx" | "scriptextensions" => CharSet.scriptExtension? value
      | "age" => CharSet.age? value
      | "gcb" | "graphemeclusterbreak" => CharSet.graphemeBreak? value
      | "wb" | "wordbreak" => CharSet.wordBreak? value
      | "sb" | "sentencebreak" => CharSet.sentenceBreak? value
      | _ => none

end Query

end VisualScript.Pattern
