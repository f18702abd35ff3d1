import VisualScript.Json.Basic
import VisualScript.Json.Shortest

/-!
# Compact text of a value

No blanks between tokens, object fields in their order, and in strings only
quotes, backslashes and control characters escaped.
-/

namespace VisualScript.Json

/-- The lower-case hexadecimal digit of a number below sixteen. -/
def hexDigit (n : Nat) : Char :=
  if n < 10 then Char.ofNat ('0'.toNat + n) else Char.ofNat ('a'.toNat + (n - 10))

/-- A character as it stands inside a string. -/
def escaped (c : Char) : List Char :=
  match c with
  | '"' => ['\\', '"']
  | '\\' => ['\\', '\\']
  | '\n' => ['\\', 'n']
  | '\r' => ['\\', 'r']
  | '\t' => ['\\', 't']
  | '\x08' => ['\\', 'b']
  | '\x0c' => ['\\', 'f']
  | c =>
      if c.toNat < 0x20 then
        ['\\', 'u', '0', '0', hexDigit (c.toNat / 16), hexDigit (c.toNat % 16)]
      else [c]

def quoted (text : String) : String :=
  String.ofList ('"' :: text.toList.flatMap escaped ++ ['"'])

mutual

/-- The tokens of a value, to be laid end to end. -/
def tokens : Json → List String
  | .null => ["null"]
  | .bool value => [if value then "true" else "false"]
  | .number value => [value.text]
  | .string value => [quoted value]
  | .array items => "[" :: itemTokens true items ++ ["]"]
  | .object ⟨fields⟩ => "\x7b" :: fieldTokens true fields ++ ["\x7d"]

/-- The tokens of array items, each but the first behind a comma. -/
def itemTokens (first : Bool) : List Json → List String
  | [] => []
  | item :: rest => (if first then [] else [","]) ++ tokens item ++ itemTokens false rest

/-- The tokens of object fields, each but the first behind a comma. -/
def fieldTokens (first : Bool) : List (String × Json) → List String
  | [] => []
  | (key, value) :: rest =>
      (if first then [] else [","]) ++ quoted key :: ":" :: tokens value ++
        fieldTokens false rest

end

/-- The compact text of a value. -/
def render (value : Json) : String := String.join (tokens value)

end VisualScript.Json
