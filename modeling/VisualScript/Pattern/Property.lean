import VisualScript.Pattern.CharSet
import VisualScript.Text.Blank
import VisualScript.Text.Property.Age
import VisualScript.Text.Property.Binary
import VisualScript.Text.Property.Category
import VisualScript.Text.Property.Recent
import VisualScript.Text.Property.Script

/-!
# Properties of characters

The sets of characters that the names of properties stand for. The tables hold what does
not follow from anything else; what does is put together here, as the character standard
says. All names are without case, blanks and marks between words.
-/

namespace VisualScript.Pattern

/-- A table of sets under their names. -/
abbrev PropertyTable := List (List String × String)

namespace PropertyTable

/-- The set under a name. -/
def find? (table : PropertyTable) (name : String) : Option CharSet :=
  (List.find? (fun entry => entry.1.contains name) table).map fun entry => .ofTable entry.2

/-- The characters in the sets under some names. -/
def unionOf (table : PropertyTable) (names : List String) : CharSet :=
  .unions ((table.filter fun entry => entry.1.any names.contains).map fun entry =>
    .ofTable entry.2)

end PropertyTable

namespace CharSet

/-- The characters of some general categories. -/
def ofCategories : List String → CharSet := PropertyTable.unionOf Text.Property.categories

/-- The characters with any of some properties that do not follow from others. -/
def ofProperties : List String → CharSet := PropertyTable.unionOf Text.Property.binaryProperties

/-- The characters of some scripts. -/
def ofScripts : List String → CharSet := PropertyTable.unionOf Text.Property.scripts

/-! ## Categories and scripts -/

/-- The code points that are no characters. -/
def surrogates : CharSet := ⟨[(0xD800, 0xDFFF)]⟩

/-- The code points of any general category in the table. -/
def listed : CharSet :=
  .unions (Text.Property.categories.map fun entry => .ofTable entry.2)

def unassigned : CharSet := (listed.union surrogates).complement

/-- The characters of the general category with a name, or of all, of those that are
assigned or of ASCII. -/
def category? : String → Option CharSet
  | "any" => some ⟨[(0, largest)]⟩
  | "assigned" => some unassigned.negation
  | "ascii" => some ⟨[(0, 0x7F)]⟩
  | "cn" | "unassigned" => some unassigned
  | "c" | "other" => some (.unions [ofCategories ["cc", "cf", "co"], unassigned, surrogates])
  | name =>
      match Text.Property.categoryGroups.find? fun entry => entry.1.contains name with
      | some (_, parts) => some (ofCategories parts)
      | none => PropertyTable.find? Text.Property.categories name

def script? : String → Option CharSet := PropertyTable.find? Text.Property.scripts

/-- The characters that are used with the script of a name. Those that are used with
several scripts count for these and not for their own. -/
def scriptExtension? (name : String) : Option CharSet := do
  let (names, table) ← Text.Property.scripts.find? fun entry => entry.1.contains name
  let shared := Text.Property.sharedScripts.partition fun entry => entry.1.any names.contains
  let tables (entries : PropertyTable) : CharSet :=
    .unions (entries.map fun entry => .ofTable entry.2)
  return ((ofTable table).diff (tables shared.2)).union (tables shared.1)

/-- The characters that are assigned since an edition of the standard or longer. -/
def age? (name : String) : Option CharSet := do
  let index ← Text.Property.ages.findIdx? fun entry => entry.1.contains name
  return .unions ((Text.Property.ages.take (index + 1)).map fun entry => .ofTable entry.2)

/-! ## Properties that characters have or not -/

def blanks : CharSet := ofRanges Text.blankRanges

def digits : CharSet := ofCategories ["nd"]

def lowercase : CharSet := (ofCategories ["ll"]).union (ofProperties ["olower"])

def uppercase : CharSet := (ofCategories ["lu"]).union (ofProperties ["oupper"])

def alphabetic : CharSet :=
  .unions [lowercase, uppercase, ofCategories ["lt", "lm", "lo", "nl"], ofProperties ["oalpha"]]

/-- What patterns and their syntax are made of, which never stands in identifiers. -/
def syntactic : CharSet := ofProperties ["patsyn", "patws"]

def identifierStarts : CharSet :=
  ((ofCategories ["lu", "ll", "lt", "lm", "lo", "nl"]).union (ofProperties ["oids"])).diff
    syntactic

def identifierParts : CharSet :=
  (.unions [identifierStarts, ofCategories ["mn", "mc", "nd", "pc"], ofProperties ["oidc"]]
    : CharSet).diff syntactic

/-- What falls apart into characters that do not belong into identifiers. -/
def unstable : CharSet :=
  .ofTable "37a 309b-309c fc5e-fc63 fdfa-fdfb fe70 fe72 fe74 fe76 fe78 fe7a fe7c fe7e"

/-- What falls apart into characters that do not begin identifiers. -/
def unstableStarts : CharSet := unstable.union (.ofTable "e33 eb3 ff9e-ff9f")

def defaultIgnorable : CharSet :=
  (((ofCategories ["cf"]).union (ofProperties ["vs"])).diff
    (.unions [blanks, .ofTable "fff9-fffb 13430-13440", ofProperties ["pcm"]])).union
      (ofProperties ["odi"])

def graphemeExtend : CharSet := (ofCategories ["me", "mn"]).union (ofProperties ["ogrext"])

def graphemeBase : CharSet :=
  (unions [ofCategories ["cc", "cf", "co", "zl", "zp"], surrogates, unassigned,
    graphemeExtend]).complement

/-- The characters with the property of a name. -/
def property? : String → Option CharSet
  | "wspace" | "space" | "whitespace" => some blanks
  | "alpha" | "alphabetic" => some alphabetic
  | "lower" | "lowercase" => some lowercase
  | "upper" | "uppercase" => some uppercase
  | "cased" => some (.unions [lowercase, uppercase, ofCategories ["lt"]])
  | "ci" | "caseignorable" =>
      some (.unions [ofCategories ["mn", "me", "cf", "lm", "sk"],
        .ofTable "27 2e 3a b7 387 55f 5f4 2018-2019 2024 2027 fe13 fe52 fe55 ff07 ff0e ff1a"])
  | "cwcm" | "changeswhencasemapped" => some (ofProperties ["cwl", "cwu", "cwt"])
  | "math" => some ((ofCategories ["sm"]).union (ofProperties ["omath"]))
  | "ids" | "idstart" => some identifierStarts
  | "idc" | "idcontinue" => some identifierParts
  | "xids" | "xidstart" => some (identifierStarts.diff unstableStarts)
  | "xidc" | "xidcontinue" => some (identifierParts.diff unstable)
  | "di" | "defaultignorablecodepoint" => some defaultIgnorable
  | "grext" | "graphemeextend" => some graphemeExtend
  | "grbase" | "graphemebase" => some graphemeBase
  | name => PropertyTable.find? Text.Property.binaryProperties name

/-- The characters of words: letters, marks, decimal digits, connecting
punctuation and joiners. -/
def word : CharSet :=
  .unions [alphabetic, ofCategories ["mn", "mc", "me", "nd", "pc"], ofProperties ["joinc"]]

/-- The letters, recent ones included. -/
def letters : CharSet := alphabetic.union (ofRanges Text.Property.recentAlphabetic)

/-- The letters and the numeric characters, recent ones included. -/
def alphanumeric : CharSet :=
  .unions [letters, ofCategories ["nd", "nl", "no"], ofRanges Text.Property.recentNumber]

end CharSet

end VisualScript.Pattern
