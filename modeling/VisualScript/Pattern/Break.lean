import VisualScript.Pattern.Property

/-!
# Properties that tell where texts break

The sets of characters that decide where graphemes, words and sentences end. They follow
from the properties of characters and a few lists of the standard.
-/

namespace VisualScript.Pattern.CharSet

/-- The marks that are written before the numbers and words they belong to. -/
def prepended : CharSet :=
  (ofProperties ["pcm"]).union
    (.ofTable "d4e 111c2-111c3 113d1 1193f 11941 11a3a 11a84-11a89 11d46 11f02")

def joiner : CharSet := .ofTable "200d"

/-! ## Graphemes -/

/-- The characters that belong to what stands before them. -/
def graphemeExtenders : CharSet := graphemeExtend.union (ofProperties ["emod"])

/-- The marks with a width that do not belong to what stands before them. -/
def looseMarks : CharSet :=
  .ofTable "102b-102c 1038 1062-1064 1067-106d 1083 1087-108c 108f 109a-109c 1a61 1a63-1a64
    aa7b aa7d 11720-11721"

/-- The syllables of Hangul that end in a vowel. -/
def openSyllables : CharSet := .ofTable "ac00-d788/1c"

/-- The characters of a kind that tells where graphemes end. -/
def graphemeBreak? : String → Option CharSet
  | "cr" => some (.ofTable "d")
  | "lf" => some (.ofTable "a")
  | "cn" | "control" =>
      let controls := unions
        [ofCategories ["zl", "zp", "cc", "cf"], unassigned.inter defaultIgnorable]
      some (controls.diff (.unions [.ofTable "a d 200c-200d", prepended, graphemeExtenders]))
  | "ex" | "extend" => some graphemeExtenders
  | "zwj" => some joiner
  | "ri" | "regionalindicator" => some (ofProperties ["ri"])
  | "pp" | "prepend" => some prepended
  | "sm" | "spacingmark" =>
      some (((ofCategories ["mc"]).union (.ofTable "e33 eb3")).diff
        (graphemeExtenders.union looseMarks))
  | "l" => some (.ofTable "1100-115f a960-a97c")
  | "v" => some (.ofTable "1160-11a7 d7b0-d7c6 16d63 16d67-16d6a")
  | "t" => some (.ofTable "11a8-11ff d7cb-d7fb")
  | "lv" => some openSyllables
  | "lvt" => some ((ofTable "ac00-d7a3").diff openSyllables)
  | _ => none

/-! ## Words -/

def wordExtenders : CharSet :=
  (unions [graphemeExtend, ofCategories ["mc"], ofProperties ["emod"]]).diff joiner

/-- The digits of numbers, and the marks that are written before or within them. -/
def numeric : CharSet :=
  (unions [digits, .ofTable "66b-66c", ofProperties ["pcm"]]).diff (.ofTable "70f")

def hebrewLetters : CharSet := (ofScripts ["hebr"]).inter (ofCategories ["lo"])

def katakana : CharSet :=
  (ofScripts ["kana"]).union (.ofTable "3031-3035 309b-309c 30a0 30fc ff70")

/-- The characters of scripts that are written without blanks between words. -/
def unspaced : CharSet :=
  .unions [ofProperties ["ideo"], katakana, ofScripts ["hira", "thai", "laoo", "mymr", "khmr",
    "tale", "talu", "lana", "tavt", "ahom"]]

def spacedLetters : CharSet :=
  (alphabetic.union (.ofTable "2c2-2c5 2d2-2d7 2de-2df 2e5-2eb 2ed 2ef-2ff 55a-55c 55e 58a 5f3
    70f a708-a716 a720-a721 a789-a78a ab5b")).diff
      (.unions [unspaced, wordExtenders, hebrewLetters])

/-- The characters of a kind that tells where words end. -/
def wordBreak? : String → Option CharSet
  | "cr" => some (.ofTable "d")
  | "lf" => some (.ofTable "a")
  | "nl" | "newline" => some (.ofTable "b-c 85 2028-2029")
  | "extend" => some wordExtenders
  | "zwj" => some joiner
  | "ri" | "regionalindicator" => some (ofProperties ["ri"])
  | "fo" | "format" =>
      some ((ofCategories ["cf"]).diff (.unions [.ofTable "200b-200d", prepended, wordExtenders]))
  | "ka" | "katakana" => some katakana
  | "hl" | "hebrewletter" => some hebrewLetters
  | "le" | "aletter" => some spacedLetters
  | "sq" | "singlequote" => some (.ofTable "27")
  | "dq" | "doublequote" => some (.ofTable "22")
  | "mb" | "midnumlet" => some (.ofTable "2e 2018-2019 2024 fe52 ff07 ff0e")
  | "ml" | "midletter" => some (.ofTable "3a b7 387 55f 5f4 2027 fe13 fe55 ff1a")
  | "mn" | "midnum" =>
      some (.ofTable "2c 3b 37e 589 60c-60d 66c 7f8 2044 fe10 fe14 fe50 fe54 ff0c ff1b")
  | "nu" | "numeric" => some (numeric.diff (.ofTable "66c"))
  | "ex" | "extendnumlet" => some ((ofCategories ["pc"]).union (.ofTable "202f"))
  | "wsegspace" => some (.ofTable "20 1680 2000-2006 2008-200a 205f 3000")
  | _ => none

/-! ## Sentences -/

def sentenceExtenders : CharSet := .unions [graphemeExtend, ofCategories ["mc"], joiner]

/-- The dots that may end a sentence or not. -/
def dots : CharSet := .ofTable "2e 2024 fe52 ff0e"

def sentenceEnds : CharSet := (ofProperties ["sterm"]).diff dots

/-- The letters that begin no sentence. -/
def smallLetters : CharSet :=
  lowercase.diff (graphemeExtend.union (.ofTable "10d0-10fa 10fd-10ff"))

/-- The letters that begin sentences. -/
def capitalLetters : CharSet :=
  (ofCategories ["lt"]).union (uppercase.diff (.ofTable "1c90-1cba 1cbd-1cbf"))

/-- The characters of a kind that tells where sentences end. -/
def sentenceBreak? : String → Option CharSet
  | "cr" => some (.ofTable "d")
  | "lf" => some (.ofTable "a")
  | "se" | "sep" => some (.ofTable "85 2028-2029")
  | "ex" | "extend" => some sentenceExtenders
  | "fo" | "format" =>
      some ((ofCategories ["cf"]).diff
        (.unions [.ofTable "200c-200d", ofProperties ["pcm"], sentenceExtenders]))
  | "sp" => some (blanks.diff (.ofTable "a d 85 2028-2029"))
  | "lo" | "lower" => some smallLetters
  | "up" | "upper" => some capitalLetters
  | "le" | "oletter" =>
      some ((alphabetic.union (.ofTable "5f3 70f")).diff
        (.unions [smallLetters, capitalLetters, sentenceExtenders]))
  | "nu" | "numeric" => some numeric
  | "at" | "aterm" => some dots
  | "sc" | "scontinue" =>
      some (.ofTable "2c-2d 3a-3b 37e 55d 60c-60d 7f8 1802 1808 2013-2014 3001 fe10-fe11
        fe13-fe14 fe31-fe32 fe50-fe51 fe54-fe55 fe58 fe63 ff0c-ff0d ff1a-ff1b ff64")
  | "st" | "sterm" => some sentenceEnds
  | "cl" | "close" =>
      let quotes := ofTable "22 27 275b-2760 2e00-2e01 2e06-2e08 2e0b 1f676-1f678"
      some (((ofCategories ["ps", "pe", "pi", "pf"]).union quotes).diff
        (.unions [.ofTable "5f3", dots, sentenceEnds]))
  | _ => none

end VisualScript.Pattern.CharSet
