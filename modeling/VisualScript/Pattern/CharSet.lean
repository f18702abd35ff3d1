import VisualScript.Text.Property.CaseFold
import VisualScript.Text.Ranges

/-!
# Sets of characters

A set is a list of ranges of code points in increasing order, no two of which
touch. Ranges begin and end with characters; a range that passes over the
surrogates, which are no characters, holds none of them.
-/

namespace VisualScript.Pattern

/-- A set of characters as ranges of code points, first and last included. -/
structure CharSet where
  ranges : List (Nat × Nat)
  deriving Repr, DecidableEq, Inhabited

namespace CharSet

def largest : Nat := 0x10FFFF

/-- Join ranges, given by increasing start, that overlap or touch. The first
two numbers are the range at hand. -/
def joinFrom (low high : Nat) : List (Nat × Nat) → List (Nat × Nat)
  | [] => [(low, high)]
  | (nextLow, nextHigh) :: rest =>
      if nextLow ≤ high + 1 then joinFrom low (max high nextHigh) rest
      else (low, high) :: joinFrom nextLow nextHigh rest

/-- The set that holds all of some ranges. -/
def ofRanges (ranges : List (Nat × Nat)) : CharSet :=
  match (ranges.filter fun range => range.1 ≤ range.2).mergeSort fun a b => a.1 ≤ b.1 with
  | [] => ⟨[]⟩
  | (low, high) :: rest => ⟨joinFrom low high rest⟩

/-- The set that a table lists. -/
def ofTable (table : String) : CharSet := ofRanges (Text.rangesOf table)

def empty : CharSet := ⟨[]⟩

def single (c : Char) : CharSet := ⟨[(c.toNat, c.toNat)]⟩

def union (left right : CharSet) : CharSet := ofRanges (left.ranges ++ right.ranges)

/-- The characters in any of some sets. -/
def unions (sets : List CharSet) : CharSet := ofRanges (sets.flatMap ranges)

/-- The code point of the character behind another one, past the surrogates. -/
def following (n : Nat) : Nat := if n = 0xD7FF then 0xE000 else n + 1

/-- The code point of the character in front of another one, past the surrogates. -/
def preceding (n : Nat) : Nat := if n = 0xE000 then 0xD7FF else n - 1

/-- The ranges between increasing ranges, from a given code point on. -/
def gapsFrom (start : Nat) : List (Nat × Nat) → List (Nat × Nat)
  | [] => if start ≤ largest then [(start, largest)] else []
  | (low, high) :: rest =>
      if start < low then (start, preceding low) :: gapsFrom (following high) rest
      else gapsFrom (following high) rest

def complement (set : CharSet) : CharSet := ⟨gapsFrom 0 set.ranges⟩

/-- The range between two code points, given in either order. -/
def rangeBetween (first last : Nat) : Nat × Nat := (min first last, max first last)

/-- The ranges behind a given code point and between increasing ranges behind it: each
runs between the character behind a range and the one in front of the next. Between
ranges that meet at the surrogates these are the two characters around the surrogates. -/
def spacesFrom (last : Nat) : List (Nat × Nat) → List (Nat × Nat)
  | [] => if last < largest then [(following last, largest)] else []
  | (low, high) :: rest =>
      rangeBetween (following last) (preceding low) :: spacesFrom high rest

/-- The set that a negated class stands for. It holds the characters outside the given
set, and those around the surrogates if ranges of the set meet there. -/
def negation (set : CharSet) : CharSet :=
  match set.ranges with
  | [] => ⟨[(0, largest)]⟩
  | (low, high) :: rest =>
      let spaces := spacesFrom high rest
      ⟨if 0 < low then (0, preceding low) :: spaces else spaces⟩

/-- What increasing ranges have in common with others. -/
def overlaps : List (Nat × Nat) → List (Nat × Nat) → List (Nat × Nat)
  | [], _ => []
  | _, [] => []
  | (low, high) :: rest, (otherLow, otherHigh) :: others =>
      let common :=
        if high < otherHigh then overlaps rest ((otherLow, otherHigh) :: others)
        else overlaps ((low, high) :: rest) others
      if max low otherLow ≤ min high otherHigh then
        (max low otherLow, min high otherHigh) :: common
      else common
termination_by ranges others => ranges.length + others.length

def inter (left right : CharSet) : CharSet := ⟨overlaps left.ranges right.ranges⟩

/-- The characters in the first set and not in the second. -/
def diff (left right : CharSet) : CharSet := left.inter right.complement

/-- The characters in just one of two sets. -/
def symmDiff (left right : CharSet) : CharSet := (left.union right).diff (left.inter right)

/-- Whether a code point lies in one of some increasing ranges. -/
def covers (n : Nat) : List (Nat × Nat) → Bool
  | [] => false
  | (low, high) :: rest => if n < low then false else if n ≤ high then true else covers n rest

def contains (set : CharSet) (c : Char) : Bool := covers c.toNat set.ranges

def all : CharSet := empty.complement

/-! ## Case -/

/-- The code point that stands for a code point and its case variants. -/
def fold (n : Nat) : Nat :=
  match Text.Property.caseFoldRuns.find? fun (first, last, step, _) =>
      first ≤ n && n ≤ last && (n - first) % step == 0 with
  | some (first, _, _, image) => image + (n - first)
  | none => n

/-- The code points that fold to a given one, itself left aside. -/
def foldSources (n : Nat) : List Nat :=
  Text.Property.caseFoldRuns.filterMap fun (first, last, step, image) =>
    let source := first + (n - image)
    if image ≤ n && source ≤ last && (n - image) % step == 0 then some source else none

/-- A code point and its case variants. -/
def variants (n : Nat) : List Nat := fold n :: foldSources (fold n)

/-- The set with all case variants of its members. -/
def closeUnderCase (set : CharSet) : CharSet :=
  let folding := Text.Property.caseFoldRuns.flatMap fun (first, last, step, _) =>
    Text.runMembers first last step
  let touched := folding.filter fun n => (variants n).any fun variant => covers variant set.ranges
  set.union (ofRanges ((touched.flatMap variants).map fun n => (n, n)))

end CharSet

end VisualScript.Pattern
