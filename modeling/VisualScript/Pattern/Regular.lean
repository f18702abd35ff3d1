import VisualScript.Pattern.CharSet

/-!
# Regular expressions

Texts, sets of characters, conditions, sequences, choices and repetitions.
Expressions are put together in a simple form: neighbouring texts are one text,
a choice between characters is a set, and what all branches of a choice begin
with stands in front of it. The size of a pattern is measured on this form.
-/

namespace VisualScript.Pattern

/-- A condition on the characters around a place. -/
inductive Condition where
  | textStart
  | textEnd
  | lineStart
  | lineEnd
  /-- As `lineStart` and `lineEnd`, with carriage returns ending lines too. -/
  | anyLineStart
  | anyLineEnd
  /-- A boundary between the characters of words, of the given set, and others. -/
  | boundary (word : CharSet)
  | noBoundary (word : CharSet)
  | wordStart (word : CharSet)
  | wordEnd (word : CharSet)
  | wordStartHalf (word : CharSet)
  | wordEndHalf (word : CharSet)
  deriving Repr, DecidableEq

/-- Whether the condition holds between two characters, of which either may be
missing at an end of the text. -/
def Condition.holds (before after : Option Char) : Condition → Bool
  | textStart => before.isNone
  | textEnd => after.isNone
  | lineStart => before.isNone || before = some '\n'
  | lineEnd => after.isNone || after = some '\n'
  | anyLineStart =>
      before.isNone || before = some '\n' || (before = some '\r' && after ≠ some '\n')
  | anyLineEnd => after.isNone || after = some '\r' || (after = some '\n' && before ≠ some '\r')
  | boundary word => before.any word.contains != after.any word.contains
  | noBoundary word => before.any word.contains == after.any word.contains
  | wordStart word => !before.any word.contains && after.any word.contains
  | wordEnd word => before.any word.contains && !after.any word.contains
  | wordStartHalf word => !before.any word.contains
  | wordEndHalf word => !after.any word.contains

/-- A regular expression over characters. -/
inductive Regular where
  | empty
  /-- One character after another. -/
  | text (chars : List Char)
  /-- One character of a set, which was written with wide classes or without. -/
  | oneOf (set : CharSet) (wide : Bool)
  | condition (kind : Condition)
  | sequence (parts : List Regular)
  | choice (branches : List Regular)
  | repetition (body : Regular) (least : Nat) (most : Option Nat) (greedy : Bool)
  | capture (body : Regular)
  deriving Repr, Inhabited

namespace Regular

mutual

/-- Whether an expression can consume a character. -/
def consumes : Regular → Bool
  | .empty => false
  | .text _ => true
  | .oneOf _ _ => true
  | .condition _ => false
  | .sequence parts => anyConsumes parts
  | .choice branches => anyConsumes branches
  | .repetition body _ _ _ => body.consumes
  | .capture body => body.consumes

/-- Whether one of some expressions can consume a character. -/
def anyConsumes : List Regular → Bool
  | [] => false
  | part :: rest => part.consumes || anyConsumes rest

end

mutual

/-- Whether two expressions of one pattern are the same. No two groups are, since
each captures on its own. -/
def same : Regular → Regular → Bool
  | .empty, .empty => true
  | .text left, .text right => left = right
  | .oneOf left wideLeft, .oneOf right wideRight => left = right && wideLeft = wideRight
  | .condition left, .condition right => left = right
  | .sequence left, .sequence right => allSame left right
  | .choice left, .choice right => allSame left right
  | .repetition left leastLeft mostLeft greedyLeft,
      .repetition right leastRight mostRight greedyRight =>
    same left right && leastLeft = leastRight && mostLeft = mostRight &&
      greedyLeft = greedyRight
  | _, _ => false

/-- Whether two lists hold the same expressions. -/
def allSame : List Regular → List Regular → Bool
  | [], [] => true
  | left :: lefts, right :: rights => same left right && allSame lefts rights
  | _, _ => false

end

/-! ## Putting expressions together -/

/-- One character of a set. A set of one character is a text. -/
def ofSet (wide : Bool) (set : CharSet) : Regular :=
  match set.ranges with
  | [] => .oneOf set false
  | [(low, high)] => if low = high then .text [Char.ofNat low] else .oneOf set wide
  | _ => .oneOf set wide

/-- What an expression is a sequence of. -/
def parts : Regular → List Regular
  | .empty => []
  | .sequence parts => parts
  | other => [other]

/-- Put a part in front of others; a text becomes one with the text behind it. -/
def consPart (part : Regular) (others : List Regular) : List Regular :=
  match part, others with
  | .text first, .text second :: rest => .text (first ++ second) :: rest
  | part, others => part :: others

/-- The sequence of some parts that cannot be put together any further. -/
def ofParts : List Regular → Regular
  | [] => .empty
  | [part] => part
  | parts => .sequence parts

/-- One expression after another. -/
def join (expressions : List Regular) : Regular :=
  ofParts ((expressions.flatMap parts).foldr consPart [])

/-- What an expression is a choice between. -/
def branches : Regular → List Regular
  | .choice branches => branches
  | other => [other]

/-- The character of an expression that is one. -/
def char? : Regular → Option Char
  | .text [c] => some c
  | _ => none

/-- The characters of an expression that is a text. -/
def text? : Regular → Option (List Char)
  | .text chars => some chars
  | _ => none

/-- The set of an expression that is one. -/
def set? : Regular → Option CharSet
  | .oneOf set _ => some set
  | _ => none

/-- The set that some branches amount to, if all are characters or all are sets. -/
def commonSet? (branches : List Regular) : Option CharSet :=
  match branches.mapM char?, branches.mapM set? with
  | some chars, _ => some (CharSet.ofRanges (chars.map fun c => (c.toNat, c.toNat)))
  | none, some sets => some (CharSet.ofRanges (sets.flatMap CharSet.ranges))
  | none, none => none

/-- A choice that is not a single set. -/
def choose (branches : List Regular) : Regular :=
  match commonSet? branches with
  | some set => ofSet true set
  | none => .choice branches

/-- What two lists begin with alike. -/
def sharedParts : List Regular → List Regular → List Regular
  | left :: lefts, right :: rights =>
      if same left right then left :: sharedParts lefts rights else []
  | _, _ => []

/-- The parts that all branches begin with. Only sequences have such parts. -/
def leadingParts : List Regular → List Regular
  | [] => []
  | .sequence parts :: rest =>
      rest.foldl (fun shared branch => match branch with
        | .sequence parts => sharedParts shared parts
        | _ => []) parts
  | _ :: _ => []

/-- One expression or another. What remains of the branches behind the parts that
they share begins differently, so it is not looked through again. -/
def either (expressions : List Regular) : Regular :=
  let branches := expressions.flatMap branches
  match leadingParts branches with
  | [] => choose branches
  | shared =>
      let rest := branches.map fun branch => ofParts (branch.parts.drop shared.length)
      join (shared ++ [choose (rest.flatMap Regular.branches)])

/-- Repeat an expression. Repeating what consumes nothing is the same as at most
one copy of it. -/
def repeated (body : Regular) (least : Nat) (most : Option Nat) (greedy : Bool) : Regular :=
  let (least, most) :=
    if body.consumes then (least, most) else (min least 1, some (min (most.getD 1) 1))
  if most = some 0 then .empty
  else if least = 1 ∧ most = some 1 then body
  else .repetition body least most greedy

end Regular

end VisualScript.Pattern
