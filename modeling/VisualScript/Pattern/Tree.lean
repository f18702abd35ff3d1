import VisualScript.Pattern.Query

/-!
# Trees of patterns

A pattern as it was written, before flags are applied. Nesting is measured on
this tree: brackets, operators on classes, repetitions, groups, alternations
and sequences each add one level.
-/

namespace VisualScript.Pattern

/-- A class of characters with a letter of its own. -/
inductive Shorthand where
  | digit
  | blank
  | word
  deriving Repr, DecidableEq

/-- A class of ASCII characters with a name of its own. -/
inductive AsciiClass where
  | alnum
  | alpha
  | ascii
  | blank
  | cntrl
  | digit
  | graph
  | lower
  | print
  | punct
  | space
  | upper
  | word
  | xdigit
  deriving Repr, DecidableEq

/-- How two classes inside brackets are combined. -/
inductive SetOperator where
  | inter
  | diff
  | symmDiff
  deriving Repr, DecidableEq

/-- What stands between brackets. -/
inductive ClassTree where
  | nothing
  | char (c : Char)
  | range (first last : Char)
  | shorthand (kind : Shorthand) (negated : Bool)
  | named (query : Query) (negated : Bool)
  | ascii (kind : AsciiClass) (negated : Bool)
  | bracketed (negated : Bool) (inside : ClassTree)
  | union (parts : List ClassTree)
  | combination (operator : SetOperator) (left right : ClassTree)
  deriving Repr

/-- A switch that changes how a pattern is understood. -/
inductive Flag where
  /-- Letters stand for their case variants too. -/
  | ignoreCase
  /-- The anchors hold at every line. -/
  | multiLine
  /-- The dot stands for newlines too. -/
  | dotAll
  /-- Repetitions are reluctant unless they are marked so. -/
  | swapGreed
  /-- Classes and boundaries go beyond ASCII. -/
  | wide
  /-- A carriage return and newline end a line. -/
  | carriageReturns
  /-- Blanks and comments in the pattern are passed over. -/
  | verbose
  deriving Repr, DecidableEq

/-- Flags to set and flags to clear. -/
structure FlagChange where
  set : List Flag := []
  clear : List Flag := []
  deriving Repr, DecidableEq, Inhabited

/-- What a change says about a flag, if anything. -/
def FlagChange.state? (change : FlagChange) (flag : Flag) : Option Bool :=
  if flag ∈ change.set then some true else if flag ∈ change.clear then some false else none

/-- A condition on the place of a match that consumes nothing. -/
inductive Anchor where
  | lineStart
  | lineEnd
  | textStart
  | textEnd
  | boundary
  | noBoundary
  | wordStart
  | wordEnd
  | wordStartHalf
  | wordEndHalf
  deriving Repr, DecidableEq

/-- A pattern as it was written. -/
inductive Tree where
  | nothing
  | flags (change : FlagChange)
  | char (c : Char)
  /-- A character written as a byte, with two hexadecimal digits. -/
  | byte (c : Char)
  | dot
  | anchor (kind : Anchor)
  | shorthand (kind : Shorthand) (negated : Bool)
  | named (query : Query) (negated : Bool)
  | bracketed (negated : Bool) (inside : ClassTree)
  | repetition (body : Tree) (least : Nat) (most : Option Nat) (reluctant : Bool)
  | group (captures : Bool) (change : FlagChange) (body : Tree)
  | alternation (branches : List Tree)
  | sequence (parts : List Tree)
  deriving Repr, Inhabited

def ClassTree.ofParts : List ClassTree → ClassTree
  | [] => nothing
  | [part] => part
  | parts => union parts

def Tree.ofParts : List Tree → Tree
  | [] => nothing
  | [part] => part
  | parts => sequence parts

def Tree.ofBranches : List Tree → Tree
  | [] => nothing
  | [branch] => branch
  | branches => alternation branches

mutual

def ClassTree.depth : ClassTree → Nat
  | .nothing => 0
  | .char _ => 0
  | .range _ _ => 0
  | .shorthand _ _ => 0
  | .named _ _ => 0
  | .ascii _ _ => 0
  | .bracketed _ inside => inside.depth + 1
  | .union parts => ClassTree.depths parts + 1
  | .combination _ left right => max left.depth right.depth + 1

/-- The largest number of levels among some classes. -/
def ClassTree.depths : List ClassTree → Nat
  | [] => 0
  | part :: rest => max part.depth (ClassTree.depths rest)

end

mutual

def Tree.depth : Tree → Nat
  | .nothing => 0
  | .flags _ => 0
  | .char _ => 0
  | .byte _ => 0
  | .dot => 0
  | .anchor _ => 0
  | .shorthand _ _ => 0
  | .named _ _ => 0
  | .bracketed _ inside => inside.depth + 1
  | .repetition body _ _ _ => body.depth + 1
  | .group _ _ body => body.depth + 1
  | .alternation branches => Tree.depths branches + 1
  | .sequence parts => Tree.depths parts + 1

/-- The largest number of levels among some patterns. -/
def Tree.depths : List Tree → Nat
  | [] => 0
  | part :: rest => max part.depth (Tree.depths rest)

end

/-- The number of levels that a pattern may have. -/
def deepest : Nat := 250

end VisualScript.Pattern
