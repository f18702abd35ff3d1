import VisualScript.Pattern.Regular
import VisualScript.Pattern.Tree

/-!
# The meaning of patterns

From the tree of a pattern to its regular expression: flags are applied and
classes become sets of characters.
-/

namespace VisualScript.Pattern

/-- How a pattern is understood at a place. -/
structure Mode where
  ignoreCase : Bool := false
  multiLine : Bool := false
  dotAll : Bool := false
  /-- Whether classes and boundaries go beyond ASCII. -/
  wide : Bool := true
  carriageReturns : Bool := false
  /-- Whether repetitions are reluctant unless they are marked so. -/
  swapGreed : Bool := false
  deriving Repr, DecidableEq

def Mode.apply (mode : Mode) (change : FlagChange) : Mode where
  ignoreCase := (change.state? .ignoreCase).getD mode.ignoreCase
  multiLine := (change.state? .multiLine).getD mode.multiLine
  dotAll := (change.state? .dotAll).getD mode.dotAll
  wide := (change.state? .wide).getD mode.wide
  carriageReturns := (change.state? .carriageReturns).getD mode.carriageReturns
  swapGreed := (change.state? .swapGreed).getD mode.swapGreed

/-! ## Classes -/

def AsciiClass.set : AsciiClass → CharSet
  | alnum => ⟨[(0x30, 0x39), (0x41, 0x5A), (0x61, 0x7A)]⟩
  | alpha => ⟨[(0x41, 0x5A), (0x61, 0x7A)]⟩
  | ascii => ⟨[(0x0, 0x7F)]⟩
  | blank => ⟨[(0x9, 0x9), (0x20, 0x20)]⟩
  | cntrl => ⟨[(0x0, 0x1F), (0x7F, 0x7F)]⟩
  | digit => ⟨[(0x30, 0x39)]⟩
  | graph => ⟨[(0x21, 0x7E)]⟩
  | lower => ⟨[(0x61, 0x7A)]⟩
  | print => ⟨[(0x20, 0x7E)]⟩
  | punct => ⟨[(0x21, 0x2F), (0x3A, 0x40), (0x5B, 0x60), (0x7B, 0x7E)]⟩
  | space => ⟨[(0x9, 0xD), (0x20, 0x20)]⟩
  | upper => ⟨[(0x41, 0x5A)]⟩
  | word => ⟨[(0x30, 0x39), (0x41, 0x5A), (0x5F, 0x5F), (0x61, 0x7A)]⟩
  | xdigit => ⟨[(0x30, 0x39), (0x41, 0x46), (0x61, 0x66)]⟩

def CharSet.ascii : CharSet := AsciiClass.set .ascii

def Shorthand.set (wide : Bool) : Shorthand → CharSet
  | digit => if wide then CharSet.digits else AsciiClass.set .digit
  | blank => if wide then CharSet.blanks else AsciiClass.set .space
  | word => if wide then CharSet.word else AsciiClass.set .word

/-- Close a set under case where letters stand for their variants. Without wide
classes only ASCII letters have variants. -/
def Mode.foldCase (mode : Mode) (set : CharSet) : CharSet :=
  if !mode.ignoreCase then set
  else if mode.wide then set.closeUnderCase
  else set.union (set.closeUnderCase.inter CharSet.ascii)

/-- The negation of a set if asked for. -/
def CharSet.negatedIf (negated : Bool) (set : CharSet) : CharSet :=
  if negated then set.negation else set

/-- A set, if it may be used. Without wide classes a set must not go beyond ASCII,
which would tear characters apart. -/
def Mode.admitted? (mode : Mode) (set : CharSet) : Option CharSet :=
  if mode.wide || set.ranges.all (fun range => range.2 < 0x80) then some set else none

mutual

/-- The members of a class. Case variants join before a class is negated. -/
def ClassTree.set? (mode : Mode) : ClassTree → Option CharSet
  | .nothing => some CharSet.empty
  | .char c => mode.admitted? (CharSet.single c)
  | .range first last => mode.admitted? (CharSet.ofRanges [(first.toNat, last.toNat)])
  | .shorthand kind negated => mode.admitted? ((kind.set mode.wide).negatedIf negated)
  | .named query negated =>
      if mode.wide then return (mode.foldCase (← query.set?)).negatedIf negated else none
  | .ascii kind negated => mode.admitted? ((mode.foldCase kind.set).negatedIf negated)
  | .bracketed negated inside => do
      mode.admitted? ((mode.foldCase (← inside.set? mode)).negatedIf negated)
  | .union parts => ClassTree.unionSet? mode parts
  | .combination operator left right => do
      let left := mode.foldCase (← left.set? mode)
      let right := mode.foldCase (← right.set? mode)
      return match operator with
        | .inter => left.inter right
        | .diff => left.diff right
        | .symmDiff => left.symmDiff right

/-- The members of some classes. -/
def ClassTree.unionSet? (mode : Mode) : List ClassTree → Option CharSet
  | [] => some CharSet.empty
  | part :: rest => do
      return (← part.set? mode).union (← ClassTree.unionSet? mode rest)

end

/-! ## From trees to expressions -/

def Mode.class? (mode : Mode) (tree : ClassTree) : Option Regular :=
  (tree.set? mode).map (Regular.ofSet mode.wide)

def Mode.charOf (mode : Mode) (c : Char) : Regular :=
  let variants := CharSet.ofRanges ((CharSet.variants c.toNat).map fun n => (n, n))
  if !mode.ignoreCase then .text [c]
  else if mode.wide then Regular.ofSet true variants
  else if c.toNat < 0x80 then Regular.ofSet false (variants.inter CharSet.ascii)
  else .text [c]

def Mode.dot? (mode : Mode) : Option Regular :=
  if !mode.wide then none
  else if mode.dotAll then some (.oneOf CharSet.all true)
  else if mode.carriageReturns then
    some (.oneOf (CharSet.ofRanges [(0xA, 0xA), (0xD, 0xD)]).complement true)
  else some (.oneOf (CharSet.single '\n').complement true)

def Mode.condition (mode : Mode) (anchor : Anchor) : Condition :=
  let word := Shorthand.set mode.wide .word
  match anchor with
  | .lineStart =>
      if !mode.multiLine then .textStart
      else if mode.carriageReturns then .anyLineStart else .lineStart
  | .lineEnd =>
      if !mode.multiLine then .textEnd
      else if mode.carriageReturns then .anyLineEnd else .lineEnd
  | .textStart => .textStart
  | .textEnd => .textEnd
  | .boundary => .boundary word
  | .noBoundary => .noBoundary word
  | .wordStart => .wordStart word
  | .wordEnd => .wordEnd word
  | .wordStartHalf => .wordStartHalf word
  | .wordEndHalf => .wordEndHalf word

mutual

/-- The expression of a tree and the mode behind it. Flags set on their own hold
up to the end of the group around them, across its branches. -/
def Tree.regular? (mode : Mode) : Tree → Option (Regular × Mode)
  | .nothing => some (.empty, mode)
  | .flags change => some (.empty, mode.apply change)
  | .char c => some (mode.charOf c, mode)
  | .byte c => if mode.wide || c.toNat < 0x80 then some (mode.charOf c, mode) else none
  | .dot => do return (← mode.dot?, mode)
  | .anchor kind => some (.condition (mode.condition kind), mode)
  | .shorthand kind negated => do return (← mode.class? (.shorthand kind negated), mode)
  | .named query negated => do return (← mode.class? (.named query negated), mode)
  | .bracketed negated inside => do return (← mode.class? (.bracketed negated inside), mode)
  | .repetition body least most reluctant => do
      let (body, mode) ← body.regular? mode
      return (body.repeated least most (reluctant == mode.swapGreed), mode)
  | .group captures change body => do
      let (body, _) ← body.regular? (mode.apply change)
      return (if captures then .capture body else body, mode)
  | .alternation branches => do
      let (branches, mode) ← Tree.regulars? mode branches
      return (Regular.either branches, mode)
  | .sequence parts => do
      let (parts, mode) ← Tree.regulars? mode parts
      return (Regular.join parts, mode)

/-- The expressions of some trees, read one after another, and the mode behind
the last. -/
def Tree.regulars? (mode : Mode) : List Tree → Option (List Regular × Mode)
  | [] => some ([], mode)
  | tree :: rest => do
      let (first, mode) ← tree.regular? mode
      let (others, mode) ← Tree.regulars? mode rest
      return (first :: others, mode)

end

end VisualScript.Pattern
