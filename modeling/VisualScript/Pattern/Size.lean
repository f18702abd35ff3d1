import Std.Data.HashMap
import VisualScript.Pattern.Dictionary
import VisualScript.Pattern.Encoding
import VisualScript.Pattern.Regular

/-!
# The size of a pattern

A pattern that is no list of words is refused if the machine that would search for
it, forwards or backwards over the bytes of a text, is too large. The machine is laid
out state by state, with counted repetitions written out. Only the states of sets
beyond ASCII depend on where in the machine they stand, since equal ones are shared
through a table with few slots.
-/

namespace VisualScript.Pattern

/-- The bytes that the largest machine may take. -/
def largestMachine : Nat := 0xA00000

def stateBytes : Nat := 32

/-- The bytes of a branch of a state. -/
def branchBytes : Nat := 4

/-- The bytes of a transition that a state chooses by the byte it reads. -/
def transitionBytes : Nat := 8

/-- How much there is of a machine: its states, and the bytes of their branches
and transitions. -/
structure Extent where
  states : Nat
  links : Nat
  deriving Repr, DecidableEq, Inhabited

namespace Extent

def bytes (extent : Extent) : Nat := extent.states * stateBytes + extent.links

def add (left right : Extent) : Extent :=
  ⟨left.states + right.states, left.links + right.links⟩

/-- States that lead on to one state each. -/
def plain (count : Nat) : Extent := ⟨count, 0⟩

/-- A state with branches. -/
def fork (branches : Nat) : Extent := ⟨1, branches * branchBytes⟩

/-- A state that chooses by the byte it reads. -/
def reader (transitions : Nat) : Extent := ⟨1, transitions * transitionBytes⟩

/-- An extent, unless it is too large. -/
def admitted? (extent : Extent) : Option Extent :=
  if extent.bytes ≤ largestMachine then some extent else none

/-- Grow an extent a number of times. -/
def times (grow : Extent → Option Extent) : Nat → Extent → Option Extent
  | 0, extent => some extent
  | count + 1, extent =>
      match grow extent with
      | some extent => times grow count extent
      | none => none

end Extent

/-! ## Choices between texts

Texts with the same first bytes share the states that read them. -/

/-- Texts in groups between those that are used up. A text that is used up before
any other began to be read counts once. -/
def textGroups (texts : List (List Nat)) : List (List (List Nat)) :=
  match texts with
  | [] :: rest => [] :: go (rest.dropWhile List.isEmpty)
  | texts => go texts
where
  /-- The groups of texts, each that is used up between two of them. -/
  go : List (List Nat) → List (List (List Nat))
    | [] => [[]]
    | [] :: rest => [] :: go rest
    | text :: rest =>
        match go rest with
        | group :: groups => (text :: group) :: groups
        | [] => [[text]]

/-- The extent of what reads the given texts, none longer than the given number
of bytes, if anything is left to be read. -/
def textsExtent : Nat → List (List Nat) → Extent
  | 0, _ => .plain 0
  | length + 1, texts =>
      let groups := textGroups texts
      let filled := groups.filter fun group => !group.isEmpty
      if filled.isEmpty then .plain 0
      else
        filled.foldl (fun extent group =>
          let rests := byBeginning group
          let state := if rests.length = 1 then .plain 1 else .reader rests.length
          rests.foldl (fun extent (_, rest) => extent.add (textsExtent length rest))
            (extent.add state))
          (.fork (filled.length + (groups.length - 1)))

/-- The extent of a choice between texts. -/
def choiceExtent (backward : Bool) (texts : List (List Char)) : Extent :=
  let texts := texts.map fun chars =>
    if backward then (encodeAll chars).reverse else encodeAll chars
  (textsExtent (longest texts) texts).add (.plain 1)

/-! ## Sets beyond ASCII -/

/-- A machine with a table of the states that may be shared: for each slot what
the state in it reads and leads to, and its number. -/
structure Sharing where
  extent : Extent
  slots : Std.HashMap Nat (List Nat × Nat)

/-- The slot of a state, by mixing the numbers that it is described by. -/
def slotOf (capacity : Nat) (description : List Nat) : Nat :=
  let mixed := description.foldl
    (fun mixed n => (mixed ^^^ n.toUInt64) * 0x100000001B3) (0xCBF29CE484222325 : UInt64)
  mixed.toNat % capacity

/-- The number of a state. It is added unless the one in its slot is just like it,
and takes the place of another one in its slot. -/
def Sharing.numberOf (capacity : Nat) (state : Extent) (description : List Nat)
    (sharing : Sharing) : Nat × Sharing :=
  let slot := slotOf capacity description
  match sharing.slots[slot]? with
  | some (known, number) =>
      if known = description then (number, sharing) else added slot
  | none => added slot
where
  /-- The number of a new state in a slot. -/
  added (slot : Nat) : Nat × Sharing :=
    let number := sharing.extent.states
    (number, ⟨sharing.extent.add state, sharing.slots.insert slot (description, number)⟩)

/-- The groups of byte ranges by first byte, in order, with what follows it. -/
def byFirst : List ByteRanges → List ((Nat × Nat) × List ByteRanges)
  | [] => []
  | [] :: rest => byFirst rest
  | (first :: tail) :: rest =>
      match byFirst rest with
      | (other, tails) :: groups =>
          if first = other then (other, tail :: tails) :: groups
          else (first, [tail]) :: (other, tails) :: groups
      | [] => [(first, [tail])]

/-- The slots of the states that read characters forwards. -/
def forwardSlots : Nat := 10000

/-- The slots of the states that read characters backwards. -/
def backwardSlots : Nat := 1000

/-- The number of the state that reads characters from their first byte on and
then goes to the state `last`. No encoding is longer than the given number of
bytes. What follows a byte is laid out before the state that reads it. -/
def forwardState (last : Nat) : Nat → List ByteRanges → Sharing → Nat × Sharing
  | 0, _, sharing => (last, sharing)
  | length + 1, encodings, sharing =>
      match byFirst encodings with
      | [] => (last, sharing)
      | groups =>
          let (description, sharing) := groups.foldl
            (fun (description, sharing) ((low, high), tails) =>
              let (next, sharing) := forwardState last length tails sharing
              (next :: high :: low :: description, sharing)) ([], sharing)
          sharing.numberOf forwardSlots (.reader groups.length) description.reverse

/-- The states that read one character from its last byte on and then go to the
state `last`. What leads there is laid out first. -/
def backwardStates (last : Nat) (bytes : ByteRanges) (sharing : Sharing) : Sharing :=
  (bytes.foldl (fun (next, sharing) (low, high) =>
    sharing.numberOf backwardSlots (.plain 1) [next, low, high]) (last, sharing)).2

/-- A machine with what reads one character of a set, by its byte ranges. -/
def Extent.addSet (backward : Bool) (encodings : List ByteRanges) (extent : Extent) : Extent :=
  if backward then
    let sharing : Sharing := ⟨(extent.add (.fork encodings.length)).add (.plain 1), ∅⟩
    (encodings.foldl (fun sharing bytes => backwardStates (extent.states + 1) bytes sharing)
      sharing).extent
  else (forwardState extent.states 4 encodings ⟨extent.add (.plain 1), ∅⟩).2.extent

/-! ## Expressions -/

/-- What a machine is made of, in the order in which its states are numbered. -/
inductive Layout where
  | states (extent : Extent)
  /-- What reads one character of a set, by its byte ranges. -/
  | set (encodings : List ByteRanges)
  | row (parts : List Layout)
  | copies (count : Nat) (body : Layout)
  deriving Inhabited

/-- What reads one character of a set. -/
def CharSet.layout (set : CharSet) : Layout :=
  if set.ranges.all fun range => range.2 < 0x80 then
    .states ((Extent.plain 1).add (.reader set.ranges.length))
  else .set set.byteRanges

/-- A choice, given what its branches are made of. -/
def Layout.choice : List Layout → Layout
  | first :: second :: rest =>
      .row (first :: second ::
        .states ((Extent.fork (rest.length + 2)).add (.plain 1)) :: rest)
  | parts => .row parts

/-- A repetition of something, which may be known to consume something always. -/
def Layout.repetition (body : Layout) (alwaysConsumes : Bool) (least : Nat) :
    Option Nat → Layout
  | none =>
      if 0 < least then .row [.copies least body, .states (.fork 2)]
      else if alwaysConsumes then .row [.states (.fork 2), body]
      else .row [body, .states (((Extent.fork 2).add (.fork 2)).add (.plain 1))]
  | some most =>
      if least = most then .copies least body
      else if least = 0 ∧ most = 1 then .row [.states (.fork 2), body, .states (.plain 1)]
      else
        .row [if least = 0 then .states (.plain 1) else .copies least body, .states (.plain 1),
          .copies (most - least) (.row [.states (.fork 2), body])]

namespace Regular

mutual

/-- The length of the shortest match. An expression with an empty set in it is
taken to have none. -/
def shortest? : Regular → Option Nat
  | .empty => some 0
  | .text chars => some chars.length
  | .oneOf set _ => if set.ranges.isEmpty then none else some 1
  | .condition _ => some 0
  | .sequence parts => shortestInRow? parts
  | .choice branches => shortestOfAll? branches
  | .repetition body least _ _ => body.shortest?.map (least * ·)
  | .capture body => body.shortest?

/-- The length of the shortest match of some expressions one after another. -/
def shortestInRow? : List Regular → Option Nat
  | [] => some 0
  | part :: rest => do return (← part.shortest?) + (← shortestInRow? rest)

/-- The length of the shortest match of any of some expressions. -/
def shortestOfAll? : List Regular → Option Nat
  | [] => none
  | [branch] => branch.shortest?
  | branch :: rest => do return min (← branch.shortest?) (← shortestOfAll? rest)

end

/-- Whether an expression consumes a character wherever it matches. -/
def alwaysConsumes (expression : Regular) : Bool := expression.shortest?.any (0 < ·)

mutual

/-- Whether an expression matches only at an end of the text: behind the start,
or backwards in front of the end. -/
def anchored (backward : Bool) : Regular → Bool
  | .empty => false
  | .text _ => false
  | .oneOf _ _ => false
  | .condition kind => kind = if backward then .textEnd else .textStart
  | .sequence parts => anchoredRow backward parts
  | .choice branches => allAnchored backward branches
  | .repetition body least _ _ => 0 < least && body.anchored backward
  | .capture body => body.anchored backward

/-- Whether expressions one after another match only at an end of the text. What
consumes nothing may stand between them and that end. -/
def anchoredRow (backward : Bool) : List Regular → Bool
  | [] => false
  | part :: rest =>
      if backward then anchoredRow backward rest || (!anyConsumes rest && part.anchored backward)
      else part.anchored backward || (!part.consumes && anchoredRow backward rest)

/-- Whether all of some expressions match only at an end of the text. -/
def allAnchored (backward : Bool) : List Regular → Bool
  | [] => true
  | branch :: rest => branch.anchored backward && allAnchored backward rest

end

mutual

/-- What the machine of an expression is made of. -/
def layout (backward : Bool) : Regular → Layout
  | .empty => .states (.plain 1)
  | .text chars => .states (.plain (encodeAll chars).length)
  | .oneOf set _ => set.layout
  | .condition _ => .states (.plain 1)
  | .sequence parts =>
      let parts := layouts backward parts
      .row (if backward then parts.reverse else parts)
  | .choice branches =>
      match branches.mapM text? with
      | some texts => .states (choiceExtent backward texts)
      | none => Layout.choice (layouts backward branches)
  | .repetition body least most _ =>
      (body.layout backward).repetition body.alwaysConsumes least most
  | .capture body =>
      if backward then body.layout backward
      else .row [.states (.plain 1), body.layout backward, .states (.plain 1)]

/-- What the machines of some expressions are made of. -/
def layouts (backward : Bool) : List Regular → List Layout
  | [] => []
  | part :: rest => part.layout backward :: layouts backward rest

end

/-- What the machine that searches for an expression is made of. Unless a match is
bound to an end of the text, the search passes over any bytes first. -/
def searchLayout (backward : Bool) (expression : Regular) : Layout :=
  let lead : Extent :=
    if expression.anchored backward then .plain 1
    else ((Extent.fork 2).add (.plain 1)).add (.reader 1)
  if backward then .row [.states lead, expression.layout backward, .states (.plain 1)]
  else
    .row [.states lead, .states (.plain 1), expression.layout backward, .states (.plain 2)]

end Regular

mutual

/-- A machine with what a layout adds to it, unless it grows too large. -/
def Layout.addTo? (backward : Bool) : Layout → Extent → Option Extent
  | .states more, extent => (extent.add more).admitted?
  | .set encodings, extent => (extent.addSet backward encodings).admitted?
  | .row parts, extent => Layout.addAllTo? backward parts extent
  | .copies count body, extent => Extent.times (Layout.addTo? backward body) count extent

/-- A machine with what some layouts add to it, unless it grows too large. -/
def Layout.addAllTo? (backward : Bool) : List Layout → Extent → Option Extent
  | [], extent => some extent
  | part :: rest, extent =>
      match Layout.addTo? backward part extent with
      | some extent => Layout.addAllTo? backward rest extent
      | none => none

end

/-- Whether the machines of an expression, both ways, are small enough. -/
def Regular.fits (expression : Regular) : Bool :=
  [false, true].all fun backward =>
    ((expression.searchLayout backward).addTo? backward (.plain 0)).isSome

end VisualScript.Pattern
