import VisualScript.Pattern.Dictionary
import VisualScript.Pattern.Regular

/-!
# Searching for a pattern

A machine with numbered states is run over a text with all its threads side by
side, so the time is bounded by the size of the machine times the length of the
text. A search starts a thread at every place.
-/

namespace VisualScript.Pattern

/-- A state of a machine. -/
inductive State where
  | accept
  /-- Consume a character of a set. -/
  | read (set : CharSet) (next : Nat)
  | check (condition : Condition) (next : Nat)
  /-- Go on in several ways. -/
  | fork (next : List Nat)
  deriving Repr, DecidableEq, Inhabited

/-- A machine: its states, the last of which added is entered first. -/
structure Machine where
  states : Array State
  start : Nat
  deriving Repr, DecidableEq, Inhabited

namespace Machine

/-! ## Construction -/

/-- Add a state; its number. -/
def add (states : Array State) (state : State) : Array State × Nat :=
  let number := states.size
  (states.push state, number)

/-- Do something a number of times, each time in front of what was there. -/
def times (step : Array State → Nat → Array State × Nat) :
    Nat → Array State → Nat → Array State × Nat
  | 0, states, next => (states, next)
  | count + 1, states, next =>
      let (states, next) := step states next
      times step count states next

/-- Put a choice in front of `next` a number of times: to pass through a copy of
the step first, or to go straight to the end. -/
def optionally (step : Array State → Nat → Array State × Nat) (last : Nat) :
    Nat → Array State → Nat → Array State × Nat
  | 0, states, next => (states, next)
  | count + 1, states, next =>
      let (states, first) := step states next
      let (states, next) := add states (.fork [first, last])
      optionally step last count states next

/-- Put a loop in front of `next`: the state that goes round again or on, and
the first state of the step it goes round through. -/
def loop (step : Array State → Nat → Array State × Nat) (states : Array State) (next : Nat) :
    Array State × Nat × Nat :=
  let (states, head) := add states (.fork [next])
  let (states, first) := step states head
  (states.setIfInBounds head (.fork [first, next]), head, first)

/-- Put the states of a text in front of a state. -/
def buildText : List Char → Array State → Nat → Array State × Nat
  | [], states, next => (states, next)
  | c :: rest, states, next =>
      let (states, next) := buildText rest states next
      add states (.read (CharSet.single c) next)

/-- Put the states of a choice between texts in front of a state. No text is longer
than the given number of characters. -/
def buildTexts : Nat → List (List Char) → Array State → Nat → Array State × Nat
  | 0, _, states, next => (states, next)
  | length + 1, texts, states, next =>
      let (states, firsts) := (byBeginning texts).foldl (fun (states, firsts) (c, rest) =>
        let (states, first) := buildTexts length rest states next
        let (states, first) := add states (.read (CharSet.single c) first)
        (states, first :: firsts)) (states, [])
      let firsts := if texts.any List.isEmpty then next :: firsts else firsts
      match firsts with
      | [first] => (states, first)
      | firsts => add states (.fork firsts)

mutual

/-- Put the states of an expression in front of a state. -/
def build : Regular → Array State → Nat → Array State × Nat
  | .empty, states, next => (states, next)
  | .text chars, states, next => buildText chars states next
  | .oneOf set _, states, next => add states (.read set next)
  | .condition kind, states, next => add states (.check kind next)
  | .sequence parts, states, next => buildAll parts states next
  | .choice branches, states, next =>
      match branches.mapM Regular.text? with
      | some texts => buildTexts (longest texts) texts states next
      | none =>
          let (states, firsts) := buildEach branches states next
          add states (.fork firsts)
  | .repetition body least most _, states, next =>
      let step := build body
      match most with
      | none =>
          let (states, head, first) := loop step states next
          if least = 0 then (states, head) else times step (least - 1) states first
      | some most =>
          let (states, next) := optionally step next (most - least) states next
          times step least states next
  | .capture body, states, next => build body states next

/-- Put the states of some expressions one after another in front of a state. -/
def buildAll : List Regular → Array State → Nat → Array State × Nat
  | [], states, next => (states, next)
  | part :: rest, states, next =>
      let (states, next) := buildAll rest states next
      build part states next

/-- Put the states of each expression in front of a state. -/
def buildEach : List Regular → Array State → Nat → Array State × List Nat
  | [], states, _ => (states, [])
  | branch :: rest, states, next =>
      let (states, first) := build branch states next
      let (states, firsts) := buildEach rest states next
      (states, first :: firsts)

end

def ofRegular (expression : Regular) : Machine :=
  let (states, start) := build expression #[.accept] 0
  ⟨states, start⟩

/-! ## Running -/

/-- The threads at a place of the text: the states they reach behind the next
character, the states passed there, and whether one of them has accepted. -/
structure Threads where
  ahead : List Nat
  /-- For each state the number of the last place at which it was passed. -/
  passed : Array Nat
  accepted : Bool

/-- A bound on how many states can be met at one place: every way out of every
state once. -/
def ways (machine : Machine) : Nat :=
  machine.states.foldl (fun count state => count + match state with
    | .fork next => next.length
    | _ => 1) 1

/-- Follow threads until they consume the next character. -/
def follow (machine : Machine) (place : Nat) (before after : Option Char) :
    Nat → List Nat → Threads → Threads
  | 0, _, threads => threads
  | _, [], threads => threads
  | budget + 1, state :: rest, ⟨ahead, passed, accepted⟩ =>
      if passed.getD state place = place then
        follow machine place before after budget rest ⟨ahead, passed, accepted⟩
      else
        let passed := passed.setIfInBounds state place
        match machine.states.getD state .accept with
        | .accept => ⟨ahead, passed, true⟩
        | .read set next =>
            follow machine place before after budget rest
              ⟨if after.any set.contains then next :: ahead else ahead, passed, accepted⟩
        | .check condition next =>
            follow machine place before after budget
              (if condition.holds before after then next :: rest else rest)
              ⟨ahead, passed, accepted⟩
        | .fork next =>
            follow machine place before after budget (next ++ rest) ⟨ahead, passed, accepted⟩

/-- Run the machine from a place on, with the threads that arrive there and a
new one. Whether one of them accepts somewhere. -/
def run (machine : Machine) (ways : Nat) :
    Nat → Option Char → List Char → List Nat → Array Nat → Bool
  | place, before, text, arriving, passed =>
      let starts := machine.start :: arriving
      let threads := follow machine place before text.head? (ways + starts.length) starts
        ⟨[], passed, false⟩
      match text with
      | [] => threads.accepted
      | c :: rest =>
          threads.accepted ||
            run machine ways (place + 1) (some c) rest threads.ahead threads.passed

/-- Whether the machine accepts some part of a text. -/
def search (machine : Machine) (text : List Char) : Bool :=
  run machine machine.ways 1 none text [] (Array.replicate machine.states.size 0)

end Machine

end VisualScript.Pattern
