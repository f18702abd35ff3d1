import VisualScript.Pattern.Lead

/-!
# Patterns that are lists of words

A pattern that only a few texts match needs no machine, however large it is written:
its words are looked for as they stand. Where it is better to look for what the words
begin with, a machine has to go on from there, and the pattern is no list of words.
-/

namespace VisualScript.Pattern

/-- The characters that texts are full of. -/
def commonChars : List Char := "\n\r (),-./0129:_abcdefghilmnoprstuvxy|".toList

/-- Whether a byte is worth looking for on its own. -/
def isRare (byte : Nat) : Bool := byte < 0x80 && !commonChars.contains (Char.ofNat byte)

/-- What two lists of bytes begin with alike. -/
def sharedStart : List Nat → List Nat → List Nat
  | left :: lefts, right :: rights =>
      if left = right then left :: sharedStart lefts rights else []
  | _, _ => []

namespace Lead

/-- What all of some leads begin with. -/
def start : List Lead → List Nat
  | [] => []
  | lead :: rest => rest.foldl (fun shared lead => sharedStart shared lead.bytes) lead.bytes

/-- The leads that do not begin with an earlier one. Where one that is left out is
found, the earlier one is found already. -/
def withoutLonger (leads : List Lead) : List Lead :=
  leads.foldl (fun kept lead =>
    if kept.any fun shorter => shorter.bytes.isPrefixOf lead.bytes then kept
    else kept ++ [lead]) []

/-- How leads are shortened one time after another: to how many bytes, if there are
more than how many leads. -/
def shortenings : List (Nat × Nat) := [(5, 10), (4, 10), (3, 64), (2, 64), (1, 10)]

/-- Shorten leads to make them fewer. -/
def shorten : List (Nat × Nat) → List Lead → List Lead
  | [], leads => leads
  | (size, few) :: rest, leads =>
      if leads.length ≤ few then leads
      else shorten rest (withoutLonger (leads.map (take size)))

/-- What is looked for in place of some leads, of which the given number were found at
first: a rare byte that all begin with, a telling start that all have, or shorter
leads. Shorter leads that say too little or are still many are worse than whole ones. -/
def sought (found : Nat) (leads : List Lead) : List Lead :=
  let shared := start leads
  if 1 < found ∧ shared.length ≤ 3 ∧ shared.head?.any isRare then leads.map (take 1)
  else if 4 < shared.length ∨ (1 < shared.length ∧ 16 < leads.length) then
    leads.map (take shared.length)
  else
    let short := shorten shortenings leads
    if short.any (fun lead => lead.bytes.length ≤ 2) ∨ 64 < short.length then leads else short

/-- The words that leads stand for, if whole words are looked for. -/
def words? (leads : List Lead) : Option (List (List Char)) :=
  let leads := distinct leads
  if leads.isEmpty || leads.any fun lead => lead.bytes.isEmpty then none
  else (sought leads.length (withoutLonger leads)).mapM text?

end Lead

namespace Regular

mutual

/-- Whether an expression is without conditions and captures. -/
def isPlain : Regular → Bool
  | .empty => true
  | .text _ => true
  | .oneOf _ _ => true
  | .condition _ => false
  | .sequence parts => allPlain parts
  | .choice branches => allPlain branches
  | .repetition body _ _ _ => body.isPlain
  | .capture _ => false

/-- Whether all of some expressions are without conditions and captures. -/
def allPlain : List Regular → Bool
  | [] => true
  | part :: rest => part.isPlain && allPlain rest

end

/-- The words that an expression is a list of, if it is one. A text contains a match of
the expression if it contains one of the words. -/
def words? (expression : Regular) : Option (List (List Char)) :=
  if expression.isPlain then expression.leads.bind Lead.words? else none

/-- How many texts there have to be in a choice so that they are looked up in a
dictionary. -/
def fewestWords : Nat := 3000

/-- Whether an expression is a choice between very many texts. -/
def isDictionary : Regular → Bool
  | .choice branches => fewestWords ≤ branches.length && branches.all fun b => b.text?.isSome
  | _ => false

end Regular

end VisualScript.Pattern
