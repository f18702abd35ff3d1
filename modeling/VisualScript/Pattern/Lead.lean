import VisualScript.Pattern.Encoding
import VisualScript.Pattern.Regular

/-!
# What matches begin with

A lead is a text that some match of an expression is, or bytes that some of its matches
begin with. Each match has one of the leads of the expression. Leads are few and short:
they are cut off where they become too long or too many, and an expression with matches
that begin in too many ways has no leads at all.
-/

namespace VisualScript.Pattern

/-- How some matches begin. -/
inductive Lead where
  /-- The match is the text. -/
  | whole (text : List Char)
  /-- The matches begin with the bytes and may go on behind them. -/
  | cut (bytes : List Nat)
  deriving Repr, DecidableEq, Inhabited

/-- The most leads that an expression may have. -/
def mostLeads : Nat := 250

def longestLead : Nat := 100

/-- The bytes of the longest lead where room has to be made for more of them. -/
def shortLead : Nat := 4

/-- The most characters that a set with leads may have. -/
def mostLeadingChars : Nat := 10

/-- The most copies of a repeated expression that a lead goes through. -/
def mostLeadingCopies : Nat := 10

namespace Lead

def bytes : Lead → List Nat
  | whole text => encodeAll text
  | cut bytes => bytes

/-- The text of a lead that is a whole match. -/
def text? : Lead → Option (List Char)
  | whole text => some text
  | cut _ => none

def isWhole (lead : Lead) : Bool := lead.text?.isSome

/-- The lead of matches that begin as before and may go on. -/
def opened (lead : Lead) : Lead := cut lead.bytes

/-- At most a number of the bytes of a lead. -/
def take (size : Nat) (lead : Lead) : Lead :=
  if lead.bytes.length ≤ size then lead else cut (lead.bytes.take size)

/-- The lead of a match followed by another. Where a match that may go on ends is not
known, so nothing is known of what stands behind it. -/
def append : Lead → Lead → Lead
  | whole first, whole second => whole (first ++ second)
  | whole first, cut bytes => cut (encodeAll first ++ bytes)
  | cut bytes, _ => cut bytes

/-- The leads, with neighbours of the same bytes made one. It is a whole match only if
all of them are. -/
def distinct (leads : List Lead) : List Lead :=
  leads.foldr (fun lead rest => match rest with
    | next :: others =>
        if lead.bytes = next.bytes then (if lead.isWhole then next else lead) :: others
        else lead :: rest
    | [] => [lead]) []

end Lead

/-- All leads of an expression, in the order in which its matches are preferred, unless
it begins in too many ways. -/
abbrev Leads := Option (List Lead)

namespace Leads

/-- The leads of what matches nothing but the empty text. -/
def nothing : Leads := some [.whole []]

/-- The leads of matches that may go on. -/
def opened (leads : Leads) : Leads := leads.map fun leads => leads.map Lead.opened

/-- Whether what follows an expression makes no difference to the leads. -/
def isOpen : Leads → Bool
  | some leads => leads.all fun lead => !lead.isWhole
  | none => true

/-- The leads of an expression that is followed by one that begins in too many ways. -/
def beforeMany (leads : List Lead) : Leads :=
  if leads.any fun lead => lead.bytes.isEmpty then none else opened (some leads)

/-- The leads of an expression and one that follows it. -/
def followedBy : Leads → Leads → Leads
  | none, _ => none
  | some leads, none => beforeMany leads
  | some leads, some next =>
      if leads.length * next.length ≤ mostLeads then
        let both := leads.flatMap fun lead =>
          if lead.isWhole then next.map lead.append else [lead]
        some ((Lead.distinct both).map (Lead.take longestLead))
      else beforeMany leads

/-- The leads of one expression or another. They are shortened where they are too many. -/
def union : Leads → Leads → Leads
  | some leads, some others =>
      if leads.length + others.length ≤ mostLeads then some (Lead.distinct (leads ++ others))
      else
        let leads := Lead.distinct (leads.map (Lead.take shortLead))
        let others := Lead.distinct (others.map (Lead.take shortLead))
        if leads.length + others.length ≤ mostLeads then some (Lead.distinct (leads ++ others))
        else none
  | _, _ => none

/-- The leads of a number of copies of an expression behind another one. -/
def followedByCopies (body : Leads) : Nat → Leads → Leads
  | 0, leads => leads
  | count + 1, leads =>
      if leads.isOpen then leads else followedByCopies body count (leads.followedBy body)

/-- The leads of a repetition. Matches may go on unless all their copies are known. -/
def repetition (body : Leads) (least : Nat) (most : Option Nat) (greedy : Bool) : Leads :=
  if least = 0 then
    let copies := if most = some 1 then body else body.opened
    if greedy then copies.union nothing else nothing.union copies
  else
    let copies := followedByCopies body (min least mostLeadingCopies) nothing
    if most = some least ∧ least ≤ mostLeadingCopies then copies else copies.opened

end Leads

def CharSet.count (set : CharSet) : Nat :=
  set.ranges.foldl (fun count (low, high) => count + (high - low + 1)) 0

def CharSet.leads (set : CharSet) : Leads :=
  if set.count ≤ mostLeadingChars then
    some (set.ranges.flatMap fun (low, high) =>
      (Text.runMembers low high 1).map fun n => .whole [Char.ofNat n])
  else none

namespace Regular

mutual

def leads : Regular → Leads
  | .empty => .nothing
  | .text chars => some [(Lead.whole chars).take longestLead]
  | .oneOf set _ => set.leads
  | .condition _ => .nothing
  | .sequence parts => leadsOfRow parts .nothing
  | .choice branches => leadsOfAny branches (some [])
  | .repetition body least most greedy => body.leads.repetition least most greedy
  | .capture body => body.leads

/-- The leads of some expressions one after another, behind one that has leads. -/
def leadsOfRow : List Regular → Leads → Leads
  | [], leads => leads
  | part :: rest, leads =>
      if leads.isOpen then leads else leadsOfRow rest (leads.followedBy part.leads)

/-- The leads of any of some expressions, or of one that has leads. -/
def leadsOfAny : List Regular → Leads → Leads
  | [], leads => leads
  | branch :: rest, leads => leadsOfAny rest (leads.union branch.leads)

end

end Regular

end VisualScript.Pattern
