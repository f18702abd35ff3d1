import VisualScript.Proofs.Pass.Edits

/-!
# Journals only grow

No piece of work takes back what is in the journal, and what it reports keeps a
program from being submitted. So a pass that ends without reports had none at any
time before.
-/

namespace VisualScript

/-- What an edit adds to the journal has a property. -/
def Edit.Tells (property : Event → Prop) : Edit → Prop
  | report kind node detail => property (.reported (Diagnostic.of kind (some node) detail))
  | require modules => property (.required modules)
  | write node statement => ∀ scope, property (.wrote ⟨scope, node, statement⟩)
  | claim definition literal => property (.claimed definition literal literal.localName)
  | _ => True

namespace Pass

/-- What happened since has a property. -/
def Adds (property : Event → Prop) (pass next : Pass) : Prop :=
  ∃ added, next.events = added ++ pass.events ∧ ∀ event ∈ added, property event

namespace Adds

variable {property : Event → Prop} {pass middle next : Pass}

theorem of_events_eq (h : next.events = pass.events) : Adds property pass next := by
  refine ⟨[], h, ?_⟩
  intro event hmem
  cases hmem

theorem refl (pass : Pass) : Adds property pass pass := of_events_eq rfl

theorem trans (hfirst : Adds property pass middle) (hrest : Adds property middle next) :
    Adds property pass next := by
  obtain ⟨added, hadded, hholds⟩ := hfirst
  obtain ⟨later, hlater, hholds'⟩ := hrest
  refine ⟨later ++ added, by rw [hlater, hadded, List.append_assoc], ?_⟩
  intro event hmem
  rcases List.mem_append.mp hmem with hmem | hmem
  · exact hholds' event hmem
  · exact hholds event hmem

theorem subset (h : Adds property pass next) : pass.events ⊆ next.events := by
  obtain ⟨added, hadded, _⟩ := h
  exact hadded ▸ List.subset_append_right _ _

/-- One thing happened. -/
theorem of_events_eq_cons {event : Event} (hevents : next.events = event :: pass.events)
    (h : property event) : Adds property pass next := by
  refine ⟨[event], hevents, ?_⟩
  intro other hmem
  exact List.mem_singleton.mp hmem ▸ h

theorem log (pass : Pass) {event : Event} (h : property event) :
    Adds property pass (pass.log event) := of_events_eq_cons rfl h

theorem of_edited (h : pass.Edited (Edit.Tells property) next) : Adds property pass next := by
  refine h.related refl trans fun pass edit hedit => ?_
  cases edit with
  | report => exact log _ hedit
  | require => exact log _ hedit
  | write => exact of_events_eq_cons rfl (hedit _)
  | claim => exact of_events_eq_cons rfl hedit
  | splice => exact of_events_eq rfl
  | setResult => exact of_events_eq rfl
  | dropResult => exact of_events_eq rfl

end Adds

end Pass

/-- An event is no report of anything but an error. -/
def Event.IsHarmlessOrError : Event → Prop
  | reported diagnostic => diagnostic.isError = true
  | _ => True

/-- The journal grew, and what was reported meanwhile are errors. -/
abbrev Pass.Grows (pass next : Pass) : Prop := pass.Adds Event.IsHarmlessOrError next

namespace Pass.Grows

theorem of_edited {pass next : Pass} (h : pass.Edited Edit.ReportsErrors next) :
    pass.Grows next := by
  refine h.related .refl .trans fun pass edit hedit => ?_
  cases edit with
  | report => exact .log _ (decide_eq_true hedit)
  | require => exact .log _ trivial
  | write => exact .of_events_eq_cons rfl trivial
  | claim => exact .of_events_eq_cons rfl trivial
  | splice => exact .of_events_eq rfl
  | setResult => exact .of_events_eq rfl
  | dropResult => exact .of_events_eq rfl

theorem openBlock (pass : Pass) (block : Block) : pass.Grows (pass.openBlock block) :=
  .of_events_eq_cons rfl trivial

theorem leave (pass : Pass) (id : NodeId) : pass.Grows (pass.leave id) :=
  .of_events_eq_cons rfl trivial

theorem ordered : Pass.Ordered Pass.Grows where
  refl := .refl
  trans := .trans
  edit _ _ hedit := of_edited (.step .refl hedit)
  resolve _ _ := .log _ trivial
  initiate _ _ := .of_events_eq rfl
  reach _ _ := .of_events_eq rfl
  visit := by
    intro pass next id h
    have hentered : pass.Grows (pass.enter id) := .of_events_eq_cons rfl trivial
    exact (hentered.trans h).trans (leave _ _)
  inside := by
    intro pass next h
    exact (openBlock _ _).trans h

end Pass.Grows

/-- What one piece of work leaves behind is the journal before it and what it adds. -/
theorem Walk.grows {context : Context} {onChain : List NodeId} {task : Task} {pass next : Pass}
    (h : Walk context onChain task pass next) : pass.Grows next :=
  h.related Pass.Grows.ordered

end VisualScript
