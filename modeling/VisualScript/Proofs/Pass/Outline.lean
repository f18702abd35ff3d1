import VisualScript.Proofs.Pass.Adequacy

/-!
# What passes have in common

The outline of a pass is what is left of it without what it wrote. Two passes over a
graph that differ only in how they write run side by side: they come to the same
nodes in the same order, and end alike or both go too deep.
-/

namespace VisualScript

/-! ## Outlines -/

/-- What is left of an event when written text is left out: nothing of writing and of
reports on blocks that are blank, and of resolutions not the value of a source. -/
def Event.outline? : Event → Option Event
  | wrote _ => none
  | reported diagnostic =>
      if diagnostic.kind = .thenBranchExpected then none else some (.reported diagnostic)
  | resolved resolution =>
      some (.resolved { resolution with
        value := if resolution.ofSource then .name resolution.source else resolution.value })
  | event => some event

theorem Event.outline?_reported (diagnostic : Diagnostic) :
    (reported diagnostic).outline? = none ∨
      (reported diagnostic).outline? = some (.reported diagnostic) := by
  unfold outline?
  dsimp only
  split
  next => exact .inl rfl
  next => exact .inr rfl

/-- Two states of passes are the same up to what was written and what stands for values. -/
structure Pass.Alike (pass other : Pass) : Prop where
  initiated : pass.initiated = other.initiated
  reached : pass.reached = other.reached
  emitting : pass.emitting = other.emitting
  scopes : pass.scopes = other.scopes
  path : pass.block.path = other.block.path
  children : pass.block.children = other.block.children
  events : pass.events.filterMap Event.outline? = other.events.filterMap Event.outline?

namespace Pass.Alike

variable {pass other : Pass}

theorem refl (pass : Pass) : Alike pass pass := ⟨rfl, rfl, rfl, rfl, rfl, rfl, rfl⟩

theorem symm (h : Alike pass other) : Alike other pass :=
  ⟨h.initiated.symm, h.reached.symm, h.emitting.symm, h.scopes.symm, h.path.symm,
    h.children.symm, h.events.symm⟩

theorem trans {next : Pass} (h : Alike pass other) (hrest : Alike other next) : Alike pass next :=
  ⟨h.initiated.trans hrest.initiated, h.reached.trans hrest.reached,
    h.emitting.trans hrest.emitting, h.scopes.trans hrest.scopes, h.path.trans hrest.path,
    h.children.trans hrest.children, h.events.trans hrest.events⟩

theorem inScope (h : Alike pass other) (node : NodeId) :
    pass.inScope node = other.inScope node := by
  unfold Pass.inScope Block.sees
  rw [h.scopes, h.path]

/-! What is done to both keeps them alike. -/

theorem log (h : Alike pass other) {event event' : Event}
    (hevent : event.outline? = event'.outline?) : Alike (pass.log event) (other.log event') where
  initiated := h.initiated
  reached := h.reached
  emitting := h.emitting
  scopes := h.scopes
  path := h.path
  children := h.children
  events := by
    change (event :: pass.events).filterMap _ = (event' :: other.events).filterMap _
    rw [List.filterMap_cons, List.filterMap_cons, hevent, h.events]

theorem note (h : Alike pass other) (event : Event) : Alike (pass.log event) (other.log event) :=
  h.log rfl

theorem report (h : Alike pass other) (kind : DiagnosticKind) (node : NodeId)
    (detail : Option String) :
    Alike (pass.report kind node detail) (other.report kind node detail) :=
  h.note _

theorem require (h : Alike pass other) (modules : List String) :
    Alike (pass.require modules) (other.require modules) := h.note _

theorem initiate (h : Alike pass other) (node : NodeId) :
    Alike (pass.initiate node) (other.initiate node) :=
  { h with initiated := congrArg (node :: ·) h.initiated }

theorem reach (h : Alike pass other) (node : NodeId) :
    Alike (pass.reach node) (other.reach node) :=
  { h with reached := congrArg (node :: ·) h.reached }

theorem openBlock (h : Alike pass other) {block block' : Block} (hpath : block.path = block'.path)
    (hchildren : block.children = block'.children) :
    Alike (pass.openBlock block) (other.openBlock block') := by
  have hevent : (Event.opened block.path).outline? = (Event.opened block'.path).outline? := by
    rw [hpath]
  exact { h.log hevent with path := hpath, children := hchildren }

theorem openChild (h : Alike pass other) : Alike pass.openChild other.openChild := by
  refine h.openBlock ?_ rfl
  change pass.block.path ++ [pass.block.children] = other.block.path ++ [other.block.children]
  rw [h.path, h.children]

theorem enter (h : Alike pass other) (node : NodeId) :
    Alike (pass.enter node) (other.enter node) := by
  have hevent : (Event.entered node pass.block.path).outline? =
      (Event.entered node other.block.path).outline? := by
    rw [h.path]
  refine { h.log hevent with emitting := congrArg (node :: ·) h.emitting, scopes := ?_ }
  change pass.scopes.insert node pass.block.path = other.scopes.insert node other.block.path
  rw [h.scopes, h.path]

theorem leave (h : Alike pass other) (node : NodeId) :
    Alike (pass.leave node) (other.leave node) :=
  { h.note (.finished node) with emitting := congrArg (List.filter (· ≠ node)) h.emitting }

theorem claim (h : Alike pass other) (definition literal : NodeId) :
    Alike (pass.claim definition literal) (other.claim definition literal) :=
  { ((h.reach literal).initiate literal).note
    (.claimed definition literal literal.localName) with }

theorem backTo (h : Alike pass other) {outer outer' : Pass} (houter : Alike outer outer') :
    Alike (pass.backTo outer.block) (other.backTo outer'.block) :=
  { h with path := houter.path, children := congrArg (· + 1) houter.children }

theorem checkLiteral (h : Alike pass other) (type : LanguageType) (node : Node) (key : String) :
    Alike (pass.checkLiteral type node key) (other.checkLiteral type node key) := by
  unfold Pass.checkLiteral
  split
  next => exact h.require _
  next => exact (h.report _ _ _).require _

theorem declare (h : Alike pass other) (definition : NodeId) (index : Nat) (wiring : Wiring) :
    Alike (pass.declare definition index wiring) (other.declare definition index wiring) := by
  cases wiring with
  | byLiteral source type literal => exact (h.checkLiteral _ _ _).claim _ _
  | unsupported source component => exact h.report _ _ _
  | typed type => exact h.require _
  | untyped => exact h.report _ _ _

/-! What is written, and what stands for values, leaves a pass like it was. -/

theorem write (pass : Pass) (node : NodeId) (statement : Statement) :
    Alike pass (pass.write node statement) := { refl pass with }

theorem splice (pass : Pass) (inner : Block) : Alike pass (pass.splice inner) := { refl pass with }

theorem setResult (pass : Pass) (node : NodeId) (value : Expression) :
    Alike pass (pass.setResult node value) := { refl pass with }

theorem dropResult (pass : Pass) (node : NodeId) : Alike pass (pass.dropResult node) :=
  { refl pass with }

theorem thenBranchExpected (pass : Pass) (id : NodeId) :
    Alike pass (pass.report .thenBranchExpected id none) := { refl pass with }

end Pass.Alike

/-! ## Steps side by side -/

namespace Emit

variable {α β γ δ : Type} {alike : Pass → Pass → Prop} {agree : α → β → Prop}
  {agree' : γ → δ → Prop}

/-- From states that are alike, two steps end with answers that agree and in states that
are alike, or both go too deep. -/
def Mirrors (alike : Pass → Pass → Prop) (agree : α → β → Prop) (step : Emit α)
    (other : Emit β) : Prop :=
  ∀ pass pass', alike pass pass' →
    (∃ answer answer' next next', Ends step pass answer next ∧ Ends other pass' answer' next' ∧
      agree answer answer' ∧ alike next next') ∨
    (step pass = .error .tooDeep ∧ other pass' = .error .tooDeep)

/-- Answers that agree whatever they are. -/
def Anyhow (_ : α) (_ : β) : Prop := True

theorem mirrors_pure {answer : α} {answer' : β} (h : agree answer answer') :
    Mirrors alike agree (pure answer) (pure answer') := by
  intro pass pass' halike
  exact .inl ⟨answer, answer', pass, pass', rfl, rfl, h, halike⟩

theorem mirrors_get : Mirrors alike alike get get := by
  intro pass pass' halike
  exact .inl ⟨pass, pass', pass, pass', rfl, rfl, halike, halike⟩

theorem mirrors_modify {change change' : Pass → Pass}
    (h : ∀ {pass pass'}, alike pass pass' → alike (change pass) (change' pass')) :
    Mirrors alike Eq (modify change) (modify change') := by
  intro pass pass' halike
  exact .inl ⟨(), (), change pass, change' pass', rfl, rfl, rfl, h halike⟩

theorem mirrors_throw : Mirrors alike agree (throw .tooDeep) (throw .tooDeep) := by
  intro pass pass' _
  exact .inr ⟨rfl, rfl⟩

theorem bind_tooDeep {step : Emit α} {continuation : α → Emit β} {pass : Pass}
    (h : step pass = .error .tooDeep) : (step >>= continuation) pass = .error .tooDeep := by
  change (step pass >>= fun outcome => continuation outcome.1 outcome.2) = _
  rw [h]
  rfl

theorem bind_tooDeep_of_ends {step : Emit α} {continuation : α → Emit β} {pass middle : Pass}
    {answer : α} (hstep : Ends step pass answer middle)
    (h : continuation answer middle = .error .tooDeep) :
    (step >>= continuation) pass = .error .tooDeep := by
  change (step pass >>= fun outcome => continuation outcome.1 outcome.2) = _
  rw [hstep]
  exact h

theorem Mirrors.bind {step : Emit α} {other : Emit β} {continuation : α → Emit γ}
    {continuation' : β → Emit δ} (hfirst : Mirrors alike agree step other)
    (hrest : ∀ answer answer', agree answer answer' →
      Mirrors alike agree' (continuation answer) (continuation' answer')) :
    Mirrors alike agree' (step >>= continuation) (other >>= continuation') := by
  intro pass pass' halike
  rcases hfirst pass pass' halike with
    ⟨answer, answer', middle, middle', hstep, hother, hagree, hmiddle⟩ | ⟨hdeep, hdeep'⟩
  · rcases hrest answer answer' hagree middle middle' hmiddle with
      ⟨result, result', next, next', hend, hend', hresult, hnext⟩ | ⟨hdeep, hdeep'⟩
    · exact .inl ⟨result, result', next, next', ends_bind.mpr ⟨answer, middle, hstep, hend⟩,
        ends_bind.mpr ⟨answer', middle', hother, hend'⟩, hresult, hnext⟩
    · exact .inr ⟨bind_tooDeep_of_ends hstep hdeep, bind_tooDeep_of_ends hother hdeep'⟩
  · exact .inr ⟨bind_tooDeep hdeep, bind_tooDeep hdeep'⟩

/-- Steps in a row whose answers are the same. -/
theorem Mirrors.andThen {step other : Emit α} {continuation : α → Emit γ}
    {continuation' : α → Emit δ} (hfirst : Mirrors alike Eq step other)
    (hrest : ∀ answer, Mirrors alike agree' (continuation answer) (continuation' answer)) :
    Mirrors alike agree' (step >>= continuation) (other >>= continuation') := by
  refine hfirst.bind ?_
  rintro answer _ rfl
  exact hrest answer

theorem Mirrors.discard {step : Emit α} {other : Emit β} (h : Mirrors alike agree step other) :
    Mirrors alike Eq (discard step) (discard other) :=
  h.bind fun _ _ _ => mirrors_pure rfl

theorem Mirrors.ite {condition : Prop} [Decidable condition] {step step' : Emit α}
    {other other' : Emit β} (hthen : Mirrors alike agree step other)
    (helse : Mirrors alike agree step' other') :
    Mirrors alike agree (if condition then step else step')
      (if condition then other else other') := by
  split
  next => exact hthen
  next => exact helse

theorem Mirrors.inChild {body body' : Emit Unit} (h : Mirrors Pass.Alike Eq body body') :
    Mirrors Pass.Alike Anyhow (inChild body) (inChild body') := by
  refine mirrors_get.bind fun outer outer' houter => ?_
  refine (mirrors_modify Pass.Alike.openChild).andThen fun _ => h.andThen fun _ => ?_
  refine mirrors_get.bind fun _ _ _ => ?_
  exact (mirrors_modify fun halike => halike.backTo houter).andThen fun _ => mirrors_pure trivial

/-! ## Steps that only write -/

/-- A step ends and leaves all that passes have in common as it is. -/
def Discreet (step : Emit Unit) : Prop := ∀ pass, ∃ next, Ends step pass () next ∧ pass.Alike next

/-- Steps that only write mirror each other, whatever they write. -/
theorem Discreet.mirrors {step other : Emit Unit} (h : Discreet step) (h' : Discreet other) :
    Mirrors Pass.Alike Eq step other := by
  intro pass pass' halike
  obtain ⟨next, hend, hnext⟩ := h pass
  obtain ⟨next', hend', hnext'⟩ := h' pass'
  exact .inl ⟨(), (), next, next', hend, hend', rfl, (hnext.symm.trans halike).trans hnext'⟩

theorem discreet_pure : Discreet (pure ()) := fun pass => ⟨pass, rfl, .refl pass⟩

theorem discreet_modify {change : Pass → Pass} (h : ∀ pass : Pass, pass.Alike (change pass)) :
    Discreet (modify change) := fun pass => ⟨change pass, rfl, h pass⟩

theorem discreet_write (node : NodeId) (statement : Statement) : Discreet (write node statement) :=
  discreet_modify fun pass => .write pass node statement

theorem discreet_splice (inner : Block) : Discreet (splice inner) :=
  discreet_modify fun pass => .splice pass inner

theorem Discreet.andThen {step other : Emit Unit} (h : Discreet step) (h' : Discreet other) :
    Discreet (step >>= fun _ => other) := by
  intro pass
  obtain ⟨middle, hstep, hmiddle⟩ := h pass
  obtain ⟨next, hend, hnext⟩ := h' middle
  exact ⟨next, ends_bind.mpr ⟨(), middle, hstep, hend⟩, hmiddle.trans hnext⟩

theorem Discreet.ite {condition : Prop} [Decidable condition] {step other : Emit Unit}
    (h : Discreet step) (h' : Discreet other) : Discreet (if condition then step else other) := by
  split
  next => exact h
  next => exact h'

/-- What is done only sometimes, and what is done after it. -/
theorem ite_bind {condition : Prop} [Decidable condition] (step : Emit Unit) (rest : Emit α) :
    (if condition then step >>= fun _ => rest else rest) =
      (if condition then step else pure ()) >>= fun _ => rest := by
  split
  next => rfl
  next => rfl

end Emit

end VisualScript
