import VisualScript.Pass.Traversal

/-!
# How the steps of a pass end

A step either ends in a state with an answer or goes too deep. Steps made of
others are taken apart here once, so that later proofs never open the monad.
-/

namespace VisualScript.Emit

variable {α β : Type}

/-- A step that starts in one state ends in another with an answer. -/
def Ends (step : Emit α) (pass : Pass) (answer : α) (next : Pass) : Prop :=
  step pass = .ok (answer, next)

theorem ends_pure {answer result : α} {pass next : Pass} :
    Ends (pure answer) pass result next ↔ answer = result ∧ pass = next := by
  change Except.ok (answer, pass) = Except.ok (result, next) ↔ _
  rw [Except.ok.injEq, Prod.mk.injEq]

theorem ends_bind {step : Emit α} {continuation : α → Emit β} {pass next : Pass} {result : β} :
    Ends (step >>= continuation) pass result next ↔
      ∃ answer middle, Ends step pass answer middle ∧
        Ends (continuation answer) middle result next := by
  change (step pass >>= fun outcome => continuation outcome.1 outcome.2) = _ ↔ _
  unfold Ends
  cases step pass with
  | error fault =>
      constructor
      · intro h
        cases h
      · rintro ⟨_, _, h, _⟩
        cases h
  | ok outcome =>
      constructor
      · intro h
        exact ⟨outcome.1, outcome.2, rfl, h⟩
      · rintro ⟨_, _, h, hrest⟩
        cases h
        exact hrest

theorem ends_get {pass answer next : Pass} :
    Ends get pass answer next ↔ pass = answer ∧ pass = next := ends_pure

theorem ends_modify {change : Pass → Pass} {pass next : Pass} {answer : Unit} :
    Ends (modify change) pass answer next ↔ change pass = next := by
  change Except.ok ((), change pass) = Except.ok (answer, next) ↔ _
  rw [Except.ok.injEq, Prod.mk.injEq, and_iff_right (Subsingleton.elim _ _)]

theorem ends_discard {step : Emit α} {pass next : Pass} {answer : Unit} :
    Ends (discard step) pass answer next ↔ ∃ result, Ends step pass result next := by
  change Ends (step >>= fun _ => pure ()) pass answer next ↔ _
  simp only [ends_bind, ends_pure]
  constructor
  · rintro ⟨result, middle, hstep, _, rfl⟩
    exact ⟨result, hstep⟩
  · rintro ⟨result, hstep⟩
    exact ⟨result, next, hstep, trivial, rfl⟩

theorem not_ends_throw {pass next : Pass} {answer : α} {fault : PassError} :
    ¬ Ends (throw fault) pass answer next := by
  intro h
  cases h

/-- What is done in a new block, and what becomes of the block around it. -/
theorem ends_inChild {body : Emit Unit} {pass next : Pass} {inner : Block} :
    Ends (inChild body) pass inner next ↔
      ∃ last, Ends body pass.openChild () last ∧ inner = last.block ∧
        next = last.backTo pass.block := by
  simp only [inChild, ends_bind, ends_get, ends_modify, ends_pure]
  constructor
  · rintro ⟨_, _, ⟨rfl, rfl⟩, _, _, rfl, _, last, hbody, _, _, ⟨rfl, rfl⟩, _, _, rfl, rfl, rfl⟩
    exact ⟨last, hbody, rfl, rfl⟩
  · rintro ⟨last, hbody, rfl, rfl⟩
    exact ⟨_, _, ⟨rfl, rfl⟩, (), _, rfl, (), last, hbody, _, _, ⟨rfl, rfl⟩, (), _, rfl, rfl, rfl⟩

end VisualScript.Emit
