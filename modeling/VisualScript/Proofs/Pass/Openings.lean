import Mathlib.Logic.Relation
import VisualScript.Proofs.Pass.Depth
import VisualScript.Proofs.Pass.Edits

/-!
# The blocks of a pass

Every block is opened by the block being written, or as a root. So the blocks of a pass
form trees, told here apart from their paths. A path is made of the place among the roots
and the places among the children, and the count of the children of a block goes on
wherever its children come from. From this it follows that no path comes twice, and that a
scope begins with another one exactly if its block is inside the other one.
-/

namespace VisualScript

/-! ## Blocks in the order of their opening -/

/-- Blocks that were opened one after another, each with those opened inside it. -/
inductive Openings where
  | none
  | block (scope : ScopePath) (inner after : Openings)

namespace Openings

def append : Openings → Openings → Openings
  | none, more => more
  | block scope inner after, more => block scope inner (after.append more)

/-- The scopes of all blocks, those inside a block right behind its own. -/
def scopes : Openings → List ScopePath
  | none => []
  | block scope inner after => scope :: (inner.scopes ++ after.scopes)

/-- The scopes of the blocks that are inside no other. -/
def tops : Openings → List ScopePath
  | none => []
  | block scope _ after => scope :: after.tops

/-- A block opened another one. -/
inductive Opened : Openings → ScopePath → ScopePath → Prop where
  | here {outer scope inner after} (top : scope ∈ inner.tops) :
      Opened (block outer inner after) outer scope
  | inside {outer scope around inner after} (opened : Opened inner outer scope) :
      Opened (block around inner after) outer scope
  | later {outer scope before inner after} (opened : Opened after outer scope) :
      Opened (block before inner after) outer scope

/-- The paths of blocks lead through their places: those inside no other are counted on
from a place in the block around them, those inside a block from zero. -/
def Numbered : Openings → ScopePath → Nat → Prop
  | none, _, _ => True
  | block scope inner after, around, place =>
      scope = around ++ [place] ∧ inner.Numbered scope 0 ∧ after.Numbered around (place + 1)

@[simp] theorem scopes_append (first more : Openings) :
    (first.append more).scopes = first.scopes ++ more.scopes := by
  induction first with
  | none => rfl
  | block scope inner after _ ih => simp [append, scopes, ih]

@[simp] theorem tops_append (first more : Openings) :
    (first.append more).tops = first.tops ++ more.tops := by
  induction first with
  | none => rfl
  | block scope inner after _ ih => simp [append, tops, ih]

theorem numbered_append {first more : Openings} {around : ScopePath} {place : Nat} :
    (first.append more).Numbered around place ↔
      first.Numbered around place ∧ more.Numbered around (place + first.tops.length) := by
  induction first generalizing place with
  | none => simp [append, Numbered, tops]
  | block scope inner after _ ih =>
      have hplace : place + 1 + after.tops.length = place + (after.tops.length + 1) := by omega
      simp [append, Numbered, tops, ih, and_assoc, hplace]

variable {openings : Openings} {around scope outer : ScopePath} {place other : Nat}

theorem mem_scopes_of_mem_tops (h : scope ∈ openings.tops) : scope ∈ openings.scopes := by
  induction openings with
  | none => exact h
  | block first inner after _ ih =>
      rw [tops, List.mem_cons] at h
      rcases h with rfl | h
      · simp [scopes]
      · simp [scopes, ih h]

/-! ## Blocks apart and inside each other -/

/-- A scope has one place in a block around it. -/
theorem place_eq (h : around ++ [place] <+: scope) (hother : around ++ [other] <+: scope) :
    place = other := by
  have hsame : around ++ [place] = around ++ [other] :=
    (List.prefix_of_prefix_length_le h hother (by simp)).eq_of_length (by simp)
  simpa using hsame

/-- All blocks are inside the block around them, from the first place on. -/
theorem Numbered.exists_place (h : openings.Numbered around place)
    (hmem : scope ∈ openings.scopes) : ∃ other, place ≤ other ∧ around ++ [other] <+: scope := by
  induction openings generalizing around place with
  | none => cases hmem
  | block first inner after ihinner ihafter =>
      obtain ⟨rfl, hinner, hafter⟩ := h
      rw [scopes, List.mem_cons, List.mem_append] at hmem
      rcases hmem with rfl | hmem | hmem
      · exact ⟨place, Nat.le_refl _, List.prefix_refl _⟩
      · obtain ⟨other, _, hinside⟩ := ihinner hinner hmem
        exact ⟨place, Nat.le_refl _, (List.prefix_append _ _).trans hinside⟩
      · obtain ⟨other, hle, hinside⟩ := ihafter hafter hmem
        exact ⟨other, by omega, hinside⟩

/-- A block is around all blocks inside it, and its path is shorter. -/
theorem Numbered.prefix_of_mem (h : openings.Numbered around place)
    (hmem : scope ∈ openings.scopes) : around <+: scope ∧ around.length < scope.length := by
  obtain ⟨other, _, hinside⟩ := h.exists_place hmem
  have hlength := hinside.length_le
  rw [List.length_append, List.length_singleton] at hlength
  exact ⟨(List.prefix_append _ _).trans hinside, by omega⟩

/-- The blocks opened after a block are not inside it. -/
theorem Numbered.not_prefix_of_mem (h : openings.Numbered around (place + 1))
    (hmem : scope ∈ openings.scopes) : ¬ around ++ [place] <+: scope := by
  intro hbefore
  obtain ⟨other, hle, hinside⟩ := h.exists_place hmem
  have hplace := place_eq hbefore hinside
  omega

/-- No path comes twice. -/
theorem Numbered.nodup (h : openings.Numbered around place) : openings.scopes.Nodup := by
  induction openings generalizing around place with
  | none => exact List.nodup_nil
  | block first inner after ihinner ihafter =>
      obtain ⟨rfl, hinner, hafter⟩ := h
      have hapart : ∀ scope ∈ after.scopes, ¬ around ++ [place] <+: scope :=
        fun scope hmem => hafter.not_prefix_of_mem hmem
      have hfirst : around ++ [place] ∉ inner.scopes ++ after.scopes := by
        intro hmem
        rcases List.mem_append.mp hmem with hmem | hmem
        · exact Nat.lt_irrefl _ (hinner.prefix_of_mem hmem).2
        · exact hapart _ hmem (List.prefix_refl _)
      rw [scopes, List.nodup_cons, List.nodup_append]
      refine ⟨hfirst, ihinner hinner, ihafter hafter, ?_⟩
      rintro scope hmem _ hmem' rfl
      exact hapart scope hmem' (hinner.prefix_of_mem hmem).1

/-- Of the blocks from a place on, those inside the first are those whose path says so. -/
theorem filter_scopes {inner after : Openings} (hinner : inner.Numbered (around ++ [place]) 0)
    (hafter : after.Numbered around (place + 1)) :
    (inner.scopes ++ after.scopes).filter (around ++ [place] <+: ·) = inner.scopes := by
  have hinside : inner.scopes.filter (around ++ [place] <+: ·) = inner.scopes := by
    rw [List.filter_eq_self]
    intro scope hmem
    simpa using (hinner.prefix_of_mem hmem).1
  have houtside : after.scopes.filter (around ++ [place] <+: ·) = [] := by
    rw [List.filter_eq_nil_iff]
    intro scope hmem
    simpa using hafter.not_prefix_of_mem hmem
  rw [List.filter_append, hinside, houtside, List.append_nil]

/-- Paths tell which block opened which. -/
theorem Numbered.ext {others : Openings} (h : openings.Numbered around place)
    (hothers : others.Numbered around place) (hscopes : openings.scopes = others.scopes) :
    openings = others := by
  induction openings generalizing others around place with
  | none =>
      cases others with
      | none => rfl
      | block => cases hscopes
  | block first inner after ihinner ihafter =>
      cases others with
      | none => cases hscopes
      | block first' inner' after' =>
          obtain ⟨rfl, hinner, hafter⟩ := h
          obtain ⟨rfl, hinner', hafter'⟩ := hothers
          rw [scopes, scopes, List.cons_inj_right] at hscopes
          have hinside : inner.scopes = inner'.scopes := by
            rw [← filter_scopes hinner hafter, hscopes, filter_scopes hinner' hafter']
          rw [hinside, List.append_cancel_left_eq] at hscopes
          rw [ihinner hinner hinner' hinside, ihafter hafter hafter' hscopes]

/-- A block is around those that it opened. -/
theorem Opened.begins (h : openings.Opened outer scope)
    (hnumbered : openings.Numbered around place) : outer <+: scope := by
  induction h generalizing around place with
  | here top => exact (hnumbered.2.1.prefix_of_mem (mem_scopes_of_mem_tops top)).1
  | inside _ ih => exact ih hnumbered.2.1
  | later _ ih => exact ih hnumbered.2.2

theorem steps_inside {inner after : Openings} {first : ScopePath}
    (h : Relation.ReflTransGen inner.Opened outer scope) :
    Relation.ReflTransGen (block first inner after).Opened outer scope :=
  h.lift id fun _ _ => Opened.inside

theorem steps_later {inner after : Openings} {first : ScopePath}
    (h : Relation.ReflTransGen after.Opened outer scope) :
    Relation.ReflTransGen (block first inner after).Opened outer scope :=
  h.lift id fun _ _ => Opened.later

/-- Every block is a first one or was opened step by step from one. -/
theorem exists_top (hmem : scope ∈ openings.scopes) :
    ∃ top ∈ openings.tops, Relation.ReflTransGen openings.Opened top scope := by
  induction openings with
  | none => cases hmem
  | block first inner after ihinner ihafter =>
      rw [scopes, List.mem_cons, List.mem_append] at hmem
      rcases hmem with rfl | hmem | hmem
      · exact ⟨scope, by simp [tops], .refl⟩
      · obtain ⟨top, htop, hsteps⟩ := ihinner hmem
        exact ⟨first, by simp [tops], .head (.here htop) (steps_inside hsteps)⟩
      · obtain ⟨top, htop, hsteps⟩ := ihafter hmem
        exact ⟨top, by simp [tops, htop], steps_later hsteps⟩

/-- What begins with the path of a block was opened inside the block, step by step. -/
theorem Numbered.steps_of_prefix (h : openings.Numbered around place)
    (houter : outer ∈ openings.scopes) (hscope : scope ∈ openings.scopes)
    (hbegins : outer <+: scope) : Relation.ReflTransGen openings.Opened outer scope := by
  induction openings generalizing around place with
  | none => cases houter
  | block first inner after ihinner ihafter =>
      obtain ⟨rfl, hinner, hafter⟩ := h
      rw [scopes, List.mem_cons, List.mem_append] at houter hscope
      -- What begins with a path inside the first block is inside the first block as well.
      have hinside : around ++ [place] <+: outer → scope ∉ after.scopes :=
        fun houter hmem => hafter.not_prefix_of_mem hmem (houter.trans hbegins)
      have houtside : outer ∈ after.scopes → ¬ around ++ [place] <+: scope := by
        intro hmem hscope
        obtain ⟨other, hle, hother⟩ := hafter.exists_place hmem
        have hplace := place_eq hscope (hother.trans hbegins)
        omega
      rcases houter with rfl | houter | houter
      · rcases hscope with rfl | hscope | hscope
        · exact .refl
        · obtain ⟨top, htop, hsteps⟩ := exists_top hscope
          exact .head (.here htop) (steps_inside hsteps)
        · exact absurd hscope (hinside (List.prefix_refl _))
      · rcases hscope with rfl | hscope | hscope
        · have hlonger := (hinner.prefix_of_mem houter).2
          have hshorter := hbegins.length_le
          omega
        · exact steps_inside (ihinner hinner houter hscope)
        · exact absurd hscope (hinside (hinner.prefix_of_mem houter).1)
      · rcases hscope with rfl | hscope | hscope
        · exact absurd (List.prefix_refl _) (houtside houter)
        · exact absurd (hinner.prefix_of_mem hscope).1 (houtside houter)
        · exact steps_later (ihafter hafter houter hscope)

theorem Numbered.prefix_of_steps (h : openings.Numbered around place)
    (hsteps : Relation.ReflTransGen openings.Opened outer scope) : outer <+: scope := by
  induction hsteps with
  | refl => exact List.prefix_refl _
  | tail _ last ih => exact ih.trans (last.begins h)

/-- A scope begins with another one exactly if its block is the other one or was opened
inside it, step by step. -/
theorem Numbered.prefix_iff (h : openings.Numbered around place)
    (houter : outer ∈ openings.scopes) (hscope : scope ∈ openings.scopes) :
    outer <+: scope ↔ Relation.ReflTransGen openings.Opened outer scope :=
  ⟨h.steps_of_prefix houter hscope, h.prefix_of_steps⟩

end Openings

/-! ## What a pass opens -/

/-- The scope of the block that an event opens. -/
def Event.opened? : Event → Option ScopePath
  | opened scope => some scope
  | _ => none

namespace Pass

/-- The scopes of the blocks opened so far. -/
def opened (pass : Pass) : List ScopePath := pass.events.reverse.filterMap Event.opened?

/-- What matters of a pass for where blocks are opened: the block being written, the number
of blocks opened inside it, and all that were opened. -/
def scene (pass : Pass) : ScopePath × Nat × List ScopePath :=
  (pass.block.path, pass.block.children, pass.opened)

variable (pass : Pass)

@[simp] theorem opened_log (event : Event) :
    (pass.log event).opened = pass.opened ++ event.opened?.toList := by
  cases hevent : event.opened? <;> simp [opened, log, hevent]

/-- Where something happens that opens no block, and the one being written stays in its place. -/
theorem scene_eq_of_events {pass next : Pass} {event : Event} (h : event.opened? = none)
    (hevents : next.events = event :: pass.events)
    (hpath : next.block.path = pass.block.path)
    (hchildren : next.block.children = pass.block.children) : next.scene = pass.scene := by
  simp [scene, opened, hevents, hpath, hchildren, h]

theorem scene_edit (edit : Edit) : (edit.apply pass).scene = pass.scene := by
  cases edit with
  | splice | setResult | dropResult => rfl
  | report | require | write | claim => exact scene_eq_of_events rfl rfl rfl rfl

end Pass

/-- The blocks that are opened inside the current one on the way from one state of a pass to
another, which both write that block. -/
inductive Opens : Pass → Openings → Pass → Prop where
  /-- Nothing is opened. -/
  | level {pass next} (same : next.scene = pass.scene) : Opens pass .none next
  /-- A block is opened inside the current one, with all that is opened inside it, until the
  current one is written again. -/
  | inside {pass last inner} (within : Opens pass.openChild inner last) :
      Opens pass (.block pass.block.child.path inner .none) (last.backTo pass.block)
  | append {pass middle next openings more} (first : Opens pass openings middle)
      (rest : Opens middle more next) : Opens pass (openings.append more) next

/-- The blocks of a pass that opens roots one after another, the first with a given index. -/
inductive OpensRoots : Nat → Pass → Openings → Pass → Prop where
  | done {index pass} : OpensRoots index pass .none pass
  | root {index pass middle next inner after}
      (within : Opens (pass.openBlock (Block.root index)) inner middle)
      (others : OpensRoots (index + 1) middle after next) :
      OpensRoots index pass (.block (Block.root index).path inner after) next

namespace Opens

variable {pass next : Pass} {openings : Openings}

/-- The blocks opened inside a block are counted on from those before, and the block being
written stays the same. -/
theorem numbered (h : Opens pass openings next) :
    next.block.path = pass.block.path ∧
      next.block.children = pass.block.children + openings.tops.length ∧
      openings.Numbered pass.block.path pass.block.children := by
  induction h with
  | level same =>
      simp only [Pass.scene, Prod.mk.injEq] at same
      exact ⟨same.1, by simp [same.2.1, Openings.tops], trivial⟩
  | inside _ ih => exact ⟨rfl, rfl, rfl, ih.2.2, trivial⟩
  | append _ _ ihfirst ihrest =>
      obtain ⟨hpath, hchildren, hfirst⟩ := ihfirst
      obtain ⟨hpath', hchildren', hrest⟩ := ihrest
      rw [hpath, hchildren] at hrest
      refine ⟨hpath'.trans hpath, ?_, Openings.numbered_append.mpr ⟨hfirst, hrest⟩⟩
      simp [hchildren', hchildren, Nat.add_assoc]

/-- All that is opened is in the journal, in order. -/
theorem opened_eq (h : Opens pass openings next) :
    next.opened = pass.opened ++ openings.scopes := by
  induction h with
  | level same =>
      simp only [Pass.scene, Prod.mk.injEq] at same
      simp [same.2.2, Openings.scopes]
  | @inside pass last inner _ ih =>
      have hopen : pass.openChild.opened = pass.opened ++ [pass.block.child.path] :=
        Pass.opened_log _ _
      have hback : (last.backTo pass.block).opened = last.opened := rfl
      simp [hback, ih, hopen, Openings.scopes]
  | append _ _ ihfirst ihrest => simp [ihrest, ihfirst]

end Opens

namespace OpensRoots

variable {index : Nat} {pass next : Pass} {openings : Openings}

/-- Roots are counted like the blocks inside a block. -/
theorem numbered (h : OpensRoots index pass openings next) : openings.Numbered [] index := by
  induction h with
  | done => trivial
  | root within _ ih => exact ⟨rfl, within.numbered.2.2, ih⟩

theorem opened_eq (h : OpensRoots index pass openings next) :
    next.opened = pass.opened ++ openings.scopes := by
  induction h with
  | done => simp [Openings.scopes]
  | @root index pass _ _ _ _ within _ ih =>
      have hopen : (pass.openBlock (Block.root index)).opened =
          pass.opened ++ [(Block.root index).path] := Pass.opened_log _ _
      simp [ih, within.opened_eq, hopen, Openings.scopes]

end OpensRoots

/-! ## Every pass -/

/-- A piece of work opens blocks inside the current one and goes back to it. -/
def Pass.Unfolds (pass next : Pass) : Prop := ∃ openings, Opens pass openings next

namespace Pass.Unfolds

variable {pass middle next : Pass}

theorem level (h : next.scene = pass.scene) : Unfolds pass next := ⟨.none, .level h⟩

theorem trans (hfirst : Unfolds pass middle) (hrest : Unfolds middle next) :
    Unfolds pass next := by
  obtain ⟨first, hfirst⟩ := hfirst
  obtain ⟨rest, hrest⟩ := hrest
  exact ⟨first.append rest, hfirst.append hrest⟩

theorem ordered : Pass.Ordered Unfolds where
  refl _ := level rfl
  trans := trans
  edit pass edit _ := level (pass.scene_edit edit)
  resolve _ _ := level (scene_eq_of_events rfl rfl rfl rfl)
  initiate _ _ := level rfl
  reach _ _ := level rfl
  visit := by
    intro pass next id h
    have hentered : Unfolds pass (pass.enter id) := level (scene_eq_of_events rfl rfl rfl rfl)
    exact (hentered.trans h).trans (level (scene_eq_of_events rfl rfl rfl rfl))
  inside := by
    rintro pass next ⟨inner, hinner⟩
    exact ⟨_, .inside hinner⟩

end Pass.Unfolds

theorem Walk.unfolds {context : Context} {onChain : List NodeId} {task : Task} {pass next : Pass}
    (h : Walk context onChain task pass next) : pass.Unfolds next := h.related Pass.Unfolds.ordered

theorem Tour.exists_opensRoots {context : Context} {index : Nat} {roots : List NodeId}
    {written : List Written} {pass next : Pass}
    (h : Tour context index roots written pass next) :
    ∃ openings, OpensRoots index pass openings next := by
  induction h with
  | done => exact ⟨.none, .done⟩
  | root first _ ih =>
      obtain ⟨inner, hinner⟩ := first.unfolds
      obtain ⟨after, hafter⟩ := ih
      exact ⟨_, .root hinner hafter⟩

/-- A pass opened these blocks, the roots one after another and the others inside each other,
and their paths tell them apart and which are around which. -/
structure Pass.Forms (pass : Pass) (openings : Openings) : Prop where
  told : OpensRoots 0 { block := Block.root 0 } openings pass
  /-- Nothing else can be told of which block opened which. -/
  only : ∀ others, OpensRoots 0 { block := Block.root 0 } others pass → others = openings
  /-- No block of the journal is left out. -/
  journal : pass.opened = openings.scopes
  distinct : openings.scopes.Nodup
  /-- Of two blocks, the first sees what is bound in the second exactly if it is the second
  or was opened inside it, step by step. -/
  sees : ∀ block : Block, block.path ∈ openings.scopes → ∀ scope ∈ openings.scopes,
    (block.sees scope = true ↔ Relation.ReflTransGen openings.Opened scope block.path)

theorem OpensRoots.forms {pass : Pass} {openings : Openings}
    (h : OpensRoots 0 { block := Block.root 0 } openings pass) : pass.Forms openings where
  told := h
  only := by
    intro others hothers
    apply hothers.numbered.ext h.numbered
    rw [← List.append_cancel_left_eq, ← hothers.opened_eq, h.opened_eq]
  journal := by simpa [Pass.opened] using h.opened_eq
  distinct := h.numbered.nodup
  sees := by
    intro block hblock scope hscope
    rw [Block.sees, List.isPrefixOf_iff_prefix]
    exact h.numbered.prefix_iff hscope hblock

/-- The blocks of every pass over every graph form trees in which no path comes twice and
each block sees itself and those around it. A limit on how deep emissions may nest either
changes nothing or ends the pass with nothing but the error that it is too deep. -/
theorem Language.blocks_form_trees (language : Language) (options : CompileOptions)
    (graph : Graph) :
    ∃ written pass,
      (∃ limit, ((language.context options graph).within limit).run = .ok (written, pass)) ∧
      (∀ limit, ((language.context options graph).within limit).run = .ok (written, pass) ∨
        ((language.context options graph).within limit).run = .error .tooDeep) ∧
      ∃ openings, pass.Forms openings := by
  obtain ⟨threshold, _, ⟨written, pass⟩, hrun⟩ :=
    (language.context options graph).run_within_eq_ite
  have hends : ((language.context options graph).within threshold).run = .ok (written, pass) := by
    simp [hrun]
  obtain ⟨openings, hopens⟩ := (Context.run_tours hends).exists_opensRoots
  refine ⟨written, pass, ⟨threshold, hends⟩, fun limit => ?_, openings, hopens.forms⟩
  by_cases hlimit : threshold ≤ limit
  · exact .inl (by simp [hrun, hlimit])
  · exact .inr (by simp [hrun, hlimit])

end VisualScript
