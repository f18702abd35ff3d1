import VisualScript.Proofs.Pass.Frame

/-!
# Branches are laid out

A walk that reports nothing writes for every branch it emits a header with a block
behind it that is not blank, and loses neither when blocks are laid into each other.
-/

namespace VisualScript

/-- Whether a statement is the header of a branch. -/
def Statement.isIfHeader : Statement → Bool
  | ifHeader _ => true
  | _ => false

/-- Whether an edit writes no header of a branch and takes over no block. -/
def Edit.IsUnbranched : Edit → Prop
  | write _ statement => statement.isIfHeader = false
  | splice _ => False
  | _ => True

/-- What stands behind the header of a branch: a block inside that is not blank. -/
def Fills (scope : ScopePath) (rest : List Written) : Prop :=
  ∃ index inner after, rest = inner ++ after ∧
    (∀ written ∈ inner, scope ++ [index] <+: Written.scope written) ∧
    ∃ written ∈ inner, Text.allBlank (Statement.text written.statement) = false

/-- Behind every header of a branch stands a block inside that is not blank. -/
def Guarded (content : List Written) : Prop :=
  ∀ before scope node condition rest,
    content = before ++ ⟨scope, node, .ifHeader condition⟩ :: rest → Fills scope rest

/-- Branches are written as they should be, and all that were entered are written. -/
structure Laid (context : Context) (events : List Event) (content : List Written) : Prop where
  guarded : Guarded content
  headers : ∀ node scope, .entered node scope ∈ events → context.kind? node = some .branch →
    ∃ condition, ⟨scope, node, .ifHeader condition⟩ ∈ content

theorem Fills.append {scope : ScopePath} {rest : List Written} (h : Fills scope rest)
    (later : List Written) : Fills scope (rest ++ later) := by
  obtain ⟨index, inner, after, rfl, hinner, hfilled⟩ := h
  exact ⟨index, inner, after ++ later, List.append_assoc .., hinner, hfilled⟩

namespace Guarded

theorem nil : Guarded [] := by
  intro before scope node condition rest heq
  cases before <;> cases heq

theorem append {content added : List Written} (hfirst : Guarded content)
    (hrest : Guarded added) : Guarded (content ++ added) := by
  intro before scope node condition rest heq
  rcases List.append_eq_append_iff.mp heq with ⟨middle, rfl, hadded⟩ | ⟨middle, hcontent, hmiddle⟩
  · exact hrest middle scope node condition rest hadded
  · cases middle with
    | nil => exact hrest [] scope node condition rest hmiddle.symm
    | cons written middle =>
        rw [List.cons_append, List.cons.injEq] at hmiddle
        obtain ⟨rfl, rfl⟩ := hmiddle
        exact (hfirst before scope node condition middle hcontent).append added

theorem single {written : Written} (h : written.statement.isIfHeader = false) :
    Guarded [written] := by
  intro before scope node condition rest heq
  cases before with
  | nil =>
      rw [List.nil_append, List.cons.injEq] at heq
      rw [heq.1] at h
      cases h
  | cons other before => cases before <;> cases heq

theorem branch {content : List Written} {scope : ScopePath} (h : Guarded content)
    (hfills : Fills scope content) (node : NodeId) (condition : Expression) :
    Guarded (⟨scope, node, .ifHeader condition⟩ :: content) := by
  intro before scope node condition rest heq
  cases before with
  | nil =>
      cases heq
      exact hfills
  | cons written before =>
      rw [List.cons_append, List.cons.injEq] at heq
      exact h before scope node condition rest heq.2

/-- What holds a branch is not blank. -/
theorem not_blank {content : List Written} {written : Written} {condition : Expression}
    (h : Guarded content) (hmem : written ∈ content)
    (hheader : written.statement = .ifHeader condition) :
    (content.all fun written => Text.allBlank written.statement.text) = false := by
  obtain ⟨before, rest, rfl⟩ := List.append_of_mem hmem
  obtain ⟨scope, node, statement⟩ := written
  cases hheader
  obtain ⟨index, inner, after, rfl, _, written, hinner, hfilled⟩ := h _ _ _ _ _ rfl
  rw [List.all_eq_false]
  refine ⟨written, ?_, by rw [hfilled]; exact Bool.false_ne_true⟩
  exact List.mem_append_right _ (List.mem_cons_of_mem _ (List.mem_append_left _ hinner))

end Guarded

namespace Laid

variable {context : Context} {events later : List Event} {content added : List Written}

theorem append (hfirst : Laid context events content) (hrest : Laid context later added) :
    Laid context (later ++ events) (content ++ added) where
  guarded := hfirst.guarded.append hrest.guarded
  headers := by
    intro node scope hmem hbranch
    rcases List.mem_append.mp hmem with hmem | hmem
    · obtain ⟨condition, hheader⟩ := hrest.headers node scope hmem hbranch
      exact ⟨condition, List.mem_append_right _ hheader⟩
    · obtain ⟨condition, hheader⟩ := hfirst.headers node scope hmem hbranch
      exact ⟨condition, List.mem_append_left _ hheader⟩

theorem of_unentered (hguarded : Guarded content)
    (h : ∀ node scope, .entered node scope ∉ events) : Laid context events content where
  guarded := hguarded
  headers := by
    intro node scope hmem
    exact absurd hmem (h node scope)

/-- Other events may be added as long as no node is entered. -/
theorem of_events (h : Laid context events content)
    (hsub : ∀ node scope, .entered node scope ∈ later → .entered node scope ∈ events) :
    Laid context later content where
  guarded := h.guarded
  headers := fun node scope hmem => h.headers node scope (hsub node scope hmem)

end Laid

/-- The block is the same with statements added behind. All branches entered since, and
those among some events before, are written there. -/
structure Pass.Lays (context : Context) (extra : List Event) (pass next : Pass) : Prop where
  path : next.block.path = pass.block.path
  added : ∃ events content, next.events = events ++ pass.events ∧
    next.block.content = pass.block.content ++ content ∧
    (∀ written ∈ content, pass.block.path <+: written.scope) ∧
    Laid context (events ++ extra) content

/-- What a piece of work writes. -/
def Task.Lays (context : Context) : Task → Pass → Pass → Prop
  | inside _ _ _ inner, pass, next => next.block.path = pass.block.path ∧
      next.block.content = pass.block.content ∧
      (∀ written ∈ inner.content,
        pass.block.path ++ [pass.block.children] <+: written.scope) ∧
      ∃ events, next.events = events ++ pass.events ∧ Laid context events inner.content
  | emission _ node, pass, next => pass.Lays context [.entered node.id pass.block.path] next
  | _, pass, next => pass.Lays context [] next

namespace Pass.Lays

variable {context : Context} {extra others : List Event} {pass middle next : Pass}

/-- Where nothing is written and no node is entered. -/
theorem of_block (hblock : next.block = pass.block)
    (hevents : ∃ events, next.events = events ++ pass.events ∧
      ∀ node scope, .entered node scope ∉ events) : Lays context [] pass next where
  path := by rw [hblock]
  added := by
    obtain ⟨events, hevents, hunentered⟩ := hevents
    refine ⟨events, [], hevents, ?_, ?_, ?_⟩
    · rw [hblock, List.append_nil]
    · intro written hmem
      cases hmem
    · rw [List.append_nil]
      exact .of_unentered .nil hunentered

theorem refl (pass : Pass) : Lays context [] pass pass := by
  refine of_block rfl ⟨[], rfl, ?_⟩
  intro node scope hmem
  cases hmem

theorem append (hfirst : Lays context extra pass middle)
    (hrest : Lays context others middle next) : Lays context (extra ++ others) pass next where
  path := hrest.path.trans hfirst.path
  added := by
    obtain ⟨events, content, hevents, hcontent, hscope, hlaid⟩ := hfirst.added
    obtain ⟨later, added, hlater, hadded, hscope', hlaid'⟩ := hrest.added
    refine ⟨later ++ events, content ++ added, ?_, ?_, ?_, ?_⟩
    · rw [hlater, hevents, List.append_assoc]
    · rw [hadded, hcontent, List.append_assoc]
    · intro written hmem
      rcases List.mem_append.mp hmem with hmem | hmem
      · exact hscope written hmem
      · exact hfirst.path ▸ hscope' written hmem
    · refine (hlaid.append hlaid').of_events fun node scope hmem => ?_
      simp only [List.mem_append] at hmem ⊢
      rcases hmem with (hmem | hmem) | (hmem | hmem)
      · exact .inl (.inl hmem)
      · exact .inr (.inl hmem)
      · exact .inr (.inr hmem)
      · exact .inl (.inr hmem)

theorem trans (hfirst : Lays context [] pass middle) (hrest : Lays context [] middle next) :
    Lays context [] pass next := hfirst.append hrest

/-- Nodes that are no branches need not be written. -/
theorem emission {node : Node} {kind : ComponentKind} (h : Lays context [] pass next)
    (hosts : context.Hosts node kind) (hkind : kind ≠ .branch) :
    (Task.emission kind node).Lays context pass next where
  path := h.path
  added := by
    obtain ⟨events, content, hevents, hcontent, hscope, hlaid⟩ := h.added
    rw [List.append_nil] at hlaid
    refine ⟨events, content, hevents, hcontent, hscope, hlaid.guarded, ?_⟩
    intro other scope hmem hbranch
    rcases List.mem_append.mp hmem with hmem | hmem
    · exact hlaid.headers other scope hmem hbranch
    · cases List.mem_singleton.mp hmem
      exact absurd (Option.some.inj (hosts.kind?.symm.trans hbranch)) hkind

/-- A node that is entered is written by its emission. -/
theorem visit {node : Node} {kind : ComponentKind}
    (h : (Task.emission kind node).Lays context ((pass.reach node.id).enter node.id) next) :
    Lays context [] pass (next.leave node.id) where
  path := h.path
  added := by
    obtain ⟨events, content, hevents, hcontent, hscope, hlaid⟩ := h.added
    refine ⟨.finished node.id :: (events ++ [.entered node.id pass.block.path]), content, ?_,
      hcontent, hscope, hlaid.of_events fun other scope hmem => ?_⟩
    · change .finished node.id :: next.events = _
      rw [hevents, List.cons_append, List.append_assoc]
      rfl
    · rw [List.append_nil] at hmem
      rcases List.mem_cons.mp hmem with heq | hmem
      · cases heq
      · exact hmem

/-! ## Writing -/

/-- One thing happened, and nothing was written and no node entered. -/
theorem of_events_eq_cons {event : Event} (hblock : next.block = pass.block)
    (hevents : next.events = event :: pass.events)
    (h : ∀ node scope, event ≠ .entered node scope) : Lays context [] pass next := by
  refine of_block hblock ⟨[event], hevents, ?_⟩
  intro node scope hmem
  exact h node scope (List.mem_singleton.mp hmem).symm

theorem log (pass : Pass) {event : Event} (h : ∀ node scope, event ≠ .entered node scope) :
    Lays context [] pass (pass.log event) := of_events_eq_cons rfl rfl h

theorem write {statement : Statement} (pass : Pass) (node : NodeId)
    (h : statement.isIfHeader = false) :
    Lays context [] pass (pass.write node statement) where
  path := rfl
  added := by
    refine ⟨[.wrote ⟨pass.block.path, node, statement⟩], [⟨pass.block.path, node, statement⟩],
      rfl, rfl, ?_, ?_⟩
    · intro written hmem
      exact List.mem_singleton.mp hmem ▸ List.prefix_rfl
    · refine .of_unentered (.single h) fun other scope hmem => ?_
      cases List.mem_singleton.mp hmem

theorem of_edited (h : pass.Edited Edit.IsUnbranched next) : Lays context [] pass next := by
  refine h.related refl trans fun pass edit hedit => ?_
  cases edit with
  | report | require => exact log _ nofun
  | write => exact write _ _ hedit
  | splice => cases hedit
  | setResult | dropResult => exact ⟨rfl, (refl pass).added⟩
  | claim => exact of_events_eq_cons rfl rfl nofun

/-! ## Blocks inside -/

section Inside

variable {id : NodeId} {exit : String} {pads : Bool} {inner : Block}

/-- A block is opened, written and handed back. -/
theorem inside (h : Lays context [] pass.openChild next) :
    (Task.inside id exit pads next.block).Lays context pass (next.backTo pass.block) := by
  obtain ⟨events, content, hevents, hcontent, hscope, hlaid⟩ := h.added
  have hinner : next.block.content = content := hcontent
  refine ⟨rfl, rfl, ?_, events ++ [.opened pass.block.child.path], ?_, ?_⟩
  · rw [hinner]
    exact hscope
  · change next.events = _
    rw [hevents, List.append_assoc]
    rfl
  · rw [hinner]
    refine hlaid.of_events fun node scope hmem => ?_
    rcases List.mem_append.mp hmem with hmem | hmem
    · exact List.mem_append_left _ hmem
    · cases List.mem_singleton.mp hmem

theorem splice (h : (Task.inside id exit pads inner).Lays context pass next) :
    Lays context [] pass (next.splice inner) where
  path := h.1
  added := by
    obtain ⟨_, hcontent, hscope, events, hevents, hlaid⟩ := h
    refine ⟨events, inner.content, hevents, ?_, ?_, ?_⟩
    · change next.block.content ++ inner.content = _
      rw [hcontent]
    · intro written hmem
      exact (List.prefix_append _ _).trans (hscope written hmem)
    · rw [List.append_nil]
      exact hlaid

/-- The header of a branch with a block behind it that is not blank. -/
theorem thenBranch {node : Node} {condition : Expression}
    (h : (Task.inside node.id exit pads inner).Lays context
      (pass.write node.id (.ifHeader condition)) next)
    (hfilled : inner.isBlank = false) :
    Lays context [.entered node.id pass.block.path] pass (next.splice inner) where
  path := h.1
  added := by
    obtain ⟨_, hcontent, hscope, events, hevents, hlaid⟩ := h
    obtain ⟨written, hwritten, hvisible⟩ := List.all_eq_false.mp hfilled
    -- The block behind the header is the one that was opened last.
    have hfills : Fills pass.block.path inner.content :=
      ⟨pass.block.children, inner.content, [], (List.append_nil _).symm, hscope, written,
        hwritten, eq_false_of_ne_true hvisible⟩
    refine ⟨events ++ [.wrote ⟨pass.block.path, node.id, .ifHeader condition⟩],
      ⟨pass.block.path, node.id, .ifHeader condition⟩ :: inner.content, ?_, ?_, ?_,
      hlaid.guarded.branch hfills _ _, ?_⟩
    · change next.events = _
      rw [hevents, List.append_assoc]
      rfl
    · change next.block.content ++ inner.content = _
      rw [hcontent]
      exact List.append_assoc ..
    · intro written hmem
      rcases List.mem_cons.mp hmem with rfl | hmem
      · exact List.prefix_rfl
      · exact (List.prefix_append _ _).trans (hscope written hmem)
    · intro other scope hmem hbranch
      rcases List.mem_append.mp hmem with hmem | hmem
      · rcases List.mem_append.mp hmem with hmem | hmem
        · obtain ⟨condition, hheader⟩ := hlaid.headers other scope hmem hbranch
          exact ⟨condition, List.mem_cons_of_mem _ hheader⟩
        · cases List.mem_singleton.mp hmem
      · cases List.mem_singleton.mp hmem
        exact ⟨condition, List.mem_cons_self ..⟩

/-- A block inside that is left out if it is blank. No branch is left out with it. -/
theorem closeElse (h : (Task.inside id exit pads inner).Lays context pass next) :
    Lays context [] pass (next.closeElse id inner) := by
  unfold Pass.closeElse
  split
  next hblank =>
    obtain ⟨hpath, hcontent, _, events, hevents, hlaid⟩ := h
    refine ⟨hpath, events, [], hevents, ?_, ?_, .nil, ?_⟩
    · rw [hcontent, List.append_nil]
    · intro written hmem
      cases hmem
    · intro node scope hmem hbranch
      rw [List.append_nil] at hmem
      obtain ⟨condition, hheader⟩ := hlaid.headers node scope hmem hbranch
      -- A branch in a blank block would have a then block that is blank too.
      have hfilled := hlaid.guarded.not_blank hheader rfl
      exact absurd (hblank.symm.trans hfilled) (by decide)
  next =>
    obtain ⟨hpath, hcontent, hscope, events, hevents, hlaid⟩ := h
    have hheader : Guarded [⟨next.block.path, id, .elseHeader⟩] := .single rfl
    refine ⟨hpath, .wrote ⟨next.block.path, id, .elseHeader⟩ :: events,
      ⟨next.block.path, id, .elseHeader⟩ :: inner.content, ?_, ?_, ?_,
      hheader.append hlaid.guarded, ?_⟩
    · exact congrArg _ hevents
    · change next.block.content ++ [_] ++ inner.content = _
      rw [hcontent]
      exact List.append_assoc ..
    · intro written hmem
      rcases List.mem_cons.mp hmem with rfl | hmem
      · exact hpath ▸ List.prefix_rfl
      · exact (List.prefix_append _ _).trans (hscope written hmem)
    · intro node scope hmem hbranch
      rw [List.append_nil] at hmem
      rcases List.mem_cons.mp hmem with heq | hmem
      · cases heq
      · obtain ⟨condition, hheader⟩ := hlaid.headers node scope hmem hbranch
        exact ⟨condition, List.mem_cons_of_mem _ hheader⟩

end Inside

end Pass.Lays

open Pass in
/-- A walk that reports nothing writes the branches it enters. -/
theorem CleanWalk.lays {context : Context} {onChain : List NodeId} {task : Task} {pass next : Pass}
    (h : CleanWalk context onChain task pass next) : task.Lays context pass next := by
  have hedited : ∀ {pass next : Pass}, pass.Edited Edit.IsUnbranched next →
      pass.Lays context [] next := .of_edited
  induction h with
  | chainEnd _ _ _ ih => exact ih
  | chainOn _ _ _ _ ihvisit ihrest => exact Lays.trans ihvisit ihrest
  | visit _ _ _ ih => exact Lays.visit ih
  | unconnected => exact Lays.refl _
  | followed _ _ _ ih => exact ih
  | @inside _ id _ pads _ last _ _ close ih =>
      rw [close]
      exact Lays.inside (Lays.trans ih (hedited (.paddedIf _ _ _)))
  | noExits => exact Lays.refl _
  | moreExits _ _ ihfirst ihothers => exact Lays.trans ihfirst ihothers
  | settled => exact Lays.refl _
  | fresh _ _ _ _ ih => exact ⟨ih.path, ih.added⟩
  | again _ _ _ _ _ _ ih => exact ih
  | unfed => exact Lays.refl _
  | byParameter => exact Lays.log _ nofun
  | byValue _ _ _ ih => exact Lays.trans ih (.log _ nofun)
  | noOperands => exact Lays.refl _
  | untypedOperand _ _ ih => exact ih
  | connectedOperand _ _ _ ihinput ihothers =>
      exact ((hedited (.require _ _)).trans ihinput).trans ihothers
  | enteredOperand _ _ _ _ _ ihinput ihothers =>
      exact (((hedited (.require _ _)).trans ihinput).trans (hedited (.require _ _))).trans ihothers
  | noParameters => exact Lays.refl _
  | literalParameter _ _ _ _ ih => exact (hedited (.trans (.require _ _) (.claim _ _ _))).trans ih
  | typedParameter _ _ _ ih => exact (hedited (.require _ _)).trans ih
  | literal hosts =>
      exact Lays.emission (hedited (.trans (.require _ _) (.keep _ _ _ _))) hosts nofun
  | call hosts _ ih =>
      exact Lays.emission (Lays.trans ih (hedited (.trans (.requireCall _ _ _)
        (.placeCall _ _ _ _ _)))) hosts nofun
  | declared hosts _ ih => exact Lays.emission (Lays.trans ih (hedited (.write _ _ _))) hosts nofun
  | declaredTyped hosts _ ih =>
      exact Lays.emission (Lays.trans ih (hedited (.declareTyped _ _ _))) hosts nofun
  | branch _ _ _ filled _ ihcondition ihthen ihelse =>
      have hthen := Lays.append ihcondition (.thenBranch ihthen filled)
      rw [Lays.path ihcondition] at hthen
      exact hthen.append (.closeElse ihelse)
  | loop hosts _ _ ihcondition ihbody =>
      have hbody := (hedited (.write _ _ _)).trans (.splice ihbody)
      exact (Lays.trans ihcondition hbody).emission hosts nofun
  | sequence hosts _ ih => exact Lays.emission ih hosts nofun
  | definition hosts _ _ ihparameters ihbody =>
      have hbody := (hedited (.writeHeader _ _ _ _)).trans (.splice ihbody)
      have hended := Lays.trans ihparameters hbody
      exact Lays.emission (hended.trans (hedited (.write _ _ _))) hosts nofun
  | code hosts => exact Lays.emission (hedited (.writeCode _ _)) hosts nofun
  | topLevelCode hosts _ ih =>
      exact ((hedited (.writeCode _ _)).trans (.splice ih)).emission hosts nofun

/-- A tour that reports nothing writes the branches it enters. -/
theorem CleanTour.laid {context : Context} {index : Nat} {roots : List NodeId}
    {written : List Written} {pass next : Pass}
    (h : CleanTour context index roots written pass next) :
    ∃ events, next.events = events ++ pass.events ∧ Laid context events written := by
  induction h with
  | done =>
      refine ⟨[], rfl, .of_unentered .nil ?_⟩
      intro node scope hmem
      cases hmem
  | @root index id _ _ pass middle _ first _ ih =>
      obtain ⟨later, hlater, hlaidLater⟩ := ih
      have hlays : (pass.openBlock (Block.root index)).Lays context [] middle := first.lays
      obtain ⟨events, content, hevents, hcontent, _, hlaid⟩ := hlays.added
      have hwritten : middle.block.content = content := hcontent
      have hopened : Laid context (events ++ [.opened (Block.root index).path]) content := by
        refine hlaid.of_events fun node scope hmem => ?_
        rcases List.mem_append.mp hmem with hmem | hmem
        · exact List.mem_append_left _ hmem
        · cases List.mem_singleton.mp hmem
      refine ⟨later ++ (events ++ [.opened (Block.root index).path]), ?_, ?_⟩
      · rw [hlater, hevents]
        change later ++ (events ++ .opened (Block.root index).path :: pass.events) = _
        simp only [List.append_assoc, List.cons_append, List.nil_append]
      · rw [hwritten]
        exact hopened.append hlaidLater

end VisualScript
