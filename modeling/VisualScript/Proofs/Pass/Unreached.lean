import VisualScript.Proofs.Pass.Confluence
import VisualScript.Proofs.Pass.Steps

/-!
# Nodes that are never reached

A value may be used before the flow reached its node. That is reported at once, and once more
at the end of the pass if the node was not emitted until then. An account of a pass says how
the nodes that were asked for, reached, emitted and used go together.
-/

namespace VisualScript

/-- A diagnostic says that the value of a node is used before the node is executed. -/
def Diagnostic.UsesEarly (diagnostic : Diagnostic) (id : NodeId) : Prop :=
  ∃ consumer, diagnostic = .of .usedBeforeExecuted (some consumer) (some id.text)

/-- The value of a node was used before the node was executed, and the node was not emitted
after that. -/
def LeftOut (journal : List Event) (id : NodeId) : Prop :=
  ∃ early diagnostic late, journal = early ++ .reported diagnostic :: late ∧
    diagnostic.UsesEarly id ∧ ∀ scope, .entered id scope ∉ late

/-! ## Accounts -/

/-- An event uses the value of a node itself. -/
def Event.Uses (event : Event) (id : NodeId) : Prop := event.usedSource? = some id

/-- Whether an event uses the value of a node itself, or reports that a used node was not
reached. -/
def Event.isUse : Event → Bool
  | resolved resolution => resolution.ofSource
  | reported diagnostic =>
      diagnostic.kind = .usedBeforeExecuted || diagnostic.kind = .nodeNotProcessed
  | _ => false

theorem Event.isUse_of_isAside {event : Event} (h : event.isAside = true) :
    event.isUse = false := by
  cases event with
  | resolved resolution => simpa [isAside, isUse] using h
  | reported diagnostic => simpa [isAside, isUse] using h
  | _ => rfl

theorem Event.Uses.isUse {event : Event} {id : NodeId} (h : event.Uses id) :
    event.isUse = true := by
  cases event with
  | resolved resolution =>
      rw [Uses, usedSource?] at h
      split at h
      next hown => exact hown
      next => cases h
  | _ => cases h

theorem Diagnostic.UsesEarly.isUse {diagnostic : Diagnostic} {id : NodeId}
    (h : diagnostic.UsesEarly id) : (Event.reported diagnostic).isUse = true := by
  obtain ⟨consumer, rfl⟩ := h
  rfl

/-- How the nodes that a pass asked for, reached, emitted and used go together. -/
structure Accounts (context : Context) (pass : Pass) : Prop where
  asked : pass.initiated ⊆ pass.reached
  busy : pass.emitting ⊆ pass.reached
  emitted : ∀ {id scope}, .entered id scope ∈ pass.events → id ∈ pass.reached
  /-- Nodes that the flow reached were emitted. -/
  executed : ∀ {id}, id ∈ pass.reached → context.isOnDemand id = false →
    ∃ scope, .entered id scope ∈ pass.events
  /-- Used nodes were reached, or it was reported that they were not. -/
  used : ∀ {event id}, event ∈ pass.events → event.Uses id → id ∈ pass.reached ∨
    ∃ diagnostic, diagnostic.UsesEarly id ∧ .reported diagnostic ∈ pass.events
  /-- Only nodes of the flow are reported, and none that was emitted already. -/
  early : ∀ {diagnostic before}, (.reported diagnostic :: before) <:+ pass.events →
    ∀ {id}, diagnostic.UsesEarly id →
      context.isOnDemand id = false ∧ ∀ scope, .entered id scope ∉ before
  /-- Reported nodes are used. -/
  named : ∀ {diagnostic id}, .reported diagnostic ∈ pass.events → diagnostic.UsesEarly id →
    ∃ event ∈ pass.events, event.Uses id
  /-- What was not processed is told at the end. -/
  unfinished : ∀ {diagnostic}, .reported diagnostic ∈ pass.events →
    diagnostic.kind ≠ .nodeNotProcessed

namespace Accounts

variable {context : Context} {pass next : Pass}

theorem initial (block : Block) : Accounts context { block := block } where
  asked := List.Subset.refl _
  busy := List.Subset.refl _
  emitted h := nomatch h
  executed h := nomatch h
  used h := nomatch h
  early h := nomatch List.suffix_nil.mp h
  named h := nomatch h
  unfinished h := nomatch h

/-- Nothing new is used. Nodes that are asked for or emitted are reached, and those of the flow
are reached by their emission. -/
theorem grow (h : Accounts context pass) {added : List Event}
    (hevents : next.events = added ++ pass.events)
    (hunused : ∀ event ∈ added, event.isUse = false) (hreached : pass.reached ⊆ next.reached)
    (hasked : next.initiated ⊆ next.reached) (hbusy : next.emitting ⊆ next.reached)
    (hemitted : ∀ id scope, .entered id scope ∈ added → id ∈ next.reached)
    (hexecuted : ∀ id ∈ next.reached, context.isOnDemand id = false →
      id ∈ pass.reached ∨ ∃ scope, .entered id scope ∈ added) : Accounts context next := by
  -- Whatever is or reports a use was in the journal before.
  have hbefore : ∀ {event}, event ∈ next.events → event.isUse = true → event ∈ pass.events := by
    intro event hmem huse
    rw [hevents, List.mem_append] at hmem
    rcases hmem with hmem | hmem
    · rw [hunused event hmem] at huse
      cases huse
    · exact hmem
  have hafter : ∀ {event}, event ∈ pass.events → event ∈ next.events := by
    intro event hmem
    simp [hevents, hmem]
  constructor
  case asked => exact hasked
  case busy => exact hbusy
  case emitted =>
    intro id scope hmem
    rw [hevents, List.mem_append] at hmem
    rcases hmem with hmem | hmem
    · exact hemitted id scope hmem
    · exact hreached (h.emitted hmem)
  case executed =>
    intro id hmem hflow
    rcases hexecuted id hmem hflow with hmem | ⟨scope, hmem⟩
    · obtain ⟨scope, hentered⟩ := h.executed hmem hflow
      exact ⟨scope, hafter hentered⟩
    · exact ⟨scope, by simp [hevents, hmem]⟩
  case used =>
    intro event id hmem huses
    rcases h.used (hbefore hmem huses.isUse) huses with hsource | ⟨diagnostic, hearly, hreported⟩
    · exact .inl (hreached hsource)
    · exact .inr ⟨diagnostic, hearly, hafter hreported⟩
  case early =>
    intro diagnostic before hsuffix id hearly
    have hold : .reported diagnostic ∉ added := by
      intro hmem
      cases (hunused _ hmem).symm.trans hearly.isUse
    exact h.early (suffix_of_suffix_append hold (hevents ▸ hsuffix)) hearly
  case named =>
    intro diagnostic id hmem hearly
    obtain ⟨event, hused, huses⟩ := h.named (hbefore hmem hearly.isUse) hearly
    exact ⟨event, hafter hused, huses⟩
  case unfinished =>
    intro diagnostic hmem hkind
    have huse : (Event.reported diagnostic).isUse = true := by simp [Event.isUse, hkind]
    exact h.unfinished (hbefore hmem huse) hkind

/-- One node is reached. If it is a node of the flow then because it is emitted. -/
theorem reach (h : Accounts context pass) {id : NodeId} {added : List Event}
    (hreached : next.reached = id :: pass.reached) (hasked : next.initiated ⊆ id :: pass.initiated)
    (hbusy : next.emitting ⊆ id :: pass.emitting) (hevents : next.events = added ++ pass.events)
    (hunused : ∀ event ∈ added, event.isUse = false)
    (hemitted : ∀ other scope, .entered other scope ∈ added → other = id)
    (hexecuted : context.isOnDemand id = false → ∃ scope, .entered id scope ∈ added) :
    Accounts context next := by
  apply h.grow hevents hunused
  case hreached => simp [hreached]
  case hasked =>
    rw [hreached]
    exact List.Subset.trans hasked (List.cons_subset_cons id h.asked)
  case hbusy =>
    rw [hreached]
    exact List.Subset.trans hbusy (List.cons_subset_cons id h.busy)
  case hemitted =>
    intro other scope hmem
    simp [hreached, hemitted other scope hmem]
  case hexecuted =>
    intro other hmem hflow
    rw [hreached, List.mem_cons] at hmem
    rcases hmem with rfl | hmem
    · exact .inr (hexecuted hflow)
    · exact .inl hmem

/-- A value is used of a node that was reached. -/
theorem take (h : Accounts context pass) {resolution : Resolution}
    (hown : resolution.ofSource = true) (hsource : resolution.source ∈ pass.reached) :
    Accounts context (pass.log (.resolved resolution)) where
  asked := h.asked
  busy := h.busy
  emitted hmem := by
    simp only [Pass.log, List.mem_cons, reduceCtorEq, false_or] at hmem
    exact h.emitted hmem
  executed hmem hflow := by
    obtain ⟨scope, hentered⟩ := h.executed hmem hflow
    exact ⟨scope, List.mem_cons_of_mem _ hentered⟩
  used hmem huses := by
    rcases List.mem_cons.mp hmem with rfl | hmem
    · rw [Event.Uses, Event.usedSource?, if_pos hown, Option.some.injEq] at huses
      exact .inl (huses ▸ hsource)
    · rcases h.used hmem huses with hreached | ⟨diagnostic, hearly, hreported⟩
      · exact .inl hreached
      · exact .inr ⟨diagnostic, hearly, List.mem_cons_of_mem _ hreported⟩
  early hsuffix _ hearly := by
    rcases List.suffix_cons_iff.mp hsuffix with heq | hsuffix
    · cases heq
    · exact h.early hsuffix hearly
  named hmem hearly := by
    simp only [Pass.log, List.mem_cons, reduceCtorEq, false_or] at hmem
    obtain ⟨event, hused, huses⟩ := h.named hmem hearly
    exact ⟨event, List.mem_cons_of_mem _ hused, huses⟩
  unfinished hmem := by
    simp only [Pass.log, List.mem_cons, reduceCtorEq, false_or] at hmem
    exact h.unfinished hmem

/-- A value is used of a node that the flow did not reach, and that is reported. -/
theorem miss (h : Accounts context pass) {resolution : Resolution}
    (hown : resolution.ofSource = true) (hflow : context.isOnDemand resolution.source = false)
    (hunreached : resolution.source ∉ pass.reached) :
    Accounts context ((pass.report .usedBeforeExecuted resolution.consumer
      (some resolution.source.text)).log (.resolved resolution)) := by
  have huse : (Event.resolved resolution).Uses resolution.source := by
    simp [Event.Uses, Event.usedSource?, hown]
  constructor
  case asked => exact h.asked
  case busy => exact h.busy
  case emitted =>
    intro id scope hmem
    simp only [Pass.report, Pass.log, List.mem_cons, reduceCtorEq, false_or] at hmem
    exact h.emitted hmem
  case executed =>
    intro id hmem hflow'
    obtain ⟨scope, hentered⟩ := h.executed hmem hflow'
    exact ⟨scope, by simp [Pass.report, Pass.log, hentered]⟩
  case used =>
    intro event id hmem huses
    simp only [Pass.report, Pass.log, List.mem_cons] at hmem
    rcases hmem with rfl | rfl | hmem
    · cases huse.symm.trans huses
      exact .inr ⟨_, ⟨resolution.consumer, rfl⟩, by simp [Pass.report, Pass.log]⟩
    · cases huses
    · rcases h.used hmem huses with hreached | ⟨diagnostic, hearly, hreported⟩
      · exact .inl hreached
      · exact .inr ⟨diagnostic, hearly, by simp [Pass.report, Pass.log, hreported]⟩
  case early =>
    intro diagnostic before hsuffix id hearly
    simp only [Pass.report, Pass.log, List.suffix_cons_iff] at hsuffix
    rcases hsuffix with heq | heq | hsuffix
    · cases heq
    · -- No emission of the source is in the journal, for then it would have been reached.
      obtain ⟨consumer, rfl⟩ := hearly
      rw [List.cons.injEq, Event.reported.injEq, Diagnostic.of_some_inj] at heq
      obtain ⟨⟨_, htext⟩, rfl⟩ := heq
      cases NodeId.text_inj.mp htext
      exact ⟨hflow, fun scope hentered => hunreached (h.emitted hentered)⟩
    · exact h.early hsuffix hearly
  case named =>
    intro diagnostic id hmem hearly
    simp only [Pass.report, Pass.log, List.mem_cons, reduceCtorEq, false_or] at hmem
    rcases hmem with hreport | hmem
    · obtain ⟨consumer, rfl⟩ := hearly
      rw [Event.reported.injEq, Diagnostic.of_some_inj, NodeId.text_inj] at hreport
      exact ⟨_, List.mem_cons_self .., hreport.2 ▸ huse⟩
    · obtain ⟨event, hused, huses⟩ := h.named hmem hearly
      exact ⟨event, by simp [Pass.report, Pass.log, hused], huses⟩
  case unfinished =>
    intro diagnostic hmem
    simp only [Pass.report, Pass.log, List.mem_cons, reduceCtorEq, false_or] at hmem
    rcases hmem with hreport | hmem
    · cases hreport
      exact DiagnosticKind.noConfusion
    · exact h.unfinished hmem

/-- Accounts are kept by every step. -/
theorem step (hstep : Step context pass next) (h : Accounts context pass) :
    Accounts context next := by
  cases hstep with
  | aside nothing =>
      obtain ⟨added, hadded, haside⟩ := nothing.journal
      have hreached : pass.reached ⊆ next.reached := by simp [nothing.reached]
      apply h.grow hadded (fun event hmem => Event.isUse_of_isAside (haside event hmem)) hreached
      case hasked => simpa [nothing.initiated, nothing.reached] using h.asked
      case hbusy => exact List.Subset.trans nothing.emitting (List.Subset.trans h.busy hreached)
      case hemitted => exact fun id scope hmem => nomatch haside _ hmem
      case hexecuted => exact fun id hmem _ => .inl (nothing.reached ▸ hmem)
  | @stray id node _ ready asking found unknown =>
      have hdemand : context.isOnDemand id = true := by
        simp [Context.isOnDemand, Context.component?, found, unknown]
      have hreached : (ready.reach id).reached = id :: pass.reached := by
        simp [Pass.reach, asking.reached_eq]
      have hbusy : (ready.reach id).emitting ⊆ id :: pass.emitting := by
        simp [Pass.reach, asking.emitting_eq]
      have hevents : (ready.reach id).events = [] ++ pass.events := asking.events_eq
      apply h.reach hreached asking.initiated_subset hbusy hevents
      case hunused => simp
      case hemitted => simp
      case hexecuted => simp [hdemand]
  | @enter id node component _ ready asking found known =>
      have hreached : ((ready.reach id).enter id).reached = id :: pass.reached := by
        simp [Pass.enter, Pass.log, Pass.reach, asking.reached_eq]
      have hbusy : ((ready.reach id).enter id).emitting ⊆ id :: pass.emitting := by
        simp [Pass.enter, Pass.log, Pass.reach, asking.emitting_eq]
      have hevents : ((ready.reach id).enter id).events =
          [.entered id ready.block.path] ++ pass.events := by
        simp [Pass.enter, Pass.log, Pass.reach, asking.events_eq]
      apply h.reach hreached asking.initiated_subset hbusy hevents
      case hunused => simp [Event.isUse]
      case hemitted => simp_all
      case hexecuted => simp
  | @claim definition literal name _ known =>
      have hdemand : context.isOnDemand literal = true := by
        rw [Context.isOnDemand_eq_of_kind? known]
        rfl
      have hbusy : (pass.claim definition literal).emitting ⊆ literal :: pass.emitting :=
        List.subset_cons_self _ _
      have hevents : (pass.claim definition literal).events =
          [.claimed definition literal literal.localName] ++ pass.events := rfl
      apply h.reach rfl (List.Subset.refl _) hbusy hevents
      case hunused => simp [Event.isUse]
      case hemitted => simp
      case hexecuted => simp [hdemand]
  | take own known =>
      refine h.take own ?_
      rcases known with hasked | hreached | hbusy
      · exact h.asked hasked
      · exact hreached
      · exact h.busy hbusy
  | miss own flow unreached => exact h.miss own flow unreached

/-- Nodes are left out if they are used and never reached. -/
theorem leftOut_iff (h : Accounts context pass) {id : NodeId} :
    LeftOut pass.events.reverse id ↔
      (∃ event ∈ pass.events, event.Uses id) ∧ id ∉ pass.reached := by
  constructor
  · rintro ⟨early, diagnostic, late, hjournal, hearly, hlate⟩
    have hevents : pass.events = late.reverse ++ .reported diagnostic :: early.reverse := by
      rw [← List.reverse_reverse pass.events, hjournal]
      simp
    have hreported : .reported diagnostic ∈ pass.events := by simp [hevents]
    refine ⟨h.named hreported hearly, fun hreached => ?_⟩
    -- The flow reaches a node by emitting it, and that was neither before the report nor after.
    have hsuffix : (.reported diagnostic :: early.reverse) <:+ pass.events :=
      ⟨late.reverse, hevents.symm⟩
    obtain ⟨hflow, hunentered⟩ := h.early hsuffix hearly
    obtain ⟨scope, hentered⟩ := h.executed hreached hflow
    rw [hevents, List.mem_append, List.mem_cons, List.mem_reverse] at hentered
    rcases hentered with hafter | hreport | hbefore
    · exact hlate scope hafter
    · cases hreport
    · exact hunentered scope hbefore
  · rintro ⟨⟨event, hmem, huses⟩, hunreached⟩
    rcases h.used hmem huses with hreached | ⟨diagnostic, hearly, hreported⟩
    · exact absurd hreached hunreached
    · obtain ⟨since, before, hevents⟩ := List.append_of_mem hreported
      refine ⟨before.reverse, diagnostic, since.reverse, by simp [hevents], hearly, ?_⟩
      intro scope hentered
      have hmem : .entered id scope ∈ pass.events :=
        hevents ▸ List.mem_append_left _ (List.mem_reverse.mp hentered)
      exact hunreached (h.emitted hmem)

end Accounts

/-! ## Diagnostics at the end -/

theorem Compilation.mem_unreached {journal : List Event} {reached : List NodeId} {id : NodeId} :
    id ∈ (distinct (journal.filterMap Event.usedSource?)).filter (· ∉ reached) ↔
      (∃ event ∈ journal, event.Uses id) ∧ id ∉ reached := by
  simp [mem_distinct, Event.Uses]

namespace Language

variable {language : Language} {options : CompileOptions} {graph : Graph}
  {compilation : Compilation}

/-- Behind all that was reported on the way, the diagnostics name the nodes that are not
processed, each once: those whose value was used before they were executed and that were not
emitted after that either. -/
theorem notProcessed_iff_leftOut (h : language.compile options graph = .ok compilation) :
    (∀ diagnostic ∈ compilation.journal.filterMap Event.diagnostic?,
      diagnostic.kind ≠ .nodeNotProcessed) ∧
    ∃ targets : List NodeId, targets.Nodup ∧
      compilation.diagnostics = compilation.journal.filterMap Event.diagnostic? ++
        targets.map (fun id => Diagnostic.of .nodeNotProcessed (some id) none) ∧
      ∀ id, id ∈ targets ↔ LeftOut compilation.journal id := by
  obtain ⟨written, pass, rfl, haccounts⟩ :=
    holds_of_compile h (.initial _) fun _ _ hstep => Accounts.step hstep
  constructor
  · intro diagnostic hmem
    obtain ⟨event, hevent, hreport⟩ := List.mem_filterMap.mp hmem
    cases event <;> cases hreport
    exact haccounts.unfinished (List.mem_reverse.mp hevent)
  · have hnodup : (distinct (pass.events.reverse.filterMap Event.usedSource?)).Nodup :=
      nodup_appendAllNew List.nodup_nil
    refine ⟨_, hnodup.sublist List.filter_sublist, rfl, fun id => ?_⟩
    have hleft : LeftOut (Compilation.ofPass written pass).journal id ↔ _ := haccounts.leftOut_iff
    rw [Compilation.mem_unreached, hleft]
    simp

/-! ## A value that is never read -/

/-- A function that prints what is to be read, but does not read it. -/
def neverRead : Graph where
  nodes := [
    { id := ⟨1⟩, name := "Function", outputs := ⟨[("fout", .flow)]⟩ }, readNode ⟨2⟩, printNode ⟨3⟩]
  connections := [⟨1, ⟨1⟩, "fout", ⟨3⟩, "fin"⟩, ⟨2, ⟨2⟩, "result", ⟨3⟩, "value"⟩]
  lastNode := 3
  lastConnection := 2

/-- What is printed is not processed, for it is left out. -/
theorem leftOut_neverRead : ∃ compilation, console.compile {} neverRead = .ok compilation ∧
    Diagnostic.of .nodeNotProcessed (some ⟨2⟩) none ∈ compilation.diagnostics ∧
    LeftOut compilation.journal ⟨2⟩ := by
  obtain ⟨compilation, hcompiled, hsaid⟩ : ∃ compilation,
      console.compile {} neverRead = .ok compilation ∧
        compilation.diagnostics[1]? = some (.of .nodeNotProcessed (some ⟨2⟩) none) :=
    ⟨_, rfl, rfl⟩
  obtain ⟨hothers, targets, _, hsplit, htargets⟩ := notProcessed_iff_leftOut hcompiled
  have hmem := List.mem_of_getElem? hsaid
  refine ⟨compilation, hcompiled, hmem, ?_⟩
  rw [hsplit, List.mem_append] at hmem
  rcases hmem with hreported | htarget
  · exact absurd rfl (hothers _ hreported)
  · obtain ⟨id, hid, heq⟩ := List.mem_map.mp htarget
    cases heq
    exact (htargets ⟨2⟩).mp hid

end Language

end VisualScript
