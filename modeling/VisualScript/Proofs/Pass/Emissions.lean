import VisualScript.Proofs.Pass.RootJournals

/-!
# Emissions in journals

Where the emission of a node lies in a journal, between its beginning and its end. A function
stays on the chains that are walked while its body is emitted, and no chain goes to a node that
is on one, so between the beginning and the end of its emission nothing emits it again.
-/

namespace VisualScript

/-! ## What marks an emission -/

namespace Event

/-- The node whose emission an event is a mark of: it begins or ends, its header is written, or
a name that came before is reported. -/
def landmark? : Event → Option NodeId
  | entered node _ => some node
  | finished node => some node
  | wrote ⟨_, node, .definition _ _⟩ => some node
  | reported diagnostic => if diagnostic.kind = .duplicateArgument then diagnostic.node else none
  | _ => none

variable {event : Event}

/-- An event marks the emission of none of some functions. -/
def Omits (context : Context) (functions : List NodeId) (event : Event) : Prop :=
  ∀ id, event.landmark? = some id → context.kind? id = some .definition → id ∉ functions

theorem omits_of_landmark? {context : Context} {functions : List NodeId}
    (h : event.landmark? = none) : event.Omits context functions := by
  intro id hid
  rw [h] at hid
  cases hid

end Event

/-- Whether an edit is no mark of an emission. -/
def Edit.IsUnmarked : Edit → Prop
  | report .duplicateArgument _ _ => False
  | write _ (.definition _ _) => False
  | _ => True

/-- Nothing that happened marks an emission. -/
abbrev Pass.Unmarked (pass next : Pass) : Prop :=
  pass.Adds (fun event => event.landmark? = none) next

theorem Pass.Unmarked.of_edited {pass next : Pass} (h : pass.Edited Edit.IsUnmarked next) :
    pass.Unmarked next := by
  refine Adds.of_edited (h.mono fun edit hedit => ?_)
  cases edit with
  | report kind => cases kind <;> first | rfl | cases hedit
  | write node statement =>
      intro scope
      cases statement <;> first | rfl | cases hedit
  | require | claim => rfl
  | splice | setResult | dropResult => trivial

theorem Objection.isUnmarked {context : Context} {pass : Pass} {consumer source node : NodeId}
    {kind : DiagnosticKind} {detail : Option String}
    (h : Objection context pass consumer source kind node detail) :
    Edit.IsUnmarked (.report kind node detail) := by
  cases h <;> trivial

/-! ## Emissions in a journal -/

/-- The journal tells of an emission of a node from its beginning, which comes last in the
first part of the journal, to its end. A function that is emitted is on a chain. -/
inductive Context.Emits (context : Context) (id : NodeId) (began : List Event) :
    List Event → Prop where
  | between {onChain node kind start last after} (named : node.id = id)
      (hosts : context.Hosts node kind) (walked : kind = .definition → id ∈ onChain)
      (emission : Walk context onChain (.emission kind node) start last)
      (begins : start.events = began) (ends : .finished id :: last.events <:+ after) :
      Emits context id began after

theorem Context.Emits.mono {context : Context} {id : NodeId} {began after later : List Event}
    (h : context.Emits id began after) (hlater : after <:+ later) :
    context.Emits id began later := by
  cases h with
  | between named hosts walked emission begins ends =>
      exact .between named hosts walked emission begins (ends.trans hlater)

/-- What a journal tells since omits the functions that are being emitted, and the emissions
that it tells of have ended. -/
structure Recounts (context : Context) (busy : List NodeId) (before after : List Event) : Prop where
  omits : ∃ added, after = added ++ before ∧ ∀ event ∈ added, event.Omits context busy
  emits : ∀ {id scope earlier}, .entered id scope :: earlier <:+ after →
    .entered id scope :: earlier <:+ before ∨
      context.Emits id (.entered id scope :: earlier) after

namespace Recounts

variable {context : Context} {busy : List NodeId} {before middle after : List Event}

theorem suffix (h : Recounts context busy before after) : before <:+ after := by
  obtain ⟨added, hadded, _⟩ := h.omits
  exact ⟨added, hadded.symm⟩

theorem refl (events : List Event) : Recounts context busy events events :=
  ⟨⟨[], rfl, nofun⟩, .inl⟩

theorem trans (hfirst : Recounts context busy before middle)
    (hrest : Recounts context busy middle after) : Recounts context busy before after where
  omits := by
    obtain ⟨added, rfl, homits⟩ := hfirst.omits
    obtain ⟨later, rfl, homits'⟩ := hrest.omits
    exact ⟨later ++ added, (List.append_assoc ..).symm,
      List.forall_mem_append.mpr ⟨homits', homits⟩⟩
  emits := by
    intro id scope earlier hentered
    rcases hrest.emits hentered with hmiddle | hemits
    · exact (hfirst.emits hmiddle).imp_right fun hemits => hemits.mono hrest.suffix
    · exact .inr hemits

theorem cons {event : Event} (homits : event.Omits context busy)
    (hbegins : ∀ id scope, event ≠ .entered id scope) (events : List Event) :
    Recounts context busy events (event :: events) where
  omits := ⟨[event], rfl, List.forall_mem_singleton.mpr homits⟩
  emits := by
    intro id scope earlier hentered
    rcases List.suffix_cons_iff.mp hentered with heq | hsuffix
    · exact absurd (List.cons.inj heq).1.symm (hbegins id scope)
    · exact .inl hsuffix

theorem of_landmark? {added : List Event} (hplain : ∀ event ∈ added, event.landmark? = none)
    (events : List Event) : Recounts context busy events (added ++ events) := by
  induction added with
  | nil => exact refl events
  | cons event added ih =>
      obtain ⟨hevent, hadded⟩ := List.forall_mem_cons.mp hplain
      refine (ih hadded).trans (cons (Event.omits_of_landmark? hevent) ?_ _)
      rintro id scope rfl
      cases hevent

variable {pass last next : Pass}

theorem of_unmarked (h : pass.Unmarked next) : Recounts context busy pass.events next.events := by
  obtain ⟨added, hadded, hplain⟩ := h
  exact hadded ▸ of_landmark? hplain _

theorem of_edited (h : pass.Edited Edit.IsUnmarked next) :
    Recounts context busy pass.events next.events := of_unmarked (.of_edited h)

/-- An event marks the emission of a function that is not being emitted. -/
theorem mark {event : Event} {id : NodeId} (hevent : event.landmark? = some id)
    (hnew : id ∉ busy) (hbegins : ∀ id scope, event ≠ .entered id scope) (events : List Event) :
    Recounts context busy events (event :: events) := by
  refine cons (fun other hother _ => ?_) hbegins events
  rw [hevent, Option.some.injEq] at hother
  exact hother ▸ hnew

theorem noteDuplicate (pass : Pass) {definition : NodeId} (hnew : definition ∉ busy)
    (seen : List String) (name : String) :
    Recounts context busy pass.events (pass.noteDuplicate definition seen name).events := by
  unfold Pass.noteDuplicate
  split
  next => exact mark rfl hnew (by nofun) _
  next => exact refl _

theorem writeHeader (pass : Pass) {node : Node} (hnew : node.id ∉ busy)
    (declarations : List String) :
    Recounts context busy pass.events (pass.writeHeader context node declarations).events := by
  unfold Pass.writeHeader
  split
  next =>
    exact (of_edited (.write pass node.id .exportMark)).trans (mark rfl hnew (by nofun) _)
  next => exact mark rfl hnew (by nofun) _

/-- The emission of a node begins, and in the end it has ended. -/
theorem emission {onChain : List NodeId} {node : Node} {kind : ComponentKind}
    (hosts : context.Hosts node kind)
    (hchain : kind = .definition → node.id ∈ onChain ∧ node.id ∉ busy)
    (hwalk : Walk context onChain (.emission kind node) ((pass.reach node.id).enter node.id) last)
    (h : Recounts context busy ((pass.reach node.id).enter node.id).events last.events) :
    Recounts context busy pass.events (last.leave node.id).events := by
  have homits : ∀ {event : Event}, event.landmark? = some node.id → event.Omits context busy := by
    intro event hevent id hid hdefines
    cases hevent.symm.trans hid
    exact (hchain (Option.some.inj (hosts.kind?.symm.trans hdefines))).2
  constructor
  case omits =>
    obtain ⟨added, hadded, homits'⟩ := h.omits
    refine ⟨.finished node.id :: (added ++ [.entered node.id pass.block.path]), ?_, ?_⟩
    · change .finished node.id :: last.events = _
      rw [hadded, List.cons_append, List.append_assoc]
      rfl
    · rw [List.forall_mem_cons, List.forall_mem_append, List.forall_mem_singleton]
      exact ⟨homits rfl, homits', homits rfl⟩
  case emits =>
    intro id scope earlier hentered
    have hended : last.events <:+ (last.leave node.id).events := List.suffix_cons _ _
    have hlast : .entered id scope :: earlier <:+ last.events := by
      rcases List.suffix_cons_iff.mp hentered with heq | hsuffix
      · cases heq
      · exact hsuffix
    -- What has begun is an emission inside this one, or this one itself, or one before it.
    rcases h.emits hlast with hbefore | hemits
    · rcases List.suffix_cons_iff.mp hbefore with heq | hsuffix
      · cases heq
        exact .inr (.between rfl hosts (fun hkind => (hchain hkind).1) hwalk rfl
          (List.suffix_refl _))
      · exact .inl hsuffix
    · exact .inr (hemits.mono hended)

end Recounts

/-- A piece of work emits and declares none of the functions that are being emitted, and a
function that it visits is on a chain. -/
def Task.Anew (context : Context) (onChain busy : List NodeId) : Task → Prop
  | visit id _ => context.kind? id = some .definition → id ∈ onChain ∧ id ∉ busy
  | parameters node _ _ => node.id ∉ busy
  | emission kind node => kind = .definition → node.id ∉ busy
  | _ => True

/-- Functions are not emitted for their value. -/
theorem Context.kind?_ne_of_isOnDemand {context : Context} {id : NodeId}
    (h : context.isOnDemand id = true) : context.kind? id ≠ some .definition := by
  intro hdefines
  rw [isOnDemand_eq_of_kind? hdefines] at h
  cases h

open Pass in
/-- While functions that are on the chains are being emitted, none of them is emitted again. -/
theorem Walk.recounts {context : Context} {busy onChain : List NodeId} {task : Task}
    {pass next : Pass} (h : Walk context onChain task pass next) (hbusy : busy ⊆ onChain)
    (htask : task.Anew context onChain busy) :
    Recounts context busy pass.events next.events := by
  have hedited : ∀ {pass next : Pass}, pass.Edited Edit.IsUnmarked next →
      Recounts context busy pass.events next.events := .of_edited
  -- The journal only grows by what each piece adds. Only where a chain goes to a node can a
  -- function be emitted, and no chain goes to a node that is on one.
  induction h with
  | turnBack => exact hedited (.report _ _ _)
  | chainEnd new _ ih =>
      refine ih (List.subset_cons_of_subset _ hbusy) fun _ => ?_
      exact ⟨List.mem_cons_self .., fun hmem => new (hbusy hmem)⟩
  | chainOn new _ _ ihvisit ihrest =>
      have hrest := ihrest (List.subset_cons_of_subset _ hbusy) trivial
      refine (ihvisit (List.subset_cons_of_subset _ hbusy) fun _ => ?_).trans hrest
      exact ⟨List.mem_cons_self .., fun hmem => new (hbusy hmem)⟩
  | missing => exact .refl _
  | @unknown _ id node pass =>
      have hreported : Recounts context busy (pass.reach id).events
          ((pass.reach id).report .unknownComponent id (some node.name)).events :=
        hedited (.report _ _ _)
      exact hreported
  | @emitted _ id node component _ _ _ found known emission _ ih =>
      obtain rfl := Graph.id_of_node? found
      have hosts : context.Hosts node component.kind := ⟨found, by rw [known]; rfl⟩
      have hchain : component.kind = .definition → node.id ∈ _ ∧ node.id ∉ busy :=
        fun hkind => htask (hosts.kind?.trans (congrArg some hkind))
      exact .emission hosts hchain emission (ih hbusy fun hkind => (hchain hkind).2)
  | unconnected => exact .refl _
  | followed _ _ ih => exact ih hbusy trivial
  | @inside _ id _ pads pass last next _ close ih =>
      have hopened : Recounts context busy pass.events pass.openChild.events :=
        .of_unmarked (.of_events_eq_cons rfl rfl)
      have hclosed := (hopened.trans (ih hbusy trivial)).trans (hedited (.paddedIf last id pads))
      rw [← close] at hclosed
      exact hclosed
  | noExits => exact .refl _
  | moreExits _ _ ihfirst ihothers => exact (ihfirst hbusy trivial).trans (ihothers hbusy trivial)
  | settled => exact .refl _
  | fresh demand _ _ ih =>
      exact ih hbusy fun hdefines => absurd hdefines (Context.kind?_ne_of_isOnDemand demand)
  | again demand _ _ _ _ _ ih =>
      exact ih hbusy fun hdefines => absurd hdefines (Context.kind?_ne_of_isOnDemand demand)
  | refused objection => exact hedited (.report _ _ _ objection.isUnmarked)
  | unfed => exact .refl _
  | byParameter => exact .of_unmarked (.log _ rfl)
  | byValue _ _ ih => exact (ih hbusy trivial).trans (.of_unmarked (.log _ rfl))
  | found _ ih => exact ih hbusy trivial
  | lacking _ ih => exact (ih hbusy trivial).trans (hedited (.report _ _ _))
  | noOperands => exact .refl _
  | untypedOperand _ _ ih => exact ih hbusy trivial
  | optionalOperand _ _ _ _ ihinput ihothers =>
      exact ((hedited (.require _ _)).trans (ihinput hbusy trivial)).trans (ihothers hbusy trivial)
  | enteredOperand _ _ _ _ ihinput ihothers =>
      have hinput := (hedited (.require _ _)).trans (ihinput hbusy trivial)
      exact (hinput.trans (hedited (.checkLiteral _ _ _ _))).trans (ihothers hbusy trivial)
  | requiredOperand _ _ _ _ ihinput ihothers =>
      exact ((hedited (.require _ _)).trans (ihinput hbusy trivial)).trans (ihothers hbusy trivial)
  | lackingOperand _ _ _ _ ihinput ihothers =>
      have hinput := (hedited (.require _ _)).trans (ihinput hbusy trivial)
      exact (hinput.trans (hedited (.checkLiteral _ _ _ _))).trans (ihothers hbusy trivial)
  | noParameters => exact .refl _
  | moreParameters _ ih =>
      refine .trans ?_ (ih hbusy htask)
      exact (hedited (.declare _ _ _ _)).trans (.noteDuplicate _ htask _ _)
  | unknownLiteral => exact .refl _
  | literal => exact hedited (.trans (.checkLiteral _ _ _ _) (.keep _ _ _ _))
  | call _ ih =>
      exact (ih hbusy trivial).trans (hedited (.trans (.requireCall _ _ _) (.placeCall _ _ _ _ _)))
  | declared _ ih => exact (ih hbusy trivial).trans (hedited (.write _ _ _))
  | declaredTyped _ ih => exact (ih hbusy trivial).trans (hedited (.declareTyped _ _ _))
  | bareBranch _ ih => exact ih hbusy trivial
  | branch _ _ _ ihcondition ihthen ihelse =>
      have hthen := (hedited (.write _ _ _)).trans (ihthen hbusy trivial)
      have helse := (hedited (.closeThen _ _ _)).trans (ihelse hbusy trivial)
      exact (((ihcondition hbusy trivial).trans hthen).trans helse).trans
        (hedited (.closeElse _ _ _))
  | bareLoop _ ih => exact ih hbusy trivial
  | loop _ _ ihcondition ihbody =>
      exact (ihcondition hbusy trivial).trans
        ((hedited (.write _ _ _)).trans (ihbody hbusy trivial))
  | sequence _ ih => exact ih hbusy trivial
  | @definition _ node _ _ _ _ _ _ ihparameters ihbody =>
      have hnew := htask rfl
      have hheader := (ihparameters hbusy hnew).trans
        (.writeHeader _ hnew (context.declarations node))
      exact (hheader.trans (ihbody hbusy trivial)).trans
        (hedited (.trans (.splice _ _) (.write _ _ _)))
  | code => exact hedited (.writeCode _ _)
  | topLevelCode _ ih =>
      exact ((hedited (.writeCode _ _)).trans (ih hbusy trivial)).trans (hedited (.splice _ _))

/-- Every emission that a pass tells of has ended. -/
theorem Tour.recounts {context : Context} {index : Nat} {roots : List NodeId}
    {written : List Written} {pass next : Pass}
    (h : Tour context index roots written pass next) :
    Recounts context [] pass.events next.events := by
  induction h with
  | done => exact .refl _
  | @root index _ _ _ pass _ _ first _ ih =>
      have hopened : pass.Unmarked (pass.openBlock (.root index)) := .of_events_eq_cons rfl rfl
      have hfirst := first.recounts (List.nil_subset _) trivial
      exact ((Recounts.of_unmarked hopened).trans hfirst).trans ih

end VisualScript
