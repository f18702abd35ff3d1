import VisualScript.Proofs.Pass.Frame
import VisualScript.Proofs.Pass.Sound

/-!
# Statements are made of what was taken

A clean walk writes statements, and what it lays into a block it wrote. The
parameters in a statement were taken in the scope that the statement was written into.
-/

namespace VisualScript

def Statement.value? : Statement → Option Expression
  | run call => some call
  | bind _ value => some value
  | declare _ value => some value
  | ifHeader condition => some condition
  | whileHeader condition => some condition
  | _ => none

/-- An input takes a value with a reference to a parameter in a scope. -/
def Substituted (events : List Event) (scope : ScopePath) (definition : NodeId) (key : String) :
    Prop :=
  ∃ resolution, .resolved resolution ∈ events ∧ resolution.scope = scope ∧
    (Expression.parameter definition key).PartOf resolution.value

/-- All references to parameters in a value were taken in a scope. -/
def Gathered (events : List Event) (scope : ScopePath) (value : Expression) : Prop :=
  ∀ definition key, (Expression.parameter definition key).PartOf value →
    Substituted events scope definition key

theorem Gathered.mono {events later : List Event} {scope : ScopePath} {value : Expression}
    (h : Gathered events scope value) (hlater : events ⊆ later) : Gathered later scope value := by
  intro definition key hpart
  obtain ⟨resolution, hmem, hrest⟩ := h definition key hpart
  exact ⟨resolution, hlater hmem, hrest⟩

theorem gathered_literal (events : List Event) (scope : ScopePath) (written : String) :
    Gathered events scope (.literal written) := by
  intro definition key hpart
  cases hpart

theorem gathered_of_resolved {events : List Event} {resolution : Resolution}
    (h : .resolved resolution ∈ events) :
    Gathered events resolution.scope resolution.value :=
  fun _ _ hpart => ⟨resolution, h, rfl, hpart⟩

theorem gathered_ofCall {events : List Event} {scope : ScopePath} {function : Callable}
    {values : List (String × Expression)}
    (h : ∀ value ∈ values, Gathered events scope value.2) :
    Gathered events scope (.ofCall function (.ofList values)) := by
  intro definition key hpart
  cases hpart with
  | argument given inside => exact h _ (OrderedMap.mem_of_get?_ofList given) _ _ inside

/-- Whether an edit writes no value and takes over no block. -/
def Edit.IsWordless : Edit → Prop
  | write _ statement => statement.value? = none
  | splice _ => False
  | _ => True

/-- What was laid into the block was written, and the statements written since are made
of what was taken. -/
structure Pass.Writes (pass next : Pass) : Prop where
  events : pass.events ⊆ next.events
  content : ∀ written ∈ next.block.content,
    written ∈ pass.block.content ∨ .wrote written ∈ next.events
  gathered : ∀ written, .wrote written ∈ next.events → .wrote written ∈ pass.events ∨
    ∀ value, written.statement.value? = some value →
      Gathered next.events written.scope value

namespace Pass.Writes

variable {pass middle next : Pass}

theorem refl (pass : Pass) : Writes pass pass where
  events := List.Subset.refl _
  content _ := .inl
  gathered _ := .inl

theorem trans (hfirst : Writes pass middle) (hrest : Writes middle next) : Writes pass next where
  events := List.Subset.trans hfirst.events hrest.events
  content := by
    intro written hmem
    rcases hrest.content written hmem with hmem | hwrote
    · exact (hfirst.content written hmem).imp_right fun hwrote => hrest.events hwrote
    · exact .inr hwrote
  gathered := by
    intro written hwrote
    rcases hrest.gathered written hwrote with hwrote | hgathered
    · refine (hfirst.gathered written hwrote).imp_right fun hgathered value hvalue => ?_
      exact (hgathered value hvalue).mono hrest.events
    · exact .inr hgathered

/-- Something happened that is no writing. -/
theorem of_events_eq_cons {event : Event} (hevents : next.events = event :: pass.events)
    (hcontent : next.block.content = pass.block.content ∨ next.block.content = [])
    (h : ∀ written, event ≠ .wrote written) : Writes pass next where
  events := hevents ▸ List.subset_cons_self _ _
  content := by
    intro written hmem
    rcases hcontent with hcontent | hcontent
    · exact .inl (hcontent ▸ hmem)
    · rw [hcontent] at hmem
      cases hmem
  gathered := by
    intro written hwrote
    rw [hevents] at hwrote
    exact .inl ((List.mem_cons.mp hwrote).resolve_left (Ne.symm (h written)))

theorem log (pass : Pass) {event : Event} (h : ∀ written, event ≠ .wrote written) :
    Writes pass (pass.log event) := of_events_eq_cons rfl (.inl rfl) h

theorem write (pass : Pass) (node : NodeId) (statement : Statement)
    (h : ∀ value, statement.value? = some value →
      Gathered pass.events pass.block.path value) :
    Writes pass (pass.write node statement) where
  events := List.subset_cons_self _ _
  content := by
    intro written hmem
    rcases List.mem_append.mp hmem with hmem | hmem
    · exact .inl hmem
    · exact .inr (List.mem_singleton.mp hmem ▸ List.mem_cons_self ..)
  gathered := by
    intro written hwrote
    rcases List.mem_cons.mp hwrote with heq | hwrote
    · cases heq
      exact .inr fun value hvalue => (h value hvalue).mono (List.subset_cons_self _ _)
    · exact .inl hwrote

theorem of_edited (h : pass.Edited Edit.IsWordless next) : Writes pass next := by
  refine h.related refl trans fun pass edit hedit => ?_
  cases edit with
  | write node statement =>
      refine write _ _ _ fun value hvalue => ?_
      cases hvalue.symm.trans hedit
  | splice => cases hedit
  | report | require => exact log _ nofun
  | claim => exact of_events_eq_cons rfl (.inl rfl) nofun
  | setResult | dropResult => exact ⟨List.Subset.refl _, fun _ => .inl, fun _ => .inl⟩

theorem splice (pass : Pass) {inner : Block}
    (h : ∀ written ∈ inner.content, .wrote written ∈ pass.events) :
    Writes pass (pass.splice inner) where
  events := List.Subset.refl _
  content := by
    intro written hmem
    exact (List.mem_append.mp hmem).imp_right (h written)
  gathered _ := .inl

theorem closeElse (pass : Pass) (id : NodeId) {inner : Block}
    (h : ∀ written ∈ inner.content, .wrote written ∈ pass.events) :
    Writes pass (pass.closeElse id inner) := by
  unfold Pass.closeElse
  split
  next => exact refl _
  next =>
    refine (write pass id .elseHeader nofun).trans (splice _ fun written hmem => ?_)
    exact List.mem_cons_of_mem _ (h written hmem)

theorem keep (pass : Pass) (id : NodeId) (binds : Bool) {value : Expression}
    (h : Gathered pass.events pass.block.path value) :
    Writes pass (pass.keep id binds value) := by
  unfold Pass.keep
  split
  next =>
    have hwrite : Writes pass (pass.write id (.bind id value)) :=
      write pass id _ fun other hother => Option.some.inj hother ▸ h
    exact ⟨hwrite.events, hwrite.content, hwrite.gathered⟩
  next => exact ⟨List.Subset.refl _, fun _ => .inl, fun _ => .inl⟩

theorem placeCall (context : Context) (pass : Pass) (function : Callable) (id : NodeId)
    {call : Expression} (h : Gathered pass.events pass.block.path call) :
    Writes pass (pass.placeCall context function id call) := by
  unfold Pass.placeCall
  split
  next =>
    refine write pass id _ fun value hvalue => ?_
    split at hvalue
    next => exact Option.some.inj hvalue ▸ h
    next => exact Option.some.inj hvalue ▸ h
  next => exact keep pass id _ h

end Pass.Writes

/-- What a piece of work hands over was taken or written. -/
def Task.Gathers : Task → Pass → Pass → Prop
  | inside _ _ _ inner, _, next => ∀ written ∈ inner.content, .wrote written ∈ next.events
  | input _ _ value, pass, next => ∀ found, value = some found →
      Gathered next.events pass.block.path found
  | operands _ _ values, pass, next => ∀ value ∈ values,
      Gathered next.events pass.block.path value.2
  | _, _, _ => True

open Pass in
/-- A clean walk writes statements that are made of what was taken. -/
theorem CleanWalk.writes {context : Context} {onChain : List NodeId} {task : Task}
    {pass next : Pass} (h : CleanWalk context onChain task pass next) :
    task.Gathers pass next ∧ pass.Writes next := by
  induction h with
  | chainEnd _ _ _ ih => exact ih
  | chainOn _ _ _ _ ihvisit ihrest => exact ⟨trivial, ihvisit.2.trans ihrest.2⟩
  | @visit _ node _ pass next _ _ _ ih =>
      have hentered : pass.Writes ((pass.reach node.id).enter node.id) :=
        .of_events_eq_cons rfl (.inl rfl) nofun
      have hleft : next.Writes (next.leave node.id) := .of_events_eq_cons rfl (.inl rfl) nofun
      exact ⟨trivial, (hentered.trans ih.2).trans hleft⟩
  | unconnected => exact ⟨trivial, .refl _⟩
  | followed _ _ _ ih => exact ⟨trivial, ih.2⟩
  | @inside _ id _ pads pass last next _ close ih =>
      have hopened : pass.Writes pass.openChild := .of_events_eq_cons rfl (.inr rfl) nofun
      have hinner := ih.2.trans (.of_edited (.paddedIf last id pads))
      rw [← close] at hinner
      obtain ⟨hevents, _, hgathered⟩ := hopened.trans hinner
      -- The block was empty when it was opened, so all in it was written since.
      exact ⟨fun written hmem => (hinner.content written hmem).resolve_left (nomatch ·),
        hevents, fun _ => .inl, hgathered⟩
  | noExits => exact ⟨trivial, .refl _⟩
  | moreExits _ _ ihfirst ihothers => exact ⟨trivial, ihfirst.2.trans ihothers.2⟩
  | settled => exact ⟨trivial, .refl _⟩
  | fresh _ _ _ _ ih => exact ⟨trivial, ih.2.events, ih.2.content, ih.2.gathered⟩
  | again _ _ _ _ _ _ ih => exact ⟨trivial, ih.2⟩
  | unfed => exact ⟨nofun, .refl _⟩
  | byParameter =>
      refine ⟨fun found heq => ?_, .log _ nofun⟩
      rw [← Option.some.inj heq]
      exact gathered_of_resolved (List.mem_cons_self ..)
  | byValue _ _ _ ih =>
      refine ⟨fun found heq => ?_, ih.2.trans (.log _ nofun)⟩
      rw [← Option.some.inj heq]
      exact gathered_of_resolved (List.mem_cons_self ..)
  | noOperands => exact ⟨nofun, .refl _⟩
  | untypedOperand _ _ ih => exact ih
  | connectedOperand _ input _ ihinput ihothers =>
      obtain ⟨hvalue, hinput⟩ := ihinput
      obtain ⟨hvalues, hothers⟩ := ihothers
      refine ⟨fun value hmem => ?_, ((Writes.of_edited (.require _ _)).trans hinput).trans hothers⟩
      rcases List.mem_cons.mp hmem with rfl | hmem
      · exact (hvalue _ rfl).mono hothers.events
      · exact input.extends.path ▸ hvalues value hmem
  | enteredOperand _ _ input _ _ ihinput ihothers =>
      obtain ⟨hvalues, hothers⟩ := ihothers
      have hinput := (Writes.of_edited (.require _ _)).trans ihinput.2
      refine ⟨fun value hmem => ?_, (hinput.trans (.of_edited (.require _ _))).trans hothers⟩
      rcases List.mem_cons.mp hmem with rfl | hmem
      · exact gathered_literal _ _ _
      · exact input.extends.path ▸ hvalues value hmem
  | noParameters => exact ⟨trivial, .refl _⟩
  | literalParameter _ _ _ _ ih =>
      exact ⟨trivial, (Writes.of_edited ((Edited.require _ _).trans (.claim _ _ _))).trans ih.2⟩
  | typedParameter _ _ _ ih => exact ⟨trivial, (Writes.of_edited (.require _ _)).trans ih.2⟩
  | literal =>
      exact ⟨trivial, (Writes.of_edited (.require _ _)).trans
        (.keep _ _ _ (gathered_literal _ _ _))⟩
  | @call _ function node values _ last _ operands ih =>
      obtain ⟨hvalues, hoperands⟩ := ih
      have hcall : last.Quiet (last.requireCall context function) := .requireCall _ _ _
      have hgathered : Gathered (last.requireCall context function).events
          (last.requireCall context function).block.path (.ofCall function (.ofList values)) := by
        rw [hcall.path, operands.extends.path]
        exact (gathered_ofCall hvalues).mono (Extends.of_quiet hcall).events.subset
      have hrequired := hoperands.trans (.of_edited (.requireCall last context function))
      exact ⟨trivial, hrequired.trans (.placeCall _ _ _ _ hgathered)⟩
  | @declared _ node value pass last _ input ih =>
      obtain ⟨hvalue, hinput⟩ := ih
      refine ⟨trivial, hinput.trans (.write _ _ _ fun found heq => ?_)⟩
      rw [← Option.some.inj heq, input.extends.path]
      exact hvalue _ rfl
  | declaredTyped _ _ ih => exact ⟨trivial, ih.2.trans (.of_edited (.declareTyped _ _ _))⟩
  | @branch _ node value _ _ _ start _ _ _ condition _ _ _ ihcondition ihthen ihelse =>
      obtain ⟨hvalue, hcondition⟩ := ihcondition
      obtain ⟨hthenBlock, hthen⟩ := ihthen
      obtain ⟨helseBlock, helse⟩ := ihelse
      have hheader : start.Writes (start.write node.id (.ifHeader value)) := by
        refine .write _ _ _ fun found heq => ?_
        rw [← Option.some.inj heq, condition.extends.path]
        exact hvalue _ rfl
      have hmiddle := ((hcondition.trans hheader).trans hthen).trans (.splice _ hthenBlock)
      exact ⟨trivial, (hmiddle.trans helse).trans (.closeElse _ _ helseBlock)⟩
  | @loop _ node value _ _ start _ _ condition _ ihcondition ihbody =>
      obtain ⟨hvalue, hcondition⟩ := ihcondition
      obtain ⟨hinner, hbody⟩ := ihbody
      have hheader : start.Writes (start.write node.id (.whileHeader value)) := by
        refine .write _ _ _ fun found heq => ?_
        rw [← Option.some.inj heq, condition.extends.path]
        exact hvalue _ rfl
      exact ⟨trivial, ((hcondition.trans hheader).trans hbody).trans (.splice _ hinner)⟩
  | sequence _ _ ih => exact ⟨trivial, ih.2⟩
  | definition _ _ _ ihparameters ihbody =>
      obtain ⟨hinner, hbody⟩ := ihbody
      have hwritten := (Writes.of_edited (.writeHeader _ _ _ _)).trans hbody
      have hspliced := (ihparameters.2.trans hwritten).trans (.splice _ hinner)
      exact ⟨trivial, hspliced.trans (.of_edited (.write _ _ _))⟩
  | code => exact ⟨trivial, .of_edited (.writeCode _ _)⟩
  | topLevelCode _ _ ih =>
      obtain ⟨hinner, hbody⟩ := ih
      exact ⟨trivial, ((Writes.of_edited (.writeCode _ _)).trans hbody).trans (.splice _ hinner)⟩

/-- What a tour writes is made of what was taken. -/
theorem CleanTour.writes {context : Context} {index : Nat} {roots : List NodeId}
    {content : List Written} {pass next : Pass}
    (h : CleanTour context index roots content pass next) :
    pass.events ⊆ next.events ∧ (∀ written ∈ content, .wrote written ∈ next.events) ∧
      ∀ written, .wrote written ∈ next.events → .wrote written ∈ pass.events ∨
        ∀ value, written.statement.value? = some value →
          Gathered next.events written.scope value := by
  induction h with
  | done => exact ⟨List.Subset.refl _, nofun, fun _ => .inl⟩
  | @root index id _ _ pass middle _ first _ ih =>
      obtain ⟨hevents, hothers, hgathered⟩ := ih
      have hopened : pass.Writes (pass.openBlock (Block.root index)) :=
        .of_events_eq_cons rfl (.inr rfl) nofun
      have hfirst := hopened.trans first.writes.2
      refine ⟨List.Subset.trans hfirst.events hevents, fun written hmem => ?_,
        fun written hwrote => ?_⟩
      · rcases List.mem_append.mp hmem with hmem | hmem
        · have hwrote := (first.writes.2.content written hmem).resolve_left (nomatch ·)
          exact hevents hwrote
        · exact hothers written hmem
      · rcases hgathered written hwrote with hwrote | hgathered
        · refine (hfirst.gathered written hwrote).imp_right fun hgathered value hvalue => ?_
          exact (hgathered value hvalue).mono hevents
        · exact .inr hgathered

end VisualScript
