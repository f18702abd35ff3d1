import VisualScript.Proofs.Pass.Arrival
import VisualScript.Proofs.Pass.Cycles
import VisualScript.Proofs.Pass.Submission

/-!
# No cycle goes unnoticed

A clean walk comes to an end on every chain and for every value, so from where it
gets neither the flow nor the values go round in a circle. With the reports all
being founded, a cycle is reported only where there is one, and keeps the program
from being submitted wherever emission comes to it.
-/

namespace VisualScript

open Relation (TransGen ReflTransGen)
open Function (swap)

section Circles

variable {α : Type} {relation : α → α → Prop} {start finish : α}

/-- From where all ways end, none leads back. -/
theorem not_transGen_of_acc (h : Acc (swap relation) start) :
    ¬ TransGen relation start start := by
  induction h with
  | intro start _ ih =>
      intro hcircle
      obtain ⟨next, hstep, hback⟩ := TransGen.head'_iff.mp hcircle
      exact ih next hstep (.tail' hback hstep)

theorem acc_of_reflTransGen (h : Acc (swap relation) start)
    (hway : ReflTransGen relation start finish) : Acc (swap relation) finish := by
  induction hway with
  | refl => exact h
  | tail _ hstep ih => exact ih.inv hstep

end Circles

/-! ## The flow -/

namespace Context

/-- All ways that the flow goes from a node end. -/
abbrev FlowEnds (context : Context) (id : NodeId) : Prop := Acc (swap context.FlowsTo) id

/-- The flow ends behind the node that an exit is connected to, if it is. -/
def EndsBehind (context : Context) (id : NodeId) (exit : String) : Prop :=
  ∀ {connection}, context.graph.firstOutgoing? id exit = some connection →
    context.FlowEnds connection.target

variable {context : Context}

/-- The flow goes from a node to where it goes on, or by an exit that the emission of the
node follows. -/
theorem FlowsTo.nextOf_or_leftBy {node : Node} {kind : ComponentKind} {id : NodeId}
    (h : context.FlowsTo node.id id) (hosts : context.Hosts node kind) :
    context.nextOf kind node.id = some id ∨ ∃ exit connection, LeftBy node kind exit ∧
      context.graph.firstOutgoing? node.id exit = some connection ∧ connection.target = id := by
  obtain ⟨_, _, exits, connected, rfl⟩ := h
  rcases exits.leftBy hosts.found hosts.kind? with ⟨rfl, hgoes⟩ | hleft
  · left
    rw [nextOf, if_pos hgoes, connected]
    rfl
  · exact .inr ⟨_, _, hleft, connected, rfl⟩

end Context

/-- Where the flow ends when a piece of work is done. -/
def Task.FlowEnds (context : Context) : Task → Prop
  | chain start => context.FlowEnds start
  | visit id answer => ∀ next, context.FlowsTo id next → answer = some next ∨ context.FlowEnds next
  | follow id exit => context.EndsBehind id exit
  | inside id exit _ _ => context.EndsBehind id exit
  | exits id indices => ∀ index ∈ indices, context.EndsBehind id (numbered keys.exit index)
  | emission kind node => ∀ exit, Context.LeftBy node kind exit → context.EndsBehind node.id exit
  | _ => True

/-- The flow ends on every chain of a clean walk. -/
theorem CleanWalk.flowEnds {context : Context} {onChain : List NodeId} {task : Task}
    {pass next : Pass} (h : CleanWalk context onChain task pass next) : task.FlowEnds context := by
  induction h with
  | chainEnd _ _ _ ih =>
      refine Acc.intro _ fun next hflows => ?_
      exact (ih next hflows).resolve_left nofun
  | chainOn _ _ _ _ ihvisit ihrest =>
      refine Acc.intro _ fun next hflows => ?_
      rcases ihvisit next hflows with hanswer | hends
      · exact Option.some.inj hanswer ▸ ihrest
      · exact hends
  | visit hosts _ _ ih =>
      intro next hflows
      refine (hflows.nextOf_or_leftBy hosts).imp_right ?_
      rintro ⟨exit, connection, hleft, hconnected, rfl⟩
      exact ih exit hleft hconnected
  | unconnected open_ =>
      intro connection hconnected
      cases open_.symm.trans hconnected
  | followed _ connected _ ih =>
      intro connection hconnected
      cases connected.symm.trans hconnected
      exact ih
  | inside _ _ ih => exact ih
  | noExits => exact nofun
  | moreExits _ _ ihfirst ihothers =>
      intro index hmem
      rcases List.mem_cons.mp hmem with rfl | hmem
      · exact ihfirst
      · exact ihothers index hmem
  | branch _ _ _ _ _ _ ihthen ihelse =>
      rintro exit (rfl | rfl)
      · exact ihthen
      · exact ihelse
  | loop _ _ _ _ ihbody =>
      rintro exit rfl
      exact ihbody
  | sequence _ _ ih =>
      rintro exit ⟨index, hindex, rfl⟩
      exact ih index (List.mem_range.mpr hindex)
  | definition _ _ _ _ ihbody =>
      rintro exit rfl
      exact ihbody
  | topLevelCode _ _ ih =>
      rintro exit rfl
      exact ih
  | literal | call | declared | declaredTyped | code => exact fun _ => nofun
  | _ => trivial

/-- From the roots of a tour that reports nothing, the flow ends. -/
theorem CleanTour.flowEnds {context : Context} {index : Nat} {roots : List NodeId}
    {written : List Written} {pass next : Pass}
    (h : CleanTour context index roots written pass next) :
    ∀ id ∈ roots, context.FlowEnds id := by
  induction h with
  | done => exact nofun
  | root first _ ih => exact List.forall_mem_cons.mpr ⟨first.flowEnds, ih⟩

/-! ## The values -/

namespace Context

/-- All ways that lead from a node to what its value depends on end. -/
abbrev ValueEnds (context : Context) (id : NodeId) : Prop := Acc (swap context.TakesFrom) id

/-- All ways that lead from the source of an input end. -/
def EndsBefore (context : Context) (consumer : NodeId) (key : String) : Prop :=
  ∀ {source}, context.feed consumer key = .value source → context.ValueEnds source

variable {context : Context} {id : NodeId} {kind : ComponentKind}

theorem ValueEnds.of_kind? (hknown : context.kind? id = some kind)
    (h : ∀ key ∈ kind.valueInputs, context.EndsBefore id key) : context.ValueEnds id := by
  refine Acc.intro _ fun source htakes => ?_
  obtain ⟨other, hother, key, hkey, hfeed⟩ := htakes
  cases Option.some.inj (hknown.symm.trans hother)
  exact h key hkey hfeed

theorem ValueEnds.of_wiring {node literal : Node} {index : Nat} {source : NodeId}
    {type : LanguageType} (h : context.wiring node index = .byLiteral source type literal) :
    context.ValueEnds source := by
  obtain ⟨name, hknown, _⟩ := kind?_of_wiring h
  exact of_kind? hknown nofun

end Context

/-- The values of which a piece of work sees to it that they end. -/
def Task.ValuesEnd (context : Context) : Task → Prop
  | visit id _ => context.ValueEnds id
  | supply _ source => context.ValueEnds source
  | input consumer key _ => context.EndsBefore consumer key
  | operands node arguments _ => ∀ argument ∈ arguments,
      (context.typeOf? argument.type).isSome = true →
        context.EndsBefore node.id argument.name
  | emission kind node => ∀ key ∈ kind.valueInputs, context.EndsBefore node.id key
  | _ => True

/-- The values of all nodes end that were asked for or reached, apart from those that
are being emitted and from one that is about to be. -/
def Pass.Settles (context : Context) (pending : Option NodeId) (pass : Pass) : Prop :=
  ∀ id, id ∈ pass.initiated ∨ id ∈ pass.reached →
    pending = some id ∨ id ∈ pass.emitting ∨ context.ValueEnds id

namespace Pass.Settles

variable {context : Context} {pass next : Pass} {id : NodeId}

theorem of_eq (h : Settles context none pass) (hinitiated : next.initiated = pass.initiated)
    (hreached : next.reached = pass.reached) (hemitting : next.emitting = pass.emitting) :
    Settles context none next := by
  intro id hknown
  rw [hinitiated, hreached] at hknown
  rw [hemitting]
  exact h id hknown

theorem of_silent (h : Settles context none pass) (hsilent : pass.Silent next) :
    Settles context none next :=
  h.of_eq hsilent.initiated hsilent.reached hsilent.emitting

theorem of_quiet (h : Settles context none pass) (hquiet : pass.Quiet next) :
    Settles context none next :=
  h.of_silent hquiet.toSilent

theorem pend (h : Settles context none pass) (id : NodeId) : Settles context (some id) pass :=
  fun other hknown => .inr ((h other hknown).resolve_left nofun)

theorem initiate (h : Settles context none pass) (id : NodeId) :
    Settles context (some id) (pass.initiate id) := by
  rintro other (hinitiated | hreached)
  · rcases List.mem_cons.mp hinitiated with rfl | hinitiated
    · exact .inl rfl
    · exact h.pend id other (.inl hinitiated)
  · exact h.pend id other (.inr hreached)

theorem enter (h : Settles context (some id) pass) :
    Settles context none ((pass.reach id).enter id) := by
  intro other hknown
  refine .inr ?_
  by_cases hsame : other = id
  · exact .inl (List.mem_cons.mpr (.inl hsame))
  · have hbefore : other ∈ pass.initiated ∨ other ∈ pass.reached :=
      hknown.imp_right fun hreached => (List.mem_cons.mp hreached).resolve_left hsame
    rcases h other hbefore with hpending | hbusy | hends
    · exact absurd (Option.some.inj hpending).symm hsame
    · exact .inl (List.mem_cons_of_mem _ hbusy)
    · exact .inr hends

theorem leave (h : Settles context none pass) (hends : context.ValueEnds id) :
    Settles context none (pass.leave id) := by
  intro other hknown
  refine .inr ?_
  by_cases hsame : other = id
  · exact .inr (hsame ▸ hends)
  · refine ((h other hknown).resolve_left nofun).imp_left fun hbusy => ?_
    exact List.mem_filter.mpr ⟨hbusy, decide_eq_true hsame⟩

theorem claim (h : Settles context none pass) (definition : NodeId)
    (hends : context.ValueEnds id) : Settles context none (pass.claim definition id) := by
  rintro other (hinitiated | hreached)
  · rcases List.mem_cons.mp hinitiated with rfl | hinitiated
    · exact .inr (.inr hends)
    · exact h other (.inl hinitiated)
  · rcases List.mem_cons.mp hreached with rfl | hreached
    · exact .inr (.inr hends)
    · exact h other (.inr hreached)

theorem keep (h : Settles context none pass) (id : NodeId) (binds : Bool) (value : Expression) :
    Settles context none (pass.keep id binds value) := by
  unfold Pass.keep
  split
  next => exact (h.of_quiet (.write pass id (.bind id value))).of_eq rfl rfl rfl
  next => exact h

theorem placeCall (h : Settles context none pass) (function : Callable) (id : NodeId)
    (call : Expression) : Settles context none (pass.placeCall context function id call) := by
  unfold Pass.placeCall
  split
  next => exact h.of_quiet (.write _ _ _)
  next => exact h.keep _ _ _

/-- The value of a node that is known and not under way ends. -/
theorem valueEnds (h : Settles context none pass) (hidle : id ∉ pass.emitting)
    (hknown : if context.isOnDemand id then id ∈ pass.initiated else id ∈ pass.reached) :
    context.ValueEnds id := by
  have hsomehow : id ∈ pass.initiated ∨ id ∈ pass.reached := by
    split at hknown
    next => exact .inl hknown
    next => exact .inr hknown
  exact ((h id hsomehow).resolve_left nofun).resolve_left hidle

end Pass.Settles

open Pass in
/-- The values of all nodes that a clean walk comes to end. -/
theorem CleanWalk.settles {context : Context} (hregistered : context.Registered)
    {onChain : List NodeId} {task : Task} {pass next : Pass}
    (h : CleanWalk context onChain task pass next) (hsettles : pass.Settles context task.pending) :
    task.ValuesEnd context ∧ next.Settles context none := by
  -- A node that a value is taken from without being emitted is idle, so its own emission is over
  -- and what it depends on ended before.
  induction h with
  | chainEnd _ _ _ ih => exact ⟨trivial, (ih (hsettles.pend _)).2⟩
  | chainOn _ _ _ _ ihvisit ihrest => exact ⟨trivial, (ihrest (ihvisit (hsettles.pend _)).2).2⟩
  | visit hosts _ _ ih =>
      obtain ⟨hinputs, hemitted⟩ := ih hsettles.enter
      have hends := Context.ValueEnds.of_kind? hosts.kind? hinputs
      exact ⟨hends, hemitted.leave hends⟩
  | unconnected => exact ⟨trivial, hsettles⟩
  | followed _ _ _ ih => exact ⟨trivial, (ih hsettles).2⟩
  | @inside _ id _ pads pass last _ _ close ih =>
      have hclosed := (ih (hsettles.of_silent (.openBlock _ _))).2.of_quiet
        (.paddedIf last id pads)
      rw [← close] at hclosed
      exact ⟨trivial, hclosed.of_silent (.backTo _ _)⟩
  | noExits => exact ⟨trivial, hsettles⟩
  | moreExits _ _ ihfirst ihothers => exact ⟨trivial, (ihothers (ihfirst hsettles).2).2⟩
  | settled _ known idle => exact ⟨hsettles.valueEnds idle known, hsettles⟩
  | fresh _ _ _ _ ih => exact ih (hsettles.initiate _)
  | again _ _ _ _ _ _ ih => exact ih (hsettles.pend _)
  | unfed feed =>
      refine ⟨fun hfeed => ?_, hsettles⟩
      cases feed.symm.trans hfeed
  | byParameter _ feed =>
      refine ⟨fun hfeed => ?_, hsettles⟩
      cases feed.symm.trans hfeed
  | byValue _ feed _ ih =>
      obtain ⟨hsource, hsupplied⟩ := ih hsettles
      refine ⟨fun hfeed => ?_, hsupplied⟩
      cases feed.symm.trans hfeed
      exact hsource
  | noOperands => exact ⟨nofun, hsettles⟩
  | untypedOperand unknown _ ih =>
      obtain ⟨hothers, hnext⟩ := ih hsettles
      refine ⟨List.forall_mem_cons.mpr ⟨fun htyped => ?_, hothers⟩, hnext⟩
      rw [unknown] at htyped
      cases htyped
  | connectedOperand _ _ _ ihinput ihothers =>
      obtain ⟨hinput, hmiddle⟩ := ihinput (hsettles.of_quiet (.require _ _))
      obtain ⟨hothers, hnext⟩ := ihothers hmiddle
      exact ⟨List.forall_mem_cons.mpr ⟨fun _ => hinput, hothers⟩, hnext⟩
  | enteredOperand _ _ _ _ _ ihinput ihothers =>
      obtain ⟨hinput, hmiddle⟩ := ihinput (hsettles.of_quiet (.require _ _))
      obtain ⟨hothers, hnext⟩ := ihothers (hmiddle.of_quiet (.require _ _))
      exact ⟨List.forall_mem_cons.mpr ⟨fun _ => hinput, hothers⟩, hnext⟩
  | noParameters => exact ⟨trivial, hsettles⟩
  | literalParameter wiring _ _ _ ih =>
      exact ⟨trivial, (ih ((hsettles.of_quiet (.require _ _)).claim _ (.of_wiring wiring))).2⟩
  | typedParameter _ _ _ ih => exact ⟨trivial, (ih (hsettles.of_quiet (.require _ _))).2⟩
  | literal => exact ⟨nofun, (hsettles.of_quiet (.require _ _)).keep _ _ _⟩
  | call hosts _ ih =>
      obtain ⟨hoperands, hnext⟩ := ih hsettles
      refine ⟨fun key hkey => ?_, (hnext.of_quiet (.requireCall _ _ _)).placeCall _ _ _⟩
      obtain ⟨argument, hlisted, rfl⟩ := List.mem_map.mp hkey
      exact hoperands argument hlisted (hregistered hosts.kind? argument hlisted)
  | declared _ _ ih =>
      obtain ⟨hvalue, hnext⟩ := ih hsettles
      exact ⟨List.forall_mem_singleton.mpr hvalue, hnext.of_quiet (.write _ _ _)⟩
  | declaredTyped _ _ ih =>
      obtain ⟨hvalue, hnext⟩ := ih hsettles
      exact ⟨List.forall_mem_singleton.mpr hvalue, hnext.of_quiet (.declareTyped _ _ _)⟩
  | branch _ _ _ _ _ ihcondition ihthen ihelse =>
      obtain ⟨hcondition, hstart⟩ := ihcondition hsettles
      have hmiddle := (ihthen (hstart.of_quiet (.write _ _ _))).2
      have hnext := (ihelse (hmiddle.of_quiet (.splice _ _))).2
      exact ⟨List.forall_mem_singleton.mpr hcondition, hnext.of_quiet (.closeElse _ _ _)⟩
  | loop _ _ _ ihcondition ihbody =>
      obtain ⟨hcondition, hstart⟩ := ihcondition hsettles
      have hnext := (ihbody (hstart.of_quiet (.write _ _ _))).2
      exact ⟨List.forall_mem_singleton.mpr hcondition, hnext.of_quiet (.splice _ _)⟩
  | sequence _ _ ih => exact ⟨nofun, (ih hsettles).2⟩
  | definition _ _ _ ihparameters ihbody =>
      have hnext := (ihbody ((ihparameters hsettles).2.of_quiet (.writeHeader _ _ _ _))).2
      exact ⟨nofun, (hnext.of_quiet (.splice _ _)).of_quiet (.write _ _ _)⟩
  | code => exact ⟨nofun, hsettles.of_quiet (.writeCode _ _)⟩
  | topLevelCode _ _ ih =>
      exact ⟨nofun, (ih (hsettles.of_quiet (.writeCode _ _))).2.of_quiet (.splice _ _)⟩

/-- A tour that reports nothing leaves no node behind whose value does not end. -/
theorem CleanTour.settles {context : Context} (hregistered : context.Registered) {index : Nat}
    {roots : List NodeId} {written : List Written} {pass next : Pass}
    (h : CleanTour context index roots written pass next)
    (hsettles : pass.Settles context none) : next.Settles context none := by
  induction h with
  | done => exact hsettles
  | root first _ ih =>
      exact ih (first.settles hregistered (hsettles.of_silent (.openBlock _ _))).2

/-! ## Compilations -/

theorem Compilation.submission?_of_not_isValid {compilation : Compilation}
    (h : compilation.isValid = false) :
    compilation.diagnostics.hasErrors = true ∧ compilation.submission? = none := by
  refine ⟨by simpa [isValid] using h, ?_⟩
  rw [submission?, if_neg (by simp [h])]

/-- What is said of used nodes that were not reached is about no cycle. -/
theorem Compilation.loops_of_unreached {context : Context} {journal : List Event}
    {reached : List NodeId} {diagnostic : Diagnostic}
    (h : diagnostic ∈ unreached journal reached) :
    ∃ id, diagnostic.node = some id ∧ context.Loops diagnostic.kind id := by
  obtain ⟨id, _, rfl⟩ := List.mem_map.mp h
  exact ⟨id, rfl, trivial⟩

namespace Language

variable {language : Language} {core : CoreDescription} {user : UserDescription}
  {engine : Pattern.Engine} {options : CompileOptions} {graph : Graph} {compilation : Compilation}

/-- What a compilation says is about a node, and about a cycle only if there is one. -/
theorem loops_of_mem_diagnostics (hbuilt : language.Builds graph)
    (hcompiled : language.compile options graph = .ok compilation) {diagnostic : Diagnostic}
    (hmem : diagnostic ∈ compilation.diagnostics) :
    ∃ id, diagnostic.node = some id ∧
      (language.context options graph).Loops diagnostic.kind id := by
  obtain ⟨written, pass, _, rfl, htour⟩ := tour_of_compile hcompiled
  have hwired : (language.context options graph).Wired := wired hbuilt.fits
  obtain ⟨added, hadded, hfounded⟩ :=
    htour.founded hwired (fun _ hmem => hwired.isFlow_of_mem_roots hmem) rfl
  rcases List.mem_append.mp hmem with hreported | hunreached
  · obtain ⟨event, hevent, htold⟩ := List.mem_filterMap.mp hreported
    have hhappened : event ∈ added := by
      have hjournal := List.mem_reverse.mp hevent
      rwa [hadded, List.append_nil] at hjournal
    cases event with
    | reported report =>
        cases htold
        exact hfounded _ hhappened
    | _ => cases htold
  · exact Compilation.loops_of_unreached hunreached

/-- Top-level nodes are roots. -/
theorem mem_roots {id : NodeId} {kind : ComponentKind}
    (hknown : language.kind? graph id = some kind) (htop : kind.isTopLevel = true) :
    id ∈ (language.context options graph).roots := by
  obtain ⟨node, hnode, hkind⟩ := Option.bind_eq_some_iff.mp hknown
  obtain rfl := Graph.id_of_node? hnode
  refine List.mem_map_of_mem (List.mem_filter.mpr ⟨Graph.mem_of_node? hnode, ?_⟩)
  obtain ⟨component, hcomponent, rfl⟩ := Option.map_eq_some_iff.mp hkind
  change (language.catalog.get? node.name).any _ = true
  rw [hcomponent]
  exact htop

/-- A cycle of the flow is reported only on a node from which the flow leads back to
it, and a program in which the flow gets from a top-level node to a cycle has errors. -/
theorem flowCycles_founded_and_noticed (hbuilt : language.Builds graph)
    (hcompiled : language.compile options graph = .ok compilation) :
    (∀ diagnostic ∈ compilation.diagnostics, diagnostic.kind = .flowCycle →
      ∃ id, diagnostic.node = some id ∧
        TransGen (language.context options graph).FlowsTo id id) ∧
    ∀ root kind id, language.kind? graph root = some kind → kind.isTopLevel = true →
      ReflTransGen (language.context options graph).FlowsTo root id →
      TransGen (language.context options graph).FlowsTo id id →
        compilation.diagnostics.hasErrors = true ∧ compilation.submission? = none := by
  refine ⟨fun diagnostic hmem hkind => ?_, fun root kind id hknown htop hway hcircle => ?_⟩
  · obtain ⟨id, hnode, hloops⟩ := loops_of_mem_diagnostics hbuilt hcompiled hmem
    rw [hkind] at hloops
    exact ⟨id, hnode, hloops⟩
  · refine Compilation.submission?_of_not_isValid (Bool.eq_false_iff.mpr fun hvalid => ?_)
    obtain ⟨_, _, _, _, htour, _⟩ := exists_cleanTour hbuilt hcompiled hvalid
    have hends := htour.flowEnds root (mem_roots hknown htop)
    exact not_transGen_of_acc (acc_of_reflTransGen hends hway) hcircle

/-- A function whose flow comes to two codes that follow each other. -/
def flowCircle : Graph where
  nodes := [
    { id := ⟨1⟩, name := "Function", outputs := ⟨[("fout", .flow)]⟩ },
    { id := ⟨2⟩, name := "InjectCode", data := ⟨[("code", .string "")]⟩
      inputs := ⟨[("fin", .flow)]⟩, outputs := ⟨[("fout", .flow)]⟩ },
    { id := ⟨3⟩, name := "InjectCode", data := ⟨[("code", .string "")]⟩
      inputs := ⟨[("fin", .flow)]⟩, outputs := ⟨[("fout", .flow)]⟩ }]
  connections := [⟨1, ⟨1⟩, "fout", ⟨2⟩, "fin"⟩, ⟨2, ⟨2⟩, "fout", ⟨3⟩, "fin"⟩,
    ⟨3, ⟨3⟩, "fout", ⟨2⟩, "fin"⟩]
  lastNode := 3
  lastConnection := 3

theorem builds_flowCircle : bare.Builds flowCircle := by
  have hempty : bare.Builds .empty := .empty
  have hfunction := hempty.spawn "Function" .empty rfl
  have hfirst := hfunction.spawn "InjectCode" .empty rfl
  have hsecond := hfirst.spawn "InjectCode" .empty rfl
  have hstart := hsecond.connect ⟨1⟩ "fout" ⟨2⟩ "fin" rfl
  have hforth := hstart.connect ⟨2⟩ "fout" ⟨3⟩ "fin" rfl
  exact hforth.connect ⟨3⟩ "fout" ⟨2⟩ "fin" rfl

/-- The circle is reported on the code where the flow comes back, and nothing is
submitted, as the flow gets from the function to the other code. -/
theorem flowCycle_noticed_flowCircle :
    ∃ compilation, bare.compile {} flowCircle = .ok compilation ∧
      compilation.diagnostics = [.of .flowCycle (some ⟨2⟩) none] ∧
      TransGen (bare.context {} flowCircle).FlowsTo ⟨2⟩ ⟨2⟩ ∧
      compilation.submission? = none := by
  obtain ⟨compilation, hcompiled, hdiagnostics⟩ : ∃ compilation,
      bare.compile {} flowCircle = .ok compilation ∧
        compilation.diagnostics = [.of .flowCycle (some ⟨2⟩) none] := ⟨_, rfl, rfl⟩
  obtain ⟨hfounded, hnoticed⟩ := flowCycles_founded_and_noticed builds_flowCircle hcompiled
  have hreported := hdiagnostics ▸ List.mem_singleton_self _
  obtain ⟨id, hnode, hcircle⟩ := hfounded _ hreported rfl
  cases hnode
  have hstart : (bare.context {} flowCircle).FlowsTo ⟨1⟩ ⟨2⟩ := ⟨_, _, .inner rfl rfl, rfl, rfl⟩
  have hforth : (bare.context {} flowCircle).FlowsTo ⟨2⟩ ⟨3⟩ := ⟨_, _, .next rfl rfl, rfl, rfl⟩
  have hback : (bare.context {} flowCircle).FlowsTo ⟨3⟩ ⟨2⟩ := ⟨_, _, .next rfl rfl, rfl, rfl⟩
  have hway : ReflTransGen (bare.context {} flowCircle).FlowsTo ⟨1⟩ ⟨3⟩ :=
    .tail (.single hstart) hforth
  have hother : TransGen (bare.context {} flowCircle).FlowsTo ⟨3⟩ ⟨3⟩ :=
    .tail (.single hback) hforth
  exact ⟨compilation, hcompiled, hdiagnostics, hcircle,
    (hnoticed ⟨1⟩ .definition ⟨3⟩ rfl rfl hway hother).2⟩

/-- The values of all nodes end that are emitted for a program without errors. -/
theorem valueEnds_of_entered (hbuilt : (Language.build core user engine).Builds graph)
    (hcompiled : (Language.build core user engine).compile options graph = .ok compilation)
    (hvalid : compilation.isValid = true) {id : NodeId} {scope : ScopePath}
    (hjournal : .entered id scope ∈ compilation.journal) :
    ((Language.build core user engine).context options graph).ValueEnds id := by
  obtain ⟨written, pass, _, rfl, htour⟩ := tour_of_compile hcompiled
  have hwired : (context _ options graph).Wired := wired hbuilt.fits
  have hregistered : (context _ options graph).Registered :=
    registered_build core user engine options graph
  have hclean := htour.cleanTour_of_clean hwired hwired.starts (htour.grows.clean rfl hvalid)
  have hentered : .entered id scope ∈ pass.events := List.mem_reverse.mp hjournal
  have hreached : id ∈ pass.reached :=
    ((hclean.reaches hregistered).entered id scope hentered).resolve_left nofun
  have hidle : id ∉ pass.emitting := fun hbusy => nomatch htour.emitting_subset hbusy
  -- Before the pass no node was asked for or reached, and after it none is under way.
  have hsettles := hclean.settles hregistered fun _ hknown => nomatch hknown
  exact ((hsettles id (.inr hreached)).resolve_left nofun).resolve_left hidle

/-- A cycle of values is reported only on a node whose value depends on itself, and a
program for which such a node is emitted has errors. -/
theorem dataCycles_founded_and_noticed (hbuilt : (Language.build core user engine).Builds graph)
    (hcompiled : (Language.build core user engine).compile options graph = .ok compilation) :
    (∀ diagnostic ∈ compilation.diagnostics, diagnostic.kind = .dataCycle →
      ∃ id, diagnostic.node = some id ∧
        TransGen ((Language.build core user engine).context options graph).TakesFrom id id) ∧
    ∀ id scope, .entered id scope ∈ compilation.journal →
      TransGen ((Language.build core user engine).context options graph).TakesFrom id id →
        compilation.diagnostics.hasErrors = true := by
  refine ⟨fun diagnostic hmem hkind => ?_, fun id scope hjournal hcircle => ?_⟩
  · obtain ⟨id, hnode, hloops⟩ := loops_of_mem_diagnostics hbuilt hcompiled hmem
    rw [hkind] at hloops
    exact ⟨id, hnode, hloops⟩
  · refine (Compilation.submission?_of_not_isValid (Bool.eq_false_iff.mpr fun hvalid => ?_)).1
    have hends := valueEnds_of_entered hbuilt hcompiled hvalid hjournal
    exact not_transGen_of_acc hends hcircle

/-- A function with a loop whose condition is one of two variables that start with the
value of each other. -/
def valueCircle : Graph where
  nodes := [
    { id := ⟨1⟩, name := "Function", outputs := ⟨[("fout", .flow)]⟩ },
    { id := ⟨2⟩, name := "Variable", inputs := ⟨[("value", ⟨"Value", .any "any"⟩)]⟩
      outputs := ⟨[("result", ⟨"Result", .any "any"⟩)]⟩ },
    { id := ⟨3⟩, name := "Variable", inputs := ⟨[("value", ⟨"Value", .any "any"⟩)]⟩
      outputs := ⟨[("result", ⟨"Result", .any "any"⟩)]⟩ },
    { id := ⟨4⟩, name := "While"
      inputs := ⟨[("fin", .flow), ("inValue", ⟨"Condition", .any "any"⟩)]⟩
      outputs := ⟨[("fout", .flow), ("body", .flow)]⟩ }]
  connections := [⟨1, ⟨1⟩, "fout", ⟨4⟩, "fin"⟩, ⟨2, ⟨2⟩, "result", ⟨4⟩, "inValue"⟩,
    ⟨3, ⟨3⟩, "result", ⟨2⟩, "value"⟩, ⟨4, ⟨2⟩, "result", ⟨3⟩, "value"⟩]
  lastNode := 4
  lastConnection := 4

theorem builds_valueCircle : bare.Builds valueCircle := by
  have hempty : bare.Builds .empty := .empty
  have hfunction := hempty.spawn "Function" .empty rfl
  have hfirst := hfunction.spawn "Variable" .empty rfl
  have hsecond := hfirst.spawn "Variable" .empty rfl
  have hloop := hsecond.spawn "While" .empty rfl
  have hflow := hloop.connect ⟨1⟩ "fout" ⟨4⟩ "fin" rfl
  have hcondition := hflow.connect ⟨2⟩ "result" ⟨4⟩ "inValue" rfl
  have hback := hcondition.connect ⟨3⟩ "result" ⟨2⟩ "value" rfl
  exact hback.connect ⟨2⟩ "result" ⟨3⟩ "value" rfl

/-- The circle is reported on the variable that is taken first, and is an error, as the
other variable is emitted as well. -/
theorem dataCycle_noticed_valueCircle :
    ∃ compilation, bare.compile {} valueCircle = .ok compilation ∧
      compilation.diagnostics = [.of .dataCycle (some ⟨2⟩) none] ∧
      TransGen (bare.context {} valueCircle).TakesFrom ⟨2⟩ ⟨2⟩ ∧
      compilation.diagnostics.hasErrors = true := by
  obtain ⟨compilation, before, after, hcompiled, hdiagnostics, hjournal⟩ :
      ∃ compilation before after, bare.compile {} valueCircle = .ok compilation ∧
        compilation.diagnostics = [.of .dataCycle (some ⟨2⟩) none] ∧
        compilation.journal = before ++ .entered ⟨3⟩ [0, 0] :: after :=
    ⟨_, [_, _, _, _, _, _, _], _, rfl, rfl, rfl⟩
  obtain ⟨hfounded, hnoticed⟩ := dataCycles_founded_and_noticed builds_valueCircle hcompiled
  have hreported := hdiagnostics ▸ List.mem_singleton_self _
  obtain ⟨id, hnode, hcircle⟩ := hfounded _ hreported rfl
  cases hnode
  have hforth : (bare.context {} valueCircle).TakesFrom ⟨2⟩ ⟨3⟩ :=
    ⟨_, rfl, _, List.mem_singleton_self _, rfl⟩
  have hback : (bare.context {} valueCircle).TakesFrom ⟨3⟩ ⟨2⟩ :=
    ⟨_, rfl, _, List.mem_singleton_self _, rfl⟩
  have hentered : .entered ⟨3⟩ [0, 0] ∈ compilation.journal := by
    rw [hjournal]
    exact List.mem_append_right _ (List.mem_cons_self ..)
  exact ⟨compilation, hcompiled, hdiagnostics, hcircle,
    hnoticed ⟨3⟩ [0, 0] hentered (.tail (.single hback) hforth)⟩

end Language

end VisualScript
