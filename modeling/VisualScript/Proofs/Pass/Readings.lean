import Mathlib.Data.List.Forall2
import VisualScript.Proofs.Pass.Faithful

/-!
# What inputs take is what their sources mean

A clean walk keeps what stands for pure nodes faithful to what they mean. Getting a
value ready leaves alone what was read before in the same block, so the operands of a
call still mean the same when the call is put together.
-/

namespace VisualScript

namespace Context

variable {context : Context}

theorem Hosts.isPure_eq {node : Node} {kind : ComponentKind} (h : context.Hosts node kind) :
    context.isPure node.id = kind.isPure :=
  isPure_eq_of_kind? h.kind?

theorem isPure_of_kind? {id : NodeId} {kind : ComponentKind} (hknown : context.kind? id = some kind)
    (hpure : kind.isPure = true) : context.isPure id = true :=
  (isPure_eq_of_kind? hknown).trans hpure

/-- Pure nodes are emitted on demand. -/
theorem IsFlow.isPure_eq {id : NodeId} (h : context.IsFlow id) : context.isPure id = false := by
  obtain ⟨kind, hknown, hflow⟩ := h
  obtain ⟨component, hcomponent, rfl⟩ := Option.map_eq_some_iff.mp hknown
  rw [isPure, hcomponent]
  change component.kind.isPure = false
  cases hkind : component.kind with
  | literal name =>
      rw [hkind] at hflow
      cases hflow
  | call function =>
      rw [hkind] at hflow
      exact hflow
  | _ => rfl

theorem isOnDemand_of_isPure {id : NodeId} (h : context.isPure id = true) :
    context.isOnDemand id = true := by
  rw [isPure, Option.any_eq_true] at h
  obtain ⟨component, hcomponent, hpure⟩ := h
  rw [isOnDemand, hcomponent]
  change component.kind.isOnDemand = true
  cases hkind : component.kind with
  | literal name => rfl
  | call function =>
      rw [hkind] at hpure
      exact hpure
  | _ =>
      rw [hkind] at hpure
      cases hpure

end Context

/-! ## What getting a value ready leaves alone -/

/-- What was read in the block stays read, and pure nodes whose value is ready there or
that are being emitted are left alone, apart from one. -/
structure Retains (context : Context) (exempt : Option NodeId) (pass next : Pass) : Prop where
  ready : ∀ {node}, exempt ≠ some node → context.isPure node = true → node ∈ pass.reached →
    node ∉ pass.emitting → pass.inScope node = true →
      node ∉ next.emitting ∧ next.scopes.get? node = pass.scopes.get? node ∧
        context.meaning next.events node = context.meaning pass.events node
  busy : ∀ {node}, exempt ≠ some node → context.isPure node = true → node ∈ pass.emitting →
    node ∈ next.emitting ∧ next.scopes.get? node = pass.scopes.get? node ∧
      ∀ binding ∈ context.bindings next.events, binding.node = node →
        binding ∈ context.bindings pass.events
  reads : ∀ {value meant}, context.Reads pass.events pass.block.path value meant →
    context.Reads next.events pass.block.path value meant

namespace Retains

variable {context : Context} {exempt : Option NodeId} {pass middle next : Pass} {id : NodeId}

theorem inScope_eq {node : NodeId} (hscope : next.scopes.get? node = pass.scopes.get? node)
    (hpath : next.block.path = pass.block.path) : next.inScope node = pass.inScope node := by
  unfold Pass.inScope Block.sees
  rw [hscope, hpath]

theorem trans (hfirst : Retains context exempt pass middle)
    (hrest : Retains context exempt middle next) (hextends : pass.Extends middle) :
    Retains context exempt pass next where
  ready hother hpure hreached hidle hvisible := by
    obtain ⟨hidle', hscope, hmeaning⟩ := hfirst.ready hother hpure hreached hidle hvisible
    rw [← inScope_eq hscope hextends.path] at hvisible
    obtain ⟨hidle'', hscope', hmeaning'⟩ :=
      hrest.ready hother hpure (hextends.reached hreached) hidle' hvisible
    exact ⟨hidle'', hscope'.trans hscope, hmeaning'.trans hmeaning⟩
  busy hother hpure hbusy := by
    obtain ⟨hbusy', hscope, hbindings⟩ := hfirst.busy hother hpure hbusy
    obtain ⟨hbusy'', hscope', hbindings'⟩ := hrest.busy hother hpure hbusy'
    exact ⟨hbusy'', hscope'.trans hscope,
      fun binding hmem hown => hbindings binding (hbindings' binding hmem hown) hown⟩
  reads hreads := hextends.path ▸ hrest.reads (hextends.path.symm ▸ hfirst.reads hreads)

theorem of_bindsNothing (h : pass.BindsNothing context next) :
    Retains context exempt pass next where
  ready _ _ _ hidle _ := ⟨h.emitting_eq.symm ▸ hidle, by rw [h.scopes_eq], by rw [h.meaning]⟩
  busy _ _ hbusy :=
    ⟨h.emitting_eq.symm ▸ hbusy, by rw [h.scopes_eq], fun _ hmem _ => h.bindings ▸ hmem⟩
  reads := h.reads

theorem refl (pass : Pass) : Retains context exempt pass pass := of_bindsNothing .refl

theorem weaken (h : Retains context none pass next) : Retains context exempt pass next where
  ready _ := h.ready (by simp)
  busy _ := h.busy (by simp)
  reads := h.reads

theorem initiate (pass : Pass) (id : NodeId) : Retains context exempt pass (pass.initiate id) where
  ready _ _ _ hidle _ := ⟨hidle, rfl, rfl⟩
  busy _ _ hbusy := ⟨hbusy, rfl, fun _ hmem _ => hmem⟩
  reads hreads := hreads

/-- No exemption is needed for a node whose value was not ready. -/
theorem of_not_ready (h : Retains context (some id) pass next)
    (hidle : context.isPure id = true → id ∉ pass.emitting)
    (hlacking : context.isPure id = true → id ∈ pass.reached → pass.inScope id = false) :
    Retains context none pass next where
  ready {node} _ hpure hreached hidle' hvisible := by
    refine h.ready (fun hsame => ?_) hpure hreached hidle' hvisible
    cases hsame
    cases (hlacking hpure hreached).symm.trans hvisible
  busy {node} _ hpure hbusy := by
    refine h.busy (fun hsame => ?_) hpure hbusy
    cases hsame
    exact hidle hpure hbusy
  reads := h.reads

theorem resolve (pass : Pass) (resolution : Resolution) :
    Retains context exempt pass (pass.log (.resolved resolution)) where
  ready _ _ _ hidle _ := ⟨hidle, rfl, rfl⟩
  busy _ _ hbusy := ⟨hbusy, rfl, fun _ hmem _ => hmem⟩
  reads hreads := hreads.of_bindings_eq rfl

theorem enter (pass : Pass) (id : NodeId) :
    Retains context (some id) pass ((pass.reach id).enter id) where
  ready {node} hother _ _ hidle _ := by
    have hsame : id ≠ node := fun heq => hother (congrArg some heq)
    refine ⟨fun hbusy => ?_, by rw [Pass.get?_scopes_enter, if_neg hsame], rfl⟩
    exact hidle ((List.mem_cons.mp hbusy).resolve_left (Ne.symm hsame))
  busy {node} hother _ hbusy := by
    have hsame : id ≠ node := fun heq => hother (congrArg some heq)
    refine ⟨List.mem_cons_of_mem _ hbusy, ?_, fun _ hmem _ => hmem⟩
    rw [Pass.get?_scopes_enter, if_neg hsame]
  reads hreads := hreads.of_bindings_eq rfl

theorem leave (pass : Pass) (id : NodeId) : Retains context (some id) pass (pass.leave id) where
  ready {node} hother _ _ hidle _ := by
    refine ⟨fun hbusy => hidle (List.mem_filter.mp hbusy).1, rfl, ?_⟩
    change context.meaning (.finished id :: pass.events) node = _
    rw [Context.meaning, if_neg fun hown => hother (congrArg some hown.2)]
  busy {node} hother _ hbusy := by
    have hsame : node ≠ id := fun heq => hother (congrArg some heq.symm)
    exact ⟨List.mem_filter.mpr ⟨hbusy, decide_eq_true hsame⟩, rfl, fun _ hmem _ => hmem⟩
  reads hreads := hreads.of_bindings_eq rfl

theorem keep (hpure : context.isPure id = true) (hunbound : pass.Unbound context id)
    (binds : Bool) (value : Expression) :
    Retains context (some id) pass (pass.keep id binds value) := by
  unfold Pass.keep
  split
  next =>
    refine ⟨fun _ _ _ hidle _ => ⟨hidle, rfl, rfl⟩, fun hother _ hbusy => ⟨hbusy, rfl, ?_⟩,
      fun hreads => hreads.bind List.prefix_rfl hpure hunbound⟩
    intro binding hmem hown
    change binding ∈ context.bindings (pass.write id (.bind id value)).events at hmem
    rw [bindings_bind hpure] at hmem
    rcases List.mem_cons.mp hmem with rfl | hmem
    · exact absurd (congrArg some hown) hother
    · exact hmem
  next =>
    exact ⟨fun _ _ _ hidle _ => ⟨hidle, rfl, rfl⟩,
      fun _ _ hbusy => ⟨hbusy, rfl, fun _ hmem _ => hmem⟩, fun hreads => hreads⟩

end Retains

/-! ## What a piece of work is for -/

/-- A pure node has a value that is ready in the block. -/
def Pass.Settled (context : Context) (pass : Pass) (id : NodeId) : Prop :=
  context.isPure id = true → id ∈ pass.reached ∧ id ∉ pass.emitting ∧ pass.inScope id = true

/-- What an input found is what is meant where it is fed from. -/
def Feed.Meets (context : Context) (pass : Pass) : Feed → Option Expression → Prop
  | nothing, given => given = none
  | parameter definition key, given => given = some (.parameter definition key)
  | value source, given => pass.Settled context source ∧ ∃ found, given = some found ∧
      context.Reads pass.events pass.block.path found (context.meaning pass.events source)

/-- An operand is an argument as it is read off the graph. -/
def Pass.Operand (context : Context) (pass : Pass) (operand meant : String × Expression) : Prop :=
  operand.1 = meant.1 ∧ context.Reads pass.events pass.block.path operand.2 meant.2

/-- What a piece of work relies on. -/
def Task.Primed (context : Context) : Task → Pass → Prop
  | visit id _, pass => context.isPure id = true →
      id ∈ pass.initiated ∧ id ∉ pass.emitting ∧ pass.Unbound context id
  | emission _ node, pass => context.isPure node.id = true →
      node.id ∈ pass.emitting ∧ pass.scopes.get? node.id = some pass.block.path ∧
        pass.Unbound context node.id
  | _, _ => True

/-- What a piece of work that gets values ready leaves alone. -/
def Task.Spares (context : Context) : Task → Pass → Pass → Prop
  | visit id _, pass, next => context.isOnDemand id = true →
      Retains context (some id) pass next
  | supply _ _, pass, next => Retains context none pass next
  | input _ _ _, pass, next => Retains context none pass next
  | operands _ _ _, pass, next => Retains context none pass next
  | emission kind node, pass, next => kind.isOnDemand = true →
      Retains context (some node.id) pass next
  | _, _, _ => True

/-- What a piece of work sees to. -/
def Task.Tells (context : Context) : Task → Pass → Prop
  | visit id _, next => context.isPure id = true →
      id ∈ next.reached ∧ id ∉ next.emitting ∧ next.scopes.get? id = some next.block.path
  | supply _ source, next => next.Settled context source
  | input consumer key value, next => (context.feed consumer key).Meets context next value
  | operands node arguments values, next => List.Forall₂ (next.Operand context) values
      (arguments.filterMap (context.readArgument (context.meaning next.events) node))
  | emission _ node, next => context.isPure node.id = true →
      next.scopes.get? node.id = some next.block.path ∧
      context.Reads next.events next.block.path (next.valueOf node.id)
        (context.readNode (context.meaning next.events) node.id)
  | _, _ => True

/-- A piece of work keeps what stands for nodes faithful, and does what it is for. -/
structure Task.Keeps (context : Context) (task : Task) (pass next : Pass) : Prop where
  faithful : Faithful context none next
  retains : task.Spares context pass next
  tells : task.Tells context next

namespace Feed.Meets

variable {context : Context} {pass next : Pass} {feed : Feed} {value : Option Expression}

/-- What an input found stays what is meant. -/
theorem retain (h : feed.Meets context pass value) (hretains : Retains context none pass next)
    (hextends : pass.Extends next) : feed.Meets context next value := by
  cases feed with
  | nothing => exact h
  | parameter definition key => exact h
  | value source =>
      obtain ⟨hsettled, found, hfound, hreads⟩ := h
      have hreads := hretains.reads hreads
      rw [← hextends.path] at hreads
      cases hpure : context.isPure source with
      | false =>
          rw [Context.meaning_of_isPure_eq_false hpure] at hreads
          refine ⟨fun h => absurd (hpure.symm.trans h) Bool.false_ne_true, found, hfound, ?_⟩
          rwa [Context.meaning_of_isPure_eq_false hpure]
      | true =>
          obtain ⟨hreached, hidle, hvisible⟩ := hsettled hpure
          obtain ⟨hidle', hscope, hmeaning⟩ :=
            hretains.ready (by simp) hpure hreached hidle hvisible
          rw [← Retains.inScope_eq hscope hextends.path] at hvisible
          exact ⟨fun _ => ⟨hextends.reached hreached, hidle', hvisible⟩, found, hfound,
            hmeaning ▸ hreads⟩

/-- An operand of a call is its argument, read off the graph. -/
theorem operand {node : Node} {argument : Argument} {type : LanguageType}
    (h : (context.feed node.id argument.name).Meets context pass value)
    (hknown : context.typeOf? argument.type = some type) :
    ∃ meant, context.readArgument (context.meaning pass.events) node argument = some meant ∧
      pass.Operand context (argument.name, value.getD (type.literalIn node argument.name))
        meant := by
  rw [Context.readArgument, hknown]
  refine ⟨_, rfl, rfl, ?_⟩
  cases hfeed : context.feed node.id argument.name with
  | nothing =>
      rw [hfeed] at h
      cases h
      exact .literal _ _ _
  | parameter definition key =>
      rw [hfeed] at h
      cases h
      exact .parameter _ _ _ _
  | value source =>
      rw [hfeed] at h
      obtain ⟨_, found, rfl, hreads⟩ := h
      exact hreads

end Feed.Meets

/-! ## Single steps -/

section Steps

variable {context : Context} {pass middle next : Pass}

/-- Nothing is bound yet of a pure node that was not asked for. -/
theorem Faithful.unbound_of_new {id : NodeId} (h : Faithful context none pass)
    (hpure : context.isPure id = true) (hnew : id ∉ pass.initiated) : pass.Unbound context id := by
  intro binding hmem hown _
  obtain ⟨scope, hscope, _⟩ := h.bound hmem
  apply hnew
  apply h.asked hpure
  simp [← hown, hscope]

/-- None of the bindings of a node that is hidden can be seen. -/
theorem Faithful.unbound_of_hidden {id : NodeId} (h : Faithful context none pass)
    (hhidden : pass.inScope id = false) : pass.Unbound context id := by
  intro binding hmem hown hwithin
  obtain ⟨scope, hscope, hplace⟩ := h.bound hmem
  rw [hown] at hscope
  rw [Pass.inScope, hscope, hplace hwithin] at hhidden
  exact absurd (List.isPrefixOf_iff_prefix.mpr hwithin) (Bool.eq_false_iff.mp hhidden)

/-- The value of a pure node is ready where the node was just emitted. -/
theorem Pass.Settled.of_tells {id : NodeId} {answer : Option NodeId}
    (h : (Task.visit id answer).Tells context next) : next.Settled context id := by
  intro hpure
  obtain ⟨hreached, hidle, hscope⟩ := h hpure
  refine ⟨hreached, hidle, ?_⟩
  rw [Pass.inScope, hscope]
  exact List.isPrefixOf_iff_prefix.mpr List.prefix_rfl

/-- What stands for a settled source is what the source means. -/
theorem Faithful.reads_valueOf (h : Faithful context none pass) {source : NodeId}
    (hsettled : pass.Settled context source) :
    context.Reads pass.events pass.block.path (pass.valueOf source)
      (context.meaning pass.events source) := by
  cases hpure : context.isPure source with
  | false =>
      have hvalue : pass.valueOf source = .name source := by
        rw [Pass.valueOf]
        cases hresult : pass.results.get? source with
        | none => rfl
        | some value => exact absurd (hpure.symm.trans (h.kept hresult)) Bool.false_ne_true
      rw [hvalue, Context.meaning_of_isPure_eq_false hpure]
      exact .name hpure _ _
  | true =>
      obtain ⟨hreached, hidle, hvisible⟩ := hsettled hpure
      refine h.told hpure hreached hidle List.prefix_rfl fun outer houter => ?_
      rw [Pass.inScope, houter] at hvisible
      exact List.isPrefixOf_iff_prefix.mp hvisible

/-- Operands that are read, argument by argument, make a call that is. -/
theorem Context.Reads.ofCall {values meant : List (String × Expression)}
    (h : List.Forall₂ (pass.Operand context) values meant) (function : Callable) :
    context.Reads pass.events pass.block.path (.ofCall function (.ofList values))
      (.ofCall function (.ofList meant)) := by
  obtain ⟨hunfolds, hplain, hrendered⟩ : values.map (fun operand =>
        (operand.1, context.unfold pass.events pass.block.path operand.2)) = meant ∧
      (∀ operand ∈ meant, context.Plain operand.2) ∧
      values.map (fun operand => (operand.1, operand.2.substitute .name)) = values := by
    induction h with
    | nil => exact ⟨rfl, List.forall_mem_nil _, rfl⟩
    | cons hfirst _ ih =>
        obtain ⟨hname, hreads⟩ := hfirst
        obtain ⟨hunfolds, hplain, hrendered⟩ := ih
        refine ⟨?_, List.forall_mem_cons.mpr ⟨hreads.plain, hplain⟩, ?_⟩
        · rw [List.map_cons, hunfolds, hreads.unfolds, hname]
        · rw [List.map_cons, hrendered, hreads.rendered]
  refine ⟨?_, fun node hnode => ?_, ?_⟩
  · rw [Context.unfold, Expression.substitute_ofCall]
    exact congrArg (fun operands => Expression.ofCall function (.ofList operands)) hunfolds
  · obtain ⟨entry, hentry, hmem⟩ := Expression.mem_names_call.mp hnode
    exact hplain entry (OrderedMap.mem_of_mem_entries_ofList hentry) node hmem
  · rw [Expression.substitute_ofCall, hrendered]

/-- What stands for a node that was just bound or kept is its value. -/
theorem Context.Reads.keep {id : NodeId} {value meant : Expression}
    (h : context.Reads pass.events pass.block.path value meant)
    (hpure : context.isPure id = true) (binds : Bool) :
    context.Reads (pass.keep id binds value).events pass.block.path
      ((pass.keep id binds value).valueOf id) meant := by
  unfold Pass.keep
  split
  next =>
    have hvalue : ((pass.write id (.bind id value)).dropResult id).valueOf id = .name id := by
      simp [Pass.valueOf, Pass.dropResult, OrderedMap.get?_erase]
    rw [hvalue]
    refine ⟨?_, h.plain, rfl⟩
    change unfoldName (context.bindings (pass.write id (.bind id value)).events) _ id = meant
    rw [bindings_bind hpure, unfoldName, if_pos ⟨rfl, List.prefix_rfl⟩]
    exact h.unfolds
  next =>
    have hvalue : (pass.setResult id value).valueOf id = value := by
      simp [Pass.valueOf, Pass.setResult, OrderedMap.get?_insert]
    rw [hvalue]
    exact h

/-- The emission of a node goes on once its operands are ready. -/
theorem Task.Primed.retain {kind : ComponentKind} {node : Node}
    (h : (Task.emission kind node).Primed context pass) (hretains : Retains context none pass next)
    (hextends : pass.Extends next) : (Task.emission kind node).Primed context next := by
  intro hpure
  obtain ⟨hbusy, hscope, hunbound⟩ := h hpure
  obtain ⟨hbusy', hscope', hbindings⟩ := hretains.busy (by simp) hpure hbusy
  refine ⟨hbusy', by rw [hscope', hscope, hextends.path], fun binding hmem hown => ?_⟩
  rw [hextends.path]
  exact hunbound binding (hbindings binding hmem hown) hown

/-- The emission of a pure node ends with its value being bound or kept. -/
theorem Task.Keeps.of_keep {kind : ComponentKind} {node : Node} {value : Expression}
    (hosts : context.Hosts node kind) (hkind : kind.isPure = true)
    (hfaithful : Faithful context none middle)
    (hprimed : (Task.emission kind node).Primed context pass)
    (hretains : Retains context none pass middle) (hextends : pass.Extends middle)
    (hreads : context.Reads middle.events middle.block.path value
      (context.read (context.meaning middle.events) node kind)) (binds : Bool) :
    (Task.emission kind node).Keeps context pass (middle.keep node.id binds value) := by
  have hpure := hosts.isPure_eq.trans hkind
  obtain ⟨hbusy, hscope, hunbound⟩ := hprimed.retain hretains hextends hpure
  have hkept : middle.Extends (middle.keep node.id binds value) := .of_edited (.keep _ _ _ _)
  refine ⟨hfaithful.keep hpure hbusy hscope hunbound binds value, fun _ => ?_, fun _ => ⟨?_, ?_⟩⟩
  · exact hretains.weaken.trans (.keep hpure hunbound binds value) hextends
  · rw [hkept.path, ← hscope]
    unfold Pass.keep
    split <;> rfl
  · rw [hkept.path, Context.readNode, hosts.found, hosts.kind?]
    have hmeaning : context.meaning (middle.keep node.id binds value).events =
        context.meaning middle.events := by
      unfold Pass.keep
      split <;> rfl
    rw [hmeaning]
    exact hreads.keep hpure binds

/-- The first operand of a call is got ready before the others, and stays so. -/
theorem Task.Keeps.consOperand {node : Node} {argument : Argument} {type : LanguageType}
    {given : Option Expression} {rest : List Argument} {values : List (String × Expression)}
    {start : Pass} (hknown : context.typeOf? argument.type = some type)
    (hinput : (Task.input node.id argument.name given).Keeps context (pass.require type.modules)
      middle)
    (hextends : (pass.require type.modules).Extends middle)
    (hquiet : middle.BindsNothing context start)
    (hothers : (Task.operands node rest values).Keeps context start next)
    (hextends' : start.Extends next) :
    (Task.operands node (argument :: rest)
      ((argument.name, given.getD (type.literalIn node argument.name)) :: values)).Keeps context
        pass next := by
  have hrequires : pass.BindsNothing context (pass.require type.modules) := .require _ _
  obtain ⟨_, hretains, hmeets⟩ := hinput
  obtain ⟨hkept, hretains', htells⟩ := hothers
  have hstart := Pass.Extends.of_edited hquiet.any
  have hafter := (Retains.of_bindsNothing hquiet).trans hretains' hstart
  have hbefore := (Retains.of_bindsNothing hrequires).trans hretains (.of_edited hrequires.any)
  obtain ⟨meant, hmeant, hoperand⟩ :=
    (hmeets.retain hafter (hstart.trans hextends')).operand hknown
  refine ⟨hkept, hbefore.trans hafter ?_, ?_⟩
  · exact (Pass.Extends.of_edited hrequires.any).trans hextends
  · rw [Task.Tells, List.filterMap_cons_some hmeant]
    exact .cons hoperand htells

/-- Nothing more is said of the emission of a node that the flow has to lead to. -/
theorem Task.Keeps.of_faithful {kind : ComponentKind} {node : Node}
    (hosts : context.Hosts node kind) (hkind : kind.isOnDemand = false)
    (hfaithful : Faithful context none next) :
    (Task.emission kind node).Keeps context pass next where
  faithful := hfaithful
  retains hdemand := absurd (hkind.symm.trans hdemand) Bool.false_ne_true
  tells hpure := absurd ((Context.IsFlow.isPure_eq ⟨kind, hosts.kind?, hkind⟩).symm.trans hpure)
    Bool.false_ne_true

/-- A variable is emitted once its value is ready. -/
theorem Task.Keeps.of_localVariable {node : Node} (hosts : context.Hosts node .localVariable)
    (hfaithful : Faithful context none middle) (hretains : Retains context none pass middle)
    (hextends : pass.Extends middle) (hquiet : middle.BindsNothing context next) :
    (Task.emission .localVariable node).Keeps context pass next where
  faithful := hfaithful.of_bindsNothing hquiet
  retains _ := (hretains.trans (.of_bindsNothing hquiet) hextends).weaken
  tells hpure := absurd (hosts.isPure_eq.symm.trans hpure) Bool.false_ne_true

/-- A call is emitted once its operands are ready. -/
theorem Task.Keeps.call {function : Callable} {node : Node} {values : List (String × Expression)}
    (hosts : context.Hosts node (.call function))
    (hprimed : (Task.emission (.call function) node).Primed context pass)
    (h : (Task.operands node function.arguments values).Keeps context pass next)
    (hextends : pass.Extends next) :
    (Task.emission (.call function) node).Keeps context pass
      ((next.requireCall context function).placeCall context function node.id
        (.ofCall function (.ofList values))) := by
  obtain ⟨hkept, hretains, htells⟩ := h
  have hquiet : next.BindsNothing context (next.requireCall context function) :=
    .requireCall _ _ _
  have hrequired := hkept.of_bindsNothing hquiet
  cases heffect : function.hasEffect with
  | true =>
      have hkind : (ComponentKind.call function).isOnDemand = false := by
        simp [ComponentKind.isOnDemand, heffect]
      have hpure := Context.IsFlow.isPure_eq ⟨_, hosts.kind?, hkind⟩
      rw [Pass.placeCall, if_pos heffect]
      refine .of_faithful hosts hkind (hrequired.of_bindsNothing (.write _ _ _ ?_))
      split
      next => trivial
      next => exact hpure
  | false =>
      have hkind : (ComponentKind.call function).isPure = true := by
        simp [ComponentKind.isPure, heffect]
      rw [Pass.placeCall, if_neg (by simp [heffect])]
      refine .of_keep hosts hkind hrequired hprimed
        (Retains.trans hretains (.of_bindsNothing hquiet) hextends)
        (hextends.trans (.of_edited hquiet.any)) ?_ _
      exact hquiet.reads (hquiet.path.symm ▸ Context.Reads.ofCall htells function)

/-! ### Visits -/

/-- A node of the flow is not pure, so its visit relies on nothing. -/
theorem Context.IsFlow.primed {id : NodeId} (h : context.IsFlow id) (answer : Option NodeId) :
    (Task.visit id answer).Primed context pass :=
  fun hpure => absurd (h.isPure_eq.symm.trans hpure) Bool.false_ne_true

theorem Task.Primed.enter {kind : ComponentKind} {node : Node} {answer : Option NodeId}
    (h : (Task.visit node.id answer).Primed context pass) :
    (Task.emission kind node).Primed context ((pass.reach node.id).enter node.id) := by
  intro hpure
  refine ⟨List.mem_cons_self .., ?_, (h hpure).2.2⟩
  exact (pass.get?_scopes_enter _ _).trans (if_pos rfl)

/-- A visit is over when the emission of its node is. -/
theorem Task.Keeps.leave {kind : ComponentKind} {node : Node} {answer : Option NodeId}
    (hosts : context.Hosts node kind)
    (h : (Task.emission kind node).Keeps context ((pass.reach node.id).enter node.id) next)
    (hextends : ((pass.reach node.id).enter node.id).Extends next) :
    (Task.visit node.id answer).Keeps context pass (next.leave node.id) := by
  obtain ⟨hkept, hretains, htells⟩ := h
  refine ⟨hkept.leave htells, fun hdemand => ?_, fun hpure => ?_⟩
  · have hretains := hretains (hosts.isOnDemand_eq ▸ hdemand)
    have hentered := (Pass.Extends.enter pass node.id).trans hextends
    exact ((Retains.enter pass node.id).trans hretains (.enter _ _)).trans (.leave _ _) hentered
  · refine ⟨hextends.reached (List.mem_cons_self ..), fun hbusy => ?_, (htells hpure).1⟩
    exact absurd rfl (of_decide_eq_true (List.mem_filter.mp hbusy).2)

section Supply

variable {consumer source : NodeId} {answer : Option NodeId}

theorem Faithful.idle_of_new (h : Faithful context none pass) (hnew : source ∉ pass.initiated)
    (hpure : context.isPure source = true) : source ∉ pass.emitting :=
  fun hbusy => hnew (h.asked hpure (.inr (.inl hbusy)))

/-- The first emission of a source gets its value ready. -/
theorem Task.Keeps.fresh (hfaithful : Faithful context none pass)
    (hdemand : context.isOnDemand source = true) (hnew : source ∉ pass.initiated)
    (h : (Task.visit source answer).Primed context (pass.initiate source) →
      (Task.visit source answer).Keeps context (pass.initiate source) next) :
    (Task.supply consumer source).Keeps context pass next := by
  have hidle := hfaithful.idle_of_new hnew
  obtain ⟨hkept, hspares, htells⟩ := h fun hpure =>
    ⟨List.mem_cons_self .., hidle hpure, hfaithful.unbound_of_new hpure hnew⟩
  refine ⟨hkept, ?_, .of_tells htells⟩
  have hretains := (Retains.initiate pass source).trans (hspares hdemand) (.initiate _ _)
  exact hretains.of_not_ready hidle fun hpure hreached =>
    absurd (hfaithful.asked hpure (.inl hreached)) hnew

/-- So does another emission where the value is hidden. -/
theorem Task.Keeps.again (hfaithful : Faithful context none pass)
    (hdemand : context.isOnDemand source = true) (hknown : source ∈ pass.initiated)
    (hidle : source ∉ pass.emitting) (hhidden : pass.inScope source = false)
    (h : (Task.visit source answer).Primed context pass →
      (Task.visit source answer).Keeps context pass next) :
    (Task.supply consumer source).Keeps context pass next := by
  obtain ⟨hkept, hspares, htells⟩ := h fun _ =>
    ⟨hknown, hidle, hfaithful.unbound_of_hidden hhidden⟩
  refine ⟨hkept, ?_, .of_tells htells⟩
  exact (hspares hdemand).of_not_ready (fun _ => hidle) fun _ _ => hhidden

/-- An input takes a value that is ready. -/
theorem Task.Keeps.byValue {key : String} (hfeed : context.feed consumer key = .value source)
    (h : (Task.supply consumer source).Keeps context pass next) (hextends : pass.Extends next) :
    (Task.input consumer key (some (next.valueOf source))).Keeps context pass
      (next.log (.resolved ⟨consumer, key, pass.block.path, source, next.valueOf source,
        true⟩)) := by
  obtain ⟨hkept, hretains, hsettled⟩ := h
  have hreads := hkept.reads_valueOf hsettled
  refine ⟨hkept.resolve (hextends.path ▸ hreads), ?_, ?_⟩
  · exact Retains.trans hretains (.resolve _ _) hextends
  · rw [Task.Tells, hfeed]
    exact ⟨hsettled, _, rfl, hreads.of_bindings_eq rfl⟩

end Supply

end Steps

/-! ## Whole walks -/

/-- Clean walks keep what stands for nodes faithful. -/
theorem CleanWalk.keeps {context : Context} {onChain : List NodeId} {task : Task} {pass next : Pass}
    (h : CleanWalk context onChain task pass next) (hfaithful : Faithful context task.pending pass)
    (hprimed : task.Primed context pass) : task.Keeps context pass next := by
  induction h with
  | chainEnd flow _ _ ih =>
      exact ⟨(ih hfaithful.weaken (flow.primed none)).faithful, trivial, trivial⟩
  | @chainOn _ _ following _ _ _ flow _ _ _ ihvisit ihrest =>
      have hvisit := ihvisit hfaithful.weaken (flow.primed (some following))
      exact ⟨(ihrest hvisit.faithful trivial).faithful, trivial, trivial⟩
  | @visit _ node kind pass next hosts _ emission ih =>
      have hentered : Faithful context none ((pass.reach node.id).enter node.id) :=
        hfaithful.enter (fun hpure => (hprimed hpure).1) fun hpure => (hprimed hpure).2.2
      exact .leave hosts (ih hentered hprimed.enter) emission.extends
  | unconnected => exact ⟨hfaithful, trivial, trivial⟩
  | followed _ _ _ ih => exact ⟨(ih hfaithful trivial).faithful, trivial, trivial⟩
  | @inside _ _ _ _ pass last next follow close ih =>
      have hopened : Faithful context none pass.openChild :=
        hfaithful.openBlock rfl List.prefix_rfl hfaithful.used
      have hquiet : last.BindsNothing context next := close ▸ .paddedIf _ _ _
      have hlast := (ih hopened trivial).faithful.of_bindsNothing hquiet
      exact ⟨hlast.backTo (hquiet.path.trans follow.extends.path), trivial, trivial⟩
  | noExits => exact ⟨hfaithful, trivial, trivial⟩
  | moreExits _ _ ihfirst ihothers =>
      have hfirst := ihfirst hfaithful trivial
      exact ⟨(ihothers hfirst.faithful trivial).faithful, trivial, trivial⟩
  | settled _ known idle visible =>
      refine ⟨hfaithful, .refl _, fun hpure => ⟨?_, idle, visible⟩⟩
      rw [if_pos (Context.isOnDemand_of_isPure hpure)] at known
      exact hfaithful.reached_of_initiated hpure known
  | fresh _ demand new _ ih =>
      exact .fresh hfaithful demand new (ih (hfaithful.initiate _))
  | again _ demand known idle hidden _ ih =>
      exact .again hfaithful demand known idle hidden (ih hfaithful.weaken)
  | unfed feed =>
      refine ⟨hfaithful, .refl _, ?_⟩
      rw [Task.Tells, feed]
      rfl
  | byParameter _ feed =>
      refine ⟨hfaithful.resolve (.parameter _ _ _ _), .resolve _ _, ?_⟩
      rw [Task.Tells, feed]
      rfl
  | byValue _ feed supply ih => exact .byValue feed (ih hfaithful trivial) supply.extends
  | noOperands => exact ⟨hfaithful, .refl _, .nil⟩
  | untypedOperand unknown _ ih =>
      obtain ⟨hkept, hretains, htells⟩ := ih hfaithful trivial
      refine ⟨hkept, hretains, ?_⟩
      rw [Task.Tells, List.filterMap_cons_none (by rw [Context.readArgument, unknown]; rfl)]
      exact htells
  | connectedOperand known input others ihinput ihothers =>
      have hinput := ihinput (hfaithful.of_bindsNothing (.require _ _)) trivial
      exact .consOperand known hinput input.extends .refl (ihothers hinput.faithful trivial)
        others.extends
  | enteredOperand known _ input _ others ihinput ihothers =>
      have hinput := ihinput (hfaithful.of_bindsNothing (.require _ _)) trivial
      exact .consOperand known hinput input.extends (.require _ _)
        (ihothers (hinput.faithful.of_bindsNothing (.require _ _)) trivial) others.extends
  | noParameters => exact ⟨hfaithful, trivial, trivial⟩
  | @literalParameter _ node _ _ _ source type _ pass _ wiring _ _ _ ih =>
      obtain ⟨name, hliteral, _⟩ := Context.kind?_of_wiring wiring
      have hpure := Context.isPure_of_kind? hliteral rfl
      have hquiet : pass.BindsNothing context (pass.require type.modules) := .require _ _
      have hrequired := hfaithful.of_bindsNothing hquiet
      exact ⟨(ih (hrequired.claim node.id hpure) trivial).faithful, trivial, trivial⟩
  | typedParameter _ _ _ ih =>
      exact ⟨(ih (hfaithful.of_bindsNothing (.require _ _)) trivial).faithful, trivial, trivial⟩
  | @literal _ name type node pass hosts known _ =>
      have hquiet : pass.BindsNothing context (pass.require type.modules) := .require _ _
      refine .of_keep hosts rfl (hfaithful.of_bindsNothing hquiet) hprimed (.of_bindsNothing hquiet)
        (.of_edited hquiet.any) ?_ _
      rw [Context.read, known]
      exact .literal _ _ _
  | call hosts operands ih => exact .call hosts hprimed (ih hfaithful trivial) operands.extends
  | declared hosts input ih =>
      obtain ⟨hkept, hretains, _⟩ := ih hfaithful trivial
      exact .of_localVariable hosts hkept hretains input.extends (.write _ _ _)
  | declaredTyped hosts input ih =>
      obtain ⟨hkept, hretains, _⟩ := ih hfaithful trivial
      exact .of_localVariable hosts hkept hretains input.extends (.declareTyped _ _ _)
  | branch hosts _ _ _ _ ihcondition ihthen ihelse =>
      have hcondition := (ihcondition hfaithful trivial).faithful
      have hthen := (ihthen (hcondition.of_bindsNothing (.write _ _ _)) trivial).faithful
      have helse := (ihelse (hthen.of_bindsNothing (.splice _ _)) trivial).faithful
      exact .of_faithful hosts rfl (helse.of_bindsNothing (.closeElse _ _ _))
  | loop hosts _ _ ihcondition ihbody =>
      have hcondition := (ihcondition hfaithful trivial).faithful
      have hbody := (ihbody (hcondition.of_bindsNothing (.write _ _ _)) trivial).faithful
      exact .of_faithful hosts rfl (hbody.of_bindsNothing (.splice _ _))
  | sequence hosts _ ih => exact .of_faithful hosts rfl (ih hfaithful trivial).faithful
  | definition hosts _ _ ihparameters ihbody =>
      have hparameters := (ihparameters hfaithful trivial).faithful
      have hbody := (ihbody (hparameters.of_bindsNothing (.writeHeader _ _ _ _)) trivial).faithful
      exact .of_faithful hosts rfl
        (hbody.of_bindsNothing (.trans (.splice _ _) (.write _ _ _)))
  | code hosts => exact .of_faithful hosts rfl (hfaithful.of_bindsNothing (.writeCode _ _))
  | topLevelCode hosts _ ih =>
      have hbody := (ih (hfaithful.of_bindsNothing (.writeCode _ _)) trivial).faithful
      exact .of_faithful hosts rfl (hbody.of_bindsNothing (.splice _ _))

/-- So do tours, whose roots come one after another. -/
theorem CleanTour.faithful {context : Context} {index : Nat} {roots : List NodeId}
    {written : List Written} {pass next : Pass}
    (h : CleanTour context index roots written pass next) (hfaithful : Faithful context none pass)
    (hused : ∀ {scope}, pass.Uses context scope → scope < [index]) :
    Faithful context none next := by
  induction h with
  | done => exact hfaithful
  | root first _ ih =>
      have hmiddle := (first.keeps (hfaithful.openBlock rfl List.nil_prefix hused) trivial).faithful
      refine ih hmiddle fun huses => List.lt_trans (hmiddle.used huses) ?_
      rw [first.extends.path]
      exact grandchild_lt_child [] _ _

/-- Before a pass no scope was used. -/
theorem not_uses_initial {context : Context} {scope : ScopePath} :
    ¬ ({ block := Block.root 0 } : Pass).Uses context scope := by
  rintro (⟨node, hscope⟩ | ⟨binding, hmem, _⟩)
  · cases hscope
  · cases hmem

theorem faithful_initial (context : Context) :
    Faithful context none { block := Block.root 0 } where
  kept hresult := by cases hresult
  known _ hasked := by cases hasked
  asked _ hmarked := by simp [OrderedMap.get?_empty] at hmarked
  bound hmem := by cases hmem
  used huses := absurd huses not_uses_initial
  told _ hreached := by cases hreached
  agrees := trivial

end VisualScript
