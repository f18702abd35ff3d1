import VisualScript.Proofs.Pass.Sound

/-!
# Values refer to what can be seen

A clean walk keeps what is known of nodes sound. So every value that an input
takes refers only to locals that were introduced before, in the block of the
consumer or in one around it.
-/

namespace VisualScript

variable {context : Context}

/-- What is known of nodes is sound, and of the nodes being emitted nothing changed. -/
structure Upholds (context : Context) (pass next : Pass) : Prop where
  sound : Sound context none next
  emitting : ∀ node, node ∈ next.emitting ↔ node ∈ pass.emitting
  scopes : ∀ node ∈ pass.emitting, next.scopes.get? node = pass.scopes.get? node

namespace Upholds

variable {pass middle next : Pass}

theorem refl (h : Sound context none pass) : Upholds context pass pass where
  sound := h
  emitting _ := Iff.rfl
  scopes _ _ := rfl

theorem trans (hfirst : Upholds context pass middle) (hrest : Upholds context middle next) :
    Upholds context pass next where
  sound := hrest.sound
  emitting node := (hrest.emitting node).trans (hfirst.emitting node)
  scopes node hbusy :=
    (hrest.scopes node ((hfirst.emitting node).mpr hbusy)).trans (hfirst.scopes node hbusy)

/-- What is under way stays on the chains. -/
theorem emitting_subset {onChain : List NodeId} (h : Upholds context pass next)
    (hchain : pass.emitting ⊆ onChain) : next.emitting ⊆ onChain :=
  fun node hmem => hchain ((h.emitting node).mp hmem)

theorem silent (h : Upholds context pass middle) (hsilent : middle.Silent next) :
    Upholds context pass next := by
  refine h.trans ⟨h.sound.of_silent hsilent, ?_, ?_⟩
  · intro node
    rw [hsilent.emitting]
  · intro node _
    rw [hsilent.scopes]

theorem quiet (h : Upholds context pass middle) (hquiet : middle.Quiet next) :
    Upholds context pass next :=
  h.silent hquiet.toSilent

end Upholds

/-- The marks on nodes that a piece of work relies on. -/
def Task.Ready (context : Context) (onChain : List NodeId) : Task → Pass → Prop
  | chain _, pass => pass.emitting ⊆ onChain
  | visit id _, pass => id ∉ pass.emitting ∧
      (context.isOnDemand id = true → id ∈ pass.initiated) ∧
      (context.isOnDemand id = false → pass.emitting ⊆ onChain ∧ id ∈ onChain) ∧
      ∀ definition key, .claimed definition id key ∈ pass.events →
        (pass.scopes.get? id).isSome = true
  | follow _ _, pass => pass.emitting ⊆ onChain
  | inside _ _ _ _, pass => pass.emitting ⊆ onChain
  | exits _ _, pass => pass.emitting ⊆ onChain
  | emission kind node, pass => node.id ∈ pass.emitting ∧
      pass.scopes.get? node.id = some pass.block.path ∧
      (kind.isOnDemand = false → pass.emitting ⊆ onChain)
  | _, _ => True

/-- What stands for a node refers to what can be seen, or is its local, which was
introduced since. -/
def Speaks (pass next : Pass) (id : NodeId) : Prop :=
  Grounded next.events pass.block.path (next.valueOf id) ∨
    (next.valueOf id = .name id ∧ ∃ statement added, statement.boundNode? = some id ∧
      next.events = added ++ pass.events ∧ .wrote ⟨pass.block.path, id, statement⟩ ∈ added)

/-- What a piece of work is done for. -/
def Task.Achieves (context : Context) : Task → Pass → Pass → Prop
  | visit id _, pass, next => next.scopes.get? id = some pass.block.path
  | supply _ source, pass, next => source ∉ next.emitting ∧
      (∀ scope, next.scopes.get? source = some scope → scope <+: pass.block.path) ∧
      (source ∈ next.initiated ∨ source ∈ next.reached)
  | input _ _ value, pass, next => ∀ found, value = some found →
      Grounded next.events pass.block.path found
  | operands _ _ values, pass, next => ∀ value ∈ values,
      Grounded next.events pass.block.path value.2
  | emission _ node, pass, next => (context.Delivers node.id → Speaks pass next node.id) ∧
      ∀ definition key, next.results.get? node.id ≠ some (.parameter definition key)
  | _, _, _ => True

/-! ## Where nothing of their own stands for nodes -/

namespace Sound

variable {pass : Pass} {id : NodeId} {kind : ComponentKind}

theorem ne_parameter (h : Sound context none pass) (hknown : context.kind? id = some kind)
    (hkind : ∀ name, kind ≠ .literal name) (definition : NodeId) (key : String) :
    pass.results.get? id ≠ some (.parameter definition key) := by
  intro hresult
  rcases (h.kept hresult).2 with hinline | ⟨_, _, _, hclaimed⟩
  · cases hinline
  · obtain ⟨name, hliteral⟩ := h.literals hclaimed
    exact hkind name (Option.some.inj (hknown.symm.trans hliteral))

/-- The local of a node that is not pure stands for it. -/
theorem valueOf_eq_name (h : Sound context none pass) (hknown : context.kind? id = some kind)
    (himpure : kind.isPure = false) : pass.valueOf id = .name id := by
  rw [Pass.valueOf]
  cases hresult : pass.results.get? id with
  | none => rfl
  | some value =>
      obtain ⟨⟨other, hother, hpure⟩, _⟩ := h.kept hresult
      rw [Option.some.inj (hknown.symm.trans hother), hpure] at himpure
      cases himpure

end Sound

/-- Components without values achieve nothing but what is kept sound. -/
theorem achieves_of_not_hasValue {node : Node} {kind : ComponentKind} {pass next : Pass}
    (hosts : context.Hosts node kind) (hkind : kind.hasValue = false)
    (hsound : Sound context none next) :
    (Task.emission kind node).Achieves context pass next := by
  refine ⟨fun hdelivers => ?_, hsound.ne_parameter hosts.kind? ?_⟩
  · have := hdelivers.hasValue hosts.kind?
    rw [hkind] at this
    cases this
  · rintro name rfl
    cases hkind

/-! ## Single steps -/

section Steps

variable {pass middle next : Pass}

/-- Once a node is emitted, what is known of it is sound again. -/
theorem upholds_leave {node : Node} {kind : ComponentKind} (hidle : node.id ∉ pass.emitting)
    (h : Upholds context ((pass.reach node.id).enter node.id) next)
    (hdone : (Task.emission kind node).Achieves context
      ((pass.reach node.id).enter node.id) next) :
    Upholds context pass (next.leave node.id) ∧
      (next.leave node.id).scopes.get? node.id = some pass.block.path := by
  obtain ⟨hspeaks, hparameter⟩ := hdone
  have hentered : ((pass.reach node.id).enter node.id).scopes.get? node.id =
      some pass.block.path := by
    change (pass.scopes.insert node.id pass.block.path).get? node.id = _
    rw [OrderedMap.get?_insert, if_pos rfl]
  have hscope : next.scopes.get? node.id = some pass.block.path :=
    (h.scopes _ (List.mem_cons_self ..)).trans hentered
  have hready : context.Delivers node.id →
      Grounded (next.leave node.id).events pass.block.path (next.valueOf node.id) := by
    intro hdelivers
    rcases hspeaks hdelivers with hgrounded | ⟨hname, statement, added, hbinds, hadded, hwrote⟩
    · exact hgrounded.mono (List.suffix_cons _ _) List.prefix_rfl
    · rw [hname]
      intro part hpart
      cases hpart
      -- The statement stands between the beginning and the end of the emission.
      refine ⟨pass.block.path, statement, List.prefix_rfl, hbinds, ?_⟩
      change List.Sublist _ (.finished node.id :: next.events)
      refine List.Sublist.cons_cons _ ?_
      rw [hadded]
      have hentry : [Event.entered node.id pass.block.path].Sublist
          ((pass.reach node.id).enter node.id).events :=
        List.Sublist.cons_cons _ (List.nil_sublist _)
      exact (List.singleton_sublist.mpr hwrote).append hentry
  refine ⟨⟨h.sound.leave hscope hready hparameter, ?_, ?_⟩, hscope⟩
  · intro other
    change other ∈ next.emitting.filter _ ↔ _
    rw [List.mem_filter, h.emitting other, decide_eq_true_eq]
    constructor
    · rintro ⟨hmem, hne⟩
      exact (List.mem_cons.mp hmem).resolve_left hne
    · intro hmem
      refine ⟨List.mem_cons_of_mem _ hmem, ?_⟩
      rintro rfl
      exact hidle hmem
  · intro other hbusy
    have hne : node.id ≠ other := by
      intro heq
      exact hidle (heq ▸ hbusy)
    refine (h.scopes other (List.mem_cons_of_mem _ hbusy)).trans ?_
    change (pass.scopes.insert node.id pass.block.path).get? other = _
    rw [OrderedMap.get?_insert, if_neg hne]

theorem Upholds.resolve (h : Upholds context pass middle) {resolution : Resolution}
    (hjustified : Justified context resolution middle.events) :
    Upholds context pass (middle.log (.resolved resolution)) := by
  refine h.trans ⟨h.sound.log (fun _ => rfl) ?_, fun _ => Iff.rfl, fun _ _ => rfl⟩
  intro other heq
  rw [Event.resolved.injEq] at heq
  exact heq ▸ hjustified

theorem Upholds.claim (h : Upholds context pass middle) {definition literal : NodeId}
    (hliteral : ∃ name, context.kind? literal = some (.literal name)) :
    Upholds context pass (middle.claim definition literal) :=
  h.trans ⟨h.sound.claim hliteral, fun _ => Iff.rfl, fun _ _ => rfl⟩

theorem Upholds.keep {id : NodeId} {scope : ScopePath} {binds : Bool} {value : Expression}
    (h : Upholds context pass middle) (hbusy : id ∈ pass.emitting)
    (hscope : pass.scopes.get? id = some scope)
    (hpure : ∃ kind, context.kind? id = some kind ∧ kind.isPure = true)
    (hinline : value.isInline = true) :
    Upholds context pass (middle.keep id binds value) := by
  have hkept : middle.Edited (fun _ => True) (middle.keep id binds value) := .keep _ _ _ _
  refine h.trans ⟨?_, ?_, ?_⟩
  · exact h.sound.keep ((h.emitting id).mpr hbusy) ((h.scopes id hbusy).trans hscope) hpure binds
      hinline
  · intro node
    rw [hkept.emitting_eq]
  · intro node _
    rw [hkept.scopes_eq]

/-- A value that is kept for a node is in place of the node, or the node's local is. -/
theorem speaks_keep {id : NodeId} {binds : Bool} {value : Expression}
    (hextends : pass.Extends middle)
    (hgrounded : Grounded middle.events pass.block.path value) :
    Speaks pass (middle.keep id binds value) id := by
  unfold Pass.keep
  split
  next =>
    refine .inr ⟨?_, .bind id value, ?_⟩
    · change ((middle.results.erase id).get? id).getD (.name id) = _
      rw [OrderedMap.get?_erase, if_pos rfl]
      rfl
    · obtain ⟨added, hadded⟩ := hextends.events
      refine ⟨.wrote ⟨middle.block.path, id, .bind id value⟩ :: added, rfl, ?_, ?_⟩
      · change _ :: middle.events = _
        rw [← hadded]
        rfl
      · rw [hextends.path]
        exact List.mem_cons_self ..
  next =>
    refine .inl ?_
    change Grounded _ _ (((middle.results.insert id value).get? id).getD (.name id))
    rw [OrderedMap.get?_insert, if_pos rfl]
    exact hgrounded

theorem ne_parameter_keep {id : NodeId} {binds : Bool} {value : Expression}
    (hinline : value.isInline = true) (definition : NodeId) (key : String) :
    (middle.keep id binds value).results.get? id ≠ some (.parameter definition key) := by
  unfold Pass.keep
  split
  next =>
    change (middle.results.erase id).get? id ≠ _
    rw [OrderedMap.get?_erase, if_pos rfl]
    intro h
    cases h
  next =>
    change (middle.results.insert id value).get? id ≠ _
    rw [OrderedMap.get?_insert, if_pos rfl]
    intro h
    rw [Option.some.inj h] at hinline
    cases hinline

theorem speaks_write {id : NodeId} {kind : ComponentKind} {statement : Statement}
    (hsound : Sound context none middle) (hknown : context.kind? id = some kind)
    (himpure : kind.isPure = false) (hbinds : statement.boundNode? = some id)
    (hextends : pass.Extends middle) : Speaks pass (middle.write id statement) id := by
  refine .inr ⟨?_, statement, ?_⟩
  · exact hsound.valueOf_eq_name hknown himpure
  · obtain ⟨added, hadded⟩ := hextends.events
    refine ⟨.wrote ⟨middle.block.path, id, statement⟩ :: added, hbinds, ?_, ?_⟩
    · change _ :: middle.events = _
      rw [← hadded]
      rfl
    · rw [hextends.path]
      exact List.mem_cons_self ..

theorem speaks_declareTyped {node : Node} (hsound : Sound context none middle)
    (hosts : context.Hosts node .localVariable) (hextends : pass.Extends middle) :
    Speaks pass (middle.declareTyped context node) node.id := by
  unfold Pass.declareTyped
  dsimp only
  split
  next type _ =>
    have hrequired : middle.Quiet (middle.require type.modules) := .require _ _
    exact speaks_write (hsound.of_silent hrequired.toSilent) hosts.kind? rfl rfl
      (hextends.trans (.of_quiet hrequired))
  next => exact speaks_write hsound hosts.kind? rfl rfl hextends

/-- A call is written with a local if it has a value and an effect, and else kept. -/
theorem upholds_placeCall {function : Callable} {node : Node} {call : Expression}
    (h : Upholds context pass middle) (hextends : pass.Extends middle)
    (hosts : context.Hosts node (.call function)) (hbusy : node.id ∈ pass.emitting)
    (hscope : pass.scopes.get? node.id = some pass.block.path) (hinline : call.isInline = true)
    (hgrounded : Grounded middle.events pass.block.path call) :
    Upholds context pass (middle.placeCall context function node.id call) ∧
      (Task.emission (.call function) node).Achieves context pass
        (middle.placeCall context function node.id call) := by
  unfold Pass.placeCall
  split
  next heffect =>
    have himpure : (ComponentKind.call function).isPure = false := by
      rw [ComponentKind.isPure, heffect]
      rfl
    have hwritten := h.quiet (.write middle node.id
      (if context.callUses function node.id = 0 then .run call else .bind node.id call))
    refine ⟨hwritten, fun hdelivers => ?_, hwritten.sound.ne_parameter hosts.kind? nofun⟩
    refine speaks_write h.sound hosts.kind? himpure ?_ hextends
    have hused : context.callUses function node.id ≠ 0 := by
      cases hdelivers with
      | literal known => cases Option.some.inj (hosts.kind?.symm.trans known)
      | localVariable known => cases Option.some.inj (hosts.kind?.symm.trans known)
      | call known result used =>
          cases Option.some.inj (hosts.kind?.symm.trans known)
          rw [Context.callUses, result]
          exact Nat.ne_of_gt used
    rw [if_neg hused]
    rfl
  next heffect =>
    have hpure : (ComponentKind.call function).isPure = true := by
      rw [ComponentKind.isPure, Bool.not_eq_true] at *
      rw [heffect]
      rfl
    refine ⟨h.keep hbusy hscope ⟨_, hosts.kind?, hpure⟩ hinline, fun _ => ?_, ?_⟩
    · exact speaks_keep hextends hgrounded
    · exact ne_parameter_keep hinline

/-- What is found where a source was got ready is justified. -/
theorem justified_byValue {consumer source : NodeId} {key : String}
    (takes : context.Takes consumer key) (feed : context.feed consumer key = .value source)
    (hdelivers : context.Delivers source)
    (h : Upholds context pass next)
    (hdone : (Task.supply consumer source).Achieves context pass next) :
    Justified context ⟨consumer, key, pass.block.path, source, next.valueOf source, true⟩
      next.events := by
  obtain ⟨hidle, hvisible, hmarked⟩ := hdone
  have hsound := h.sound
  have hdefault : lastScope next.events source = none →
      ∃ definition key, next.valueOf source = .parameter definition key := by
    intro hnone
    rw [← hsound.placed] at hnone
    rcases hsound.known hmarked hdelivers.exists_kind nofun with hsome | ⟨_, _, hclaimed⟩
    · rw [hnone] at hsome
      cases hsome
    · obtain ⟨definition, key, hresult⟩ := hsound.default hclaimed hnone
      refine ⟨definition, key, ?_⟩
      rw [Pass.valueOf, hresult]
      rfl
  refine ⟨takes, feed, ?_, ?_, ?_, ?_, fun _ => hdefault⟩
  · change Grounded next.events pass.block.path (next.valueOf source) ∨ _
    -- A source that was never emitted is a default. Otherwise its value fits the scope it was last
    -- emitted into, which the consumer sees.
    cases hscope : next.scopes.get? source with
    | none =>
        rw [hsound.placed] at hscope
        exact .inr (hdefault hscope)
    | some scope =>
        exact (hsound.usable hscope hidle hdelivers).imp_left
          fun hgrounded => hgrounded.mono List.suffix_rfl (hvisible scope hscope)
  · intro _ definition parameter hvalue
    refine hsound.touched ?_ hidle
    change (next.results.get? source).getD (.name source) = _ at hvalue
    cases hresult : next.results.get? source with
    | none =>
        rw [hresult] at hvalue
        cases hvalue
    | some value =>
        rw [hresult] at hvalue
        exact congrArg some hvalue
  · intro _
    change (next.results.get? source).getD (.name source) = _ ∨ _
    cases hresult : next.results.get? source with
    | none => exact .inl rfl
    | some value =>
        refine .inr ?_
        rcases (hsound.kept hresult).2 with hinline | ⟨definition, parameter, rfl, _⟩
        · refine .inl ?_
          rw [Pass.valueOf, hresult]
          exact hinline
        · refine .inr ⟨definition, parameter, ?_⟩
          rw [Pass.valueOf, hresult]
          rfl
  · intro _ scope hscope
    rw [← hsound.placed] at hscope
    exact hvisible scope hscope

/-- A parameter is seen from where an input took it on. -/
theorem grounded_parameter {resolution : Resolution} {definition : NodeId} {name : String}
    {events : List Event} (hvalue : resolution.value = .parameter definition name) :
    Grounded (.resolved resolution :: events) resolution.scope (.parameter definition name) := by
  intro part hpart
  cases hpart
  exact ⟨resolution, List.mem_cons_self .., hvalue, List.prefix_rfl⟩

/-- What an input takes is seen from then on. -/
theorem upholds_byValue {consumer source : NodeId} {key : String}
    (takes : context.Takes consumer key) (feed : context.feed consumer key = .value source)
    (hdelivers : context.Delivers source) (h : Upholds context pass next)
    (hdone : (Task.supply consumer source).Achieves context pass next) :
    Upholds context pass (next.log (.resolved ⟨consumer, key, pass.block.path, source,
        next.valueOf source, true⟩)) ∧
      (Task.input consumer key (some (next.valueOf source))).Achieves context pass
        (next.log (.resolved ⟨consumer, key, pass.block.path, source,
          next.valueOf source, true⟩)) := by
  have hjustified := justified_byValue takes feed hdelivers h hdone
  refine ⟨h.resolve hjustified, ?_⟩
  intro found heq
  rw [← Option.some.inj heq]
  -- A parameter is seen from this resolution on, and all else was seen before.
  rcases hjustified.grounded with hgrounded | ⟨definition, name, hvalue⟩
  · exact hgrounded.mono (List.suffix_cons _ _) List.prefix_rfl
  · change next.valueOf source = _ at hvalue
    rw [hvalue]
    exact grounded_parameter rfl

theorem upholds_byParameter {consumer definition : NodeId} {key name : String}
    (takes : context.Takes consumer key)
    (feed : context.feed consumer key = .parameter definition name)
    (hsound : Sound context none pass) :
    Upholds context pass (pass.log (.resolved ⟨consumer, key, pass.block.path, definition,
        .parameter definition name, false⟩)) ∧
      (Task.input consumer key (some (.parameter definition name))).Achieves context pass
        (pass.log (.resolved ⟨consumer, key, pass.block.path, definition,
          .parameter definition name, false⟩)) := by
  have hjustified : Justified context ⟨consumer, key, pass.block.path, definition,
      .parameter definition name, false⟩ pass.events :=
    ⟨takes, ⟨name, feed, rfl⟩, .inr ⟨definition, name, rfl⟩, nofun, nofun, nofun, nofun⟩
  refine ⟨(Upholds.refl hsound).resolve hjustified, ?_⟩
  intro found heq
  rw [← Option.some.inj heq]
  exact grounded_parameter rfl

/-- A source that was just emitted is ready where it was emitted. -/
theorem achieves_supply {consumer source : NodeId} (hidle : source ∉ next.emitting)
    (hscope : next.scopes.get? source = some pass.block.path)
    (hasked : source ∈ next.initiated) :
    (Task.supply consumer source).Achieves context pass next := by
  refine ⟨hidle, ?_, .inl hasked⟩
  intro scope hsome
  exact Option.some.inj (hsome.symm.trans hscope) ▸ List.prefix_rfl

/-- What was taken for an operand and for those behind it can be seen in the end. -/
theorem achieves_cons_operand {node : Node} {argument : Argument} {rest : List Argument}
    {value : Expression} {values : List (String × Expression)}
    (hvalue : Grounded next.events pass.block.path value)
    (hpath : middle.block.path = pass.block.path)
    (hvalues : (Task.operands node rest values).Achieves context middle next) :
    (Task.operands node (argument :: rest) ((argument.name, value) :: values)).Achieves context pass
      next := by
  intro operand hmem
  rcases List.mem_cons.mp hmem with rfl | hmem
  · exact hvalue
  · exact hpath ▸ hvalues operand hmem

end Steps

/-- A node of the flow that is new to the chains can be visited. -/
theorem ready_visit_of_flow {onChain : List NodeId} {id : NodeId} {answer : Option NodeId}
    {pass : Pass} (hflow : context.IsFlow id) (hnew : id ∉ onChain)
    (hchain : pass.emitting ⊆ onChain) (hsound : Sound context none pass) :
    (Task.visit id answer).Ready context (id :: onChain) pass := by
  refine ⟨fun hbusy => hnew (hchain hbusy), fun hdemand => ?_, fun _ => ?_, ?_⟩
  · rw [hflow.isOnDemand_eq] at hdemand
    cases hdemand
  · exact ⟨fun node hmem => List.mem_cons_of_mem _ (hchain hmem), List.mem_cons_self ..⟩
  · intro definition key hclaimed
    obtain ⟨kind, hknown, hleft⟩ := hflow
    obtain ⟨name, hliteral⟩ := hsound.literals hclaimed
    cases Option.some.inj (hknown.symm.trans hliteral)
    cases hleft

/-- A node whose value was asked for can be visited. -/
theorem ready_visit_of_demand {onChain : List NodeId} {id : NodeId} {answer : Option NodeId}
    {pass : Pass} (hdemand : context.isOnDemand id = true) (hidle : id ∉ pass.emitting)
    (hasked : id ∈ pass.initiated)
    (hrenewed : ∀ definition key, .claimed definition id key ∈ pass.events →
      (pass.scopes.get? id).isSome = true) : (Task.visit id answer).Ready context onChain pass := by
  refine ⟨hidle, fun _ => hasked, fun hflow => ?_, hrenewed⟩
  rw [hdemand] at hflow
  cases hflow

/-- A node that was entered is ready to be emitted. -/
theorem ready_emission {onChain : List NodeId} {node : Node} {kind : ComponentKind}
    {answer : Option NodeId} {pass : Pass} (hosts : context.Hosts node kind)
    (h : (Task.visit node.id answer).Ready context onChain pass) :
    (Task.emission kind node).Ready context onChain ((pass.reach node.id).enter node.id) := by
  obtain ⟨_, _, hflow, _⟩ := h
  refine ⟨List.mem_cons_self .., ?_, fun hkind => ?_⟩
  · exact (OrderedMap.get?_insert _ _ _ _).trans (if_pos rfl)
  · obtain ⟨hsubset, hmem⟩ := hflow (hosts.isOnDemand_eq.trans hkind)
    exact List.cons_subset.mpr ⟨hmem, hsubset⟩

/-- A source that was never asked for is ready once it is visited: before, it was neither under
way nor a default. -/
theorem upholds_fresh {onChain : List NodeId} {consumer source : NodeId} {answer : Option NodeId}
    {pass next : Pass} (hsound : Sound context none pass)
    (hdemand : context.isOnDemand source = true) (hnew : source ∉ pass.initiated)
    (hextends : (pass.initiate source).Extends next)
    (ih : (Task.visit source answer).Ready context onChain (pass.initiate source) →
      Sound context (some source) (pass.initiate source) →
      Upholds context (pass.initiate source) next ∧
        (Task.visit source answer).Achieves context (pass.initiate source) next) :
    Upholds context pass next ∧ (Task.supply consumer source).Achieves context pass next := by
  have hidle : source ∉ pass.emitting := fun hbusy => hnew (hsound.asked hbusy hdemand)
  have hunclaimed : ∀ definition key, .claimed definition source key ∈ pass.events →
      (pass.scopes.get? source).isSome = true :=
    fun _ _ hclaimed => absurd (hsound.claims hclaimed) hnew
  obtain ⟨hvisited, hscope⟩ := ih
    (ready_visit_of_demand hdemand hidle (List.mem_cons_self ..) hunclaimed)
    (hsound.initiate source)
  refine ⟨⟨hvisited.sound, hvisited.emitting, hvisited.scopes⟩, ?_⟩
  apply achieves_supply
  · exact fun hbusy => hidle ((hvisited.emitting source).mp hbusy)
  · exact hscope
  · exact hextends.initiated (List.mem_cons_self ..)

/-- A source that cannot be seen is ready once it is visited again: it was emitted somewhere, even
if it is a default by now. -/
theorem upholds_again {onChain : List NodeId} {consumer source : NodeId} {answer : Option NodeId}
    {pass next : Pass} (hsound : Sound context none pass)
    (hdemand : context.isOnDemand source = true) (hknown : source ∈ pass.initiated)
    (hidle : source ∉ pass.emitting) (hhidden : pass.inScope source = false)
    (hextends : pass.Extends next)
    (ih : (Task.visit source answer).Ready context onChain pass →
      Sound context (some source) pass →
      Upholds context pass next ∧ (Task.visit source answer).Achieves context pass next) :
    Upholds context pass next ∧ (Task.supply consumer source).Achieves context pass next := by
  have hplaced : (pass.scopes.get? source).isSome = true := by
    cases hscope : pass.scopes.get? source with
    | some scope => rfl
    | none =>
        rw [Pass.inScope, hscope] at hhidden
        cases hhidden
  obtain ⟨hvisited, hscope⟩ := ih
    (ready_visit_of_demand hdemand hidle hknown fun _ _ _ => hplaced) hsound.weaken
  refine ⟨hvisited, ?_⟩
  apply achieves_supply
  · exact fun hbusy => hidle ((hvisited.emitting source).mp hbusy)
  · exact hscope
  · exact hextends.initiated hknown

/-- A clean walk keeps what is known of nodes sound and achieves what it is for. -/
theorem CleanWalk.upholds {onChain : List NodeId} {task : Task} {pass next : Pass}
    (h : CleanWalk context onChain task pass next) (hready : task.Ready context onChain pass)
    (hsound : Sound context task.pending pass) :
    Upholds context pass next ∧ task.Achieves context pass next := by
  -- The marks that a case needs come from the graph and from the chains; what it leaves sound
  -- becomes what the next piece starts from.
  induction h with
  | chainEnd flow new visit ih =>
      exact ⟨(ih (ready_visit_of_flow flow new hready hsound) hsound.weaken).1, trivial⟩
  | chainOn flow new visit rest ihvisit ihrest =>
      have hfirst := (ihvisit (ready_visit_of_flow flow new hready hsound) hsound.weaken).1
      have hrest := (ihrest (List.subset_cons_of_subset _ (hfirst.emitting_subset hready))
        hfirst.sound).1
      exact ⟨hfirst.trans hrest, trivial⟩
  | visit hosts _ _ ih =>
      have hentered := ready_emission hosts hready
      obtain ⟨hidle, hasked, _, hrenewed⟩ := hready
      obtain ⟨hemitted, hdone⟩ := ih hentered
        (hsound.enter hasked (hrenewed _ _))
      exact upholds_leave hidle hemitted hdone
  | unconnected => exact ⟨.refl hsound, trivial⟩
  | followed exits connected chain ih => exact ih hready hsound
  | @inside _ id _ pads pass last _ follow close ih =>
      have hopened := (Upholds.refl hsound).silent (.openBlock pass pass.block.child)
      have hfollowed := hopened.trans (ih hready hopened.sound).1
      have hclosed := hfollowed.quiet (.paddedIf last id pads)
      rw [← close] at hclosed
      exact ⟨hclosed.silent (.backTo _ _), trivial⟩
  | noExits => exact ⟨.refl hsound, trivial⟩
  | moreExits first others ihfirst ihothers =>
      have hfirst := (ihfirst hready hsound).1
      have hothers := (ihothers (hfirst.emitting_subset hready) hfirst.sound).1
      exact ⟨hfirst.trans hothers, trivial⟩
  | settled delivers known idle visible =>
      refine ⟨.refl hsound, idle, ?_, ?_⟩
      · intro scope hscope
        rw [Pass.inScope, hscope] at visible
        exact List.isPrefixOf_iff_prefix.mp visible
      · split at known
        next => exact .inl known
        next => exact .inr known
  | fresh _ demand new visit ih => exact upholds_fresh hsound demand new visit.extends ih
  | again _ demand known idle hidden visit ih =>
      exact upholds_again hsound demand known idle hidden visit.extends ih
  | unfed => exact ⟨.refl hsound, fun _ h => nomatch h⟩
  | byParameter takes feed => exact upholds_byParameter takes feed hsound
  | byValue takes feed supply ih =>
      obtain ⟨hsupplied, hdone⟩ := ih hready hsound
      exact upholds_byValue takes feed supply.delivers hsupplied hdone
  | noOperands => exact ⟨.refl hsound, fun _ h => nomatch h⟩
  | untypedOperand unknown others ih => exact ih hready hsound
  | @connectedOperand _ _ _ type _ _ _ pass _ _ known input others ihinput ihothers =>
      have hrequired := (Upholds.refl hsound).quiet (.require pass type.modules)
      obtain ⟨hinput, hvalue⟩ := ihinput trivial hrequired.sound
      obtain ⟨hothers, hvalues⟩ := ihothers trivial hinput.sound
      have hgrounded := (hvalue _ rfl).mono others.extends.events List.prefix_rfl
      exact ⟨(hrequired.trans hinput).trans hothers,
        achieves_cons_operand hgrounded input.extends.path hvalues⟩
  | @enteredOperand _ _ _ type _ _ pass middle _ known text input accepts others ihinput
      ihothers =>
      have hrequired := (Upholds.refl hsound).quiet (.require pass type.modules)
      have hinput := hrequired.trans (ihinput trivial hrequired.sound).1
      have hentered := hinput.quiet (.require middle type.modules)
      obtain ⟨hothers, hvalues⟩ := ihothers trivial hentered.sound
      exact ⟨hentered.trans hothers,
        achieves_cons_operand (grounded_literal _ _ _) input.extends.path hvalues⟩
  | noParameters => exact ⟨.refl hsound, trivial⟩
  | @literalParameter _ node _ _ _ source type _ pass _ wiring accepts new others ih =>
      obtain ⟨name, hliteral, _⟩ := Context.kind?_of_wiring wiring
      have hrequired := (Upholds.refl hsound).quiet (.require pass type.modules)
      have hclaimed : Upholds context pass ((pass.require type.modules).claim node.id source) :=
        hrequired.claim ⟨name, hliteral⟩
      exact ⟨hclaimed.trans (ih trivial hclaimed.sound).1, trivial⟩
  | @typedParameter _ _ _ _ _ type pass _ wiring new others ih =>
      have hrequired := (Upholds.refl hsound).quiet (.require pass type.modules)
      exact ⟨hrequired.trans (ih trivial hrequired.sound).1, trivial⟩
  | @literal _ _ type _ pass hosts known accepts =>
      obtain ⟨hbusy, hscope, _⟩ := hready
      have hrequired := (Upholds.refl hsound).quiet (.require pass type.modules)
      refine ⟨hrequired.keep hbusy hscope ⟨_, hosts.kind?, rfl⟩ rfl, fun _ => ?_, ?_⟩
      · exact speaks_keep (.of_quiet (.require _ _)) (grounded_literal _ _ _)
      · exact ne_parameter_keep rfl
  | @call _ function _ _ _ next hosts operands ih =>
      obtain ⟨hbusy, hscope, _⟩ := hready
      obtain ⟨hoperands, hvalues⟩ := ih trivial hsound
      have hquiet : next.Quiet (next.requireCall context function) := .requireCall _ _ _
      exact upholds_placeCall (hoperands.quiet hquiet)
        (operands.extends.trans (.of_quiet hquiet)) hosts hbusy hscope rfl
        ((grounded_ofCall hvalues).mono (Pass.Extends.of_quiet hquiet).events List.prefix_rfl)
  | @declared _ node value _ next hosts input ih =>
      have hinput := (ih trivial hsound).1
      have hwritten := hinput.quiet (.write next node.id (.declare node.id value))
      refine ⟨hwritten, fun _ => ?_, hwritten.sound.ne_parameter hosts.kind? nofun⟩
      exact speaks_write hinput.sound hosts.kind? rfl rfl input.extends
  | @declaredTyped _ node _ next hosts input ih =>
      have hinput := (ih trivial hsound).1
      have hwritten := hinput.quiet (.declareTyped next context node)
      refine ⟨hwritten, fun _ => ?_, hwritten.sound.ne_parameter hosts.kind? nofun⟩
      exact speaks_declareTyped hinput.sound hosts input.extends
  | @branch _ node value thenBlock elseBlock _ start middle next hosts condition thenBranch filled
      elseBranch ihcondition ihthen ihelse =>
      have hchain := hready.2.2 rfl
      have hcondition := (ihcondition trivial hsound).1
      have hheader := hcondition.quiet (.write start node.id (.ifHeader value))
      have hthen := hheader.trans
        (ihthen (hheader.emitting_subset hchain) hheader.sound).1
      have hspliced := hthen.quiet (.splice middle thenBlock)
      have helse := hspliced.trans (ihelse (hspliced.emitting_subset hchain) hspliced.sound).1
      have hclosed := helse.quiet (.closeElse next node.id elseBlock)
      exact ⟨hclosed, achieves_of_not_hasValue hosts rfl hclosed.sound⟩
  | @loop _ node value inner _ start next hosts condition body ihcondition ihbody =>
      have hchain := hready.2.2 rfl
      have hcondition := (ihcondition trivial hsound).1
      have hheader := hcondition.quiet (.write start node.id (.whileHeader value))
      have hbody := hheader.trans
        (ihbody (hheader.emitting_subset hchain) hheader.sound).1
      have hspliced := hbody.quiet (.splice next inner)
      exact ⟨hspliced, achieves_of_not_hasValue hosts rfl hspliced.sound⟩
  | sequence hosts exits ih =>
      have hexits := (ih (hready.2.2 rfl) hsound).1
      exact ⟨hexits, achieves_of_not_hasValue hosts rfl hexits.sound⟩
  | @definition _ node inner _ start next hosts parameters body ihparameters ihbody =>
      have hchain := hready.2.2 rfl
      have hparameters := (ihparameters trivial hsound).1
      have hheader := hparameters.quiet (.writeHeader start context node
        ((List.range (node.count keys.argumentCount)).map
          fun index => (context.wiring node index).declaration index))
      have hbody := hheader.trans
        (ihbody (hheader.emitting_subset hchain) hheader.sound).1
      have hended := (hbody.quiet (.splice next inner)).quiet (.write _ node.id .blank)
      exact ⟨hended, achieves_of_not_hasValue hosts rfl hended.sound⟩
  | @code _ node pass hosts =>
      have hwritten := (Upholds.refl hsound).quiet (.writeCode pass node)
      exact ⟨hwritten, achieves_of_not_hasValue hosts rfl hwritten.sound⟩
  | @topLevelCode _ node inner pass next hosts body ih =>
      have hchain := hready.2.2 rfl
      have hwritten := (Upholds.refl hsound).quiet (.writeCode pass node)
      have hbody := hwritten.trans (ih (hwritten.emitting_subset hchain) hwritten.sound).1
      have hspliced := hbody.quiet (.splice next inner)
      exact ⟨hspliced, achieves_of_not_hasValue hosts rfl hspliced.sound⟩

end VisualScript
