import VisualScript.Proofs.Pass.Unfolding

/-!
# What stands for nodes is what they mean

The invariant behind the choice between binding and inlining: with the visible
bindings unfolded, what stands for a pure node is what the node means. A pure node is
bound again only where none of its bindings is visible, so no binding hides another,
and what was read once stays as it is.
-/

namespace VisualScript

namespace Context

/-- No pure node occurs by its local. -/
def Plain (context : Context) (value : Expression) : Prop :=
  ∀ node ∈ value.names, context.isPure node = false

/-- With the visible bindings unfolded, an expression in a scope is a meaning, and the
text that is kept with it is that of its parts. -/
structure Reads (context : Context) (events : List Event) (scope : ScopePath)
    (value meant : Expression) : Prop where
  unfolds : context.unfold events scope value = meant
  plain : context.Plain meant
  rendered : value.substitute .name = value

/-- All that the inputs took is what the sources mean. -/
def Agrees (context : Context) : List Event → Prop
  | [] => True
  | .resolved resolution :: before =>
      context.Reads before resolution.scope resolution.value
        (if resolution.ofSource then context.meaning before resolution.source
          else resolution.value) ∧ context.Agrees before
  | _ :: before => context.Agrees before

end Context

/-- A scope was used: a node was emitted into it, or something is bound there. -/
def Pass.Uses (context : Context) (pass : Pass) (scope : ScopePath) : Prop :=
  (∃ node, pass.scopes.get? node = some scope) ∨
    ∃ binding ∈ context.bindings pass.events, binding.scope = scope

/-- No binding of a node can be seen. -/
def Pass.Unbound (context : Context) (pass : Pass) (node : NodeId) : Prop :=
  ∀ binding ∈ context.bindings pass.events, binding.node = node →
    ¬ binding.scope <+: pass.block.path

/-- A node that is entered has the current block as its scope. -/
theorem Pass.get?_scopes_enter (pass : Pass) (id node : NodeId) :
    ((pass.reach id).enter id).scopes.get? node =
      if id = node then some pass.block.path else pass.scopes.get? node :=
  OrderedMap.get?_insert _ _ _ _

/-- What stands for pure nodes is what they mean, as far as it concerns nodes other than
one that is just being asked for. -/
structure Faithful (context : Context) (pending : Option NodeId) (pass : Pass) : Prop where
  /-- Results are kept for pure nodes. -/
  kept : ∀ {node value}, pass.results.get? node = some value → context.isPure node = true
  /-- Nodes that were asked for were reached. -/
  known : ∀ {node}, context.isPure node = true → node ∈ pass.initiated →
    pending = some node ∨ node ∈ pass.reached
  /-- Nodes that anything is known of were asked for. -/
  asked : ∀ {node}, context.isPure node = true →
    node ∈ pass.reached ∨ node ∈ pass.emitting ∨ (pass.scopes.get? node).isSome = true →
      node ∈ pass.initiated
  /-- A binding that can be seen is where its node was last emitted into. -/
  bound : ∀ {binding}, binding ∈ context.bindings pass.events →
    ∃ scope, pass.scopes.get? binding.node = some scope ∧
      (binding.scope <+: pass.block.path → scope = binding.scope)
  /-- Blocks that are opened later have scopes of their own. -/
  used : ∀ {scope}, pass.Uses context scope → scope < pass.block.path ++ [pass.block.children]
  /-- What stands for a node is what the node means. -/
  told : ∀ {node}, context.isPure node = true → node ∈ pass.reached → node ∉ pass.emitting →
    ∀ {scope}, scope <+: pass.block.path →
      (∀ outer, pass.scopes.get? node = some outer → outer <+: scope) →
        context.Reads pass.events scope (pass.valueOf node) (context.meaning pass.events node)
  /-- What stood for a source when an input took it is what the source meant. -/
  agrees : context.Agrees pass.events

namespace Context.Reads

variable {context : Context} {events later : List Event} {scope inner : ScopePath}
  {value meant : Expression}

/-- What is plain and was read stays read where the same bindings are visible. -/
theorem of_unfold_eq (h : context.Reads events scope value meant)
    (heq : context.unfold later inner value = context.unfold events scope value) :
    context.Reads later inner value meant :=
  ⟨heq.trans h.unfolds, h.plain, h.rendered⟩

theorem of_bindings_eq (h : context.Reads events scope value meant)
    (heq : context.bindings later = context.bindings events) :
    context.Reads later scope value meant :=
  h.of_unfold_eq (congrArg (fun bound => value.substitute (unfoldName bound scope)) heq)

/-- A value that is read contains no local of a pure node that stays as it is. -/
theorem not_mem_names (h : context.Reads events scope value meant) {node : NodeId}
    (hpure : context.isPure node = true)
    (hname : unfoldName (context.bindings events) scope node = .name node) :
    node ∉ value.names := by
  intro hmem
  have hstays : node ∈ (context.unfold events scope value).names := by
    refine Expression.mem_names_substitute.mpr ⟨node, hmem, ?_⟩
    rw [hname]
    exact List.mem_singleton_self node
  rw [h.unfolds] at hstays
  rw [h.plain node hstays] at hpure
  cases hpure

theorem literal (events : List Event) (scope : ScopePath) (written : String) :
    context.Reads events scope (.literal written) (.literal written) :=
  ⟨rfl, List.forall_mem_nil _, rfl⟩

theorem parameter (events : List Event) (scope : ScopePath) (definition : NodeId) (key : String) :
    context.Reads events scope (.parameter definition key) (.parameter definition key) :=
  ⟨rfl, List.forall_mem_nil _, rfl⟩

/-- The local of a node that is not pure is what the node means. -/
theorem name {node : NodeId} (h : context.isPure node = false) (events : List Event)
    (scope : ScopePath) : context.Reads events scope (.name node) (.name node) where
  unfolds := by
    refine unfoldName_of_forall fun binding hmem hnode => ?_
    rw [← hnode, isPure_of_mem_bindings hmem] at h
    cases h
  plain _ hmem := List.mem_singleton.mp hmem ▸ h
  rendered := rfl

end Context.Reads

namespace Context.Agrees

variable {context : Context} {events added : List Event}

theorem append (h : context.Agrees events) (hwriting : ∀ event ∈ added, event.isWriting = true) :
    context.Agrees (added ++ events) := by
  induction added with
  | nil => exact h
  | cons event rest ih =>
      obtain ⟨hfirst, hrest⟩ := List.forall_mem_cons.mp hwriting
      have hrest := ih hrest
      cases event <;> first | exact hrest | cases hfirst

/-- With the bindings unfolded, the inputs took what is read off the graph. -/
theorem substitutions_eq (h : context.Agrees events) :
    context.substitutions events = context.readings events := by
  induction events with
  | nil => rfl
  | cons event before ih =>
      cases event with
      | resolved resolution =>
          obtain ⟨hreads, hbefore⟩ := h
          rw [substitutions, readings, hreads.unfolds, ih hbefore]
      | _ => exact ih h

theorem plain (h : context.Agrees events) : ∀ taken ∈ context.substitutions events,
    context.Plain taken.2.2 := by
  induction events with
  | nil => exact List.forall_mem_nil _
  | cons event before ih =>
      cases event with
      | resolved resolution =>
          obtain ⟨hreads, hbefore⟩ := h
          refine List.forall_mem_cons.mpr ⟨?_, ih hbefore⟩
          exact hreads.unfolds.symm ▸ hreads.plain
      | _ => exact ih h

theorem rendered (h : context.Agrees events) {resolution : Resolution}
    (hmem : .resolved resolution ∈ events) :
    resolution.value.substitute .name = resolution.value := by
  induction events with
  | nil => cases hmem
  | cons event before ih =>
      cases event with
      | resolved last =>
          obtain ⟨hreads, hbefore⟩ := h
          rcases List.mem_cons.mp hmem with hsame | hmem
          · cases hsame
            exact hreads.rendered
          · exact ih hbefore hmem
      | _ => exact ih h ((List.mem_cons.mp hmem).resolve_left (by simp))

end Context.Agrees

/-! ## Writing without bindings -/

/-- Whether an edit only writes, and no binding of a pure node. -/
def Edit.BindsNothing (context : Context) : Edit → Prop
  | require _ => True
  | write _ (.bind node _) => context.isPure node = false
  | write _ _ => True
  | splice _ => True
  | _ => False

/-- All that happened is that something was written into the same block, and no binding
of a pure node. -/
abbrev Pass.BindsNothing (context : Context) (pass next : Pass) : Prop :=
  pass.Edited (Edit.BindsNothing context) next

namespace Pass.BindsNothing

variable {context : Context} {pass next : Pass}

theorem silent (h : BindsNothing context pass next) : pass.Silent next := by
  refine Quiet.toSilent (h.mono fun edit hedit => ?_)
  cases edit with
  | require | write | splice => trivial
  | report | setResult | dropResult | claim => cases hedit

theorem bindings (h : BindsNothing context pass next) :
    context.bindings next.events = context.bindings pass.events := by
  refine h.same (fun pass => context.bindings pass.events) fun pass edit hedit => ?_
  cases edit with
  | require | splice => rfl
  | report | setResult | dropResult | claim => cases hedit
  | write node statement =>
      refine List.filterMap_cons_none ?_
      cases statement with
      | bind node value =>
          have hpure : context.isPure node = false := hedit
          simp [Context.binding?, hpure]
      | _ => rfl

theorem meaning (h : BindsNothing context pass next) :
    context.meaning next.events = context.meaning pass.events := by
  obtain ⟨added, hadded, hwriting⟩ := h.silent.journal
  rw [hadded, Context.meaning_append_of_isWriting _ hwriting]

theorem valueOf (h : BindsNothing context pass next) (node : NodeId) :
    next.valueOf node = pass.valueOf node := by
  rw [Pass.valueOf, Pass.valueOf, h.silent.results]

theorem reads (h : BindsNothing context pass next) {scope : ScopePath} {value meant : Expression}
    (hreads : context.Reads pass.events scope value meant) :
    context.Reads next.events scope value meant :=
  hreads.of_bindings_eq h.bindings

end Pass.BindsNothing

namespace Faithful

variable {context : Context} {pending : Option NodeId} {pass next : Pass} {id : NodeId}

theorem of_bindsNothing (h : Faithful context pending pass)
    (hquiet : pass.BindsNothing context next) :
    Faithful context pending next where
  kept hresult := h.kept (hquiet.silent.results ▸ hresult)
  known hpure hasked := by
    rw [hquiet.silent.initiated] at hasked
    rw [hquiet.silent.reached]
    exact h.known hpure hasked
  asked hpure hmarked := by
    rw [hquiet.silent.reached, hquiet.silent.emitting, hquiet.silent.scopes] at hmarked
    rw [hquiet.silent.initiated]
    exact h.asked hpure hmarked
  bound hmem := by
    rw [hquiet.bindings] at hmem
    rw [hquiet.silent.scopes, hquiet.path]
    exact h.bound hmem
  used := by
    rintro scope (⟨node, hscope⟩ | ⟨binding, hmem, hscope⟩)
    · rw [hquiet.path, hquiet.children_eq]
      exact h.used (.inl ⟨node, hquiet.silent.scopes ▸ hscope⟩)
    · rw [hquiet.path, hquiet.children_eq]
      exact h.used (.inr ⟨binding, hquiet.bindings ▸ hmem, hscope⟩)
  told hpure hreached hidle scope hinside hvisible := by
    rw [hquiet.silent.reached] at hreached
    rw [hquiet.silent.emitting] at hidle
    rw [hquiet.path] at hinside
    rw [hquiet.silent.scopes] at hvisible
    rw [hquiet.meaning, hquiet.valueOf]
    exact hquiet.reads (h.told hpure hreached hidle hinside hvisible)
  agrees := by
    obtain ⟨added, hadded, hwriting⟩ := hquiet.silent.journal
    rw [hadded]
    exact h.agrees.append hwriting

theorem reached_of_initiated (h : Faithful context none pass) (hpure : context.isPure id = true)
    (hasked : id ∈ pass.initiated) : id ∈ pass.reached :=
  (h.known hpure hasked).resolve_left (by simp)

/-- Nothing is pending any more, or never was. -/
theorem weaken (h : Faithful context none pass) : Faithful context pending pass :=
  { h with known := fun hpure hasked => .inr (h.reached_of_initiated hpure hasked) }

theorem initiate (h : Faithful context none pass) (id : NodeId) :
    Faithful context (some id) (pass.initiate id) where
  kept := h.kept
  known hpure hasked := by
    rcases List.mem_cons.mp hasked with rfl | hasked
    · exact .inl rfl
    · exact .inr (h.reached_of_initiated hpure hasked)
  asked hpure hmarked := List.mem_cons_of_mem _ (h.asked hpure hmarked)
  bound := h.bound
  used := h.used
  told := h.told
  agrees := h.agrees

/-- An input takes a value that is read. -/
theorem resolve (h : Faithful context pending pass) {resolution : Resolution}
    (hreads : context.Reads pass.events resolution.scope resolution.value
      (if resolution.ofSource then context.meaning pass.events resolution.source
        else resolution.value)) :
    Faithful context pending (pass.log (.resolved resolution)) where
  kept := h.kept
  known := h.known
  asked := h.asked
  bound := h.bound
  used := h.used
  told hpure hreached hidle _ hinside hvisible :=
    (h.told hpure hreached hidle hinside hvisible).of_bindings_eq rfl
  agrees := ⟨hreads, h.agrees⟩

/-! ## Blocks -/

/-- A block is opened whose scope comes after all that were used. -/
theorem openBlock (h : Faithful context none pass) {block : Block} {around : ScopePath}
    {index : Nat} (hpath : block.path = around ++ [index]) (haround : around <+: pass.block.path)
    (hnew : ∀ {scope}, pass.Uses context scope → scope < around ++ [index]) :
    Faithful context none (pass.openBlock block) := by
  -- What is visible in the new block was visible around it.
  have hvisible : ∀ {scope}, pass.Uses context scope →
      (scope <+: around ++ [index] ↔ scope <+: around) := by
    intro scope huses
    refine ⟨fun hwithin => ?_, fun hwithin => hwithin.trans (List.prefix_append _ _)⟩
    rcases List.prefix_concat_iff.mp hwithin with rfl | hwithin
    · exact absurd (hnew huses) (List.lt_irrefl _)
    · exact hwithin
  have hunfold : ∀ value, context.unfold pass.events (around ++ [index]) value =
      context.unfold pass.events around value := by
    intro value
    refine congrArg value.substitute (unfoldName_congr fun binding hmem => ?_)
    exact hvisible (.inr ⟨binding, hmem, rfl⟩)
  constructor
  case kept => exact h.kept
  case known => exact h.known
  case asked => exact h.asked
  case bound =>
    intro binding hmem
    obtain ⟨scope, hscope, hplace⟩ := h.bound hmem
    refine ⟨scope, hscope, fun hwithin => hplace ?_⟩
    rw [show (pass.openBlock block).block.path = around ++ [index] from hpath,
      hvisible (.inr ⟨binding, hmem, rfl⟩)] at hwithin
    exact hwithin.trans haround
  case used =>
    intro scope huses
    refine List.lt_trans (hnew huses) ?_
    rw [show (pass.openBlock block).block.path = around ++ [index] from hpath]
    exact lt_child_of_prefix List.prefix_rfl _
  case told =>
    intro node hpure hreached hidle scope hinside hseen
    rw [show (pass.openBlock block).block.path = around ++ [index] from hpath] at hinside
    rcases List.prefix_concat_iff.mp hinside with rfl | hinside
    · refine (h.told hpure hreached hidle haround fun outer houter => ?_).of_unfold_eq (hunfold _)
      exact (hvisible (.inl ⟨node, houter⟩)).mp (hseen outer houter)
    · exact (h.told hpure hreached hidle (hinside.trans haround) hseen).of_bindings_eq rfl
  case agrees => exact h.agrees

/-- A block inside is complete. -/
theorem backTo {last : Pass} (h : Faithful context none last)
    (hpath : last.block.path = pass.block.path ++ [pass.block.children]) :
    Faithful context none (last.backTo pass.block) := by
  have haround : pass.block.path <+: last.block.path := hpath ▸ List.prefix_append _ _
  constructor
  case kept => exact h.kept
  case known => exact h.known
  case asked => exact h.asked
  case bound =>
    intro binding hmem
    obtain ⟨scope, hscope, hplace⟩ := h.bound hmem
    exact ⟨scope, hscope, fun hwithin => hplace (hwithin.trans haround)⟩
  case used =>
    intro scope huses
    refine List.lt_trans (h.used huses) ?_
    rw [hpath]
    exact grandchild_lt_child _ _ _
  case told =>
    intro node hpure hreached hidle scope hinside hseen
    exact h.told hpure hreached hidle (hinside.trans haround) hseen
  case agrees => exact h.agrees

/-! ## Emissions -/

theorem enter (h : Faithful context (some id) pass)
    (hasked : context.isPure id = true → id ∈ pass.initiated)
    (hunbound : context.isPure id = true → pass.Unbound context id) :
    Faithful context none ((pass.reach id).enter id) := by
  have hscopes := pass.get?_scopes_enter id
  constructor
  case kept => exact h.kept
  case known =>
    intro node hpure hinitiated
    right
    rcases h.known hpure hinitiated with hpending | hreached
    · cases hpending
      exact List.mem_cons_self ..
    · exact List.mem_cons_of_mem _ hreached
  case asked =>
    intro node hpure hmarked
    by_cases hsame : id = node
    · exact hsame ▸ hasked (hsame ▸ hpure)
    · refine h.asked hpure (hmarked.imp ?_ (Or.imp ?_ ?_))
      · exact fun hreached => (List.mem_cons.mp hreached).resolve_left (Ne.symm hsame)
      · exact fun hbusy => (List.mem_cons.mp hbusy).resolve_left (Ne.symm hsame)
      · intro hscope
        rwa [hscopes, if_neg hsame] at hscope
  case bound =>
    intro binding hmem
    rw [hscopes]
    split
    next hsame =>
      -- None of the bindings of the node itself can be seen.
      have hpure := hsame ▸ Context.isPure_of_mem_bindings hmem
      exact ⟨pass.block.path, rfl, fun hwithin => absurd hwithin (hunbound hpure _ hmem hsame.symm)⟩
    next => exact h.bound hmem
  case used =>
    rintro scope (⟨node, hscope⟩ | huses)
    · rw [hscopes] at hscope
      split at hscope
      next =>
        cases hscope
        exact lt_child_of_prefix List.prefix_rfl _
      next => exact h.used (.inl ⟨node, hscope⟩)
    · exact h.used (.inr huses)
  case told =>
    intro node hpure hreached hidle scope hinside hseen
    have hsame : id ≠ node := fun heq => hidle (heq ▸ List.mem_cons_self ..)
    simp only [hscopes, if_neg hsame] at hseen
    refine (h.told hpure ?_ (List.not_mem_of_not_mem_cons hidle) hinside hseen).of_bindings_eq rfl
    exact (List.mem_cons.mp hreached).resolve_left (Ne.symm hsame)
  case agrees => exact h.agrees

/-- What stands for a pure node that is being emitted is settled. -/
theorem settle (h : Faithful context none pass) (hpure : context.isPure id = true)
    (hbusy : id ∈ pass.emitting) {results : OrderedMap NodeId Expression}
    (hothers : ∀ node, node ≠ id → results.get? node = pass.results.get? node) :
    Faithful context none { pass with results := results } := by
  constructor
  case kept =>
    intro node value hresult
    by_cases hsame : node = id
    · exact hsame ▸ hpure
    · exact h.kept ((hothers node hsame).symm.trans hresult)
  case known => exact h.known
  case asked => exact h.asked
  case bound => exact h.bound
  case used => exact h.used
  case told =>
    intro node hpure hreached hidle scope hinside hseen
    have hsame : node ≠ id := fun heq => hidle (heq ▸ hbusy)
    have hvalue : ({ pass with results := results } : Pass).valueOf node = pass.valueOf node := by
      rw [Pass.valueOf, Pass.valueOf, hothers node hsame]
    rw [hvalue]
    exact h.told hpure hreached hidle hinside hseen
  case agrees => exact h.agrees

end Faithful

section Bind

variable {context : Context} {pass : Pass} {id : NodeId} {value : Expression}

theorem bindings_bind (hpure : context.isPure id = true) :
    context.bindings (pass.write id (.bind id value)).events =
      ⟨pass.block.path, id, value⟩ :: context.bindings pass.events := by
  refine List.filterMap_cons_some ?_
  rw [Context.binding?, if_pos hpure]

/-- A binding of a node that has none that can be seen changes nothing that is read. -/
theorem Context.Reads.bind {scope : ScopePath} {other meant : Expression}
    (h : context.Reads pass.events scope other meant) (hscope : scope <+: pass.block.path)
    (hpure : context.isPure id = true) (hunbound : pass.Unbound context id) :
    context.Reads (pass.write id (.bind id value)).events scope other meant := by
  refine h.of_unfold_eq (Expression.substitute_congr fun node hnode => ?_)
  rw [bindings_bind hpure, unfoldName, if_neg]
  rintro ⟨hsame, _⟩
  -- The node occurs by its local, which would stay as it is.
  change id = node at hsame
  subst hsame
  refine h.not_mem_names hpure (unfoldName_of_forall fun binding hmem hown hwithin => ?_) hnode
  exact hunbound binding hmem hown (hwithin.trans hscope)

theorem Faithful.bind (h : Faithful context none pass) (hpure : context.isPure id = true)
    (hscope : pass.scopes.get? id = some pass.block.path)
    (hunbound : pass.Unbound context id) :
    Faithful context none (pass.write id (.bind id value)) := by
  constructor
  case kept => exact h.kept
  case known => exact h.known
  case asked => exact h.asked
  case bound =>
    intro binding hmem
    rw [bindings_bind hpure] at hmem
    rcases List.mem_cons.mp hmem with rfl | hmem
    · exact ⟨pass.block.path, hscope, fun _ => rfl⟩
    · exact h.bound hmem
  case used =>
    rintro scope (huses | ⟨binding, hmem, hplace⟩)
    · exact h.used (.inl huses)
    · rw [bindings_bind hpure] at hmem
      rcases List.mem_cons.mp hmem with rfl | hmem
      · exact hplace ▸ lt_child_of_prefix List.prefix_rfl _
      · exact h.used (.inr ⟨binding, hmem, hplace⟩)
  case told =>
    intro node hnode hreached hidle scope hinside hseen
    exact (h.told hnode hreached hidle hinside hseen).bind hinside hpure hunbound
  case agrees => exact h.agrees

end Bind

namespace Faithful

variable {context : Context} {pass : Pass} {id : NodeId}

/-- A pure node is bound or its value is put in place of it. -/
theorem keep (h : Faithful context none pass) (hpure : context.isPure id = true)
    (hbusy : id ∈ pass.emitting) (hscope : pass.scopes.get? id = some pass.block.path)
    (hunbound : pass.Unbound context id) (binds : Bool) (value : Expression) :
    Faithful context none (pass.keep id binds value) := by
  unfold Pass.keep
  split
  next =>
    refine (h.bind hpure hscope hunbound).settle hpure hbusy fun node hsame => ?_
    rw [OrderedMap.get?_erase, if_neg (Ne.symm hsame)]
  next =>
    refine h.settle hpure hbusy fun node hsame => ?_
    rw [OrderedMap.get?_insert, if_neg (Ne.symm hsame)]

/-- A node whose value is ready is left. -/
theorem leave (h : Faithful context none pass)
    (hready : context.isPure id = true → pass.scopes.get? id = some pass.block.path ∧
      context.Reads pass.events pass.block.path (pass.valueOf id)
        (context.readNode (context.meaning pass.events) id)) :
    Faithful context none (pass.leave id) := by
  constructor
  case kept => exact h.kept
  case known => exact h.known
  case asked =>
    intro node hpure hmarked
    refine h.asked hpure (hmarked.imp_right (Or.imp_left fun hbusy => ?_))
    exact (List.mem_filter.mp hbusy).1
  case bound => exact h.bound
  case used => exact h.used
  case told =>
    intro node hpure hreached hidle scope hinside hseen
    change context.Reads _ _ _ (context.meaning (.finished id :: pass.events) node)
    rw [Context.meaning]
    by_cases hsame : id = node
    · subst hsame
      rw [if_pos ⟨hpure, rfl⟩]
      obtain ⟨hplace, hreads⟩ := hready hpure
      -- The only scope from which the node is seen, and that is still open, is the block itself.
      cases List.IsPrefix.eq_of_length_le hinside ((hseen _ hplace).length_le)
      exact hreads.of_bindings_eq rfl
    · rw [if_neg fun hown => hsame hown.2]
      refine (h.told hpure hreached ?_ hinside hseen).of_bindings_eq rfl
      intro hbusy
      exact hidle (List.mem_filter.mpr ⟨hbusy, decide_eq_true (Ne.symm hsame)⟩)
  case agrees => exact h.agrees

/-- A literal is made the default of a parameter. -/
theorem claim {literal : NodeId} (h : Faithful context none pass) (definition : NodeId)
    (hpure : context.isPure literal = true) :
    Faithful context none (pass.claim definition literal) := by
  have hresults : ∀ node, (pass.claim definition literal).results.get? node =
      if literal = node then some (.parameter definition literal.localName)
      else pass.results.get? node :=
    fun node => OrderedMap.get?_insert _ _ _ _
  constructor
  case kept =>
    intro node value hresult
    rw [hresults] at hresult
    split at hresult
    next hsame => exact hsame ▸ hpure
    next => exact h.kept hresult
  case known =>
    intro node hnode hinitiated
    right
    rcases List.mem_cons.mp hinitiated with rfl | hinitiated
    · exact List.mem_cons_self ..
    · exact List.mem_cons_of_mem _ (h.reached_of_initiated hnode hinitiated)
  case asked =>
    intro node hnode hmarked
    by_cases hsame : node = literal
    · exact hsame ▸ List.mem_cons_self ..
    · refine List.mem_cons_of_mem _ (h.asked hnode (hmarked.imp_left fun hreached => ?_))
      exact (List.mem_cons.mp hreached).resolve_left hsame
  case bound => exact h.bound
  case used => exact h.used
  case told =>
    intro node hnode hreached hidle scope hinside hseen
    change context.Reads _ _ _
      (context.meaning (.claimed definition literal literal.localName :: pass.events) node)
    rw [Context.meaning, Pass.valueOf, hresults]
    by_cases hsame : literal = node
    · rw [if_pos hsame, if_pos ⟨hnode, hsame⟩]
      exact .parameter _ _ _ _
    · rw [if_neg hsame, if_neg fun hown => hsame hown.2]
      have hreached := (List.mem_cons.mp hreached).resolve_left (Ne.symm hsame)
      exact (h.told hnode hreached hidle hinside hseen).of_bindings_eq rfl
  case agrees => exact h.agrees

end Faithful

end VisualScript
