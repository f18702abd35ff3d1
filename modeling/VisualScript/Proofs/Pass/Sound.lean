import VisualScript.Proofs.Pass.Frame

/-!
# What is known of nodes is sound

Results, scopes and the marks on nodes are kept for a whole pass, while names are
bound in blocks. The invariant that links them: what stands for a node that is not
being emitted refers only to what was bound where the node was last emitted into,
or further out.
-/

namespace VisualScript

/-! ## What values refer to -/

/-- One expression occurs in another. -/
inductive Expression.PartOf (part : Expression) : Expression → Prop where
  | self : PartOf part part
  | argument {function arguments written key value}
      (given : arguments.get? key = some value) (inside : PartOf part value) :
      PartOf part (.call function arguments written)

/-- Whether an expression is put in place of its uses. -/
def Expression.isInline : Expression → Bool
  | literal _ => true
  | call _ _ _ => true
  | _ => false

/-- The node whose local a statement introduces. -/
def Statement.boundNode? : Statement → Option NodeId
  | bind node _ => some node
  | declare node _ => some node
  | declareTyped node _ => some node
  | _ => none

/-- The local of a node was introduced by an emission of the node, complete by now,
into a scope or one around it. Events are listed latest first. -/
def Bound (events : List Event) (node : NodeId) (scope : ScopePath) : Prop :=
  ∃ outer statement, outer <+: scope ∧ statement.boundNode? = some node ∧
    [.finished node, .wrote ⟨outer, node, statement⟩, .entered node outer].Sublist events

/-- What an expression itself refers to can be seen in a scope: a local is bound
there or further out, and a parameter was taken there or further out. -/
def Expression.Seen (events : List Event) (scope : ScopePath) : Expression → Prop
  | name node => Bound events node scope
  | parameter definition key => ∃ resolution, .resolved resolution ∈ events ∧
      resolution.value = .parameter definition key ∧ resolution.scope <+: scope
  | _ => True

/-- All that a value refers to can be seen in a scope. -/
def Grounded (events : List Event) (scope : ScopePath) (value : Expression) : Prop :=
  ∀ part : Expression, part.PartOf value → part.Seen events scope

theorem Bound.mono {events later : List Event} {node : NodeId} {scope inner : ScopePath}
    (h : Bound events node scope) (hlater : events <:+ later) (hinner : scope <+: inner) :
    Bound later node inner := by
  obtain ⟨outer, statement, houter, hbinds, hsub⟩ := h
  exact ⟨outer, statement, houter.trans hinner, hbinds, hsub.trans hlater.sublist⟩

theorem Expression.Seen.mono {events later : List Event} {scope inner : ScopePath}
    {value : Expression} (h : value.Seen events scope) (hlater : events <:+ later)
    (hinner : scope <+: inner) : value.Seen later inner := by
  cases value with
  | name node => exact Bound.mono h hlater hinner
  | parameter definition key =>
      obtain ⟨resolution, hmem, hvalue, hscope⟩ := h
      exact ⟨resolution, hlater.subset hmem, hvalue, hscope.trans hinner⟩
  | literal written => exact trivial
  | call function arguments written => exact trivial

theorem Grounded.mono {events later : List Event} {scope inner : ScopePath} {value : Expression}
    (h : Grounded events scope value) (hlater : events <:+ later) (hinner : scope <+: inner) :
    Grounded later inner value :=
  fun part hpart => (h part hpart).mono hlater hinner

theorem grounded_literal (events : List Event) (scope : ScopePath) (written : String) :
    Grounded events scope (.literal written) := by
  intro part hpart
  cases hpart
  exact trivial

/-- A call refers to what its operands refer to. -/
theorem grounded_ofCall {events : List Event} {scope : ScopePath} {function : Callable}
    {values : List (String × Expression)}
    (h : ∀ value ∈ values, Grounded events scope value.2) :
    Grounded events scope (.ofCall function (.ofList values)) := by
  intro part hpart
  cases hpart with
  | self => exact trivial
  | argument given inside => exact h _ (OrderedMap.mem_of_get?_ofList given) part inside

/-! ## What a journal tells of a node -/

/-- Whether an event settles what stands for a node: the node is emitted, or it is
made the default of a parameter. -/
def Event.touches (node : NodeId) : Event → Bool
  | entered id _ => id = node
  | claimed _ literal _ => literal = node
  | _ => false

/-- The scope that an emission of a node begins in. -/
def Event.scopeOf? (node : NodeId) : Event → Option ScopePath
  | entered id scope => if id = node then some scope else none
  | _ => none

def lastTouch (events : List Event) (node : NodeId) : Option Event :=
  events.find? (Event.touches node)

/-- The scope that a node was last emitted into. -/
def lastScope (events : List Event) (node : NodeId) : Option ScopePath :=
  events.findSome? (Event.scopeOf? node)

/-- An event of a journal, with what happened before. -/
theorem exists_suffix_of_mem {event : Event} {events : List Event} (h : event ∈ events) :
    ∃ before, (event :: before) <:+ events := by
  obtain ⟨since, before, rfl⟩ := List.append_of_mem h
  exact ⟨before, List.suffix_append _ _⟩

theorem entered_of_lastScope {events : List Event} {node : NodeId} {scope : ScopePath}
    (h : lastScope events node = some scope) : .entered node scope ∈ events := by
  obtain ⟨event, hmem, hscope⟩ := List.exists_of_findSome?_eq_some h
  cases event with
  | entered id inner =>
      rw [Event.scopeOf?] at hscope
      split at hscope
      next heq =>
        cases heq
        cases hscope
        exact hmem
      next => cases hscope
  | _ => cases hscope

theorem isSome_lastScope {events : List Event} {node : NodeId} {scope : ScopePath}
    (h : .entered node scope ∈ events) : (lastScope events node).isSome = true := by
  refine List.findSome?_isSome_iff.mpr ⟨_, h, ?_⟩
  rw [Event.scopeOf?, if_pos rfl]
  rfl

/-- What the journal before a resolution makes of it. -/
structure Justified (context : Context) (resolution : Resolution) (before : List Event) :
    Prop where
  takes : context.Takes resolution.consumer resolution.input
  /-- Where the value comes from. -/
  feed : if resolution.ofSource
    then context.feed resolution.consumer resolution.input = .value resolution.source
    else ∃ key, context.feed resolution.consumer resolution.input =
      .parameter resolution.source key ∧ resolution.value = .parameter resolution.source key
  /-- What the value refers to can be seen. -/
  grounded : Grounded before resolution.scope resolution.value ∨
    ∃ definition key, resolution.value = .parameter definition key
  /-- A parameter stands for a source that was made its default since it was last emitted. -/
  parameter : resolution.ofSource = true → ∀ definition key,
    resolution.value = .parameter definition key →
      lastTouch before resolution.source = some (.claimed definition resolution.source key)
  /-- Another value of a source is its local or is put in place of it. -/
  shape : resolution.ofSource = true →
    resolution.value = .name resolution.source ∨ resolution.value.isInline = true ∨
      ∃ definition key, resolution.value = .parameter definition key
  /-- The source was last emitted into a scope that can be seen. -/
  visible : resolution.ofSource = true → ∀ scope,
    lastScope before resolution.source = some scope → scope <+: resolution.scope
  /-- A source that was never emitted is the default of a parameter. -/
  default : resolution.ofSource = true → lastScope before resolution.source = none →
    ∃ definition key, resolution.value = .parameter definition key

/-- What is known of nodes is sound, as far as it concerns nodes other than one that
is just being asked for. -/
structure Sound (context : Context) (pending : Option NodeId) (pass : Pass) : Prop where
  /-- Results are kept for pure nodes, and for the defaults of parameters. -/
  kept : ∀ {node value}, pass.results.get? node = some value →
    (∃ kind, context.kind? node = some kind ∧ kind.isPure = true) ∧
      (value.isInline = true ∨ ∃ definition key, value = .parameter definition key ∧
        .claimed definition node key ∈ pass.events)
  /-- Only literals become defaults. -/
  literals : ∀ {definition node key}, .claimed definition node key ∈ pass.events →
    ∃ name, context.kind? node = some (.literal name)
  /-- What stands for a node refers to what can be seen where it was last emitted into. -/
  usable : ∀ {node scope}, pass.scopes.get? node = some scope → node ∉ pass.emitting →
    context.Delivers node → Grounded pass.events scope (pass.valueOf node) ∨
      ∃ definition key, pass.valueOf node = .parameter definition key
  /-- Nodes that were asked for or reached were emitted or are defaults. -/
  known : ∀ {node}, node ∈ pass.initiated ∨ node ∈ pass.reached →
    (∃ kind, context.kind? node = some kind) → pending ≠ some node →
      (pass.scopes.get? node).isSome = true ∨
        ∃ definition key, .claimed definition node key ∈ pass.events
  /-- Defaults that were never emitted stand for their parameter. -/
  default : ∀ {definition node key}, .claimed definition node key ∈ pass.events →
    pass.scopes.get? node = none →
      ∃ definition key, pass.results.get? node = some (.parameter definition key)
  /-- Where a parameter stands for a node, the node was made its default last. -/
  touched : ∀ {node definition key},
    pass.results.get? node = some (.parameter definition key) → node ∉ pass.emitting →
      lastTouch pass.events node = some (.claimed definition node key)
  /-- Nodes emitted on demand were asked for. -/
  asked : ∀ {node}, node ∈ pass.emitting → context.isOnDemand node = true →
    node ∈ pass.initiated
  /-- The scope of a node is the one that it was last emitted into. -/
  placed : ∀ node, pass.scopes.get? node = lastScope pass.events node
  /-- Defaults were asked for. -/
  claims : ∀ {definition node key}, .claimed definition node key ∈ pass.events →
    node ∈ pass.initiated
  /-- A default is emitted only if it was emitted before. -/
  renewed : ∀ {node scope before}, (.entered node scope :: before) <:+ pass.events →
    ∀ {definition key}, .claimed definition node key ∈ before →
      (lastScope before node).isSome = true
  justified : ∀ {resolution before}, (.resolved resolution :: before) <:+ pass.events →
    Justified context resolution before

/-! ## Writing -/

section Writing

variable {events added : List Event} {node : NodeId}

theorem lastTouch_append (hadded : ∀ event ∈ added, event.touches node = false) :
    lastTouch (added ++ events) node = lastTouch events node := by
  have hnone : added.find? (Event.touches node) = none := by
    rw [List.find?_eq_none]
    intro event hmem
    rw [hadded event hmem]
    exact Bool.false_ne_true
  rw [lastTouch, List.find?_append, hnone, Option.none_or]
  rfl

theorem lastScope_append (hadded : ∀ event ∈ added, event.touches node = false) :
    lastScope (added ++ events) node = lastScope events node := by
  have hnone : added.findSome? (Event.scopeOf? node) = none := by
    rw [List.findSome?_eq_none_iff]
    intro event hmem
    have htouches := hadded event hmem
    cases event with
    | entered id scope =>
        have hne : id ≠ node := of_decide_eq_false htouches
        exact if_neg hne
    | _ => rfl
  rw [lastScope, List.findSome?_append, hnone, Option.none_or]
  rfl

theorem touches_eq_false_of_isWriting {event : Event} (h : event.isWriting = true) :
    event.touches node = false := by
  cases event <;> first | rfl | cases h

/-- An event in a journal that grew by other things was there before. -/
theorem suffix_of_suffix_append {event : Event} {before : List Event} (hadded : event ∉ added)
    (h : (event :: before) <:+ added ++ events) : (event :: before) <:+ events := by
  induction added with
  | nil => exact h
  | cons other rest ih =>
      rw [List.cons_append, List.suffix_cons_iff] at h
      rcases h with heq | hsuffix
      · rw [List.cons.injEq] at heq
        exact absurd (heq.1 ▸ List.mem_cons_self ..) hadded
      · exact ih (fun hmem => hadded (List.mem_cons_of_mem _ hmem)) hsuffix

end Writing

namespace Sound

variable {context : Context} {pending : Option NodeId} {pass next : Pass}

/-! What is known of a node stays known as the journal grows. -/

theorem kept_of_suffix (h : Sound context pending pass) {later : List Event}
    (hlater : pass.events <:+ later) {node : NodeId} {value : Expression}
    (hresult : pass.results.get? node = some value) :
    (∃ kind, context.kind? node = some kind ∧ kind.isPure = true) ∧
      (value.isInline = true ∨ ∃ definition key, value = .parameter definition key ∧
        .claimed definition node key ∈ later) := by
  obtain ⟨hpure, hvalue⟩ := h.kept hresult
  refine ⟨hpure, hvalue.imp_right ?_⟩
  rintro ⟨definition, key, heq, hmem⟩
  exact ⟨definition, key, heq, hlater.subset hmem⟩

theorem known_of_suffix (h : Sound context pending pass) {later : List Event}
    (hlater : pass.events <:+ later) {node : NodeId}
    (hmarked : node ∈ pass.initiated ∨ node ∈ pass.reached)
    (hkind : ∃ kind, context.kind? node = some kind) (hpending : pending ≠ some node) :
    (pass.scopes.get? node).isSome = true ∨
      ∃ definition key, .claimed definition node key ∈ later := by
  refine (h.known hmarked hkind hpending).imp_right ?_
  rintro ⟨definition, key, hmem⟩
  exact ⟨definition, key, hlater.subset hmem⟩

/-- Writing changes nothing about what is known. -/
theorem of_silent (h : Sound context pending pass) (hsilent : pass.Silent next) :
    Sound context pending next := by
  obtain ⟨added, hadded, hwriting⟩ := hsilent.journal
  have hsuffix : pass.events <:+ next.events := ⟨added, hadded.symm⟩
  have htouches : ∀ node, ∀ event ∈ added, event.touches node = false :=
    fun node event hmem => touches_eq_false_of_isWriting (hwriting event hmem)
  have hclaimed : ∀ {definition node key}, .claimed definition node key ∈ next.events →
      .claimed definition node key ∈ pass.events := by
    intro definition node key hmem
    rw [hadded, List.mem_append] at hmem
    rcases hmem with hmem | hmem
    · cases hwriting _ hmem
    · exact hmem
  constructor
  case kept =>
    intro node value hresult
    rw [hsilent.results] at hresult
    exact h.kept_of_suffix hsuffix hresult
  case literals => exact fun hmem => h.literals (hclaimed hmem)
  case usable =>
    intro node scope hscope hidle hdelivers
    rw [hsilent.scopes] at hscope
    rw [hsilent.emitting] at hidle
    have hvalue : next.valueOf node = pass.valueOf node := by
      rw [Pass.valueOf, Pass.valueOf, hsilent.results]
    rw [hvalue]
    exact (h.usable hscope hidle hdelivers).imp_left
      fun hgrounded => hgrounded.mono hsuffix List.prefix_rfl
  case known =>
    intro node hmarked hkind hpending
    rw [hsilent.initiated, hsilent.reached] at hmarked
    rw [hsilent.scopes]
    exact h.known_of_suffix hsuffix hmarked hkind hpending
  case default =>
    intro definition node key hmem hscope
    rw [hsilent.scopes] at hscope
    rw [hsilent.results]
    exact h.default (hclaimed hmem) hscope
  case touched =>
    intro node definition key hresult hidle
    rw [hsilent.results] at hresult
    rw [hsilent.emitting] at hidle
    rw [hadded, lastTouch_append (htouches node)]
    exact h.touched hresult hidle
  case asked =>
    intro node hbusy hdemand
    rw [hsilent.emitting] at hbusy
    rw [hsilent.initiated]
    exact h.asked hbusy hdemand
  case placed =>
    intro node
    rw [hsilent.scopes, hadded, lastScope_append (htouches node)]
    exact h.placed node
  case claims =>
    intro definition node key hmem
    rw [hsilent.initiated]
    exact h.claims (hclaimed hmem)
  case renewed =>
    intro node scope before hbefore
    rw [hadded] at hbefore
    refine h.renewed (suffix_of_suffix_append (fun hmem => ?_) hbefore)
    cases hwriting _ hmem
  case justified =>
    intro resolution before hbefore
    rw [hadded] at hbefore
    refine h.justified (suffix_of_suffix_append (fun hmem => ?_) hbefore)
    cases hwriting _ hmem

/-- Events that touch no node change nothing about what is known. -/
theorem log (h : Sound context pending pass) {event : Event}
    (htouches : ∀ node, event.touches node = false)
    (hjustified : ∀ resolution, event = .resolved resolution →
      Justified context resolution pass.events) :
    Sound context pending (pass.log event) := by
  have hsuffix : pass.events <:+ (pass.log event).events := List.suffix_cons _ _
  have hclaimed : ∀ {definition node key}, .claimed definition node key ∈ (pass.log event).events →
      .claimed definition node key ∈ pass.events := by
    intro definition node key hmem
    rcases List.mem_cons.mp hmem with heq | hmem
    · have := htouches node
      rw [← heq] at this
      exact absurd rfl (of_decide_eq_false this)
    · exact hmem
  have hadded : ∀ node, ∀ added ∈ [event], added.touches node = false :=
    fun node added hmem => List.mem_singleton.mp hmem ▸ htouches node
  constructor
  case kept => exact fun hresult => h.kept_of_suffix hsuffix hresult
  case literals => exact fun hmem => h.literals (hclaimed hmem)
  case usable =>
    intro node scope hscope hidle hdelivers
    exact (h.usable hscope hidle hdelivers).imp_left
      fun hgrounded => hgrounded.mono hsuffix List.prefix_rfl
  case known => exact fun hmarked hkind hpending => h.known_of_suffix hsuffix hmarked hkind hpending
  case default => exact fun hmem hscope => h.default (hclaimed hmem) hscope
  case touched =>
    intro node definition key hresult hidle
    exact (lastTouch_append (hadded node)).trans (h.touched hresult hidle)
  case asked => exact h.asked
  case placed =>
    intro node
    exact (h.placed node).trans (lastScope_append (hadded node)).symm
  case claims => exact fun hmem => h.claims (hclaimed hmem)
  case renewed =>
    intro node scope before hbefore definition key
    rcases List.suffix_cons_iff.mp hbefore with heq | hbefore
    · rw [List.cons.injEq] at heq
      have := htouches node
      rw [← heq.1] at this
      exact absurd rfl (of_decide_eq_false this)
    · exact h.renewed hbefore
  case justified =>
    intro resolution before hbefore
    rcases List.suffix_cons_iff.mp hbefore with heq | hbefore
    · rw [List.cons.injEq] at heq
      obtain ⟨hevent, rfl⟩ := heq
      exact hjustified resolution hevent.symm
    · exact h.justified hbefore

/-- Nothing is pending any more, or never was. -/
theorem weaken (h : Sound context none pass) : Sound context pending pass where
  kept := h.kept
  literals := h.literals
  usable := h.usable
  known := fun hmarked hkind _ => h.known hmarked hkind (nomatch ·)
  default := h.default
  touched := h.touched
  asked := h.asked
  placed := h.placed
  claims := h.claims
  renewed := h.renewed
  justified := h.justified

theorem initiate (h : Sound context none pass) (id : NodeId) :
    Sound context (some id) (pass.initiate id) where
  kept := h.kept
  literals := h.literals
  usable := h.usable
  known := by
    intro node hmarked hkind hpending
    have hne : node ≠ id := fun heq => hpending (congrArg some heq.symm)
    refine h.known (hmarked.imp_left fun hmem => ?_) hkind (nomatch ·)
    exact (List.mem_cons.mp hmem).resolve_left hne
  default := h.default
  touched := h.touched
  asked := fun hbusy hdemand => List.mem_cons_of_mem _ (h.asked hbusy hdemand)
  placed := h.placed
  claims := fun hmem => List.mem_cons_of_mem _ (h.claims hmem)
  renewed := h.renewed
  justified := h.justified

/-- A node that is pending is entered. -/
theorem enter {id : NodeId} (h : Sound context (some id) pass)
    (hasked : context.isOnDemand id = true → id ∈ pass.initiated)
    (hrenewed : ∀ {definition key}, .claimed definition id key ∈ pass.events →
      (pass.scopes.get? id).isSome = true) :
    Sound context none ((pass.reach id).enter id) := by
  have hsuffix : pass.events <:+ ((pass.reach id).enter id).events := List.suffix_cons _ _
  have hscopes : ∀ node, ((pass.reach id).enter id).scopes.get? node =
      if id = node then some pass.block.path else pass.scopes.get? node :=
    fun node => OrderedMap.get?_insert _ _ _ _
  have hclaimed : ∀ {definition node key},
      .claimed definition node key ∈ ((pass.reach id).enter id).events →
      .claimed definition node key ∈ pass.events :=
    fun hmem => (List.mem_cons.mp hmem).resolve_left (nomatch ·)
  constructor
  case kept => exact fun hresult => h.kept_of_suffix hsuffix hresult
  case literals => exact fun hmem => h.literals (hclaimed hmem)
  case usable =>
    intro node scope hscope hidle hdelivers
    have hne := List.ne_of_not_mem_cons hidle
    have hidle := List.not_mem_of_not_mem_cons hidle
    -- The node itself is being emitted, so nothing is said of its value until it is left.
    rw [hscopes, if_neg (Ne.symm hne)] at hscope
    exact (h.usable hscope hidle hdelivers).imp_left
      fun hgrounded => hgrounded.mono hsuffix List.prefix_rfl
  case known =>
    intro node hmarked hkind _
    rw [hscopes]
    by_cases heq : id = node
    · rw [if_pos heq]
      exact .inl rfl
    · rw [if_neg heq]
      have hmarked' : node ∈ pass.initiated ∨ node ∈ pass.reached :=
        hmarked.imp_right fun hmem => (List.mem_cons.mp hmem).resolve_left (Ne.symm heq)
      exact h.known_of_suffix hsuffix hmarked' hkind fun hsome => heq (Option.some.inj hsome)
  case default =>
    intro definition node key hmem hscope
    rw [hscopes] at hscope
    split at hscope
    next => cases hscope
    next => exact h.default (hclaimed hmem) hscope
  case touched =>
    intro node definition key hresult hidle
    have hne := List.ne_of_not_mem_cons hidle
    have hidle := List.not_mem_of_not_mem_cons hidle
    have hevent : ∀ added ∈ [Event.entered id pass.block.path], added.touches node = false := by
      intro added hmem
      rw [List.mem_singleton.mp hmem]
      exact decide_eq_false (Ne.symm hne)
    exact (lastTouch_append hevent).trans (h.touched hresult hidle)
  case asked =>
    intro node hbusy hdemand
    rcases List.mem_cons.mp hbusy with rfl | hbusy
    · exact hasked hdemand
    · exact h.asked hbusy hdemand
  case placed =>
    intro node
    rw [hscopes]
    change _ = List.findSome? (Event.scopeOf? node) (.entered id pass.block.path :: pass.events)
    rw [List.findSome?_cons, Event.scopeOf?]
    by_cases heq : id = node
    · rw [if_pos heq, if_pos heq]
    · rw [if_neg heq, if_neg heq]
      exact h.placed node
  case claims => exact fun hmem => h.claims (hclaimed hmem)
  case renewed =>
    intro node scope before hbefore definition key hmem
    -- A default is entered only if it was emitted before, which the caller knows.
    rcases List.suffix_cons_iff.mp hbefore with heq | hbefore
    · rw [List.cons.injEq, Event.entered.injEq] at heq
      obtain ⟨⟨rfl, _⟩, rfl⟩ := heq
      exact h.placed _ ▸ hrenewed hmem
    · exact h.renewed hbefore hmem
  case justified =>
    intro resolution before hbefore
    rcases List.suffix_cons_iff.mp hbefore with heq | hbefore
    · cases heq
    · exact h.justified hbefore

/-- A node whose value is ready is left. -/
theorem leave {id : NodeId} {scope : ScopePath} (h : Sound context none pass)
    (hscope : pass.scopes.get? id = some scope)
    (hready : context.Delivers id → Grounded (pass.leave id).events scope (pass.valueOf id))
    (hown : ∀ definition key, pass.results.get? id ≠ some (.parameter definition key)) :
    Sound context none (pass.leave id) := by
  have hlogged : Sound context none (pass.log (.finished id)) :=
    h.log (fun _ => rfl) (fun _ heq => nomatch heq)
  have hbusy : ∀ node, node ∉ (pass.leave id).emitting → node ≠ id → node ∉ pass.emitting := by
    intro node hidle hne hmem
    exact hidle (List.mem_filter.mpr ⟨hmem, decide_eq_true hne⟩)
  constructor
  case kept => exact hlogged.kept
  case literals => exact hlogged.literals
  case usable =>
    intro node scope' hscope' hidle hdelivers
    by_cases heq : node = id
    · subst heq
      have hsame : scope' = scope := Option.some.inj (hscope'.symm.trans hscope)
      rw [hsame]
      exact .inl (hready hdelivers)
    · exact hlogged.usable hscope' (hbusy node hidle heq) hdelivers
  case known => exact hlogged.known
  case default => exact hlogged.default
  case touched =>
    intro node definition key hresult hidle
    by_cases heq : node = id
    · subst heq
      exact absurd hresult (hown definition key)
    · exact hlogged.touched hresult (hbusy node hidle heq)
  case asked =>
    intro node hmem hdemand
    exact hlogged.asked (List.mem_filter.mp hmem).1 hdemand
  case placed => exact hlogged.placed
  case claims => exact hlogged.claims
  case renewed => exact hlogged.renewed
  case justified => exact hlogged.justified

/-- What stands for a node that is being emitted is settled: its local, or a value
that is put in place of it. -/
theorem settle {id : NodeId} {scope : ScopePath} (h : Sound context none pass)
    (hbusy : id ∈ pass.emitting) (hscope : pass.scopes.get? id = some scope)
    (hpure : ∃ kind, context.kind? id = some kind ∧ kind.isPure = true)
    {results : OrderedMap NodeId Expression}
    (hothers : ∀ node, node ≠ id → results.get? node = pass.results.get? node)
    (hown : ∀ value, results.get? id = some value → value.isInline = true) :
    Sound context none { pass with results := results } := by
  constructor
  case kept =>
    intro node value hresult
    by_cases heq : node = id
    · subst heq
      exact ⟨hpure, .inl (hown value hresult)⟩
    · exact h.kept ((hothers node heq).symm.trans hresult)
  case literals => exact h.literals
  case usable =>
    intro node scope' hscope' hidle hdelivers
    have hne : node ≠ id := fun heq => hidle (heq ▸ hbusy)
    have hvalue : ({ pass with results := results } : Pass).valueOf node = pass.valueOf node := by
      rw [Pass.valueOf, Pass.valueOf, hothers node hne]
    rw [hvalue]
    exact h.usable hscope' hidle hdelivers
  case known => exact h.known
  case default =>
    intro definition node key hmem hnone
    -- The node being emitted has a scope, so it is no default without one.
    have hne : node ≠ id := by
      rintro rfl
      cases hscope.symm.trans hnone
    rw [hothers node hne]
    exact h.default hmem hnone
  case touched =>
    intro node definition key hresult hidle
    have hne : node ≠ id := fun heq => hidle (heq ▸ hbusy)
    exact h.touched ((hothers node hne).symm.trans hresult) hidle
  case asked => exact h.asked
  case placed => exact h.placed
  case claims => exact h.claims
  case renewed => exact h.renewed
  case justified => exact h.justified

theorem keep {id : NodeId} {scope : ScopePath} (h : Sound context none pass)
    (hbusy : id ∈ pass.emitting) (hscope : pass.scopes.get? id = some scope)
    (hpure : ∃ kind, context.kind? id = some kind ∧ kind.isPure = true) (binds : Bool)
    {value : Expression} (hinline : value.isInline = true) :
    Sound context none (pass.keep id binds value) := by
  unfold Pass.keep
  split
  next =>
    have hwritten := h.of_silent (.write pass id (.bind id value))
    refine hwritten.settle hbusy hscope hpure ?_ ?_
    · intro node hne
      rw [OrderedMap.get?_erase, if_neg (Ne.symm hne)]
    · intro other hresult
      rw [OrderedMap.get?_erase, if_pos rfl] at hresult
      cases hresult
  next =>
    refine h.settle hbusy hscope hpure ?_ ?_
    · intro node hne
      rw [OrderedMap.get?_insert, if_neg (Ne.symm hne)]
    · intro other hresult
      rw [OrderedMap.get?_insert, if_pos rfl, Option.some.injEq] at hresult
      exact hresult ▸ hinline

/-- A literal is made the default of a parameter. -/
theorem claim {definition literal : NodeId} (h : Sound context none pass)
    (hliteral : ∃ name, context.kind? literal = some (.literal name)) :
    Sound context none (pass.claim definition literal) := by
  have hsuffix : pass.events <:+ (pass.claim definition literal).events := List.suffix_cons _ _
  have hlogged : .claimed definition literal literal.localName ∈
      (pass.claim definition literal).events := List.mem_cons_self ..
  have hresults : ∀ node, (pass.claim definition literal).results.get? node =
      if literal = node then some (.parameter definition literal.localName)
      else pass.results.get? node :=
    fun node => OrderedMap.get?_insert _ _ _ _
  have huntouched : ∀ node, node ≠ literal →
      ∀ event ∈ [Event.claimed definition literal literal.localName],
        event.touches node = false := by
    intro node hne event hmem
    rw [List.mem_singleton.mp hmem]
    exact decide_eq_false (Ne.symm hne)
  constructor
  case kept =>
    intro node value hresult
    rw [hresults] at hresult
    split at hresult
    next heq =>
      subst heq
      rw [Option.some.injEq] at hresult
      subst hresult
      obtain ⟨name, hkind⟩ := hliteral
      exact ⟨⟨.literal name, hkind, rfl⟩, .inr ⟨definition, _, rfl, hlogged⟩⟩
    next =>
      exact h.kept_of_suffix hsuffix hresult
  case literals =>
    intro other node key hmem
    rcases List.mem_cons.mp hmem with heq | hmem
    · rw [Event.claimed.injEq] at heq
      rw [heq.2.1]
      exact hliteral
    · exact h.literals hmem
  case usable =>
    intro node scope hscope hidle hdelivers
    -- The parameter stands for the literal from now on, wherever the literal was emitted before.
    by_cases heq : literal = node
    · refine .inr ⟨definition, literal.localName, ?_⟩
      rw [Pass.valueOf, hresults, if_pos heq]
      rfl
    · have hvalue : (pass.claim definition literal).valueOf node = pass.valueOf node := by
        rw [Pass.valueOf, Pass.valueOf, hresults, if_neg heq]
      rw [hvalue]
      exact (h.usable hscope hidle hdelivers).imp_left
        fun hgrounded => hgrounded.mono hsuffix List.prefix_rfl
  case known =>
    intro node hmarked hkind _
    by_cases heq : literal = node
    · subst heq
      exact .inr ⟨definition, _, hlogged⟩
    · have hmarked' : node ∈ pass.initiated ∨ node ∈ pass.reached :=
        hmarked.imp (fun hmem => (List.mem_cons.mp hmem).resolve_left (Ne.symm heq))
          (fun hmem => (List.mem_cons.mp hmem).resolve_left (Ne.symm heq))
      exact h.known_of_suffix hsuffix hmarked' hkind (Option.some_ne_none node).symm
  case default =>
    intro other node key hmem hscope
    rw [hresults]
    split
    next => exact ⟨definition, _, rfl⟩
    next hne =>
      rcases List.mem_cons.mp hmem with heq | hmem
      · rw [Event.claimed.injEq] at heq
        exact absurd heq.2.1.symm hne
      · exact h.default hmem hscope
  case touched =>
    intro node other key hresult hidle
    rw [hresults] at hresult
    split at hresult
    next heq =>
      subst heq
      rw [Option.some.injEq, Expression.parameter.injEq] at hresult
      obtain ⟨rfl, rfl⟩ := hresult
      exact List.find?_cons_of_pos (decide_eq_true rfl)
    next hne =>
      exact (lastTouch_append (huntouched node (Ne.symm hne))).trans (h.touched hresult hidle)
  case asked =>
    intro node hbusy hdemand
    exact List.mem_cons_of_mem _ (h.asked hbusy hdemand)
  case placed =>
    intro node
    rw [show (pass.claim definition literal).scopes = pass.scopes from rfl, h.placed node]
    rfl
  case claims =>
    intro other node key hmem
    rcases List.mem_cons.mp hmem with heq | hmem
    · rw [Event.claimed.injEq] at heq
      exact heq.2.1 ▸ List.mem_cons_self ..
    · exact List.mem_cons_of_mem _ (h.claims hmem)
  case renewed =>
    intro node scope before hbefore
    rcases List.suffix_cons_iff.mp hbefore with heq | hbefore
    · cases heq
    · exact h.renewed hbefore
  case justified =>
    intro resolution before hbefore
    rcases List.suffix_cons_iff.mp hbefore with heq | hbefore
    · cases heq
    · exact h.justified hbefore

end Sound

end VisualScript
