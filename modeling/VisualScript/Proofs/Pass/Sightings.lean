import VisualScript.Proofs.Pass.Route

/-!
# What can be seen of earlier emissions

Only the scope that a node was last emitted into is remembered, while it may have been
emitted in several. Blocks open and close like parentheses, so of the emissions in sight
of the current block the last emission of the node is one, or it lies further inside.
A node that is emitted on demand is emitted again only where no emission is in sight.
-/

namespace VisualScript

/-! ## What a journal tells of bindings -/

/-- Whether an event begins an emission of a node or binds its local. -/
def Event.marks (node : NodeId) : Event → Bool
  | entered id _ => id = node
  | wrote written => written.statement.boundNode? = some node
  | _ => false

def lastMark (events : List Event) (node : NodeId) : Option Event :=
  events.find? (Event.marks node)

theorem lastScope_of_lastMark {events : List Event} {node : NodeId} {scope : ScopePath}
    (h : lastMark events node = some (.entered node scope)) :
    lastScope events node = some scope := by
  induction events with
  | nil => cases h
  | cons event rest ih =>
      by_cases hmarks : event.marks node = true
      · rw [lastMark, List.find?_cons_of_pos hmarks, Option.some.injEq] at h
        simp [lastScope, h, Event.scopeOf?]
      · rw [lastMark, List.find?_cons_of_neg hmarks] at h
        have hscope : event.scopeOf? node = none := by
          cases event with
          | entered id inner => simpa [Event.scopeOf?, Event.marks] using hmarks
          | _ => rfl
        rw [lastScope, List.findSome?_cons, hscope]
        exact ih h

/-- A consumer cannot see where a source was last emitted. Where it sees an earlier
emission, the source is one of the flow, and was last emitted further inside. -/
def OutOfSight (context : Context) (before : List Event) (consumer source : NodeId) : Prop :=
  ∃ scope last, lastScope before consumer = some scope ∧ lastScope before source = some last ∧
    ¬ last <+: scope ∧ ∀ outer, .entered source outer ∈ before → outer <+: scope →
      context.isOnDemand source = false ∧ outer <+: last

/-- What the journal before an event makes of it. Nodes that are emitted on demand are
emitted again only if they are pure, and out of sight; a node binds its local where its
last emission began, and once; and what is said to be out of sight is. -/
def Event.InOrder (context : Context) (before : List Event) : Event → Prop
  | entered node scope => context.isOnDemand node = true → ∀ outer, .entered node outer ∈ before →
      context.isPure node = true ∧ ¬ outer <+: scope
  | wrote written => ∀ node, written.statement.boundNode? = some node → node = written.node ∧
      lastMark before node = some (.entered node written.scope)
  | reported diagnostic => diagnostic.kind = .valueOutOfScope → ∃ consumer source,
      diagnostic = Diagnostic.of .valueOutOfScope (some consumer) (some source.text) ∧
        OutOfSight context before consumer source
  | _ => True

section Idle

variable {event : Event} {added events : List Event} {node : NodeId}

theorem Event.scopeOf?_of_isIdle (h : event.isIdle = true) : event.scopeOf? node = none := by
  cases event <;> first | rfl | cases h

theorem Event.marks_of_isIdle (h : event.isIdle = true) : event.marks node = false := by
  cases event with
  | wrote written =>
      rw [isIdle, Option.isNone_iff_eq_none] at h
      simp [marks, h]
  | entered id scope => cases h
  | _ => rfl

theorem Event.inOrder_of_isIdle {context : Context} (h : event.isIdle = true)
    (before : List Event) : event.InOrder context before := by
  cases event with
  | wrote written =>
      rw [isIdle, Option.isNone_iff_eq_none] at h
      intro id hbinds
      rw [h] at hbinds
      cases hbinds
  | reported diagnostic => exact fun hkind => absurd hkind (of_decide_eq_true h)
  | entered id scope => cases h
  | _ => exact trivial

theorem lastScope_append_of_isIdle (h : ∀ event ∈ added, event.isIdle = true) :
    lastScope (added ++ events) node = lastScope events node := by
  have hnone : added.findSome? (Event.scopeOf? node) = none := by
    rw [List.findSome?_eq_none_iff]
    intro event hmem
    exact Event.scopeOf?_of_isIdle (h event hmem)
  rw [lastScope, List.findSome?_append, hnone, Option.none_or]
  rfl

theorem lastMark_append_of_isIdle (h : ∀ event ∈ added, event.isIdle = true) :
    lastMark (added ++ events) node = lastMark events node := by
  have hnone : added.find? (Event.marks node) = none := by
    rw [List.find?_eq_none]
    intro event hmem
    rw [Event.marks_of_isIdle (h event hmem)]
    exact Bool.false_ne_true
  rw [lastMark, List.find?_append, hnone, Option.none_or]
  rfl

theorem entered_of_append_of_isIdle {scope : ScopePath} (h : ∀ event ∈ added, event.isIdle = true)
    (hmem : .entered node scope ∈ added ++ events) : .entered node scope ∈ events := by
  rcases List.mem_append.mp hmem with hmem | hmem
  · cases h _ hmem
  · exact hmem

end Idle

/-! ## Where nodes were emitted -/

/-- What holds of where nodes were emitted, as seen from the current block. -/
structure Scoped (context : Context) (pass : Pass) : Prop where
  rooted : pass.block.path ≠ []
  /-- The scope of a node is the one that it was last emitted into. -/
  placed : ∀ node, pass.scopes.get? node = lastScope pass.events node
  /-- Nodes emitted on demand were asked for. -/
  asked : ∀ {node}, context.isOnDemand node = true →
    (lastScope pass.events node).isSome = true ∨ node ∈ pass.emitting → node ∈ pass.initiated
  /-- Blocks that are opened later have scopes of their own. -/
  used : ∀ {node scope}, .entered node scope ∈ pass.events →
    scope ≠ [] ∧ scope < pass.block.path ++ [pass.block.children]
  /-- Where an emission is in sight, the last of the node lies there or further inside,
  and there if the node is emitted on demand. -/
  last : ∀ {node scope}, .entered node scope ∈ pass.events → scope <+: pass.block.path →
    ∃ last, lastScope pass.events node = some last ∧ scope <+: last ∧
      (context.isOnDemand node = true → last = scope)
  inOrder : ∀ {event before}, (event :: before) <:+ pass.events → event.InOrder context before

namespace Scoped

variable {context : Context} {pass next : Pass} {id : NodeId}

theorem of_still (h : Scoped context pass) {laid : List Written} (hstill : pass.Still laid next) :
    Scoped context next := by
  obtain ⟨added, hadded, hidle⟩ := hstill.journal
  have hlast : ∀ node, lastScope next.events node = lastScope pass.events node := by
    intro node
    rw [hadded]
    exact lastScope_append_of_isIdle hidle
  have hentered : ∀ {node scope}, .entered node scope ∈ next.events →
      .entered node scope ∈ pass.events := by
    intro node scope hmem
    rw [hadded] at hmem
    exact entered_of_append_of_isIdle hidle hmem
  constructor
  case rooted => exact hstill.path ▸ h.rooted
  case placed =>
    intro node
    rw [hstill.scopes, hlast]
    exact h.placed node
  case asked =>
    intro node hdemand hknown
    rw [hlast, hstill.emitting] at hknown
    exact hstill.initiated (h.asked hdemand hknown)
  case used =>
    intro node scope hmem
    rw [hstill.path, hstill.children]
    exact h.used (hentered hmem)
  case last =>
    intro node scope hmem hprefix
    rw [hstill.path] at hprefix
    rw [hlast]
    exact h.last (hentered hmem) hprefix
  case inOrder =>
    intro event before hsuffix
    rw [hadded] at hsuffix
    by_cases hmem : event ∈ added
    · exact Event.inOrder_of_isIdle (hidle event hmem) before
    · exact h.inOrder (suffix_of_suffix_append hmem hsuffix)

/-- Events that begin no emission may join the journal if they are in order. -/
theorem note (h : Scoped context pass) {event : Event}
    (hscope : ∀ node, event.scopeOf? node = none) (horder : event.InOrder context pass.events) :
    Scoped context (pass.log event) := by
  have hlast : ∀ node, lastScope (event :: pass.events) node = lastScope pass.events node := by
    intro node
    rw [lastScope, List.findSome?_cons, hscope]
    rfl
  have hentered : ∀ {node scope}, .entered node scope ∈ event :: pass.events →
      .entered node scope ∈ pass.events := by
    intro node scope hmem
    rcases List.mem_cons.mp hmem with rfl | hmem
    · have := hscope node
      simp [Event.scopeOf?] at this
    · exact hmem
  constructor
  case rooted => exact h.rooted
  case placed => exact fun node => (h.placed node).trans (hlast node).symm
  case asked => exact fun hdemand hknown => h.asked hdemand (hlast _ ▸ hknown)
  case used => exact fun hmem => h.used (hentered hmem)
  case last =>
    intro node scope hmem hprefix
    change ∃ last, lastScope (event :: pass.events) node = some last ∧ _
    rw [hlast]
    exact h.last (hentered hmem) hprefix
  case inOrder =>
    intro other before hsuffix
    rcases List.suffix_cons_iff.mp hsuffix with heq | hsuffix
    · rw [List.cons.injEq] at heq
      obtain ⟨rfl, rfl⟩ := heq
      exact horder
    · exact h.inOrder hsuffix

/-- A node binds its local in the block that its last emission began in. -/
theorem bind (h : Scoped context pass) {statement : Statement}
    (hbinds : statement.boundNode? = some id)
    (hmark : lastMark pass.events id = some (.entered id pass.block.path)) :
    Scoped context (pass.write id statement) := by
  let written : Written := ⟨pass.block.path, id, statement⟩
  have hlaid : Scoped context
      { pass with block := { pass.block with content := pass.block.content ++ [written] } } :=
    ⟨h.rooted, h.placed, h.asked, h.used, h.last, h.inOrder⟩
  refine hlaid.note (fun _ => rfl) fun node hnode => ?_
  cases hbinds.symm.trans hnode
  exact ⟨rfl, hmark⟩

/-- A node that is not in scope was last emitted into a scope that cannot be seen. -/
theorem hidden (h : Scoped context pass) (hhidden : pass.inScope id = false) :
    ∃ last, lastScope pass.events id = some last ∧ ¬ last <+: pass.block.path := by
  rw [Pass.inScope, h.placed] at hhidden
  cases hlast : lastScope pass.events id with
  | none =>
      rw [hlast] at hhidden
      cases hhidden
  | some last =>
      rw [hlast, Option.all_some] at hhidden
      refine ⟨last, rfl, fun hprefix => ?_⟩
      rw [Block.sees, List.isPrefixOf_iff_prefix.mpr hprefix] at hhidden
      cases hhidden

/-- What is said to be out of sight of a consumer is. -/
theorem refuse (h : Scoped context pass) {consumer source node : NodeId} {kind : DiagnosticKind}
    {detail : Option String} (hobjection : Objection context pass consumer source kind node detail)
    (hmark : lastMark pass.events consumer = some (.entered consumer pass.block.path)) :
    Scoped context (pass.report kind node detail) := by
  have hhidden : pass.inScope source = false → OutOfSight context pass.events consumer source := by
    intro hhidden
    obtain ⟨last, hlast, hunseen⟩ := h.hidden hhidden
    refine ⟨_, last, lastScope_of_lastMark hmark, hlast, hunseen, fun outer hmem hprefix => ?_⟩
    obtain ⟨other, hother, hinside, hsame⟩ := h.last hmem hprefix
    cases hlast.symm.trans hother
    refine ⟨?_, hinside⟩
    -- The one emission in sight of a node that is emitted on demand would be its last.
    cases hdemand : context.isOnDemand source with
    | false => rfl
    | true => exact absurd (hsame hdemand ▸ hprefix) hunseen
  refine h.note (fun _ => rfl) fun hkind => ?_
  cases hobjection with
  | boundElsewhere _ _ _ hidden => exact ⟨consumer, source, rfl, hhidden hidden⟩
  | executedElsewhere _ _ _ hidden => exact ⟨consumer, source, rfl, hhidden hidden⟩
  | needsItself => cases hkind
  | underWay => cases hkind
  | unreached => cases hkind

theorem initiate (h : Scoped context pass) (id : NodeId) : Scoped context (pass.initiate id) :=
  h.of_still (.initiate pass id)

/-- A node that is emitted on demand is entered if it was asked for, and was emitted
before only if it is pure and out of sight. -/
theorem enter (h : Scoped context pass) (id : NodeId)
    (hasked : context.isOnDemand id = true → id ∈ pass.initiated)
    (hclear : context.isOnDemand id = true → ∀ outer, .entered id outer ∈ pass.events →
      context.isPure id = true ∧ ¬ outer <+: pass.block.path) :
    Scoped context ((pass.reach id).enter id) := by
  have hlast : ∀ node, lastScope ((pass.reach id).enter id).events node =
      if id = node then some pass.block.path else lastScope pass.events node := by
    intro node
    change List.findSome? _ (.entered id pass.block.path :: pass.events) = _
    rw [List.findSome?_cons, Event.scopeOf?]
    by_cases heq : id = node
    · rw [if_pos heq, if_pos heq]
    · rw [if_neg heq, if_neg heq]
      rfl
  constructor
  case rooted => exact h.rooted
  case placed =>
    intro node
    rw [hlast, ← h.placed node]
    exact OrderedMap.get?_insert _ _ _ _
  case asked =>
    intro node hdemand hknown
    by_cases heq : id = node
    · exact heq ▸ hasked (heq ▸ hdemand)
    · rw [hlast, if_neg heq] at hknown
      apply h.asked hdemand
      exact hknown.imp_right fun hmem => (List.mem_cons.mp hmem).resolve_left (Ne.symm heq)
  case used =>
    intro node scope hmem
    rcases List.mem_cons.mp hmem with heq | hmem
    · cases heq
      exact ⟨h.rooted, lt_child_of_prefix List.prefix_rfl _⟩
    · exact h.used hmem
  case last =>
    intro node scope hmem hprefix
    rw [hlast]
    by_cases heq : id = node
    · subst heq
      refine ⟨_, if_pos rfl, hprefix, fun hdemand => ?_⟩
      rcases List.mem_cons.mp hmem with hnew | hold
      · cases hnew
        rfl
      · exact absurd hprefix (hclear hdemand _ hold).2
    · rw [if_neg heq]
      refine h.last ?_ hprefix
      rcases List.mem_cons.mp hmem with hnew | hold
      · cases hnew
        exact absurd rfl heq
      · exact hold
  case inOrder =>
    intro event before hsuffix
    rcases List.suffix_cons_iff.mp hsuffix with heq | hsuffix
    · rw [List.cons.injEq] at heq
      obtain ⟨rfl, rfl⟩ := heq
      exact hclear
    · exact h.inOrder hsuffix

theorem leave (h : Scoped context pass) (id : NodeId) : Scoped context (pass.leave id) := by
  have hless : Scoped context { pass with emitting := pass.emitting.filter (· ≠ id) } := by
    refine ⟨h.rooted, h.placed, fun hdemand hknown => ?_, h.used, h.last, h.inOrder⟩
    exact h.asked hdemand (hknown.imp_right fun hmem => (List.mem_filter.mp hmem).1)
  exact hless.note (fun _ => rfl) trivial

/-! Blocks open and close. -/

/-- A new block sees what the block around it sees, and nothing was emitted into it. -/
theorem openBlock (h : Scoped context pass) {block : Block} (hrooted : block.path ≠ [])
    (hused : ∀ {node scope}, .entered node scope ∈ pass.events → scope < block.path)
    (hseen : ∀ {node scope}, .entered node scope ∈ pass.events → scope <+: block.path →
      scope ≠ block.path → scope <+: pass.block.path) :
    Scoped context (pass.openBlock block) := by
  have hopened : Scoped context { pass with block := block } := by
    refine ⟨hrooted, h.placed, h.asked, ?_, ?_, h.inOrder⟩
    · intro node scope hmem
      refine ⟨(h.used hmem).1, List.lt_trans (hused hmem) ?_⟩
      exact lt_child_of_prefix List.prefix_rfl _
    · intro node scope hmem hprefix
      apply h.last hmem
      apply hseen hmem hprefix
      rintro rfl
      exact absurd (hused hmem) (List.lt_irrefl _)
  exact hopened.note (fun _ => rfl) trivial

theorem openChild (h : Scoped context pass) : Scoped context pass.openChild := by
  refine h.openBlock (by simp [Block.child]) (fun hmem => (h.used hmem).2) ?_
  intro node scope _ hprefix hne
  exact (List.prefix_concat_iff.mp hprefix).resolve_left hne

theorem openRoot (h : Scoped context pass) {index : Nat}
    (hused : ∀ {node scope}, .entered node scope ∈ pass.events → scope < [index]) :
    Scoped context (pass.openBlock (Block.root index)) := by
  refine h.openBlock (by simp [Block.root]) hused ?_
  intro node scope hmem hprefix hne
  have hwithin : scope <+: [] ++ [index] := hprefix
  have hnil := (List.prefix_concat_iff.mp hwithin).resolve_left hne
  exact absurd (List.prefix_nil.mp hnil) (h.used hmem).1

theorem backTo (h : Scoped context pass) {outer : Block} (hrooted : outer.path ≠ [])
    (hpath : pass.block.path = outer.path ++ [outer.children]) :
    Scoped context (pass.backTo outer) := by
  refine ⟨hrooted, h.placed, h.asked, ?_, ?_, h.inOrder⟩
  · intro node scope hmem
    obtain ⟨hne, hlt⟩ := h.used hmem
    refine ⟨hne, List.lt_trans hlt ?_⟩
    rw [hpath]
    exact grandchild_lt_child _ _ _
  · intro node scope hmem hprefix
    apply h.last hmem
    rw [hpath]
    exact hprefix.trans (List.prefix_append _ _)

end Scoped

namespace Pass

variable {context : Context} {pass middle next : Pass} {id : NodeId}

theorem Still.lastMark_eq {laid : List Written} (h : pass.Still laid next) (node : NodeId) :
    lastMark next.events node = lastMark pass.events node := by
  obtain ⟨added, hadded, hidle⟩ := h.journal
  rw [hadded]
  exact lastMark_append_of_isIdle hidle

/-- A block is the same, with as many blocks inside, and no emission of a node of the flow
began or bound anything, nor one of a node whose emission is under way. -/
structure Spares (context : Context) (pass next : Pass) : Prop where
  path : next.block.path = pass.block.path
  children : next.block.children = pass.block.children
  emitting : pass.emitting ⊆ next.emitting
  marks : ∀ {node}, context.isOnDemand node = false ∨ node ∈ pass.emitting →
    lastMark next.events node = lastMark pass.events node

namespace Spares

theorem of_still {laid : List Written} (h : pass.Still laid next) : Spares context pass next :=
  ⟨h.path, h.children, h.emitting ▸ List.Subset.refl _, fun _ => h.lastMark_eq _⟩

theorem trans (hfirst : Spares context pass middle) (hrest : Spares context middle next) :
    Spares context pass next where
  path := hrest.path.trans hfirst.path
  children := hrest.children.trans hfirst.children
  emitting := List.Subset.trans hfirst.emitting hrest.emitting
  marks hspared := (hrest.marks (hspared.imp_right fun hbusy => hfirst.emitting hbusy)).trans
    (hfirst.marks hspared)

end Spares

namespace Stores

variable {binds : Bool}

theorem path (h : pass.Stores id binds next) : next.block.path = pass.block.path := by
  cases h with
  | kept still => exact still.path
  | bound before _ after => exact after.path.trans before.path

theorem children (h : pass.Stores id binds next) : next.block.children = pass.block.children := by
  cases h with
  | kept still => exact still.children
  | bound before _ after => exact after.children.trans before.children

theorem emitting (h : pass.Stores id binds next) : next.emitting = pass.emitting := by
  cases h with
  | kept still => exact still.emitting
  | bound before _ after => exact after.emitting.trans before.emitting

theorem lastMark_eq (h : pass.Stores id binds next) {node : NodeId} (hne : node ≠ id) :
    lastMark next.events node = lastMark pass.events node := by
  cases h with
  | kept still => exact still.lastMark_eq node
  | @bound _ middle _ statement before binds after =>
      have hwrite : lastMark (middle.write id statement).events node =
          lastMark middle.events node := by
        apply List.find?_cons_of_neg
        simp [Event.marks, binds, Ne.symm hne]
      rw [after.lastMark_eq, hwrite, before.lastMark_eq]

end Stores

end Pass

namespace Scoped

variable {context : Context} {pass middle next : Pass} {id : NodeId}

theorem stores (h : Scoped context pass) {binds : Bool} (hstored : pass.Stores id binds next)
    (hmark : lastMark pass.events id = some (.entered id pass.block.path)) :
    Scoped context next := by
  cases hstored with
  | kept still => exact h.of_still still
  | bound before binds after =>
      have hmiddle := h.of_still before
      refine (hmiddle.bind binds ?_).of_still after
      rw [before.lastMark_eq, before.path]
      exact hmark

end Scoped

theorem lastMark_enter (pass : Pass) (id : NodeId) :
    lastMark ((pass.reach id).enter id).events id = some (.entered id pass.block.path) :=
  List.find?_cons_of_pos (decide_eq_true rfl)

theorem lastMark_enter_of_ne (pass : Pass) {id node : NodeId} (hne : node ≠ id) :
    lastMark ((pass.reach id).enter id).events node = lastMark pass.events node :=
  List.find?_cons_of_neg (by simp [Event.marks, Ne.symm hne])

/-- The emission of a node on demand leaves alone what errands do. -/
theorem Pass.Spares.aroundEmission {context : Context} {pass ready last : Pass} {id : NodeId}
    {binds : Bool} (hdemand : context.isOnDemand id = true) (hidle : id ∉ pass.emitting)
    (htaken : ((pass.reach id).enter id).Spares context ready)
    (hstored : ready.Stores id binds last) : pass.Spares context (last.leave id) where
  path := hstored.path.trans htaken.path
  children := hstored.children.trans htaken.children
  emitting := by
    intro node hbusy
    have hready := htaken.emitting (List.mem_cons_of_mem _ hbusy)
    rw [← hstored.emitting] at hready
    refine List.mem_filter.mpr ⟨hready, decide_eq_true ?_⟩
    rintro rfl
    exact hidle hbusy
  marks := by
    intro node hspared
    have hne : node ≠ id := by
      rintro rfl
      rcases hspared with hflow | hbusy
      · rw [hdemand] at hflow
        cases hflow
      · exact hidle hbusy
    calc lastMark (last.leave id).events node
        = lastMark last.events node := rfl
      _ = lastMark ready.events node := hstored.lastMark_eq hne
      _ = lastMark ((pass.reach id).enter id).events node :=
          htaken.marks (hspared.imp_right (List.mem_cons_of_mem _))
      _ = lastMark pass.events node := lastMark_enter_of_ne pass hne

/-- An errand keeps what holds of where nodes were emitted. -/
theorem Errand.scoped {context : Context} {consumer : NodeId} {pass next : Pass}
    (h : Errand context consumer pass next) (hscoped : Scoped context pass)
    (hmark : lastMark pass.events consumer = some (.entered consumer pass.block.path))
    (hspared : context.isOnDemand consumer = false ∨ consumer ∈ pass.emitting) :
    Scoped context next ∧ pass.Spares context next := by
  induction h with
  | still still => exact ⟨hscoped.of_still still, .of_still still⟩
  | trans _ _ ihfirst ihrest =>
      obtain ⟨hmiddle, hfirst⟩ := ihfirst hscoped hmark hspared
      have hrest := ihrest hmiddle (by rw [hfirst.marks hspared, hfirst.path, hmark])
        (hspared.imp_right fun hbusy => hfirst.emitting hbusy)
      exact ⟨hrest.1, hfirst.trans hrest.2⟩
  | refused objection =>
      refine ⟨hscoped.refuse objection hmark, rfl, rfl, List.Subset.refl _, fun _ => ?_⟩
      exact List.find?_cons_of_neg Bool.false_ne_true
  | @fresh _ node _ pass _ _ hosts demand new _ stored ih =>
      have hdemand : context.isOnDemand node.id = true := hosts.isOnDemand_eq.trans demand
      have hidle : node.id ∉ pass.emitting := fun hbusy => new (hscoped.asked hdemand (.inr hbusy))
      have hentered := (hscoped.initiate node.id).enter node.id
        (fun _ => List.mem_cons_self ..) fun _ outer hmem =>
          absurd (hscoped.asked hdemand (.inl (isSome_lastScope hmem))) new
      obtain ⟨hready, htaken⟩ := ih hentered (lastMark_enter _ _) (.inr (List.mem_cons_self ..))
      have hmark := (htaken.marks (.inr (List.mem_cons_self ..))).trans (lastMark_enter _ _)
      have hlast := hready.stores stored (by rw [hmark, htaken.path]; rfl)
      have hinitiated : pass.Spares context (pass.initiate node.id) := .of_still (.initiate _ _)
      exact ⟨hlast.leave _, hinitiated.trans (.aroundEmission hdemand hidle htaken stored)⟩
  | @again _ node _ pass _ _ hosts demand known idle hidden pure _ stored ih =>
      have hdemand : context.isOnDemand node.id = true := hosts.isOnDemand_eq.trans demand
      obtain ⟨last, hlast, hunseen⟩ := hscoped.hidden hidden
      have hentered := hscoped.enter node.id (fun _ => known) fun _ outer hmem => by
        refine ⟨pure, fun hprefix => hunseen ?_⟩
        obtain ⟨other, hother, _, hsame⟩ := hscoped.last hmem hprefix
        cases hlast.symm.trans hother
        exact hsame hdemand ▸ hprefix
      obtain ⟨hready, htaken⟩ := ih hentered (lastMark_enter _ _) (.inr (List.mem_cons_self ..))
      have hmark := (htaken.marks (.inr (List.mem_cons_self ..))).trans (lastMark_enter _ _)
      have hstored := hready.stores stored (by rw [hmark, htaken.path]; rfl)
      exact ⟨hstored.leave _, .aroundEmission hdemand idle htaken stored⟩

/-- A route keeps what holds of where nodes were emitted, and ends in the block it began in. -/
theorem Route.scoped {context : Context} {onChain : List NodeId} {leg : Leg} {pass next : Pass}
    (h : Route context onChain leg pass next) (hscoped : Scoped context pass) :
    Scoped context next ∧ next.block.path = pass.block.path := by
  induction h with
  | turnBack => exact ⟨hscoped.of_still (.of_edited (.report _ _ _)), rfl⟩
  | @chain _ node _ pass _ _ _ _ _ hosts flow taken stored _ _ ihexits ihonward =>
      have hflow : context.isOnDemand node.id = false := hosts.isOnDemand_eq.trans flow
      have hdemand : context.isOnDemand node.id = true → False := by
        rw [hflow]
        exact Bool.false_ne_true
      have hentered := hscoped.enter node.id (fun h => (hdemand h).elim)
        fun h => (hdemand h).elim
      obtain ⟨hready, hspares⟩ := taken.scoped hentered (lastMark_enter _ _) (.inl hflow)
      have hmark := (hspares.marks (.inl hflow)).trans (lastMark_enter _ _)
      have hstart := hready.stores stored (by rw [hmark, hspares.path]; rfl)
      obtain ⟨hlast, hexits⟩ := ihexits hstart
      obtain ⟨hnext, honward⟩ := ihonward (hlast.leave node.id)
      refine ⟨hnext, ?_⟩
      calc _ = _ := honward
        _ = _ := hexits
        _ = _ := stored.path
        _ = pass.block.path := hspares.path
  | stop => exact ⟨hscoped, rfl⟩
  | goOn _ ih => exact ih hscoped
  | unconnected => exact ⟨hscoped, rfl⟩
  | followed _ _ ih => exact ih hscoped
  | noItems => exact ⟨hscoped, rfl⟩
  | moreItems _ _ ihfirst ihothers =>
      obtain ⟨hmiddle, hfirst⟩ := ihfirst hscoped
      obtain ⟨hnext, hothers⟩ := ihothers hmiddle
      exact ⟨hnext, hothers.trans hfirst⟩
  | lacking => exact ⟨hscoped, rfl⟩
  | noBlocks => exact ⟨hscoped, rfl⟩
  | moreBlocks _ closed laid _ ihfollow ihothers =>
      obtain ⟨hlast, hinside⟩ := ihfollow hscoped.openChild
      have hinner := hlast.of_still closed
      have hback := hinner.backTo hscoped.rooted (closed.path.trans hinside)
      obtain ⟨hnext, hothers⟩ := ihothers (hback.of_still laid)
      exact ⟨hnext, hothers.trans laid.path⟩

/-! ## Tours -/

/-- Before a pass nothing was emitted. -/
theorem scoped_initial (context : Context) : Scoped context { block := Block.root 0 } where
  rooted := by simp [Block.root]
  placed _ := rfl
  asked _ hknown := by simp [lastScope] at hknown
  used hmem := by cases hmem
  last hmem := by cases hmem
  inOrder hsuffix := by cases List.suffix_nil.mp hsuffix

/-- The roots of a program do not see into each other. -/
theorem Tour.scoped {context : Context} (hwired : context.Wired) {index : Nat}
    {roots : List NodeId} {written : List Written} {pass next : Pass}
    (h : Tour context index roots written pass next) (hroots : ∀ id ∈ roots, context.IsFlow id)
    (hscoped : Scoped context pass)
    (hused : ∀ {node scope}, .entered node scope ∈ pass.events → scope < [index]) :
    Scoped context next := by
  induction h with
  | done => exact hscoped
  | @root index id _ _ _ middle _ first _ ih =>
      have hroute := first.routed hwired (hroots id (List.mem_cons_self ..))
      obtain ⟨hmiddle, hpath⟩ := hroute.scoped (hscoped.openRoot hused)
      apply ih (fun other hmem => hroots other (List.mem_cons_of_mem _ hmem)) hmiddle
      intro node scope hmem
      refine List.lt_trans (hmiddle.used hmem).2 ?_
      rw [hpath]
      exact grandchild_lt_child [] index _

end VisualScript
