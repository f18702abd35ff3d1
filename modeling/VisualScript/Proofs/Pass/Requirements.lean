import VisualScript.Proofs.Pass.Edits
import VisualScript.Proofs.Pass.Separation
import VisualScript.Proofs.Program.LineTable

/-!
# What a program requires

Modules are required in many places, before and after other nodes are emitted for their
values. Which ones a node asks for can be read off the graph alone, and a pass requires just
what the nodes ask for that it emits.
-/

namespace VisualScript

/-- The modules of the type that an argument of a function is declared with: that of the
literal wired into it, else the one selected for it. -/
def Wiring.modules : Wiring → List String
  | byLiteral _ type _ => type.modules
  | typed type => type.modules
  | _ => []

namespace Context

/-- The modules of the type with a name, if there is one. -/
def typeModules (context : Context) (name : String) : List String :=
  ((context.typeOf? name).map LanguageType.modules).getD []

/-- The modules of the types of some arguments of a function that is called. -/
def argumentModules (context : Context) (arguments : List Argument) : List String :=
  arguments.flatMap fun argument => context.typeModules argument.type

/-- The modules of what some arguments of a function are declared with. -/
def parameterModules (context : Context) (node : Node) (indices : List Nat) : List String :=
  indices.flatMap fun index => (context.wiring node index).modules

/-- The modules that a node of a kind asks for. A call asks for those of its function and of
all types of the function, whether its operands are connected or entered as literals. A
variable asks for those of its type only if no value is connected to it. -/
def requirements (context : Context) (node : Node) : ComponentKind → List String
  | .literal name => context.typeModules name
  | .call function =>
      context.argumentModules function.arguments ++
        (context.typeModules function.result ++ function.modules)
  | .localVariable =>
      match context.feed node.id keys.value with
      | .nothing =>
          ((context.registry.getOrAny? (node.text? keys.typeName)).map LanguageType.modules).getD []
      | _ => []
  | .definition => context.parameterModules node (List.range (node.count keys.argumentCount))
  | _ => []

theorem typeModules_of_get? {context : Context} {name : String} {type : LanguageType}
    (h : context.typeOf? name = some type) : context.typeModules name = type.modules := by
  simp [typeModules, h]

/-- The modules of the first argument, if its type is known, come before the others. -/
theorem argumentModules_cons {context : Context} {argument : Argument} {rest : List Argument}
    {type : LanguageType} (h : context.typeOf? argument.type = some type) :
    context.argumentModules (argument :: rest) = type.modules ++ context.argumentModules rest := by
  simp [argumentModules, typeModules_of_get? h]

end Context

/-! ## Ledgers -/

/-- Whether an event says that a node is emitted or that modules are required. -/
def Event.isEntry : Event → Bool
  | entered _ _ => true
  | required _ => true
  | _ => false

/-- Whether an edit requires no modules. -/
def Edit.RequiresNothing : Edit → Prop
  | require _ => False
  | _ => True

namespace Pass

/-- Which nodes are emitted and which modules required, latest first. -/
def ledger (pass : Pass) : List Event := pass.events.filter Event.isEntry

variable (pass : Pass)

theorem Edited.ledger_eq {pass next : Pass} (h : pass.Edited Edit.RequiresNothing next) :
    next.ledger = pass.ledger := by
  refine h.same Pass.ledger fun pass edit hedit => ?_
  cases edit with
  | report | write | splice | setResult | dropResult | claim => rfl
  | require => cases hedit

@[simp] theorem ledger_enter (id : NodeId) :
    ((pass.reach id).enter id).ledger = .entered id pass.block.path :: pass.ledger := rfl

@[simp] theorem ledger_openBlock (block : Block) : (pass.openBlock block).ledger = pass.ledger :=
  rfl

@[simp] theorem ledger_checkLiteral (type : LanguageType) (node : Node) (key : String) :
    (pass.checkLiteral type node key).ledger = .required type.modules :: pass.ledger := by
  unfold checkLiteral
  split
  next => rfl
  next => rfl

@[simp] theorem ledger_requireCall (context : Context) (function : Callable) :
    (pass.requireCall context function).ledger =
      .required function.modules :: .required (context.typeModules function.result) ::
        pass.ledger := rfl

end Pass

/-- The modules that a journal requires. -/
def required (events : List Event) : List String := events.flatMap Event.modules

theorem Event.modules_of_isEntry {event : Event} (h : event.isEntry = false) :
    event.modules = [] := by
  cases event <;> first | rfl | cases h

theorem required_ledger (pass : Pass) : required pass.ledger = required pass.events := by
  rw [required, required, Pass.ledger]
  induction pass.events with
  | nil => rfl
  | cons event events ih =>
      cases hentry : event.isEntry with
      | true => simp [hentry, ih]
      | false => simp [hentry, ih, Event.modules_of_isEntry hentry]

theorem mem_ledger_entered {pass : Pass} {id : NodeId} {scope : ScopePath} :
    .entered id scope ∈ pass.ledger ↔ .entered id scope ∈ pass.events := by
  simp [Pass.ledger, Event.isEntry]

/-! ## What nodes provide for -/

variable {context : Context}

/-- A node of a kind was emitted. -/
structure Emitted (context : Context) (events : List Event) (node : Node) (kind : ComponentKind) :
    Prop where
  hosts : context.Hosts node kind
  entered : ∃ scope, .entered node.id scope ∈ events

theorem Emitted.mono {events later : List Event} {node : Node} {kind : ComponentKind}
    (h : Emitted context events node kind) (hlater : events ⊆ later) :
    Emitted context later node kind :=
  ⟨h.hosts, h.entered.imp fun _ hmem => hlater hmem⟩

/-- Between two states of a ledger, what was required is asked for by nodes that were emitted,
and nodes that were emitted meanwhile got what they ask for. -/
structure Provides (context : Context) (before after : List Event) : Prop where
  grows : before ⊆ after
  founded : ∀ name ∈ required after, name ∈ required before ∨
    ∃ node kind, Emitted context after node kind ∧ name ∈ context.requirements node kind
  met : ∀ node kind, Emitted context after node kind → Emitted context before node kind ∨
    context.requirements node kind ⊆ required after

theorem required_subset {events later : List Event} (h : events ⊆ later) :
    required events ⊆ required later := by
  intro name hname
  obtain ⟨event, hmem, hmodules⟩ := List.mem_flatMap.mp hname
  exact List.mem_flatMap.mpr ⟨event, h hmem, hmodules⟩

namespace Provides

variable {before middle after : List Event} {node : Node} {kind : ComponentKind}

theorem refl (events : List Event) : Provides context events events where
  grows := List.Subset.refl _
  founded _ h := .inl h
  met _ _ h := .inl h

theorem trans (hfirst : Provides context before middle) (hrest : Provides context middle after) :
    Provides context before after where
  grows := List.Subset.trans hfirst.grows hrest.grows
  founded := by
    intro name hname
    rcases hrest.founded name hname with hname | hfounded
    · rcases hfirst.founded name hname with hname | ⟨node, kind, hemitted, hasks⟩
      · exact .inl hname
      · exact .inr ⟨node, kind, hemitted.mono hrest.grows, hasks⟩
    · exact .inr hfounded
  met := by
    intro node kind hemitted
    rcases hrest.met node kind hemitted with hemitted | hmet
    · refine (hfirst.met node kind hemitted).imp_right fun hmet => ?_
      exact List.Subset.trans hmet (required_subset hrest.grows)
    · exact .inr hmet

/-- A node that is being emitted requires something that it asks for. -/
theorem require {modules : List String} (hemitted : Emitted context before node kind)
    (hasks : modules ⊆ context.requirements node kind) :
    Provides context before (.required modules :: before) where
  grows := List.subset_cons_self _ _
  founded := by
    intro name hname
    rw [required, List.flatMap_cons, List.mem_append] at hname
    rcases hname with hname | hname
    · exact .inr ⟨node, kind, hemitted.mono (List.subset_cons_self _ _), hasks hname⟩
    · exact .inl hname
  met := by
    rintro node kind ⟨hhosts, scope, hentered⟩
    simp only [List.mem_cons, reduceCtorEq, false_or] at hentered
    exact .inl ⟨hhosts, scope, hentered⟩

/-- A node is emitted, and in the end gets what it asks for. -/
theorem enter {scope : ScopePath} (hhosts : context.Hosts node kind)
    (h : Provides context (.entered node.id scope :: before) after)
    (hmet : context.requirements node kind ⊆ required after) : Provides context before after where
  grows := List.Subset.trans (List.subset_cons_self _ _) h.grows
  founded := h.founded
  met := by
    intro other kind' hemitted
    rcases h.met other kind' hemitted with ⟨hhosts', scope', hentered⟩ | hmet'
    · rcases List.mem_cons.mp hentered with heq | hentered
      · rw [Event.entered.injEq] at heq
        obtain ⟨rfl, rfl⟩ := hhosts.unique hhosts' heq.1.symm
        exact .inr hmet
      · exact .inl ⟨hhosts', scope', hentered⟩
    · exact .inr hmet'

end Provides

/-- A node that is being emitted and asks for some modules gets them. -/
def Grants (context : Context) (node : Node) (modules : List String) (before after : List Event) :
    Prop :=
  ∀ kind, Emitted context before node kind → modules ⊆ context.requirements node kind →
    Provides context before after ∧ modules ⊆ required after

namespace Grants

variable {before middle after : List Event} {node : Node} {modules more : List String}

/-- Nodes get nothing if they ask for nothing. -/
theorem nothing (h : Provides context before after) : Grants context node [] before after :=
  fun _ _ _ => ⟨h, List.nil_subset _⟩

theorem require : Grants context node modules before (.required modules :: before) :=
  fun _ hemitted hasks => ⟨.require hemitted hasks, List.subset_append_left _ _⟩

theorem append (hfirst : Grants context node modules before middle)
    (hrest : Grants context node more middle after) :
    Grants context node (modules ++ more) before after := by
  intro kind hemitted hasks
  rw [List.append_subset] at hasks
  obtain ⟨hprovides, hmet⟩ := hfirst kind hemitted hasks.1
  obtain ⟨hprovides', hmet'⟩ := hrest kind (hemitted.mono hprovides.grows) hasks.2
  have hkept := List.Subset.trans hmet (required_subset hprovides'.grows)
  exact ⟨hprovides.trans hprovides', List.append_subset.mpr ⟨hkept, hmet'⟩⟩

/-- What a node got it still has later. -/
theorem following (h : Grants context node modules before middle)
    (hrest : Provides context middle after) : Grants context node modules before after :=
  List.append_nil modules ▸ h.append (.nothing hrest)

/-- Getting the same twice is getting it. -/
theorem twice (hfirst : Grants context node modules before middle)
    (hrest : Grants context node modules middle after) :
    Grants context node modules before after := by
  intro kind hemitted hasks
  obtain ⟨hprovides, _⟩ := hfirst kind hemitted hasks
  obtain ⟨hprovides', hmet⟩ := hrest kind (hemitted.mono hprovides.grows) hasks
  exact ⟨hprovides.trans hprovides', hmet⟩

/-- An argument gets the modules of the type that it is declared with. -/
theorem declare (context : Context) (pass : Pass) (node : Node) (index : Nat) :
    Grants context node (context.wiring node index).modules pass.ledger
      (pass.declare node.id index (context.wiring node index)).ledger := by
  cases context.wiring node index with
  | byLiteral source type literal =>
      rw [Pass.declare, Pass.Edited.ledger_eq (.claim _ _ _), Pass.ledger_checkLiteral]
      exact require
  | unsupported source component => exact nothing (.refl _)
  | typed type => exact require
  | untyped => exact nothing (.refl _)

/-- A call gets the modules of its result and of its function. -/
theorem requireCall (context : Context) (pass : Pass) (function : Callable) (node : Node) :
    Grants context node (context.typeModules function.result ++ function.modules) pass.ledger
      (pass.requireCall context function).ledger := by
  rw [Pass.ledger_requireCall]
  exact append require require

/-- A variable without a value gets the modules of its type. -/
theorem declareTyped (context : Context) (pass : Pass) (node : Node) :
    Grants context node
      ((context.registry.getOrAny? (node.text? keys.typeName)).map LanguageType.modules |>.getD [])
      pass.ledger (pass.declareTyped context node).ledger := by
  cases htype : context.registry.getOrAny? (node.text? keys.typeName) with
  | none =>
      simp only [Pass.declareTyped, htype]
      exact nothing (.refl _)
  | some type =>
      simp only [Pass.declareTyped, htype]
      exact require

end Grants

/-! ## Walks -/

/-- What a piece of work provides for. The operands of a call get the modules of its argument
types, the parameters of a function those of what they are declared with, and an emitted node
all that it asks for. -/
def Task.Provides (context : Context) : Task → List Event → List Event → Prop
  | operands node arguments _ => Grants context node (context.argumentModules arguments)
  | parameters node _ indices => Grants context node (context.parameterModules node indices)
  | emission kind node => Grants context node (context.requirements node kind)
  | _ => VisualScript.Provides context

/-- Whether an input takes a value can be read off the graph. -/
theorem Walk.feed_of_input {onChain : List NodeId} {consumer : NodeId} {key : String}
    {value : Option Expression} {pass next : Pass}
    (h : Walk context onChain (.input consumer key value) pass next) :
    value = none ↔ context.feed consumer key = .nothing := by
  cases h with
  | unfed feed => simp [feed]
  | byParameter feed => simp [feed]
  | byValue feed => simp [feed]

/-- A variable asks for nothing if it takes a value. -/
theorem Context.requirements_of_feed {node : Node}
    (h : context.feed node.id keys.value ≠ .nothing) :
    context.requirements node .localVariable = [] := by
  cases hfeed : context.feed node.id keys.value with
  | nothing => exact absurd hfeed h
  | parameter definition name => simp [requirements, hfeed]
  | value source => simp [requirements, hfeed]

/-- Each walk provides for the nodes that it emits. -/
theorem Walk.provides {onChain : List NodeId} {task : Task} {pass next : Pass}
    (h : Walk context onChain task pass next) : task.Provides context pass.ledger next.ledger := by
  have hkept : ∀ {pass next : Pass}, pass.Edited Edit.RequiresNothing next →
      next.ledger = pass.ledger := Pass.Edited.ledger_eq
  induction h with
  | turnBack => exact .refl _
  | chainEnd _ _ ih => exact ih
  | chainOn _ _ _ ihvisit ihrest => exact ihvisit.trans ihrest
  | missing => exact .refl _
  | unknown => exact .refl _
  | @emitted _ id node component _ pass _ found known _ _ ih =>
      obtain rfl := Graph.id_of_node? found
      have hhosts : context.Hosts node component.kind := ⟨found, by simp [known]⟩
      have hentered : Emitted context ((pass.reach node.id).enter node.id).ledger node
          component.kind := ⟨hhosts, pass.block.path, by simp⟩
      -- From its entry on, the emission grants the node all that it asks for.
      obtain ⟨hprovides, hmet⟩ := ih _ hentered (List.Subset.refl _)
      rw [Pass.ledger_enter] at hprovides
      exact Provides.enter hhosts hprovides hmet
  | unconnected => exact .refl _
  | followed _ _ ih => exact ih
  | @inside _ id _ pads pass last next _ close ih =>
      have hclosed := hkept (.paddedIf last id pads)
      rw [← close] at hclosed
      change VisualScript.Provides context pass.ledger next.ledger
      rw [hclosed]
      exact ih
  | noExits => exact .refl _
  | moreExits _ _ ihfirst ihothers => exact ihfirst.trans ihothers
  | settled => exact .refl _
  | fresh _ _ _ ih => exact ih
  | again _ _ _ _ _ _ ih => exact ih
  | refused => exact .refl _
  | unfed => exact .refl _
  | byParameter => exact .refl _
  | byValue _ _ ih => exact ih
  | found _ ih => exact ih
  | lacking _ ih => exact ih
  | noOperands => exact .nothing (.refl _)
  | @untypedOperand _ _ argument rest _ _ _ unknown _ ih =>
      have hnothing : context.argumentModules (argument :: rest) =
          context.argumentModules rest := by
        simp [Context.argumentModules, Context.typeModules, unknown]
      rw [Task.Provides, hnothing]
      exact ih
  | optionalOperand known _ _ _ ihinput ihothers =>
      rw [Task.Provides, Context.argumentModules_cons known]
      exact (Grants.require.following ihinput).append ihothers
  | enteredOperand known _ _ _ ihinput ihothers =>
      rw [Task.Provides, Context.argumentModules_cons known]
      rw [Pass.ledger_checkLiteral] at ihothers
      exact ((Grants.require.following ihinput).twice .require).append ihothers
  | requiredOperand known _ _ _ ihinput ihothers =>
      rw [Task.Provides, Context.argumentModules_cons known]
      exact (Grants.require.following ihinput).append ihothers
  | lackingOperand known _ _ _ ihinput ihothers =>
      rw [Task.Provides, Context.argumentModules_cons known]
      rw [Pass.ledger_checkLiteral] at ihothers
      exact ((Grants.require.following ihinput).twice .require).append ihothers
  | noParameters => exact .nothing (.refl _)
  | @moreParameters _ node _ index _ pass _ _ ih =>
      rw [hkept (.noteDuplicate _ _ _ _)] at ih
      exact (Grants.declare context pass node index).append ih
  | unknownLiteral unknown =>
      simpa [Task.Provides, Context.requirements, Context.typeModules, unknown] using
        Grants.nothing (.refl _)
  | literal known =>
      rw [Task.Provides, Context.requirements, Context.typeModules_of_get? known,
        hkept (.keep _ _ _ _), Pass.ledger_checkLiteral]
      exact .require
  | @call _ function node _ _ next _ ih =>
      rw [hkept (.placeCall _ _ _ _ _)]
      exact Grants.append ih (.requireCall context next function node)
  | declared input ih =>
      rw [Task.Provides, Context.requirements_of_feed, hkept (.write _ _ _)]
      · exact .nothing ih
      · intro hfeed
        cases input.feed_of_input.mpr hfeed
  | @declaredTyped _ node pass next input ih =>
      rw [Task.Provides, Context.requirements, input.feed_of_input.mp rfl]
      exact Grants.append (.nothing ih) (.declareTyped context next node)
  | bareBranch _ ih => exact .nothing ih
  | branch _ _ _ ihcondition ihthen ihelse =>
      rw [hkept (.write _ _ _)] at ihthen
      rw [hkept (.closeThen _ _ _)] at ihelse
      rw [Task.Provides, hkept (.closeElse _ _ _)]
      exact .nothing ((ihcondition.trans ihthen).trans ihelse)
  | bareLoop _ ih => exact .nothing ih
  | loop _ _ ihcondition ihbody =>
      rw [hkept (.write _ _ _)] at ihbody
      exact .nothing (ihcondition.trans ihbody)
  | sequence _ ih => exact .nothing ih
  | definition _ _ ihparameters ihbody =>
      rw [hkept (.writeHeader _ _ _ _)] at ihbody
      exact Grants.following ihparameters ihbody
  | code =>
      rw [hkept (.writeCode _ _)]
      exact .nothing (.refl _)
  | topLevelCode _ ih =>
      rw [hkept (.writeCode _ _)] at ih
      exact .nothing ih

theorem Tour.provides {index : Nat} {roots : List NodeId} {written : List Written}
    {pass next : Pass} (h : Tour context index roots written pass next) :
    Provides context pass.ledger next.ledger := by
  induction h with
  | done => exact .refl _
  | root first _ ih =>
      have hfirst := first.provides
      rw [Pass.ledger_openBlock] at hfirst
      exact hfirst.trans ih

/-! ## Compilations -/

/-- In a whole pass, just what the emitted nodes ask for is required. -/
theorem Provides.mem_required_iff {after : List Event} (h : Provides context [] after)
    {name : String} : name ∈ required after ↔
      ∃ node kind, Emitted context after node kind ∧ name ∈ context.requirements node kind := by
  constructor
  · intro hname
    rcases h.founded name hname with hnothing | hfounded
    · cases hnothing
    · exact hfounded
  · rintro ⟨node, kind, hemitted, hasks⟩
    rcases h.met node kind hemitted with ⟨_, scope, hnothing⟩ | hmet
    · cases hnothing
    · exact hmet hasks

/-- The journal of a compilation tells of the same emissions as the ledger of its pass. -/
theorem emitted_journal_iff {written : List Written} {pass : Pass} {node : Node}
    {kind : ComponentKind} : Emitted context (Compilation.ofPass written pass).journal node kind ↔
      Emitted context pass.ledger node kind := by
  have hentered : ∀ scope, .entered node.id scope ∈ (Compilation.ofPass written pass).journal ↔
      .entered node.id scope ∈ pass.ledger := by
    intro scope
    rw [mem_ledger_entered]
    exact List.mem_reverse
  constructor
  · rintro ⟨hhosts, scope, hmem⟩
    exact ⟨hhosts, scope, (hentered scope).mp hmem⟩
  · rintro ⟨hhosts, scope, hmem⟩
    exact ⟨hhosts, scope, (hentered scope).mpr hmem⟩

namespace Compilation

/-- The text of a header: a line for each module in order, and an empty line behind them if
there are any. -/
theorem text_of_header (modules : List String) :
    String.join ((header modules).map fun line => line.text ++ "\n") =
      String.join (modules.map fun name => "require " ++ name ++ "\n") ++
        if modules.isEmpty then "" else "\n" := by
  cases modules with
  | nil => simp [header]
  | cons name rest => simp [header, Function.comp_def, String.append_assoc]

end Compilation

namespace Language

variable {language : Language} {options : CompileOptions} {graph : Graph}
  {compilation : Compilation}

/-- A program requires, each once, the modules that the emitted nodes ask for. Its text begins
with a line for each of them and an empty line behind these, or with neither, and goes on with
the lines of nodes. -/
theorem modules_of_compile (h : language.compile options graph = .ok compilation) :
    compilation.modules.Nodup ∧
    (∀ name, name ∈ compilation.modules ↔ ∃ node kind,
      Emitted (language.context options graph) compilation.journal node kind ∧
        name ∈ (language.context options graph).requirements node kind) ∧
    (∀ line ∈ compilation.body, ∃ id, line.node = some id) ∧
    compilation.code =
      String.join (compilation.modules.map fun name => "require " ++ name ++ "\n") ++
        (if compilation.modules.isEmpty then "" else "\n") ++
        String.join (compilation.body.map fun line => line.text ++ "\n") := by
  obtain ⟨written, pass, _, rfl, htour⟩ := tour_of_compile h
  refine ⟨nodup_appendAllNew List.nodup_nil, fun name => ?_, ?_, ?_⟩
  · have hmodules : name ∈ pass.modules ↔ name ∈ required pass.ledger := by
      rw [required_ledger]
      rfl
    rw [Compilation.mem_modules_ofPass, hmodules, htour.provides.mem_required_iff]
    simp only [emitted_journal_iff]
  · intro line hline
    rw [Compilation.body_ofPass] at hline
    obtain ⟨statement, _, hmem⟩ := List.mem_flatMap.mp hline
    obtain ⟨piece, _, rfl⟩ := List.mem_map.mp hmem
    exact ⟨statement.node, rfl⟩
  · rw [Compilation.code, Compilation.lines_ofPass, List.map_append, String.join_append,
      Compilation.text_of_header, Compilation.body_ofPass]

/-- The module of an argument's type is required for the function with the argument, in the
first line of the program. -/
theorem modules_oneArgument : ∃ compilation rest,
    (requiring "math").compile {} oneArgument = .ok compilation ∧
    compilation.modules = ["math"] ∧ compilation.code = "require math\n\n" ++ rest ∧
    ∃ node kind, Emitted ((requiring "math").context {} oneArgument) compilation.journal node kind ∧
      "math" ∈ ((requiring "math").context {} oneArgument).requirements node kind := by
  obtain ⟨compilation, hcompiled, hmodules⟩ : ∃ compilation,
      (requiring "math").compile {} oneArgument = .ok compilation ∧
        compilation.modules = ["math"] := ⟨_, rfl, rfl⟩
  obtain ⟨_, hrequired, _, hcode⟩ := modules_of_compile hcompiled
  rw [hmodules] at hrequired hcode
  exact ⟨compilation, _, hcompiled, hmodules, hcode, (hrequired "math").mp (by simp)⟩

end Language

end VisualScript
