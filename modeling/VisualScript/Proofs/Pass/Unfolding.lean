import VisualScript.Proofs.Pass.Frame
import VisualScript.Proofs.Pass.Outline

/-!
# Values without their bindings

Whether a value is bound to a local or put in place of its uses is a matter of
writing. Two ways to read the value at an input leave it out: the bindings that can
be seen are put back in place of the locals, and the value is read off the graph.
-/

namespace VisualScript

/-! ## Substitution -/

namespace Expression

mutual

/-- Put expressions in place of the locals in an expression. A call is put together anew. -/
def substitute (values : NodeId → Expression) : Expression → Expression
  | name node => values node
  | parameter definition key => parameter definition key
  | literal written => literal written
  | call function ⟨entries⟩ _ => ofCall function ⟨substituteIn values entries⟩

def substituteIn (values : NodeId → Expression) :
    List (String × Expression) → List (String × Expression)
  | [] => []
  | (key, value) :: rest => (key, value.substitute values) :: substituteIn values rest

end

mutual

/-- The nodes whose locals occur in an expression. -/
def names : Expression → List NodeId
  | name node => [node]
  | call _ ⟨entries⟩ _ => namesIn entries
  | _ => []

def namesIn : List (String × Expression) → List NodeId
  | [] => []
  | (_, value) :: rest => value.names ++ namesIn rest

end

/-- Induction over the parts of an expression. -/
theorem induct {motive : Expression → Prop} (name : ∀ node, motive (.name node))
    (parameter : ∀ definition key, motive (.parameter definition key))
    (literal : ∀ written, motive (.literal written))
    (call : ∀ function (arguments : OrderedMap String Expression) written,
      (∀ entry ∈ arguments.entries, motive entry.2) → motive (.call function arguments written))
    (value : Expression) : motive value := by
  refine @Expression.rec motive (fun arguments => ∀ entry ∈ arguments.entries, motive entry.2)
    (fun entries => ∀ entry ∈ entries, motive entry.2) (fun entry => motive entry.2)
    name parameter literal call ?_ ?_ ?_ ?_ value
  · exact fun entries hentries => hentries
  · exact List.forall_mem_nil _
  · exact fun entry rest hentry hrest => List.forall_mem_cons.mpr ⟨hentry, hrest⟩
  · exact fun key value hvalue => hvalue

theorem substituteIn_eq_map (values : NodeId → Expression) (entries : List (String × Expression)) :
    substituteIn values entries =
      entries.map fun entry => (entry.1, entry.2.substitute values) := by
  induction entries with
  | nil => rfl
  | cons entry rest ih => rw [List.map_cons, ← ih, substituteIn]

theorem namesIn_eq_flatMap (entries : List (String × Expression)) :
    namesIn entries = entries.flatMap fun entry => entry.2.names := by
  induction entries with
  | nil => rfl
  | cons entry rest ih => rw [List.flatMap_cons, ← ih, namesIn]

variable {values values' : NodeId → Expression}

theorem substitute_call (function : Callable) (arguments : OrderedMap String Expression)
    (written : String) : (call function arguments written).substitute values =
      ofCall function (arguments.mapValues (substitute values)) := by
  rw [substitute, substituteIn_eq_map]
  rfl

theorem mem_names_call {function : Callable} {arguments : OrderedMap String Expression}
    {written : String} {node : NodeId} : node ∈ (call function arguments written).names ↔
      ∃ entry ∈ arguments.entries, node ∈ entry.2.names := by
  rw [names, namesIn_eq_flatMap, List.mem_flatMap]

/-- What is put in place of locals that do not occur makes no difference. -/
theorem substitute_congr {value : Expression}
    (h : ∀ node ∈ value.names, values node = values' node) :
    value.substitute values = value.substitute values' := by
  induction value using induct with
  | name node => exact h node (List.mem_singleton_self node)
  | parameter definition key => rfl
  | literal written => rfl
  | call function arguments written ih =>
      rw [substitute_call, substitute_call]
      refine congrArg (ofCall function) (congrArg OrderedMap.mk ?_)
      refine List.map_congr_left fun entry hentry => congrArg (Prod.mk entry.1) ?_
      exact ih entry hentry fun node hnode => h node (mem_names_call.mpr ⟨entry, hentry, hnode⟩)

/-- The locals that occur after a substitution are those of what was put in place. -/
theorem mem_names_substitute {value : Expression} {node : NodeId} :
    node ∈ (value.substitute values).names ↔
      ∃ other ∈ value.names, node ∈ (values other).names := by
  induction value using induct with
  | name other => simp [substitute, names]
  | parameter definition key => simp [substitute, names]
  | literal written => simp [substitute, names]
  | call function arguments written ih =>
      rw [substitute_call, ofCall, mem_names_call]
      constructor
      · rintro ⟨entry, hentry, hnode⟩
        obtain ⟨part, hpart, rfl⟩ := List.mem_map.mp hentry
        obtain ⟨other, hother, hmem⟩ := (ih part hpart).mp hnode
        exact ⟨other, mem_names_call.mpr ⟨part, hpart, hother⟩, hmem⟩
      · rintro ⟨other, hother, hmem⟩
        obtain ⟨part, hpart, hother⟩ := mem_names_call.mp hother
        exact ⟨_, List.mem_map_of_mem hpart, (ih part hpart).mpr ⟨other, hother, hmem⟩⟩

end Expression

namespace OrderedMap

variable {Key Value Image : Type}

theorem map_put [DecidableEq Key] (f : Value → Image) (key : Key) (value : Value)
    (entries : List (Key × Value)) :
    (put key value entries).map (fun entry => (entry.1, f entry.2)) =
      put key (f value) (entries.map fun entry => (entry.1, f entry.2)) := by
  induction entries with
  | nil => rfl
  | cons entry rest ih =>
      by_cases hsame : entry.1 = key
      · simp [put, hsame]
      · simp [put, hsame, ih]

/-- Values may be changed before or after a list becomes a map. -/
theorem mapValues_ofList [DecidableEq Key] (f : Value → Image) (pairs : List (Key × Value)) :
    (ofList pairs).mapValues f = ofList (pairs.map fun pair => (pair.1, f pair.2)) := by
  suffices general : ∀ map : OrderedMap Key Value,
      (pairs.foldl (fun map pair => map.insert pair.1 pair.2) map).mapValues f =
        (pairs.map fun pair => (pair.1, f pair.2)).foldl
          (fun map pair => map.insert pair.1 pair.2) (map.mapValues f) from general .empty
  induction pairs with
  | nil => exact fun map => rfl
  | cons pair rest ih =>
      intro map
      rw [List.map_cons, List.foldl_cons, List.foldl_cons, ih]
      refine congrArg (List.foldl _ · _) ?_
      exact congrArg OrderedMap.mk (map_put f pair.1 pair.2 map.entries)

theorem mem_of_mem_entries_ofList [DecidableEq Key] {pairs : List (Key × Value)}
    {entry : Key × Value} (h : entry ∈ (ofList pairs).entries) : entry ∈ pairs :=
  mem_of_get?_ofList (get?_of_mem (DistinctKeys.ofList pairs) h)

end OrderedMap

theorem Expression.substitute_ofCall (values : NodeId → Expression) (function : Callable)
    (operands : List (String × Expression)) :
    (ofCall function (.ofList operands)).substitute values =
      ofCall function (.ofList (operands.map fun operand =>
        (operand.1, operand.2.substitute values))) := by
  rw [ofCall, substitute_call, OrderedMap.mapValues_ofList]

/-! ## Bindings -/

/-- A value that was bound to the local of a node in a scope. -/
structure Binding where
  scope : ScopePath
  node : NodeId
  value : Expression

/-- What the local of a node comes to in a scope: the value of the binding of the node
that is visible there, in which the same was done. Bindings are listed latest first. -/
def unfoldName : List Binding → ScopePath → NodeId → Expression
  | [], _, node => .name node
  | binding :: before, scope, node =>
      if binding.node = node ∧ binding.scope <+: scope then
        binding.value.substitute (unfoldName before binding.scope)
      else unfoldName before scope node

/-- The local of a node stays where no binding of the node is visible. -/
theorem unfoldName_of_forall {bound : List Binding} {scope : ScopePath} {node : NodeId}
    (h : ∀ binding ∈ bound, binding.node = node → ¬ binding.scope <+: scope) :
    unfoldName bound scope node = .name node := by
  induction bound with
  | nil => rfl
  | cons binding before ih =>
      obtain ⟨hfirst, hrest⟩ := List.forall_mem_cons.mp h
      rw [unfoldName, if_neg fun hvisible => hfirst hvisible.1 hvisible.2]
      exact ih hrest

/-- Scopes in which the same bindings are visible make no difference. -/
theorem unfoldName_congr {bound : List Binding} {scope scope' : ScopePath}
    (h : ∀ binding ∈ bound, binding.scope <+: scope ↔ binding.scope <+: scope') :
    unfoldName bound scope = unfoldName bound scope' := by
  funext node
  induction bound with
  | nil => rfl
  | cons binding before ih =>
      obtain ⟨hfirst, hrest⟩ := List.forall_mem_cons.mp h
      simp only [unfoldName, ih hrest, hfirst]

namespace Context

variable (context : Context)

/-- The binding of a pure node that an event writes. -/
def binding? : Event → Option Binding
  | .wrote ⟨scope, _, .bind node value⟩ =>
      if context.isPure node then some ⟨scope, node, value⟩ else none
  | _ => none

/-- The bindings of pure nodes in a journal. Events and bindings are listed latest first. -/
def bindings (events : List Event) : List Binding := events.filterMap context.binding?

/-- An expression in a scope, with the values of visible bindings in place of the locals
of pure nodes. -/
def unfold (events : List Event) (scope : ScopePath) (value : Expression) : Expression :=
  value.substitute (unfoldName (context.bindings events) scope)

/-- What the inputs took since the beginning of a pass, latest first: who took it where,
with the bindings unfolded that were visible then. -/
def substitutions : List Event → List (NodeId × String × Expression)
  | [] => []
  | .resolved resolution :: before =>
      (resolution.consumer, resolution.input,
        context.unfold before resolution.scope resolution.value) :: substitutions before
  | _ :: before => substitutions before

/-! ## Meanings -/

/-- An argument of a call, given what nodes mean. -/
def readArgument (meaning : NodeId → Expression) (node : Node) (argument : Argument) :
    Option (String × Expression) :=
  (context.typeOf? argument.type).map fun type =>
    (argument.name, match context.feed node.id argument.name with
      | .nothing => type.literalIn node argument.name
      | .parameter definition key => .parameter definition key
      | .value source => meaning source)

/-- What a literal or a call comes to, given what other nodes mean. -/
def read (meaning : NodeId → Expression) (node : Node) : ComponentKind → Expression
  | .literal name =>
      ((context.typeOf? name).map fun type => type.literalIn node keys.value).getD
        (.name node.id)
  | .call function =>
      .ofCall function (.ofList (function.arguments.filterMap (context.readArgument meaning node)))
  | _ => .name node.id

/-- What a node comes to, given what other nodes mean. -/
def readNode (meaning : NodeId → Expression) (id : NodeId) : Expression :=
  match context.graph.node? id, context.kind? id with
  | some node, some kind => context.read meaning node kind
  | _, _ => .name id

/-- What nodes mean at a time of a pass: a pure node what its operands made of it when it
was last emitted, or the parameter whose default it became since. -/
def meaning : List Event → NodeId → Expression
  | [], id => .name id
  | .finished other :: before, id =>
      if context.isPure id = true ∧ other = id then context.readNode (meaning before) id
      else meaning before id
  | .claimed definition literal key :: before, id =>
      if context.isPure id = true ∧ literal = id then .parameter definition key
      else meaning before id
  | _ :: before, id => meaning before id

/-- What the inputs took since the beginning of a pass, read off the graph. -/
def readings : List Event → List (NodeId × String × Expression)
  | [] => []
  | .resolved resolution :: before =>
      (resolution.consumer, resolution.input,
        if resolution.ofSource then context.meaning before resolution.source
        else resolution.value) :: readings before
  | _ :: before => readings before

/-! ## First facts -/

variable {context}

theorem isPure_of_mem_bindings {events : List Event} {binding : Binding}
    (h : binding ∈ context.bindings events) : context.isPure binding.node = true := by
  obtain ⟨event, _, hevent⟩ := List.mem_filterMap.mp h
  unfold binding? at hevent
  split at hevent
  next =>
    split at hevent
    next hpure =>
      cases hevent
      exact hpure
    next => cases hevent
  next => cases hevent

theorem meaning_of_isPure_eq_false {node : NodeId} (h : context.isPure node = false)
    (events : List Event) : context.meaning events node = .name node := by
  induction events with
  | nil => rfl
  | cons event before ih =>
      cases event with
      | finished other =>
          rw [meaning, if_neg (by simp [h])]
          exact ih
      | claimed definition literal key =>
          rw [meaning, if_neg (by simp [h])]
          exact ih
      | _ => exact ih

/-- Writing changes nothing of what nodes mean. -/
theorem meaning_append_of_isWriting {added : List Event} (events : List Event)
    (h : ∀ event ∈ added, event.isWriting = true) :
    context.meaning (added ++ events) = context.meaning events := by
  induction added with
  | nil => rfl
  | cons event rest ih =>
      obtain ⟨hfirst, hrest⟩ := List.forall_mem_cons.mp h
      rw [← ih hrest]
      funext id
      cases event <;> first | rfl | cases hfirst

/-! What is read off the graph depends on the outline of a journal alone. -/

theorem meaning_outline (events : List Event) :
    context.meaning (events.filterMap Event.outline?) = context.meaning events := by
  induction events with
  | nil => rfl
  | cons event before ih =>
      rw [List.filterMap_cons]
      funext id
      cases event with
      | finished other =>
          change context.meaning (.finished other :: before.filterMap _) id = _
          rw [meaning, meaning, ih]
      | claimed definition literal key =>
          change context.meaning (.claimed definition literal key :: before.filterMap _) id = _
          rw [meaning, meaning, ih]
      | reported diagnostic =>
          rcases Event.outline?_reported diagnostic with hnone | hsome
          · rw [hnone]
            exact congrFun ih id
          · rw [hsome]
            exact congrFun ih id
      | _ => exact congrFun ih id

theorem readings_outline (events : List Event) :
    context.readings (events.filterMap Event.outline?) = context.readings events := by
  induction events with
  | nil => rfl
  | cons event before ih =>
      rw [List.filterMap_cons]
      cases event with
      | resolved resolution =>
          change context.readings (.resolved _ :: before.filterMap _) = _
          rw [readings, readings, ih, meaning_outline]
          cases resolution.ofSource <;> rfl
      | reported diagnostic =>
          rcases Event.outline?_reported diagnostic with hnone | hsome
          · rw [hnone]
            exact ih
          · rw [hsome]
            exact ih
      | _ => exact ih

end Context

end VisualScript
