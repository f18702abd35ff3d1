import VisualScript.Proofs.Pass.Arrival
import VisualScript.Proofs.Pass.Completeness

/-!
# The journals of the roots

A tour that reports nothing tells of one root after another. The journal of a root
begins with its heading, where a function makes the literals that are wired into its
arguments defaults, and goes on with its body.
-/

namespace VisualScript

namespace Context

/-- A function makes a literal the default of one of its parameters. -/
def Claims (context : Context) (definition literal : NodeId) : Prop :=
  ∃ node index type found, context.graph.node? definition = some node ∧
    context.kind? definition = some .definition ∧ index < node.count keys.argumentCount ∧
    context.wiring node index = .byLiteral literal type found

/-- How the parameters of a function are declared in its header. -/
def declarations (context : Context) (node : Node) : List String :=
  (List.range (node.count keys.argumentCount)).map
    fun index => (context.wiring node index).declaration index

end Context

/-- The header that a function wrote into a root block declares a parameter, with its
default or with its type. -/
def Announced (context : Context) (events : List Event) (index : Nat) (definition : NodeId)
    (key : String) : Prop :=
  ∃ (node : Node) (name : String) (declarations : List String) (position : Nat) (rest : String),
    context.graph.node? definition = some node ∧
    .wrote ⟨[index], definition, .definition name declarations⟩ ∈ events ∧
    (context.parameterNames node)[position]? = some key ∧
    (declarations[position]? = some (key ++ " = " ++ rest) ∨
      declarations[position]? = some (key ++ ": " ++ rest))

theorem Announced.mono {context : Context} {events later : List Event} {index : Nat}
    {definition : NodeId} {key : String} (h : Announced context events index definition key)
    (hlater : events ⊆ later) : Announced context later index definition key := by
  obtain ⟨node, name, declarations, position, rest, hfound, hwrote, hreads⟩ := h
  exact ⟨node, name, declarations, position, rest, hfound, hlater hwrote, hreads⟩

/-- What happens where a function is declared: literals become defaults. -/
def Event.InHeading (context : Context) (definition : NodeId) (event : Event) : Prop :=
  event.isWriting = true ∨ ∃ literal, context.Claims definition literal ∧
    event = .claimed definition literal literal.localName

/-- What the journal of a pass tells of one root: the heading, then the body. -/
structure RootJournal (context : Context) (index : Nat) (root : NodeId)
    (heading body : List Event) : Prop where
  inHeading : ∀ event ∈ heading, event.InHeading context root
  inBody : ∀ event ∈ body, event.InBody context root [index]
  claims : ∀ {literal}, context.Claims root literal →
    .claimed root literal literal.localName ∈ heading
  header : ∀ {node key}, context.graph.node? root = some node →
    context.kind? root = some .definition → key ∈ context.parameterNames node →
      Announced context body index root key

/-! ## Headings -/

/-- What happens where some arguments of a function are declared. -/
def Event.Declares (context : Context) (node : Node) (indices : List Nat) (event : Event) : Prop :=
  event.isWriting = true ∨ ∃ index ∈ indices, ∃ literal type found,
    context.wiring node index = .byLiteral literal type found ∧
      event = .claimed node.id literal literal.localName

theorem Event.Declares.cons {context : Context} {node : Node} {indices : List Nat}
    {event : Event} (h : event.Declares context node indices) (index : Nat) :
    event.Declares context node (index :: indices) := by
  refine h.imp_right ?_
  rintro ⟨other, hmem, hclaimed⟩
  exact ⟨other, List.mem_cons_of_mem _ hmem, hclaimed⟩

/-- What a heading tells of the arguments of a function. -/
def Task.Heads (context : Context) : Task → Pass → Pass → Prop
  | parameters node _ indices, pass, next => ∃ heading, next.events = heading ++ pass.events ∧
      (∀ event ∈ heading, event.Declares context node indices) ∧
      ∀ index ∈ indices,
        (∃ literal type found, context.wiring node index = .byLiteral literal type found ∧
          .claimed node.id literal literal.localName ∈ heading) ∨
        ∃ type, context.wiring node index = .typed type
  | _, _, _ => True

theorem CleanWalk.heads {context : Context} {onChain : List NodeId} {task : Task}
    {pass next : Pass} (h : CleanWalk context onChain task pass next) :
    task.Heads context pass next := by
  -- Only the pieces that declare parameters say anything, and each adds its own event in front of
  -- what the earlier ones told.
  induction h with
  | noParameters => exact ⟨[], rfl, nofun, nofun⟩
  | @literalParameter _ node _ index rest source type literal pass next wiring _ _ others ih =>
      obtain ⟨heading, hheading, hdeclares, hheads⟩ := ih
      let first : List Event :=
        [.claimed node.id source source.localName, .required type.modules]
      refine ⟨heading ++ first, ?_, fun event hmem => ?_, fun other hmem => ?_⟩
      · rw [hheading, List.append_assoc]
        rfl
      · rcases List.mem_append.mp hmem with hmem | hmem
        · exact (hdeclares event hmem).cons index
        · rcases List.mem_cons.mp hmem with rfl | hmem
          · exact .inr ⟨index, List.mem_cons_self .., source, type, literal, wiring, rfl⟩
          · exact .inl (List.mem_singleton.mp hmem ▸ rfl)
      · rcases List.mem_cons.mp hmem with rfl | hmem
        · exact .inl ⟨source, type, literal, wiring,
            List.mem_append_right _ (List.mem_cons_self ..)⟩
        · refine (hheads other hmem).imp_left ?_
          rintro ⟨literal, type, found, hwiring, hclaimed⟩
          exact ⟨literal, type, found, hwiring, List.mem_append_left _ hclaimed⟩
  | @typedParameter _ node _ index rest type pass next wiring _ others ih =>
      obtain ⟨heading, hheading, hdeclares, hheads⟩ := ih
      refine ⟨heading ++ [.required type.modules], ?_, fun event hmem => ?_, fun other hmem => ?_⟩
      · rw [hheading, List.append_assoc]
        rfl
      · rcases List.mem_append.mp hmem with hmem | hmem
        · exact (hdeclares event hmem).cons index
        · exact .inl (List.mem_singleton.mp hmem ▸ rfl)
      · rcases List.mem_cons.mp hmem with rfl | hmem
        · exact .inr ⟨type, wiring⟩
        · refine (hheads other hmem).imp_left ?_
          rintro ⟨literal, type, found, hwiring, hclaimed⟩
          exact ⟨literal, type, found, hwiring, List.mem_append_left _ hclaimed⟩
  | _ => exact trivial

/-- How a declared parameter reads. -/
theorem exists_declaration {context : Context} {node : Node} {index : Nat}
    (h : (∃ literal type found, context.wiring node index = .byLiteral literal type found) ∨
      ∃ type, context.wiring node index = .typed type) :
    ∃ rest, (context.wiring node index).declaration index =
        (context.wiring node index).name index ++ " = " ++ rest ∨
      (context.wiring node index).declaration index =
        (context.wiring node index).name index ++ ": " ++ rest := by
  rcases h with ⟨literal, type, found, hwiring⟩ | ⟨type, hwiring⟩
  · refine ⟨(type.literalIn found keys.value).text, .inl ?_⟩
    rw [hwiring]
    rfl
  · refine ⟨type.displayName, .inr ?_⟩
    rw [hwiring]
    rfl

theorem Pass.events_writeHeader (context : Context) (pass : Pass) (node : Node)
    (declarations : List String) :
    ∃ header, (pass.writeHeader context node declarations).events = header ++ pass.events ∧
      (∀ event ∈ header, event.isWriting = true) ∧
      .wrote ⟨pass.block.path, node.id,
        .definition ((node.text? keys.functionName).getD "") declarations⟩ ∈ header := by
  unfold Pass.writeHeader
  split
  next =>
    refine ⟨[_, .wrote ⟨pass.block.path, node.id, .exportMark⟩], rfl, ?_, List.mem_cons_self ..⟩
    exact List.forall_mem_cons.mpr ⟨rfl, List.forall_mem_singleton.mpr rfl⟩
  next =>
    refine ⟨[_], rfl, ?_, List.mem_cons_self ..⟩
    exact List.forall_mem_singleton.mpr rfl

/-- The header of a function announces all its parameters. -/
theorem announced_of_wrote {context : Context} {node : Node} {index : Nat} {name key : String}
    {events : List Event} (hosts : context.Hosts node .definition)
    (hwired : ∀ index ∈ List.range (node.count keys.argumentCount),
      (∃ literal type found, context.wiring node index = .byLiteral literal type found) ∨
        ∃ type, context.wiring node index = .typed type)
    (hwrote : .wrote ⟨[index], node.id, .definition name (context.declarations node)⟩ ∈ events)
    (hkey : key ∈ context.parameterNames node) :
    Announced context events index node.id key := by
  obtain ⟨position, hposition⟩ := List.mem_iff_getElem?.mp hkey
  have hnamed := hposition
  rw [Context.parameterNames_eq, List.getElem?_map, Option.map_eq_some_iff] at hnamed
  obtain ⟨argument, hargument, rfl⟩ := hnamed
  obtain ⟨rest, hreads⟩ := exists_declaration (hwired argument (List.mem_of_getElem? hargument))
  refine ⟨node, name, _, position, rest, hosts.found, hwrote, hposition, ?_⟩
  rw [Context.declarations, List.getElem?_map, hargument, Option.map_some]
  exact hreads.imp (congrArg some) (congrArg some)

open Pass in
/-- What a function tells: its heading, and a body that begins with its header. -/
theorem CleanWalk.journal_of_definition {context : Context} (hwired : context.Wired)
    {onChain : List NodeId} {node : Node} {index : Nat} {pass next : Pass}
    (hosts : context.Hosts node .definition) (hpath : pass.block.path = [index])
    (h : CleanWalk context onChain (.emission .definition node) pass next) :
    ∃ heading body, next.events = body ++ heading ++ pass.events ∧
      RootJournal context index node.id heading body := by
  cases h with
  | @definition _ _ inner _ start last _ parameters body =>
      obtain ⟨heading, hheading, hdeclares, hheads⟩ := parameters.heads
      obtain ⟨header, hheader, hwriting, hwrote⟩ :=
        events_writeHeader context start node (context.declarations node)
      have hstart : start.block.path = [index] := parameters.extends.path.trans hpath
      have hwritten : start.Quiet (start.writeHeader context node (context.declarations node)) :=
        .writeHeader _ _ _ _
      have hscope : [index] <+:
          (start.writeHeader context node (context.declarations node)).block.path :=
        (hwritten.path.trans hstart) ▸ List.prefix_rfl
      have hended : last.Adds (Event.InBody context node.id [index])
          ((last.splice inner).write node.id .blank) :=
        .of_writing Event.inBody_of_isWriting (.trans (.splice _ _) (.write _ _ _))
      obtain ⟨added, hadded, hinBody⟩ := (body.inBody hwired (.inl rfl) hscope).trans hended
      rw [hstart] at hwrote
      refine ⟨heading, added ++ header, ?_, ?_, ?_, ?_, ?_⟩
      · rw [hadded]
        change added ++ (start.writeHeader context node (context.declarations node)).events = _
        rw [hheader, hheading]
        simp only [List.append_assoc]
      · intro event hmem
        refine (hdeclares event hmem).imp_right ?_
        rintro ⟨argument, hcounted, literal, type, found, hwiring, heq⟩
        exact ⟨literal, ⟨node, argument, type, found, hosts.found, hosts.kind?,
          List.mem_range.mp hcounted, hwiring⟩, heq⟩
      · intro event hmem
        rcases List.mem_append.mp hmem with hmem | hmem
        · exact hinBody event hmem
        · exact Event.inBody_of_isWriting (hwriting event hmem)
      -- What is wired into an argument decides alone whether a default is claimed for it.
      · rintro literal ⟨other, argument, type, found, hfound, _, hcounted, hwiring⟩
        cases Option.some.inj (hosts.found.symm.trans hfound)
        rcases hheads argument (List.mem_range.mpr hcounted) with hclaimed | ⟨other, htyped⟩
        · obtain ⟨source, _, _, hsource, hmem⟩ := hclaimed
          cases hsource.symm.trans hwiring
          exact hmem
        · cases hwiring.symm.trans htyped
      · intro found key hfound _ hkey
        cases Option.some.inj (hfound.symm.trans hosts.found)
        refine announced_of_wrote hosts (fun argument hmem => ?_)
          (List.mem_append_right _ hwrote) hkey
        refine (hheads argument hmem).imp_left ?_
        rintro ⟨literal, type, found, hwiring, _⟩
        exact ⟨literal, type, found, hwiring⟩

open Pass in
/-- What code at the top level tells: a body only. -/
theorem CleanWalk.journal_of_topLevelCode {context : Context} (hwired : context.Wired)
    {onChain : List NodeId} {node : Node} {index : Nat} {pass next : Pass}
    (hosts : context.Hosts node .topLevelCode) (hpath : pass.block.path = [index])
    (h : CleanWalk context onChain (.emission .topLevelCode node) pass next) :
    ∃ heading body, next.events = body ++ heading ++ pass.events ∧
      RootJournal context index node.id heading body := by
  cases h with
  | @topLevelCode _ _ inner _ last _ body =>
      have hwritten : pass.Quiet (pass.writeCode node) := .writeCode _ _
      have hscope : [index] <+: (pass.writeCode node).block.path :=
        (hwritten.path.trans hpath) ▸ List.prefix_rfl
      have hcode : pass.Adds (Event.InBody context node.id [index]) (pass.writeCode node) :=
        .of_silent Event.inBody_of_isWriting hwritten.toSilent
      have hspliced : last.Adds (Event.InBody context node.id [index]) (last.splice inner) :=
        .of_silent Event.inBody_of_isWriting (.splice _ _)
      obtain ⟨added, hadded, hinBody⟩ :=
        (hcode.trans (body.inBody hwired (.inl rfl) hscope)).trans hspliced
      refine ⟨[], added, by rw [hadded, List.append_nil], nofun, hinBody, ?_, ?_⟩
      · rintro literal ⟨_, _, _, _, _, hknown, _⟩
        cases hknown.symm.trans hosts.kind?
      · intro found key _ hknown
        cases hknown.symm.trans hosts.kind?

/-- A root is entered and tells its journal. -/
theorem CleanWalk.rootJournal {context : Context} (hwired : context.Wired) {root : NodeId}
    {kind : ComponentKind} {index : Nat} {pass next : Pass}
    (hknown : context.kind? root = some kind) (htop : kind.isTopLevel = true)
    (hpath : pass.block.path = [index]) (h : CleanWalk context [] (.chain root) pass next) :
    ∃ heading body, next.events = body ++ heading ++ .entered root [index] :: pass.events ∧
      RootJournal context index root heading body := by
  have hends : kind.continuesFlow = false := by
    cases kind <;> first | rfl | cases htop
  cases h with
  -- The flow never goes on behind a top-level node.
  | chainOn _ _ visit =>
      obtain ⟨_, _, _, rfl, hosts, hanswer, _⟩ := visit.exists_emission
      cases Option.some.inj (hknown.symm.trans hosts.kind?)
      rw [Context.nextOf, hends] at hanswer
      cases hanswer
  | chainEnd _ _ visit =>
      obtain ⟨node, _, last, rfl, hosts, _, emission, rfl⟩ := visit.exists_emission
      cases Option.some.inj (hknown.symm.trans hosts.kind?)
      have htold : ∃ heading body, last.events =
          body ++ heading ++ ((pass.reach node.id).enter node.id).events ∧
            RootJournal context index node.id heading body := by
        cases kind with
        | definition => exact emission.journal_of_definition hwired hosts hpath
        | topLevelCode => exact emission.journal_of_topLevelCode hwired hosts hpath
        | _ => cases htop
      obtain ⟨heading, body, hevents, hjournal⟩ := htold
      refine ⟨heading, .finished node.id :: body, ?_, hjournal.inHeading, ?_, hjournal.claims, ?_⟩
      · change .finished node.id :: last.events = _
        rw [hevents, ← hpath]
        rfl
      · exact List.forall_mem_cons.mpr ⟨trivial, hjournal.inBody⟩
      · intro found key hfound hdefines hkey
        exact (hjournal.header hfound hdefines hkey).mono (List.subset_cons_self _ _)

end VisualScript
