import VisualScript.Proofs.Pass.Sightings
import VisualScript.Proofs.Pass.Visibility

/-!
# Locals are introduced apart

The local of a variable is introduced once in a program, and that of a pure node never
in sight of where the node introduced it before: each binding belongs to an emission of
its own, and emissions on demand keep out of sight of each other. All that a program
says was written once in the pass.
-/

namespace VisualScript

/-- Whether a statement declares a variable. -/
def Statement.declares : Statement → Bool
  | declare _ _ => true
  | declareTyped _ _ => true
  | _ => false

/-! ## Blocks hold what was written -/

/-- All that was laid into the block was written meanwhile. -/
def Pass.Accounted (pass next : Pass) : Prop :=
  ∀ counted, next.block.content.countP counted + tally counted pass.events ≤
    pass.block.content.countP counted + tally counted next.events

namespace Pass.Accounted

variable {context : Context} {pass middle next : Pass}

theorem refl (pass : Pass) : Accounted pass pass := fun _ => Nat.le_refl _

theorem trans (hfirst : Accounted pass middle) (hrest : Accounted middle next) :
    Accounted pass next := by
  intro counted
  have hfirst := hfirst counted
  have hrest := hrest counted
  omega

theorem of_still (h : pass.Still [] next) : Accounted pass next := by
  intro counted
  simpa using h.content counted

theorem log (pass : Pass) {event : Event} (h : event.written? = none) :
    Accounted pass (pass.log event) := by
  intro counted
  have hsame : tally counted (pass.log event).events = tally counted pass.events :=
    tally_cons_of_written? h _ _
  rw [hsame]
  exact Nat.le_refl _

theorem write (pass : Pass) (node : NodeId) (statement : Statement) :
    Accounted pass (pass.write node statement) := by
  intro counted
  let written : Written := ⟨pass.block.path, node, statement⟩
  change (pass.block.content ++ [written]).countP counted + _ ≤
    _ + tally counted (.wrote written :: pass.events)
  rw [List.countP_append, List.countP_singleton, tally_cons_wrote]
  omega

theorem enter (pass : Pass) (id : NodeId) : Accounted pass ((pass.reach id).enter id) := by
  intro counted
  have hsame : tally counted ((pass.reach id).enter id).events = tally counted pass.events :=
    tally_cons_of_written? rfl _ _
  rw [hsame]
  exact Nat.le_refl _

theorem leave (pass : Pass) (id : NodeId) : Accounted pass (pass.leave id) := by
  intro counted
  have hsame : tally counted (pass.leave id).events = tally counted pass.events :=
    tally_cons_of_written? rfl _ _
  rw [hsame]
  exact Nat.le_refl _

theorem stores {id : NodeId} {binds : Bool} (h : pass.Stores id binds next) :
    Accounted pass next := by
  cases h with
  | kept still => exact of_still still
  | bound before _ after =>
      exact ((of_still before).trans (write _ _ _)).trans (of_still after)

/-- What was done in a block inside, and laid into the block around it, is accounted for. -/
theorem inside {last inner : Pass} (hfollow : Accounted pass.openChild last)
    (hclosed : last.Still [] inner)
    (hlaid : (inner.backTo pass.block).Still inner.block.content next) :
    Accounted pass next := by
  intro counted
  have hfollow := hfollow counted
  have hclosed := of_still hclosed counted
  have hlaid := hlaid.content counted
  have hopened : tally counted pass.openChild.events = tally counted pass.events :=
    tally_cons_of_written? rfl _ _
  have hempty : pass.openChild.block.content.countP counted = 0 := rfl
  have hback : (inner.backTo pass.block).block.content.countP counted =
      pass.block.content.countP counted := rfl
  have hevents : tally counted (inner.backTo pass.block).events = tally counted inner.events := rfl
  omega

end Pass.Accounted

open Pass in
theorem Errand.accounted {context : Context} {consumer : NodeId} {pass next : Pass}
    (h : Errand context consumer pass next) : pass.Accounted next := by
  induction h with
  | still still => exact .of_still still
  | trans _ _ ihfirst ihrest => exact ihfirst.trans ihrest
  | refused => exact .log _ rfl
  | @fresh _ node _ pass _ _ _ _ _ _ stored ih =>
      have hinitiated : pass.Accounted (pass.initiate node.id) := .of_still (.initiate _ _)
      have hentered := hinitiated.trans (.enter _ node.id)
      exact ((hentered.trans ih).trans (.stores stored)).trans (.leave _ _)
  | again _ _ _ _ _ _ _ stored ih =>
      exact (((Accounted.enter _ _).trans ih).trans (.stores stored)).trans (.leave _ _)

open Pass in
/-- All that a route lays into a block it writes. -/
theorem Route.accounted {context : Context} {onChain : List NodeId} {leg : Leg}
    {pass next : Pass} (h : Route context onChain leg pass next) : pass.Accounted next := by
  induction h with
  | turnBack => exact .log _ rfl
  | chain _ _ _ taken stored _ _ ihexits ihonward =>
      have hstart := ((Accounted.enter _ _).trans taken.accounted).trans (.stores stored)
      exact ((hstart.trans ihexits).trans (.leave _ _)).trans ihonward
  | stop => exact .refl _
  | goOn _ ih => exact ih
  | unconnected => exact .refl _
  | followed _ _ ih => exact ih
  | noItems => exact .refl _
  | moreItems _ _ ihfirst ihothers => exact ihfirst.trans ihothers
  | lacking => exact .refl _
  | noBlocks => exact .refl _
  | moreBlocks _ closed laid _ ihfollow ihothers =>
      exact (Accounted.inside ihfollow closed laid).trans ihothers

/-- A program says nothing that was not written in the pass, and nothing more often. -/
theorem Tour.countP_content_le {context : Context} (hwired : context.Wired) {index : Nat}
    {roots : List NodeId} {written : List Written} {pass next : Pass}
    (h : Tour context index roots written pass next) (hroots : ∀ id ∈ roots, context.IsFlow id)
    (counted : Written → Bool) :
    written.countP counted + tally counted pass.events ≤ tally counted next.events := by
  induction h with
  | done => simp
  | @root index id _ _ pass middle _ first _ ih =>
      have hroute := first.routed hwired (hroots id (List.mem_cons_self ..))
      have hfirst := hroute.accounted counted
      have hrest := ih fun other hmem => hroots other (List.mem_cons_of_mem _ hmem)
      have hopened : tally counted (pass.openBlock (Block.root index)).events =
          tally counted pass.events := tally_cons_of_written? rfl _ _
      have hempty : (pass.openBlock (Block.root index)).block.content.countP counted = 0 := rfl
      rw [List.countP_append]
      omega

/-- What comes at most once in a journal is counted so. -/
theorem tally_le_one {counted : Written → Bool} {events : List Event}
    (h : ∀ {written before}, (.wrote written :: before) <:+ events → counted written = true →
      ∀ other, .wrote other ∈ before → counted other = false) :
    tally counted events ≤ 1 := by
  induction events with
  | nil => simp [tally]
  | cons event rest ih =>
      have hrest := ih fun hsuffix => h (hsuffix.trans (List.suffix_cons _ _))
      cases hwritten : event.written? with
      | none =>
          rw [tally_cons_of_written? hwritten]
          exact hrest
      | some written =>
          obtain rfl : event = .wrote written := by
            cases event <;> cases hwritten
            rfl
          by_cases hcounted : counted written = true
          · have hnone : tally counted rest = 0 := by
              apply List.countP_eq_zero.mpr
              intro other hmem
              obtain ⟨earlier, hearlier, hother⟩ := List.mem_filterMap.mp hmem
              obtain rfl : earlier = .wrote other := by
                cases earlier <;> cases hother
                rfl
              simp [h List.suffix_rfl hcounted other hearlier]
            simp [hnone, hcounted]
          · simpa [hcounted] using hrest

/-! ## Emissions behind bindings -/

namespace Scoped

variable {context : Context} {pass : Pass}

/-- Two bindings of a node belong to two emissions, each in the scope of its binding. -/
theorem entered_twice (h : Scoped context pass) {id : NodeId} {first second : Written}
    {before : List Event} (hsecond : (.wrote second :: before) <:+ pass.events)
    (hfirst : .wrote first ∈ before) (hbinds : first.statement.boundNode? = some id)
    (hbinds' : second.statement.boundNode? = some id) :
    ∃ earlier, (.entered id second.scope :: earlier) <:+ before ∧
      .entered id first.scope ∈ earlier := by
  obtain ⟨_, hmark⟩ := h.inOrder hsecond _ hbinds'
  obtain ⟨_, since, earlier, rfl, hsince⟩ := List.find?_eq_some_iff_append.mp hmark
  refine ⟨earlier, List.suffix_append _ _, ?_⟩
  -- The last mark of the node is no binding, so the first binding stands before it.
  have hearlier : .wrote first ∈ earlier := by
    rcases List.mem_append.mp hfirst with hmem | hmem
    · have hunmarked := hsince _ hmem
      simp [Event.marks, hbinds] at hunmarked
    · rcases List.mem_cons.mp hmem with hsame | hmem
      · cases hsame
      · exact hmem
  obtain ⟨start, hstart⟩ := exists_suffix_of_mem hearlier
  have hevents : (.wrote first :: start) <:+ pass.events := by
    refine (hstart.trans ?_).trans hsecond
    exact (List.suffix_cons _ _).trans ((List.suffix_append _ _).trans (List.suffix_cons _ _))
  obtain ⟨_, hmark'⟩ := h.inOrder hevents _ hbinds
  have hentered := List.mem_of_find?_eq_some hmark'
  exact hstart.subset (List.mem_cons_of_mem _ hentered)

/-- A node that is emitted on demand binds its local again only if it is pure, and never
where an earlier binding is in sight. -/
theorem bound_apart (h : Scoped context pass) {id : NodeId}
    (hdemand : context.isOnDemand id = true) {first second : Written}
    {before : List Event} (hsecond : (.wrote second :: before) <:+ pass.events)
    (hfirst : .wrote first ∈ before) (hbinds : first.statement.boundNode? = some id)
    (hbinds' : second.statement.boundNode? = some id) :
    context.isPure id = true ∧ ¬ first.scope <+: second.scope := by
  obtain ⟨earlier, hsuffix, hentered⟩ := h.entered_twice hsecond hfirst hbinds hbinds'
  have hbefore := (hsuffix.trans (List.suffix_cons _ _)).trans hsecond
  exact h.inOrder hbefore hdemand _ hentered

end Scoped

/-- Two events in a journal, the one before the other, as they stand in the reverse. -/
theorem exists_suffix_of_sublist {journal : List Event} {first second : Event}
    (h : [first, second].Sublist journal) :
    ∃ before, (second :: before) <:+ journal.reverse ∧ first ∈ before := by
  obtain ⟨early, late, rfl, hfirst, hlate⟩ := List.cons_sublist_iff.mp h
  obtain ⟨since, after, rfl⟩ := List.append_of_mem (List.singleton_sublist.mp hlate)
  refine ⟨since.reverse ++ early.reverse, ⟨after.reverse, ?_⟩, ?_⟩
  · simp
  · exact List.mem_append_right _ (List.mem_reverse.mpr hfirst)

/-- What declares a variable introduces a local. -/
theorem Statement.exists_boundNode?_of_declares {statement : Statement}
    (h : statement.declares = true) : ∃ id, statement.boundNode? = some id := by
  cases statement with
  | declare id value => exact ⟨id, rfl⟩
  | declareTyped id type => exact ⟨id, rfl⟩
  | _ => cases h

namespace Scoped

variable {context : Context} {pass : Pass}

/-- Only a node itself introduces its local. -/
theorem boundNode?_of_declares (h : Scoped context pass) {written : Written}
    (hmem : .wrote written ∈ pass.events) (hdeclares : written.statement.declares = true) :
    written.statement.boundNode? = some written.node := by
  obtain ⟨id, hbinds⟩ := Statement.exists_boundNode?_of_declares hdeclares
  obtain ⟨before, hsuffix⟩ := exists_suffix_of_mem hmem
  obtain ⟨rfl, _⟩ := h.inOrder hsuffix id hbinds
  exact hbinds

/-- A node that is emitted on demand and not pure declares its local at most once. -/
theorem tally_declares_le_one (h : Scoped context pass) {id : NodeId}
    (hdemand : context.isOnDemand id = true) (himpure : context.isPure id = false) :
    tally (fun written => written.node = id && written.statement.declares) pass.events ≤ 1 := by
  apply tally_le_one
  intro second before hsecond hcounted first hfirst
  obtain ⟨hnode, hdeclares⟩ := Bool.and_eq_true_iff.mp hcounted
  refine Bool.eq_false_iff.mpr fun hagain => ?_
  obtain ⟨hnode', hdeclares'⟩ := Bool.and_eq_true_iff.mp hagain
  have hevents := (List.suffix_cons _ _).trans hsecond
  have hbinds := h.boundNode?_of_declares (hevents.subset hfirst) hdeclares'
  have hbinds' := h.boundNode?_of_declares (hsecond.subset (List.mem_cons_self ..)) hdeclares
  rw [of_decide_eq_true hnode'] at hbinds
  rw [of_decide_eq_true hnode] at hbinds'
  rw [(h.bound_apart hdemand hsecond hfirst hbinds hbinds').1] at himpure
  cases himpure

end Scoped

namespace Language

variable {language : Language} {options : CompileOptions} {graph : Graph}
  {compilation : Compilation}

/-- What holds of where nodes were emitted in a pass over a built graph. -/
theorem scoped_of_tour (hbuilt : language.Builds graph) {content : List Written} {pass : Pass}
    (htour : Tour (language.context options graph) 0 (language.context options graph).roots content
      { block := Block.root 0 } pass) : Scoped (language.context options graph) pass := by
  have hwired : (language.context options graph).Wired := wired hbuilt.fits
  exact htour.scoped hwired (fun _ => hwired.isFlow_of_mem_roots) (scoped_initial _) nofun

/-- What holds of where nodes were emitted in the pass behind a compilation. -/
theorem exists_scoped (hbuilt : language.Builds graph)
    (hcompiled : language.compile options graph = .ok compilation) :
    ∃ content pass, (language.context options graph).run = .ok (content, pass) ∧
      compilation = .ofPass content pass ∧ Scoped (language.context options graph) pass ∧
      ∀ counted, content.countP counted ≤ tally counted pass.events := by
  obtain ⟨content, pass, hrun, rfl, htour⟩ := tour_of_compile hcompiled
  have hwired : (language.context options graph).Wired := wired hbuilt.fits
  have hroots : ∀ id ∈ (language.context options graph).roots,
      (language.context options graph).IsFlow id := fun _ => hwired.isFlow_of_mem_roots
  exact ⟨content, pass, hrun, rfl, scoped_of_tour hbuilt htour,
    htour.countP_content_le hwired hroots⟩

/-- A variable is declared at most once in a program, and a pure node never binds its
local in a block where it bound it before, nor in a block inside such a one. -/
theorem locals_introduced_apart (hbuilt : language.Builds graph)
    (hcompiled : language.compile options graph = .ok compilation) :
    ∃ content pass, (language.context options graph).run = .ok (content, pass) ∧
      compilation = .ofPass content pass ∧
      (∀ id, language.kind? graph id = some .localVariable →
        content.countP (fun written => written.node = id && written.statement.declares) ≤ 1) ∧
      ∀ id kind, language.kind? graph id = some kind → kind.isPure = true →
        ∀ outer inner value value',
          [.wrote ⟨outer, id, .bind id value⟩, .wrote ⟨inner, id, .bind id value'⟩].Sublist
            compilation.journal → ¬ outer <+: inner := by
  obtain ⟨content, pass, hrun, rfl, hscoped, hcontent⟩ := exists_scoped hbuilt hcompiled
  refine ⟨content, pass, hrun, rfl, fun id hknown => ?_, ?_⟩
  · have hknown : (language.context options graph).kind? id = _ := (kind?_context id).trans hknown
    refine Nat.le_trans (hcontent _) (hscoped.tally_declares_le_one ?_ ?_)
    · exact Context.isOnDemand_eq_of_kind? hknown
    · exact Context.isPure_eq_of_kind? hknown
  · intro id kind hknown hpure outer inner value value' hsub
    have hknown : (language.context options graph).kind? id = _ := (kind?_context id).trans hknown
    have hdemand : (language.context options graph).isOnDemand id = true := by
      rw [Context.isOnDemand_eq_of_kind? hknown]
      cases kind <;> first | exact hpure | rfl
    obtain ⟨before, hsecond, hfirst⟩ := exists_suffix_of_sublist hsub
    rw [Compilation.ofPass, List.reverse_reverse] at hsecond
    exact (hscoped.bound_apart hdemand hsecond hfirst rfl rfl).2

/-! ## A literal in two loops -/

/-- A language with integers that can be read and printed. -/
def console : Language :=
  let integer : TypeDescription :=
    { machineName := "int", displayName := "int", defaultLiteral := some "0"
      values := some ["0"], copyable := true }
  let nothing : TypeDescription := { machineName := "void", displayName := "void" }
  let read : FunctionDescription := { name := "read", result := "int", hasEffect := true }
  let print : FunctionDescription :=
    { name := "print", result := "void", arguments := [⟨"value", "int"⟩], hasEffect := true }
  .build { voidTypes := ["void"], types := [integer, nothing], functions := [read, print] } {}

/-- A loop over a condition of any type. -/
def loopNode (id : NodeId) : Node where
  id := id
  name := "While"
  inputs := ⟨[("fin", .flow), ("inValue", ⟨"Condition", .any "any"⟩)]⟩
  outputs := ⟨[("fout", .flow), ("body", .flow)]⟩

/-- A function with two loops over a variable, each around a loop over the same literal. -/
def twoLoops : Graph where
  nodes := [
    { id := ⟨1⟩, name := "Function", outputs := ⟨[("fout", .flow)]⟩ },
    { id := ⟨2⟩, name := "Variable", inputs := ⟨[("value", ⟨"Value", .any "any"⟩)]⟩
      outputs := ⟨[("result", ⟨"Result", .any "any"⟩)]⟩ },
    { id := ⟨3⟩, name := "int", data := ⟨[("value", .string "0")]⟩
      outputs := ⟨[("result", ⟨"Result", .data "int" .value⟩)]⟩ },
    loopNode ⟨4⟩, loopNode ⟨5⟩, loopNode ⟨6⟩, loopNode ⟨7⟩]
  connections := [⟨1, ⟨1⟩, "fout", ⟨4⟩, "fin"⟩, ⟨2, ⟨2⟩, "result", ⟨4⟩, "inValue"⟩,
    ⟨3, ⟨4⟩, "body", ⟨5⟩, "fin"⟩, ⟨4, ⟨3⟩, "result", ⟨5⟩, "inValue"⟩,
    ⟨5, ⟨4⟩, "fout", ⟨6⟩, "fin"⟩, ⟨6, ⟨2⟩, "result", ⟨6⟩, "inValue"⟩,
    ⟨7, ⟨6⟩, "body", ⟨7⟩, "fin"⟩, ⟨8, ⟨3⟩, "result", ⟨7⟩, "inValue"⟩]
  lastNode := 7
  lastConnection := 8

theorem builds_twoLoops : console.Builds twoLoops := by
  have hempty : console.Builds .empty := .empty
  have hfunction := hempty.spawn "Function" .empty rfl
  have hvariable := hfunction.spawn "Variable" .empty rfl
  have hliteral := hvariable.spawn "int" .empty rfl
  have hloop := hliteral.spawn "While" .empty rfl
  have hinner := hloop.spawn "While" .empty rfl
  have hloop' := hinner.spawn "While" .empty rfl
  have hinner' := hloop'.spawn "While" .empty rfl
  have hstart := hinner'.connect ⟨1⟩ "fout" ⟨4⟩ "fin" rfl
  have hfirst := hstart.connect ⟨2⟩ "result" ⟨4⟩ "inValue" rfl
  have hbody := hfirst.connect ⟨4⟩ "body" ⟨5⟩ "fin" rfl
  have hsecond := hbody.connect ⟨3⟩ "result" ⟨5⟩ "inValue" rfl
  have honward := hsecond.connect ⟨4⟩ "fout" ⟨6⟩ "fin" rfl
  have hthird := honward.connect ⟨2⟩ "result" ⟨6⟩ "inValue" rfl
  have hbody' := hthird.connect ⟨6⟩ "body" ⟨7⟩ "fin" rfl
  exact hbody'.connect ⟨3⟩ "result" ⟨7⟩ "inValue" rfl

/-- The literal is bound in both loops, neither of which sees into the other. -/
theorem locals_introduced_apart_twoLoops :
    ∃ compilation content pass, console.compile {} twoLoops = .ok compilation ∧
      (console.context {} twoLoops).run = .ok (content, pass) ∧
      compilation = .ofPass content pass ∧
      content.countP (fun written => written.node = ⟨2⟩ && written.statement.declares) ≤ 1 ∧
      [.wrote ⟨[0, 0, 0], ⟨3⟩, .bind ⟨3⟩ (.literal "0")⟩,
        .wrote ⟨[0, 0, 1], ⟨3⟩, .bind ⟨3⟩ (.literal "0")⟩].Sublist compilation.journal ∧
      ¬ [0, 0, 0] <+: [0, 0, 1] := by
  obtain ⟨compilation, hcompiled, hbindings⟩ :
      ∃ compilation, console.compile {} twoLoops = .ok compilation ∧
        compilation.journal.filter (fun event => event.written?.any (·.node = ⟨3⟩)) =
          [.wrote ⟨[0, 0, 0], ⟨3⟩, .bind ⟨3⟩ (.literal "0")⟩,
            .wrote ⟨[0, 0, 1], ⟨3⟩, .bind ⟨3⟩ (.literal "0")⟩] :=
    ⟨_, rfl, rfl⟩
  have hsub := hbindings ▸ List.filter_sublist (l := compilation.journal)
  obtain ⟨content, pass, hrun, hpass, hvariables, hpure⟩ :=
    locals_introduced_apart builds_twoLoops hcompiled
  refine ⟨compilation, content, pass, hcompiled, hrun, hpass, hvariables ⟨2⟩ rfl, hsub, ?_⟩
  exact hpure ⟨3⟩ (.literal "int") rfl rfl _ _ _ _ hsub

end Language

end VisualScript
