import VisualScript.Proofs.Pass.Forks
import VisualScript.Proofs.Pass.Rebinding

/-!
# Where the flow meets itself

What the flow leads to twice is emitted twice. In a program without errors, a call with
an effect binds its result again in sight of an earlier binding exactly where the flow
forks to it. Behind such a fork, a value may also be said to be out of sight where an
earlier binding of it is in sight, as only the last emission is remembered.
-/

namespace VisualScript

/-! ## Going on in a block -/

namespace Pass

/-- A pass went on, and is back in the block. -/
structure Continues (pass next : Pass) : Prop where
  path : next.block.path = pass.block.path
  journal : pass.events <:+ next.events

namespace Continues

variable {pass middle next last inner : Pass} {id : NodeId}

theorem refl (pass : Pass) : Continues pass pass := ⟨rfl, List.suffix_rfl⟩

theorem trans (hfirst : Continues pass middle) (hrest : Continues middle next) :
    Continues pass next :=
  ⟨hrest.path.trans hfirst.path, hfirst.journal.trans hrest.journal⟩

theorem of_still {laid : List Written} (h : pass.Still laid next) : Continues pass next := by
  obtain ⟨added, hadded, _⟩ := h.journal
  exact ⟨h.path, added, hadded.symm⟩

theorem log (pass : Pass) (event : Event) : Continues pass (pass.log event) :=
  ⟨rfl, List.suffix_cons _ _⟩

theorem write (pass : Pass) (id : NodeId) (statement : Statement) :
    Continues pass (pass.write id statement) := ⟨rfl, List.suffix_cons _ _⟩

theorem enter (pass : Pass) (id : NodeId) : Continues pass ((pass.reach id).enter id) :=
  ⟨rfl, List.suffix_cons _ _⟩

theorem leave (pass : Pass) (id : NodeId) : Continues pass (pass.leave id) :=
  ⟨rfl, List.suffix_cons _ _⟩

theorem stores {binds : Bool} (h : pass.Stores id binds next) : Continues pass next := by
  cases h with
  | kept still => exact of_still still
  | bound before _ after => exact ((of_still before).trans (write _ _ _)).trans (of_still after)

theorem inside (hfollow : pass.openChild.events <:+ last.events) (hclosed : last.Still [] inner)
    (hlaid : (inner.backTo pass.block).Still inner.block.content next) : Continues pass next where
  path := hlaid.path
  journal := by
    have hinner := hfollow.trans (of_still hclosed).journal
    exact (List.suffix_cons _ _).trans (hinner.trans (of_still hlaid).journal)

end Continues

theorem Clean.of_suffix {pass next : Pass} (h : next.Clean)
    (hsuffix : pass.events <:+ next.events) : pass.Clean :=
  fun diagnostic hmem => h diagnostic (hsuffix.subset hmem)

theorem Clean.of_continues {pass next : Pass} (h : next.Clean) (hgoes : pass.Continues next) :
    pass.Clean :=
  h.of_suffix hgoes.journal

end Pass

open Pass in
theorem Errand.continues {context : Context} {consumer : NodeId} {pass next : Pass}
    (h : Errand context consumer pass next) : pass.Continues next := by
  induction h with
  | still still => exact .of_still still
  | trans _ _ ihfirst ihrest => exact ihfirst.trans ihrest
  | refused => exact .log _ _
  | @fresh _ node _ pass _ _ _ _ _ _ stored ih =>
      have hinitiated : pass.Continues (pass.initiate node.id) := .of_still (.initiate _ _)
      have hready := (hinitiated.trans (.enter _ node.id)).trans ih
      exact (hready.trans (.stores stored)).trans (.leave _ _)
  | again _ _ _ _ _ _ _ stored ih =>
      exact (((Continues.enter _ _).trans ih).trans (.stores stored)).trans (.leave _ _)

open Pass in
theorem Route.continues {context : Context} {onChain : List NodeId} {leg : Leg} {pass next : Pass}
    (h : Route context onChain leg pass next) : pass.Continues next := by
  induction h with
  | turnBack => exact .log _ _
  | chain _ _ _ taken stored _ _ ihexits ihonward =>
      have hstart := ((Continues.enter _ _).trans taken.continues).trans (.stores stored)
      exact ((hstart.trans ihexits).trans (.leave _ _)).trans ihonward
  | stop => exact .refl _
  | goOn _ ih => exact ih
  | unconnected => exact .refl _
  | followed _ _ ih => exact ih
  | noItems => exact .refl _
  | moreItems _ _ ihfirst ihothers => exact ihfirst.trans ihothers
  | lacking => exact .refl _
  | noBlocks => exact .refl _
  | moreBlocks _ closed laid _ ihfollow ihothers =>
      exact (Continues.inside ihfollow.journal closed laid).trans ihothers

/-! ## Where the flow leads, it is followed -/

/-- A node was come to meanwhile along the flow, in the block or inside it. -/
def Context.Arrives (context : Context) (inward : Bool) (id : NodeId) (pass next : Pass) : Prop :=
  ∃ onChain before after, Route context onChain (.chain id) before after ∧
    pass.events <:+ before.events ∧ after.events <:+ next.events ∧
    pass.block.path <+: before.block.path ∧
    (inward = false → before.block.path = pass.block.path)

namespace Context.Arrives

variable {context : Context} {inward : Bool} {id : NodeId} {start pass next last : Pass}

theorem after (hstart : start.Continues pass) (h : context.Arrives inward id pass next) :
    context.Arrives inward id start next := by
  obtain ⟨onChain, before, after, hroute, hsince, hrest⟩ := h
  rw [hstart.path] at hrest
  exact ⟨onChain, before, after, hroute, hstart.journal.trans hsince, hrest⟩

theorem goOn (h : context.Arrives inward id pass next) (hlast : next.events <:+ last.events) :
    context.Arrives inward id pass last := by
  obtain ⟨onChain, before, after, hroute, hsince, huntil, hrest⟩ := h
  exact ⟨onChain, before, after, hroute, hsince, huntil.trans hlast, hrest⟩

/-- What was come to in a block inside. -/
theorem inside (h : context.Arrives inward id pass.openChild next) :
    context.Arrives true id pass next := by
  obtain ⟨onChain, before, after, hroute, hsince, huntil, hwithin, _⟩ := h
  refine ⟨onChain, before, after, hroute, (List.suffix_cons _ _).trans hsince, huntil, ?_, nofun⟩
  exact (List.prefix_append _ _).trans hwithin

end Context.Arrives

/-- Behind a node, the flow leads along its exits or goes on behind it. -/
theorem Context.Runs.of_node {context : Context} {node : Node} {kind : ComponentKind}
    {inward : Bool} {last : NodeId} (hhosts : context.Hosts node kind)
    (h : context.Runs inward node.id last) :
    (inward = false ∧ last = node.id) ∨ (kind.leg node).Runs context inward last ∨
      (Leg.onward (context.nextOf kind node.id)).Runs context inward last := by
  generalize hid : node.id = id at h
  cases h with
  | here => exact .inl ⟨rfl, rfl⟩
  | on step rest =>
      cases step with
      | behind known next =>
          subst hid
          cases Option.some.inj (hhosts.kind?.symm.trans known)
          exact .inr (.inr ⟨_, next, rest⟩)
      | item hosts counted connected =>
          obtain ⟨rfl, rfl⟩ := hhosts.unique hosts hid
          exact .inr (.inl ⟨_, List.mem_range.mpr counted, _, connected, rest⟩)
  | into nest rest =>
      cases nest with
      | exit known listed connected =>
          subst hid
          cases Option.some.inj (hhosts.kind?.symm.trans known)
          have hblocks : kind.leg node = .blocks node.id kind.blockExits := by
            cases kind <;> first | rfl | cases listed
          rw [hblocks]
          exact .inr (.inl ⟨rfl, _, listed, _, _, connected, rest⟩)

/-- Without errors, a route comes to all that it leads to. -/
theorem Route.arrives {context : Context} {onChain : List NodeId} {leg : Leg} {pass next : Pass}
    (h : Route context onChain leg pass next) (hclean : next.Clean) {inward : Bool} {id : NodeId}
    (hruns : leg.Runs context inward id) : context.Arrives inward id pass next := by
  induction h generalizing inward with
  | turnBack => exact absurd hclean (Pass.not_clean_report _ _ _ _)
  | @chain _ node _ _ _ _ last next new hosts flow taken stored exits onward ihexits ihonward =>
      have hstart := ((Pass.Continues.enter _ _).trans taken.continues).trans (.stores stored)
      have hlast : last.Continues next := (Pass.Continues.leave _ _).trans onward.continues
      rcases hruns.of_node hosts with ⟨rfl, rfl⟩ | hexits | honward
      · exact ⟨_, _, _, .chain new hosts flow taken stored exits onward, List.suffix_rfl,
          List.suffix_rfl, List.prefix_rfl, fun _ => rfl⟩
      · exact ((ihexits (hclean.of_continues hlast) hexits).after hstart).goOn hlast.journal
      · have hleft := (hstart.trans exits.continues).trans (.leave _ node.id)
        exact (ihonward hclean honward).after hleft
  | stop =>
      obtain ⟨_, hnone, _⟩ := hruns
      cases hnone
  | goOn _ ih =>
      obtain ⟨_, hsome, hruns⟩ := hruns
      cases hsome
      exact ih hclean hruns
  | unconnected open_ =>
      obtain ⟨_, hconnected, _⟩ := hruns
      cases open_.symm.trans hconnected
  | followed connected _ ih =>
      obtain ⟨_, hconnected, hruns⟩ := hruns
      cases connected.symm.trans hconnected
      exact ih hclean hruns
  | noItems =>
      obtain ⟨_, hmem, _⟩ := hruns
      cases hmem
  | moreItems first others ihfirst ihothers =>
      obtain ⟨index, hmem, hruns⟩ := hruns
      rcases List.mem_cons.mp hmem with rfl | hmem
      · have hfirst := ihfirst (hclean.of_continues others.continues) hruns
        exact hfirst.goOn others.continues.journal
      · exact (ihothers hclean ⟨index, hmem, hruns⟩).after first.continues
  | lacking fault => exact absurd fault (hclean _)
  | noBlocks =>
      obtain ⟨_, _, hmem, _⟩ := hruns
      cases hmem
  | moreBlocks follow closed laid others ihfollow ihothers =>
      obtain ⟨rfl, exit, hmem, deeper, hruns⟩ := hruns
      have hlaid := (Pass.Continues.of_still laid).trans others.continues
      have hlast := (Pass.Continues.of_still closed).journal.trans hlaid.journal
      rcases List.mem_cons.mp hmem with rfl | hmem
      · exact (ihfollow (hclean.of_suffix hlast) hruns).inside.goOn hlast
      · have hinside := Pass.Continues.inside follow.continues.journal closed laid
        exact (ihothers hclean ⟨rfl, exit, hmem, deeper, hruns⟩).after hinside

/-! ## Behind forks -/

/-- A node is bound whenever it is emitted. -/
def Context.Binding (context : Context) (id : NodeId) : Prop :=
  ∀ {kind}, context.kind? id = some kind → context.bindsAt kind id = true

/-- Without errors, what a route leads to is bound, there or inside. -/
theorem Route.exists_binding {context : Context} {onChain : List NodeId} {leg : Leg}
    {pass next : Pass} (h : Route context onChain leg pass next) (hclean : next.Clean)
    {inward : Bool} {id : NodeId} (hruns : leg.Runs context inward id)
    (hbinds : context.Binding id) :
    ∃ written before, (.wrote written :: before) <:+ next.events ∧ pass.events <:+ before ∧
      written.statement.boundNode? = some id ∧ pass.block.path <+: written.scope ∧
      (inward = false → written.scope = pass.block.path) := by
  obtain ⟨_, start, last, hroute, hsince, huntil, hwithin, hlevel⟩ := h.arrives hclean hruns
  cases hroute with
  | turnBack => exact absurd (hclean.of_suffix huntil) (Pass.not_clean_report _ _ _ _)
  | @chain _ _ _ _ ready _ _ _ _ hosts _ taken stored exits onward =>
      have hready : start.Continues ready := (Pass.Continues.enter _ _).trans taken.continues
      rw [hbinds hosts.kind?] at stored
      cases stored with
      | @bound _ middle _ statement before binds after =>
          have hmiddle := hready.trans (.of_still before)
          have hlast := ((Pass.Continues.of_still after).trans exits.continues).trans
            ((Pass.Continues.leave _ _).trans onward.continues)
          refine ⟨⟨middle.block.path, _, statement⟩, middle.events, hlast.journal.trans huntil,
            hsince.trans hmiddle.journal, binds, ?_, fun hinward => ?_⟩
          · exact hmiddle.path ▸ hwithin
          · exact hmiddle.path.trans (hlevel hinward)

/-- A node was bound in sight of where it was bound before. -/
def BoundAgain (id : NodeId) (events : List Event) : Prop :=
  ∃ first second before, (.wrote second :: before) <:+ events ∧ .wrote first ∈ before ∧
    first.statement.boundNode? = some id ∧ second.statement.boundNode? = some id ∧
    first.scope <+: second.scope

theorem pair_sublist_range {first second count : Nat} (horder : first < second)
    (hcounted : second < count) : [first, second].Sublist (List.range count) := by
  have hfirst : [first].Sublist (List.range second) :=
    List.singleton_sublist.mpr (List.mem_range.mpr horder)
  have hpair := hfirst.append (List.Sublist.refl [second])
  rw [← List.range_succ] at hpair
  exact hpair.trans (List.range_sublist.mpr hcounted)

/-- Along two exits of a sequence, the first of them in the same block. -/
theorem Route.boundAgain_of_items {context : Context} {onChain : List NodeId} {origin : NodeId}
    {indices : List Nat} {pass next : Pass}
    (h : Route context onChain (.items origin indices) pass next) (hclean : next.Clean)
    {first second : Nat} (hlisted : [first, second].Sublist indices) {inward : Bool} {id : NodeId}
    (hstraight : context.RunsBy false origin (numbered keys.exit first) id)
    (hagain : context.RunsBy inward origin (numbered keys.exit second) id)
    (hbinds : context.Binding id) : BoundAgain id next.events := by
  induction indices generalizing pass with
  | nil => cases hlisted
  | cons index rest ih =>
      cases h with
      | moreItems hfirst hothers =>
          cases hlisted with
          | cons _ hlater => exact ih hothers hlater
          | cons_cons _ hlater =>
              obtain ⟨binding, _, hsuffix, _, hbound, _, hscope⟩ :=
                hfirst.exists_binding (hclean.of_continues hothers.continues) hstraight hbinds
              obtain ⟨binding', before, hsuffix', hsince, hbound', hwithin, _⟩ :=
                hothers.exists_binding hclean
                  ⟨second, List.singleton_sublist.mp hlater, hagain⟩ hbinds
              have hmem := (hsuffix.trans hsince).subset (List.mem_cons_self ..)
              refine ⟨binding, binding', before, hsuffix', hmem, hbound, hbound', ?_⟩
              rw [hscope rfl, ← hfirst.continues.path]
              exact hwithin

/-- Without errors, what a route forks to is bound again in sight of an earlier binding. -/
theorem Route.boundAgain {context : Context} {onChain : List NodeId} {leg : Leg}
    {pass next : Pass} (h : Route context onChain leg pass next) (hclean : next.Clean)
    {depth inward : Bool} {fork id : NodeId} (hruns : leg.Runs context depth fork)
    (hfork : context.Forks inward fork id) (hbinds : context.Binding id) :
    BoundAgain id next.events := by
  obtain ⟨_, start, last, hroute, _, huntil, _, _⟩ := h.arrives hclean hruns
  have hclean := hclean.of_suffix huntil
  cases hroute with
  | turnBack => exact absurd hclean (Pass.not_clean_report _ _ _ _)
  | chain _ hosts _ _ _ exits onward =>
      obtain ⟨_, first, second, hsequence, hsame, horder, hcounted, hstraight, hagain⟩ := hfork
      obtain ⟨rfl, rfl⟩ := hsequence.unique hosts hsame
      have hlast := (Pass.Continues.leave _ _).trans onward.continues
      have hlisted := pair_sublist_range horder hcounted
      obtain ⟨binding, binding', before, hsuffix, hbound⟩ :=
        exits.boundAgain_of_items (hclean.of_continues hlast) hlisted hstraight hagain hbinds
      exact ⟨binding, binding', before, hsuffix.trans (hlast.journal.trans huntil), hbound⟩

/-- Without errors, what a root forks to is bound again in sight of an earlier binding. -/
theorem Tour.boundAgain {context : Context} (hwired : context.Wired) {index : Nat}
    {roots : List NodeId} {written : List Written} {pass next : Pass}
    (h : Tour context index roots written pass next) (hroots : roots ⊆ context.roots)
    (hclean : next.Clean) {root fork id : NodeId} (hroot : root ∈ roots) {depth inward : Bool}
    (hruns : context.Runs depth root fork) (hfork : context.Forks inward fork id)
    (hbinds : context.Binding id) : BoundAgain id next.events := by
  induction h with
  | done => cases hroot
  | root first others ih =>
      obtain ⟨added, hadded, _⟩ := others.grows
      rcases List.mem_cons.mp hroot with rfl | hroot
      · have hroute := first.routed hwired
          (hwired.isFlow_of_mem_roots (hroots (List.mem_cons_self ..)))
        obtain ⟨binding, binding', before, hsuffix, hbound⟩ :=
          hroute.boundAgain (hclean.of_suffix ⟨added, hadded.symm⟩) hruns hfork hbinds
        exact ⟨binding, binding', before, hsuffix.trans ⟨added, hadded.symm⟩, hbound⟩
      · exact ih (List.Subset.trans (List.subset_cons_self _ _) hroots) hclean hroot

/-! ## Reports of values out of sight -/

theorem NodeId.text_inj {id other : NodeId} : id.text = other.text ↔ id = other := by
  refine ⟨fun h => ?_, congrArg text⟩
  have hdigits : Nat.toDigits 10 id.number = Nat.toDigits 10 other.number := by
    have htext := (String.append_right_inj "#").mp h
    rw [Nat.toString_eq_ofList_toDigits, Nat.toString_eq_ofList_toDigits] at htext
    exact String.ofList_injective htext
  have hnumber : id.number = other.number := by
    rw [← Nat.ofDigitChars_ten_toDigits (n := id.number), hdigits, Nat.ofDigitChars_ten_toDigits]
  exact congrArg NodeId.mk hnumber

/-- What is said of a node of a kind tells its detail. -/
theorem Diagnostic.of_some_inj {kind : DiagnosticKind} {node node' : Option NodeId}
    {detail detail' : String} :
    Diagnostic.of kind node (some detail) = Diagnostic.of kind node' (some detail') ↔
      node = node' ∧ detail = detail' := by
  refine ⟨fun h => ?_, fun ⟨hnode, hdetail⟩ => hnode ▸ hdetail ▸ rfl⟩
  rw [of, of, Diagnostic.mk.injEq, DiagnosticKind.message, DiagnosticKind.message] at h
  exact ⟨h.2.1, (String.append_right_inj _).mp ((String.append_left_inj _).mp h.2.2.1)⟩

/-- The last emission of a node in a journal, and the events since. -/
theorem exists_append_of_lastScope {events : List Event} {node : NodeId} {scope : ScopePath}
    (h : lastScope events node = some scope) :
    ∃ since before, events = since ++ .entered node scope :: before ∧
      ∀ other, .entered node other ∉ since := by
  obtain ⟨since, event, before, rfl, hevent, hsince⟩ := List.findSome?_eq_some_iff.mp h
  obtain rfl : event = .entered node scope := by
    cases event <;> simp_all [Event.scopeOf?]
  refine ⟨since, before, rfl, fun other hmem => ?_⟩
  simpa [Event.scopeOf?] using hsince _ hmem

/-- A binding that is in sight where its node is said to be out of sight was made before a
later emission of the node, further inside. -/
theorem OutOfSight.exists_later {context : Context} {pass : Pass} (hscoped : Scoped context pass)
    {before : List Event} (hbefore : before <:+ pass.events) {consumer source : NodeId}
    (h : OutOfSight context before consumer source) :
    ∃ scope, lastScope before consumer = some scope ∧
      ∀ written, .wrote written ∈ before → written.statement.boundNode? = some source →
        written.scope <+: scope → context.isOnDemand source = false ∧
          ∃ last earlier, (.entered source last :: earlier) <:+ before ∧
            .entered source written.scope ∈ earlier ∧ written.scope <+: last ∧
            last ≠ written.scope := by
  obtain ⟨scope, last, hscope, hlast, hunseen, hinside⟩ := h
  refine ⟨scope, hscope, fun written hmem hbinds hsight => ?_⟩
  -- The emission that the binding belongs to is in sight as well.
  obtain ⟨start, hstart⟩ := exists_suffix_of_mem hmem
  obtain ⟨_, hmark⟩ := hscoped.inOrder (hstart.trans hbefore) source hbinds
  have hentered : .entered source written.scope ∈ before :=
    hstart.subset (List.mem_cons_of_mem _ (List.mem_of_find?_eq_some hmark))
  obtain ⟨hflow, hwithin⟩ := hinside _ hentered hsight
  have hne : last ≠ written.scope := fun heq => hunseen (heq ▸ hsight)
  obtain ⟨since, earlier, rfl, hsince⟩ := exists_append_of_lastScope hlast
  refine ⟨hflow, last, earlier, List.suffix_append _ _, ?_, hwithin, hne⟩
  rcases List.mem_append.mp hentered with hmem | hmem
  · exact absurd hmem (hsince _)
  · exact (List.mem_cons.mp hmem).resolve_left fun heq => hne (Event.entered.inj heq).2.symm

/-! ## Programs -/

namespace Language

variable {language : Language} {options : CompileOptions} {graph : Graph}
  {compilation : Compilation}

/-- Visits in the pass behind a compilation are in sight of each other only behind forks. -/
theorem apart_of_tour (hbuilt : language.Builds graph) {content : List Written} {pass : Pass}
    (htour : Tour (language.context options graph) 0 (language.context options graph).roots content
      { block := Block.root 0 } pass) :
    ((language.context options graph).visits pass.events).Pairwise
      ((language.context options graph).Apart (language.context options graph).Reaches) :=
  htour.apart (wired hbuilt.fits) (List.Subset.refl _) (List.forall_mem_nil _) .nil

/-- In a program without errors, a call with an effect binds its result again in sight of
an earlier binding exactly where the flow forks to it. -/
theorem bound_again_iff_forks (hbuilt : language.Builds graph)
    (hcompiled : language.compile options graph = .ok compilation)
    (hvalid : compilation.isValid = true) {id : NodeId} {function : Callable}
    (hknown : language.kind? graph id = some (.call function))
    (heffect : function.hasEffect = true)
    (huses : (language.context options graph).callUses function id ≠ 0) :
    (∃ first second, [.wrote first, .wrote second].Sublist compilation.journal ∧
      first.statement.boundNode? = some id ∧ second.statement.boundNode? = some id ∧
      first.scope <+: second.scope) ↔
    ∃ fork inward, (language.context options graph).Reaches fork ∧
      (language.context options graph).Forks inward fork id := by
  obtain ⟨content, pass, hrun, rfl, htour⟩ := tour_of_compile hcompiled
  have hwired : (language.context options graph).Wired := wired hbuilt.fits
  have hkind : (language.context options graph).kind? id = some (.call function) :=
    (kind?_context id).trans hknown
  constructor
  · rintro ⟨first, second, hpair, hbinds, hbinds', hsight⟩
    have hscoped := scoped_of_tour hbuilt htour
    obtain ⟨before, hsecond, hfirst⟩ := exists_suffix_of_sublist hpair
    rw [Compilation.ofPass, List.reverse_reverse] at hsecond
    obtain ⟨earlier, hentered, hmem⟩ := hscoped.entered_twice hsecond hfirst hbinds hbinds'
    have hflow : (language.context options graph).isOnDemand id = false := by
      rw [Context.isOnDemand_eq_of_kind? hkind, ComponentKind.isOnDemand, heffect]
      rfl
    have hsuffix := (hentered.trans (List.suffix_cons _ _)).trans hsecond
    obtain ⟨fork, inward, hreached, hfork, _⟩ :=
      Context.exists_fork (apart_of_tour hbuilt htour) hflow hsuffix hmem hsight
    exact ⟨fork, inward, hreached, hfork⟩
  · rintro ⟨fork, inward, ⟨root, hroot, depth, hruns⟩, hfork⟩
    have hbinds : (language.context options graph).Binding id := by
      intro kind hother
      cases hkind.symm.trans hother
      rw [Context.bindsAt, if_pos heffect]
      exact decide_eq_true huses
    have hclean := htour.grows.clean rfl hvalid
    obtain ⟨first, second, before, hsuffix, hmem, hbound⟩ := htour.boundAgain hwired
      (List.Subset.refl _) hclean hroot hruns hfork hbinds
    refine ⟨first, second, ?_, hbound⟩
    rw [Compilation.ofPass]
    have hpair : [.wrote second, .wrote first].Sublist pass.events :=
      ((List.singleton_sublist.mpr hmem).cons_cons _).trans hsuffix.sublist
    exact hpair.reverse

/-- A node that calls the function to read. -/
def readNode (id : NodeId) : Node where
  id := id
  name := "read"
  inputs := ⟨[("fin", .flow)]⟩
  outputs := ⟨[("result", ⟨"Result", .data "int" .value⟩), ("fout", .flow)]⟩

/-- A node that calls the function to print. -/
def printNode (id : NodeId) : Node where
  id := id
  name := "print"
  data := ⟨[("value", .string "0")]⟩
  inputs := ⟨[("fin", .flow), ("value", ⟨"value", .data "int" .value⟩)]⟩
  outputs := ⟨[("fout", .flow)]⟩

/-- A sequence that leads along both exits to reading a value that is printed. -/
def readTwice : Graph where
  nodes := [
    { id := ⟨1⟩, name := "Function", outputs := ⟨[("fout", .flow)]⟩ },
    { id := ⟨2⟩, name := "Sequence", data := ⟨[("numExits", .string "2")]⟩
      inputs := ⟨[("fin", .flow)]⟩, outputs := ⟨[("out0", .flow), ("out1", .flow)]⟩ },
    readNode ⟨3⟩, printNode ⟨4⟩]
  connections := [⟨1, ⟨1⟩, "fout", ⟨2⟩, "fin"⟩, ⟨2, ⟨2⟩, "out0", ⟨3⟩, "fin"⟩,
    ⟨3, ⟨2⟩, "out1", ⟨3⟩, "fin"⟩, ⟨4, ⟨3⟩, "fout", ⟨4⟩, "fin"⟩,
    ⟨5, ⟨3⟩, "result", ⟨4⟩, "value"⟩]
  lastNode := 4
  lastConnection := 5

theorem builds_readTwice : console.Builds readTwice := by
  have hempty : console.Builds .empty := .empty
  have hfunction := hempty.spawn "Function" .empty rfl
  have hsequence := hfunction.spawn "Sequence" ⟨[("numExits", .string "2")]⟩ rfl
  have hread := hsequence.spawn "read" .empty rfl
  have hprint := hread.spawn "print" .empty rfl
  have hstart := hprint.connect ⟨1⟩ "fout" ⟨2⟩ "fin" rfl
  have hfirst := hstart.connect ⟨2⟩ "out0" ⟨3⟩ "fin" rfl
  have hsecond := hfirst.connect ⟨2⟩ "out1" ⟨3⟩ "fin" rfl
  have honward := hsecond.connect ⟨3⟩ "fout" ⟨4⟩ "fin" rfl
  exact honward.connect ⟨3⟩ "result" ⟨4⟩ "value" rfl

/-- The value is bound twice in one block, and nothing is reported. -/
theorem bound_again_readTwice :
    ∃ compilation function value, console.Builds readTwice ∧
      console.compile {} readTwice = .ok compilation ∧ compilation.diagnostics = [] ∧
      console.kind? readTwice ⟨3⟩ = some (.call function) ∧ function.hasEffect = true ∧
      (console.context {} readTwice).callUses function ⟨3⟩ = 1 ∧
      [.wrote ⟨[0, 0], ⟨3⟩, .bind ⟨3⟩ value⟩, .wrote ⟨[0, 0], ⟨3⟩, .bind ⟨3⟩ value⟩].Sublist
        compilation.journal := by
  obtain ⟨compilation, value, hcompiled, hclean, hbindings⟩ :
      ∃ compilation value, console.compile {} readTwice = .ok compilation ∧
        compilation.diagnostics = [] ∧
        compilation.journal.filter (fun event => event.written?.any (·.node = ⟨3⟩)) =
          [.wrote ⟨[0, 0], ⟨3⟩, .bind ⟨3⟩ value⟩, .wrote ⟨[0, 0], ⟨3⟩, .bind ⟨3⟩ value⟩] :=
    ⟨_, _, rfl, rfl, rfl⟩
  refine ⟨compilation, _, value, builds_readTwice, hcompiled, hclean, rfl, rfl, rfl, ?_⟩
  exact hbindings ▸ List.filter_sublist (l := compilation.journal)

theorem forks_readTwice : (console.context {} readTwice).Reaches ⟨2⟩ ∧
    (console.context {} readTwice).Forks false ⟨2⟩ ⟨3⟩ := by
  have hknown : (console.context {} readTwice).kind? ⟨1⟩ = some .definition := rfl
  have hinner : (console.context {} readTwice).graph.firstOutgoing? ⟨1⟩ "fout" =
      some ⟨1, ⟨1⟩, "fout", ⟨2⟩, "fin"⟩ := rfl
  have hnest : (console.context {} readTwice).Nests ⟨1⟩ ⟨2⟩ :=
    .exit hknown (List.mem_singleton_self _) hinner
  refine ⟨⟨⟨1⟩, List.mem_singleton_self _, true, .into hnest .here⟩, ?_⟩
  refine ⟨readTwice.nodes[1], 0, 1, ⟨rfl, rfl⟩, rfl, Nat.zero_lt_one, by decide, ?_, ?_⟩
  · exact ⟨_, rfl, .here⟩
  · exact ⟨_, rfl, .here⟩

/-- Behind the fork, the value is bound again in sight of where it was bound before. -/
theorem bound_again_iff_forks_readTwice :
    ∃ compilation first second, console.compile {} readTwice = .ok compilation ∧
      compilation.isValid = true ∧
      [.wrote first, .wrote second].Sublist compilation.journal ∧
      first.statement.boundNode? = some ⟨3⟩ ∧ second.statement.boundNode? = some ⟨3⟩ ∧
      first.scope <+: second.scope := by
  obtain ⟨compilation, hcompiled, hvalid⟩ : ∃ compilation,
      console.compile {} readTwice = .ok compilation ∧ compilation.isValid = true := ⟨_, rfl, rfl⟩
  obtain ⟨function, hknown, heffect, huses⟩ : ∃ function,
      console.kind? readTwice ⟨3⟩ = some (.call function) ∧ function.hasEffect = true ∧
        (console.context {} readTwice).callUses function ⟨3⟩ = 1 := ⟨_, rfl, rfl, rfl⟩
  have hforks := bound_again_iff_forks builds_readTwice hcompiled hvalid hknown heffect
    (huses ▸ Nat.one_ne_zero)
  obtain ⟨hreached, hfork⟩ := forks_readTwice
  obtain ⟨first, second, hbound⟩ := hforks.mpr ⟨_, _, hreached, hfork⟩
  exact ⟨compilation, first, second, hcompiled, hvalid, hbound⟩

/-! ## Reports behind forks -/

/-- What is said to be out of sight is, unless it was bound in sight before and the flow
forked to it, the second time inward. -/
theorem out_of_sight_unless_forks (hbuilt : language.Builds graph)
    (hcompiled : language.compile options graph = .ok compilation) {before after : List Event}
    {consumer source : NodeId} (hreported : compilation.journal = before ++
      .reported (Diagnostic.of .valueOutOfScope (some consumer) (some source.text)) :: after) :
    ∃ scope, lastScope before.reverse consumer = some scope ∧
      ∀ written, .wrote written ∈ before → written.statement.boundNode? = some source →
        written.scope <+: scope → (language.context options graph).isOnDemand source = false ∧
          ∃ fork, (language.context options graph).Reaches fork ∧
            (language.context options graph).Forks true fork source := by
  obtain ⟨content, pass, hrun, rfl, htour⟩ := tour_of_compile hcompiled
  have hscoped := scoped_of_tour hbuilt htour
  have hevents : pass.events = after.reverse ++ .reported (Diagnostic.of .valueOutOfScope
      (some consumer) (some source.text)) :: before.reverse := by
    have hjournal : pass.events.reverse = _ := hreported
    rw [← List.reverse_reverse pass.events, hjournal]
    simp
  have hsuffix := hevents ▸ List.suffix_append after.reverse _
  obtain ⟨_, _, hsame, hout⟩ := hscoped.inOrder hsuffix rfl
  obtain ⟨hconsumer, hsource⟩ := Diagnostic.of_some_inj.mp hsame
  cases hconsumer
  cases NodeId.text_inj.mp hsource
  have hbefore := (List.suffix_cons _ _).trans hsuffix
  obtain ⟨scope, hscope, hlater⟩ := hout.exists_later hscoped hbefore
  refine ⟨scope, hscope, fun written hmem hbinds hsight => ?_⟩
  obtain ⟨hflow, last, earlier, hentered, hmem, hwithin, hne⟩ :=
    hlater written (List.mem_reverse.mpr hmem) hbinds hsight
  obtain ⟨fork, inward, hreached, hfork, hlevel⟩ :=
    Context.exists_fork (apart_of_tour hbuilt htour) hflow (hentered.trans hbefore) hmem hwithin
  cases inward with
  | false => exact absurd (hlevel rfl) hne
  | true => exact ⟨hflow, fork, hreached, hfork⟩

/-- A sequence that leads to reading a value, in its block and in a branch, and then to
printing the value. -/
def readAround : Graph where
  nodes := [
    { id := ⟨1⟩, name := "Function", outputs := ⟨[("fout", .flow)]⟩ },
    { id := ⟨2⟩, name := "Sequence", data := ⟨[("numExits", .string "3")]⟩
      inputs := ⟨[("fin", .flow)]⟩
      outputs := ⟨[("out0", .flow), ("out1", .flow), ("out2", .flow)]⟩ },
    readNode ⟨3⟩,
    { id := ⟨4⟩, name := "If"
      inputs := ⟨[("fin", .flow), ("inValue", ⟨"Condition", .any "any"⟩)]⟩
      outputs := ⟨[("fout", .flow), ("then", .flow), ("else", .flow)]⟩ },
    { id := ⟨5⟩, name := "int", data := ⟨[("value", .string "0")]⟩
      outputs := ⟨[("result", ⟨"Result", .data "int" .value⟩)]⟩ },
    printNode ⟨6⟩]
  connections := [⟨1, ⟨1⟩, "fout", ⟨2⟩, "fin"⟩, ⟨2, ⟨2⟩, "out0", ⟨3⟩, "fin"⟩,
    ⟨3, ⟨2⟩, "out1", ⟨4⟩, "fin"⟩, ⟨4, ⟨4⟩, "then", ⟨3⟩, "fin"⟩,
    ⟨5, ⟨5⟩, "result", ⟨4⟩, "inValue"⟩, ⟨6, ⟨2⟩, "out2", ⟨6⟩, "fin"⟩,
    ⟨7, ⟨3⟩, "result", ⟨6⟩, "value"⟩]
  lastNode := 6
  lastConnection := 7

theorem builds_readAround : console.Builds readAround := by
  have hempty : console.Builds .empty := .empty
  have hfunction := hempty.spawn "Function" .empty rfl
  have hsequence := hfunction.spawn "Sequence" ⟨[("numExits", .string "3")]⟩ rfl
  have hread := hsequence.spawn "read" .empty rfl
  have hbranch := hread.spawn "If" .empty rfl
  have hliteral := hbranch.spawn "int" .empty rfl
  have hprint := hliteral.spawn "print" .empty rfl
  have hstart := hprint.connect ⟨1⟩ "fout" ⟨2⟩ "fin" rfl
  have hfirst := hstart.connect ⟨2⟩ "out0" ⟨3⟩ "fin" rfl
  have hsecond := hfirst.connect ⟨2⟩ "out1" ⟨4⟩ "fin" rfl
  have hthen := hsecond.connect ⟨4⟩ "then" ⟨3⟩ "fin" rfl
  have hcondition := hthen.connect ⟨5⟩ "result" ⟨4⟩ "inValue" rfl
  have hthird := hcondition.connect ⟨2⟩ "out2" ⟨6⟩ "fin" rfl
  exact hthird.connect ⟨3⟩ "result" ⟨6⟩ "value" rfl

/-- What is printed is reported behind the binding in the same block. -/
theorem exists_report_readAround :
    ∃ compilation before after value, console.compile {} readAround = .ok compilation ∧
      compilation.journal = before ++ .reported (Diagnostic.of .valueOutOfScope (some ⟨6⟩)
        (some (NodeId.text ⟨3⟩))) :: after ∧
      lastScope before.reverse ⟨6⟩ = some [0, 0] ∧
      .wrote ⟨[0, 0], ⟨3⟩, .bind ⟨3⟩ value⟩ ∈ before := by
  obtain ⟨compilation, value, hcompiled, hreported, hscope, hbound⟩ : ∃ compilation value,
      console.compile {} readAround = .ok compilation ∧
      compilation.journal[27]? = some (.reported (Diagnostic.of .valueOutOfScope (some ⟨6⟩)
        (some (NodeId.text ⟨3⟩)))) ∧
      lastScope (compilation.journal.take 27).reverse ⟨6⟩ = some [0, 0] ∧
      (compilation.journal.take 27)[9]? = some (.wrote ⟨[0, 0], ⟨3⟩, .bind ⟨3⟩ value⟩) :=
    ⟨_, _, rfl, rfl, rfl, rfl⟩
  obtain ⟨hlt, hreported⟩ := List.getElem?_eq_some_iff.mp hreported
  refine ⟨compilation, compilation.journal.take 27, compilation.journal.drop 28, value,
    hcompiled, ?_, hscope, List.mem_of_getElem? hbound⟩
  rw [← hreported, ← List.drop_eq_getElem_cons hlt, List.take_append_drop]

/-- Not all that is said to be out of sight is. -/
theorem not_out_of_sight_readAround : console.Builds readAround ∧
    ¬ ∀ compilation before after, console.compile {} readAround = .ok compilation →
      compilation.journal = before ++ .reported (Diagnostic.of .valueOutOfScope (some ⟨6⟩)
        (some (NodeId.text ⟨3⟩))) :: after →
      ∀ scope, lastScope before.reverse ⟨6⟩ = some scope → ∀ written, .wrote written ∈ before →
        written.statement.boundNode? = some ⟨3⟩ → ¬ written.scope <+: scope := by
  refine ⟨builds_readAround, fun hclaim => ?_⟩
  obtain ⟨compilation, before, after, value, hcompiled, hreported, hscope, hbound⟩ :=
    exists_report_readAround
  exact hclaim compilation before after hcompiled hreported _ hscope _ hbound rfl List.prefix_rfl

/-- What is reported although it is in sight is behind a fork. -/
theorem out_of_sight_unless_forks_readAround :
    ∃ compilation before after scope written,
      console.compile {} readAround = .ok compilation ∧
      compilation.journal = before ++ .reported (Diagnostic.of .valueOutOfScope (some ⟨6⟩)
        (some (NodeId.text ⟨3⟩))) :: after ∧
      lastScope before.reverse ⟨6⟩ = some scope ∧ .wrote written ∈ before ∧
      written.statement.boundNode? = some ⟨3⟩ ∧ written.scope <+: scope ∧
      ∃ fork, (console.context {} readAround).Reaches fork ∧
        (console.context {} readAround).Forks true fork ⟨3⟩ := by
  obtain ⟨compilation, before, after, value, hcompiled, hreported, hscope, hbound⟩ :=
    exists_report_readAround
  obtain ⟨scope, hscope', hforks⟩ :=
    out_of_sight_unless_forks builds_readAround hcompiled hreported
  cases hscope.symm.trans hscope'
  obtain ⟨_, hfork⟩ := hforks _ hbound rfl List.prefix_rfl
  exact ⟨compilation, before, after, _, _, hcompiled, hreported, hscope, hbound, rfl,
    List.prefix_rfl, hfork⟩

end Language

end VisualScript
