import VisualScript.Proofs.Pass.Locality
import VisualScript.Proofs.Pass.Rebinding

/-!
# Parts of a graph compile on their own

Nodes that no connection joins do not matter to each other. A part of a graph that no
connection leaves compiles if the graph does, to the lines and the diagnostics that the
graph compiles to for its nodes, and the graph requires what its parts require.
-/

namespace VisualScript

open Emit

/-! ## From root to root -/

/-- Passes over a graph and over its two parts, between roots. -/
structure Beside (members : NodeId → Bool) (root place bound : Nat) (full part rest : Pass) :
    Prop where
  own : Portion members (Older root place) full part
  others : Portion (fun id => !members id) (Older root bound) full rest
  modules : ∀ name, name ∈ full.modules ↔ name ∈ part.modules ∨ name ∈ rest.modules

namespace Portion

variable {members : NodeId → Bool} {scopes scopes' : Option ScopePath → Option ScopePath → Prop}
  {full part : Pass}

theorem mono (h : Portion members scopes full part)
    (hscopes : ∀ {scope scope'}, scopes scope scope' → scopes' scope scope') :
    Portion members scopes' full part :=
  ⟨h.facts, fun hid => hscopes (h.scopes hid), h.mentions⟩

/-- Blocks that are opened say nothing of nodes. -/
theorem openBlock (h : Portion members scopes full part) (block block' : Block) :
    Portion members scopes (full.openBlock block) (part.openBlock block') :=
  ⟨h.facts, h.scopes, h.mentions⟩

end Portion

namespace Beside

variable {members : NodeId → Bool} {root place bound : Nat} {full part rest : Pass}

/-- The parts may change their roles. -/
theorem swap (h : Beside members root place bound full part rest) :
    Beside (fun id => !members id) root bound place full rest part where
  own := h.others
  others := by
    simp only [Bool.not_not]
    exact h.own
  modules name := (h.modules name).trans or_comm

theorem swap_iff :
    Beside (fun id => !members id) root bound place full rest part ↔
      Beside members root place bound full part rest := by
  refine ⟨fun h => ?_, swap⟩
  have hback := h.swap
  simp only [Bool.not_not] at hback
  exact hback

/-- Before a pass, nothing is known. -/
theorem initial (members : NodeId → Bool) :
    Beside members 0 0 0 { block := Block.root 0 } { block := Block.root 0 }
      { block := Block.root 0 } where
  own := ⟨fun _ => rfl, fun _ => .never, rfl⟩
  others := ⟨fun _ => rfl, fun _ => .never, rfl⟩
  modules _ := (or_self_iff).symm

/-- At a root of a part, the passes over the graph and over the part are alike. -/
theorem openRoot (h : Beside members root place bound full part rest) :
    Division.Alike ⟨members, rest, root, place, bound⟩ (full.openBlock (Block.root root))
      (part.openBlock (Block.root place)) where
  own := (h.own.openBlock _ _).mono .older
  others := ⟨h.others.facts, h.others.scopes, h.others.mentions⟩
  modules := h.modules
  block := ⟨⟨[], rfl, rfl⟩, rfl, .nil members⟩

theorem of_alike (h : Division.Alike ⟨members, rest, root, place, bound⟩ full part) :
    Beside members (root + 1) (place + 1) bound full part rest where
  own := h.own.mono fun hscope => hscope.older_succ
  others := h.others.mono fun holder => holder.mono (Nat.le_succ _) (Nat.le_refl _)
  modules := h.modules

/-- What a root of a part does in the graph, it does in the part. -/
theorem chain {context : Context} (h : Beside members root place bound full part rest)
    (hsplits : context.graph.Splits members) {id : NodeId} (hmem : members id = true)
    {middle : Pass}
    (hend : Ends (Surroundings.chain (context.visit context.options.maxDepth)
      (Surroundings.chainBound context.graph) [] id) (full.openBlock (Block.root root)) () middle) :
    ∃ middle', Ends (Surroundings.chain ((context.restrict members).visit context.options.maxDepth)
        (Surroundings.chainBound (context.restrict members).graph) [] id)
        (part.openBlock (Block.root place)) () middle' ∧
      Beside members (root + 1) (place + 1) bound middle middle' rest ∧
      SameContent members middle.block.content middle'.block.content := by
  have hmirrors : Mirrors (Division.Alike ⟨members, rest, root, place, bound⟩) Eq _ _ :=
    Division.mirrors_root hsplits hmem
  rcases hmirrors _ _ h.openRoot with ⟨_, _, next, next', hend', hpart, _, halike⟩ | ⟨hdeep, _⟩
  · cases hend.symm.trans hend'
    exact ⟨next', hpart, .of_alike halike, halike.block.content⟩
  · cases hend.symm.trans hdeep

end Beside

theorem ends_emitRoots_cons {context : Context} {root : Nat} {id : NodeId} {roots : List NodeId}
    {pass next : Pass} {written : List Written} :
    Ends (context.emitRoots root (id :: roots)) pass written next ↔
      ∃ middle later, Ends (Surroundings.chain (context.visit context.options.maxDepth)
          (Surroundings.chainBound context.graph) [] id) (pass.openBlock (Block.root root)) ()
          middle ∧
        Ends (context.emitRoots (root + 1) roots) middle later next ∧
        middle.block.content ++ later = written := by
  simp only [Context.emitRoots, ends_bind, ends_modify, ends_get, ends_pure]
  constructor
  · rintro ⟨_, _, rfl, _, middle, hchain, _, _, ⟨rfl, rfl⟩, later, _, hrest, rfl, rfl⟩
    exact ⟨middle, later, hchain, hrest, rfl⟩
  · rintro ⟨middle, later, hchain, hrest, rfl⟩
    exact ⟨(), _, rfl, (), middle, hchain, _, _, ⟨rfl, rfl⟩, later, _, hrest, rfl, rfl⟩

/-- What was written for nodes of a part, as the pass over the part writes it. -/
def SameShare (members : NodeId → Bool) (content share : List Written) : Prop :=
  (content.filter fun written => members written.node).map Written.bare = share.map Written.bare

namespace SameShare

variable {members : NodeId → Bool} {content content' share share' : List Written}

theorem append (h : SameShare members content share) (hrest : SameShare members content' share') :
    SameShare members (content ++ content') (share ++ share') := by
  unfold SameShare at *
  rw [List.filter_append, List.map_append, h, hrest, List.map_append]

theorem of_sameContent (h : SameContent members content share) :
    SameShare members content share := by
  rw [SameShare, List.filter_eq_self.mpr h.own, h.bare]

theorem others (h : SameContent members content share) :
    SameShare (fun id => !members id) content [] := by
  have hnone : (content.filter fun written => !members written.node) = [] := by
    refine List.filter_eq_nil_iff.mpr fun written hmem => ?_
    rw [h.own written hmem]
    decide
  rw [SameShare, hnone]

end SameShare

/-- The roots of a graph do what the roots of its two parts do. -/
theorem Beside.emitRoots {context : Context} {members : NodeId → Bool}
    (hsplits : context.graph.Splits members) {roots : List NodeId} {root place bound : Nat}
    {full part rest next : Pass} (h : Beside members root place bound full part rest)
    {written : List Written} (hend : Ends (context.emitRoots root roots) full written next) :
    ∃ inside outside part' rest' root' place' bound',
      Ends ((context.restrict members).emitRoots place (roots.filter members)) part inside part' ∧
      Ends ((context.restrict fun id => !members id).emitRoots bound
        (roots.filter fun id => !members id)) rest outside rest' ∧
      Beside members root' place' bound' next part' rest' ∧
      SameShare members written inside ∧ SameShare (fun id => !members id) written outside := by
  induction roots generalizing root place bound full part rest written with
  | nil =>
      obtain ⟨rfl, rfl⟩ := ends_pure.mp hend
      exact ⟨[], [], part, rest, root, place, bound, rfl, rfl, h, rfl, rfl⟩
  | cons id roots ih =>
      obtain ⟨middle, later, hchain, hrest, rfl⟩ := ends_emitRoots_cons.mp hend
      -- Only the pass over the part that the root is in moves; the other one stands still.
      by_cases hmem : members id = true
      · obtain ⟨middle', hchain', hbeside, hcontent⟩ := h.chain hsplits hmem hchain
        obtain ⟨inside, outside, part', rest', root', place', bound', hin, hout, hnext, hshare,
          hshare'⟩ := ih hbeside hrest
        refine ⟨middle'.block.content ++ inside, outside, part', rest', root', place', bound',
          ?_, ?_, hnext, .append (.of_sameContent hcontent) hshare,
          .append (.others hcontent) hshare'⟩
        · rw [List.filter_cons_of_pos hmem]
          exact ends_emitRoots_cons.mpr ⟨middle', inside, hchain', hin, rfl⟩
        · rw [List.filter_cons_of_neg (by simp [hmem])]
          exact hout
      · -- The same with the parts in each other's place.
        rw [Bool.not_eq_true] at hmem
        have hother : (!members id) = true := by rw [hmem]; rfl
        obtain ⟨middle', hchain', hbeside, hcontent⟩ :=
          h.swap.chain hsplits.others hother hchain
        obtain ⟨inside, outside, part', rest', root', place', bound', hin, hout, hnext, hshare,
          hshare'⟩ := ih (Beside.swap_iff.mp hbeside) hrest
        have hnone := SameShare.others hcontent
        simp only [Bool.not_not] at hnone
        refine ⟨inside, middle'.block.content ++ outside, part', rest', root', place', bound',
          ?_, ?_, hnext, .append hnone hshare, .append (.of_sameContent hcontent) hshare'⟩
        · rw [List.filter_cons_of_neg (by simp [hmem])]
          exact hin
        · rw [List.filter_cons_of_pos (p := fun id => !members id) hother]
          exact ends_emitRoots_cons.mpr ⟨middle', outside, hchain', hout, rfl⟩

/-! ## Compilations -/

/-- Statements lie as deep in lines as in scopes. -/
theorem Written.lines_of_bare (written : Written) :
    written.lines = Written.lines
      ⟨List.replicate written.bare.1 0, written.bare.2.1, written.bare.2.2⟩ := by
  simp [lines, bare]

/-- The lines of a statement are those of the node that wrote it. -/
theorem Written.filter_lines (written : Written) (members : NodeId → Bool) :
    written.lines.filter (·.node.any members) =
      if members written.node then written.lines else [] := by
  have hnode : ∀ line ∈ written.lines, line.node = some written.node := by
    intro line hline
    obtain ⟨_, _, rfl⟩ := List.mem_map.mp hline
    rfl
  split
  next hmem => exact List.filter_eq_self.mpr fun line hline => by rw [hnode line hline]; exact hmem
  next hmem =>
    exact List.filter_eq_nil_iff.mpr fun line hline => by rw [hnode line hline]; exact hmem

/-- The lines of the nodes of a part are those that the pass over the part writes. -/
theorem SameShare.lines_eq {members : NodeId → Bool} {content share : List Written}
    (h : SameShare members content share) :
    (content.flatMap Written.lines).filter (·.node.any members) = share.flatMap Written.lines := by
  have hbare : ∀ content : List Written, content.flatMap Written.lines =
      (content.map Written.bare).flatMap fun bare =>
        Written.lines ⟨List.replicate bare.1 0, bare.2.1, bare.2.2⟩ := by
    intro content
    rw [List.flatMap_map]
    exact congrArg (List.flatMap · content) (funext Written.lines_of_bare)
  have hown : (content.flatMap Written.lines).filter (·.node.any members) =
      (content.filter fun written => members written.node).flatMap Written.lines := by
    clear h
    induction content with
    | nil => rfl
    | cons written rest ih =>
        rw [List.flatMap_cons, List.filter_append, ih, Written.filter_lines, List.filter_cons]
        split
        next => rfl
        next => rfl
  rw [hown, hbare, h, ← hbare]

namespace Portion

variable {members : NodeId → Bool} {scopes : Option ScopePath → Option ScopePath → Prop}
  {full part : Pass}

/-- What journals say of the nodes of a part. -/
theorem filterMap_eq {α : Type} (h : Portion members scopes full part) {read : Event → Option α}
    {say : Mention → Option α} (hread : ∀ event, read event = event.mention?.bind say)
    {about : α → Bool}
    (habout : ∀ {mention value}, say mention = some value →
      about value = mention.concerns members) :
    (full.events.reverse.filterMap read).filter about = part.events.reverse.filterMap read := by
  have hsaid : ∀ pass : Pass, pass.events.reverse.filterMap read =
      (pass.mentions.filterMap say).reverse := by
    intro pass
    rw [Pass.mentions, List.filterMap_filterMap, List.filterMap_reverse, funext hread]
  have hkept : (full.mentions.filterMap say).filter about =
      (full.mentions.filter (·.concerns members)).filterMap say := by
    rw [List.filter_filterMap, List.filterMap_filter]
    refine congrArg (List.filterMap · _) (funext fun mention => ?_)
    cases hvalue : say mention with
    | none => simp
    | some value => simp [Option.filter, habout hvalue]
  rw [hsaid, hsaid, List.filter_reverse, hkept, h.mentions]

theorem unreached_eq (h : Portion members scopes full part) :
    (Compilation.unreached full.events.reverse full.reached).filter (·.node.any members) =
      Compilation.unreached part.events.reverse part.reached := by
  have hused : (full.events.reverse.filterMap Event.usedSource?).filter members =
      part.events.reverse.filterMap Event.usedSource? := by
    refine h.filterMap_eq Event.usedSource?_eq_bind_mention? fun {mention source} hsource => ?_
    cases mention with
    | fault diagnostic => cases hsource
    | use used =>
        cases hsource
        rfl
  have hreached : ∀ {id}, members id = true → (id ∈ full.reached) = (id ∈ part.reached) :=
    fun hid => congrArg Facts.reached (h.facts hid)
  unfold Compilation.unreached
  rw [List.filter_map]
  refine congrArg (List.map _) ?_
  -- Uses are told apart before doubles go, so that the part alone has the same ones left.
  have hcomm : ∀ ids : List NodeId, (ids.filter (· ∉ full.reached)).filter members =
      (ids.filter members).filter (· ∉ full.reached) := by
    intro ids
    rw [List.filter_filter, List.filter_filter]
    exact congrArg (List.filter · ids) (funext fun id => Bool.and_comm _ _)
  refine (hcomm _).trans ?_
  rw [filter_distinct, hused]
  refine List.filter_congr fun id hid => ?_
  rw [mem_distinct, ← hused] at hid
  simp only [hreached (List.mem_filter.mp hid).2]

/-- The diagnostics of the nodes of a part are those of the pass over the part. -/
theorem diagnostics_eq (h : Portion members scopes full part) (content content' : List Written) :
    (Compilation.ofPass content full).diagnostics.filter (·.node.any members) =
      (Compilation.ofPass content' part).diagnostics := by
  unfold Compilation.ofPass
  dsimp only
  rw [List.filter_append, h.unreached_eq]
  refine congrArg (· ++ _) (h.filterMap_eq Event.diagnostic?_eq_bind fun {mention _} hvalue => ?_)
  cases mention with
  | fault diagnostic =>
      cases hvalue
      rfl
  | use source => cases hvalue

end Portion

namespace Compilation

/-- The lines behind those that require modules. -/
def body (compilation : Compilation) : List Line :=
  compilation.lines.drop (header compilation.modules).length

theorem body_ofPass (content : List Written) (pass : Pass) :
    (ofPass content pass).body = content.flatMap Written.lines := List.drop_left

theorem mem_modules_ofPass {content : List Written} {pass : Pass} {name : String} :
    name ∈ (ofPass content pass).modules ↔ name ∈ pass.modules := by
  unfold ofPass Pass.modules
  rw [mem_distinct, List.mem_flatMap, List.mem_flatMap]
  simp only [List.mem_reverse]

end Compilation

namespace Language

/-- If a graph compiles, a part that no connection leaves compiles on its own, to what the
graph compiles to for its nodes. -/
theorem compile_restrict (language : Language) (options : CompileOptions) (graph : Graph)
    (members : NodeId → Bool) (hsplits : graph.Splits members) (compilation : Compilation)
    (hcompiled : language.compile options graph = .ok compilation) :
    ∃ inside outside, language.compile options (graph.restrict members) = .ok inside ∧
      language.compile options (graph.restrict fun id => !members id) = .ok outside ∧
      inside.body = compilation.body.filter (·.node.any members) ∧
      inside.diagnostics = compilation.diagnostics.filter (·.node.any members) ∧
      ∀ name, name ∈ compilation.modules ↔ name ∈ inside.modules ∨ name ∈ outside.modules := by
  unfold compile at hcompiled
  split at hcompiled
  next written pass hrun =>
    cases hcompiled
    have hparts : (language.context options graph).graph.Splits members := hsplits
    obtain ⟨inside, outside, part, rest, root, place, bound, hin, hout, hbeside, hshare, _⟩ :=
      Beside.emitRoots hparts (.initial members) hrun
    refine ⟨.ofPass inside part, .ofPass outside rest, ?_, ?_, ?_, ?_, ?_⟩
    · rw [← Context.roots_restrict] at hin
      unfold compile
      rw [show (language.context options (graph.restrict members)).run = _ from hin]
    · rw [← Context.roots_restrict] at hout
      unfold compile
      rw [show (language.context options (graph.restrict fun id => !members id)).run = _ from hout]
    · rw [Compilation.body_ofPass, Compilation.body_ofPass, hshare.lines_eq]
    · exact (hbeside.own.diagnostics_eq _ _).symm
    · intro name
      rw [Compilation.mem_modules_ofPass, Compilation.mem_modules_ofPass,
        Compilation.mem_modules_ofPass]
      exact hbeside.modules name
  next => cases hcompiled

/-- Two functions that go to loops, the first of which lacks its condition. -/
def loopsApart : Graph where
  nodes := [
    { id := ⟨1⟩, name := "Function", data := ⟨[("name", .string "first")]⟩
      outputs := ⟨[("fout", .flow)]⟩ },
    { id := ⟨2⟩, name := "Function", data := ⟨[("name", .string "second")]⟩
      outputs := ⟨[("fout", .flow)]⟩ },
    loopNode ⟨3⟩,
    { id := ⟨4⟩, name := "int", data := ⟨[("value", .string "0")]⟩
      outputs := ⟨[("result", ⟨"Result", .data "int" .value⟩)]⟩ },
    loopNode ⟨5⟩]
  connections := [⟨1, ⟨1⟩, "fout", ⟨3⟩, "fin"⟩, ⟨2, ⟨2⟩, "fout", ⟨5⟩, "fin"⟩,
    ⟨3, ⟨4⟩, "result", ⟨5⟩, "inValue"⟩]
  lastNode := 5
  lastConnection := 3

/-- The second function alone is valid, next to the first one it is not. -/
theorem compile_restrict_loopsApart :
    let members : NodeId → Bool := fun id => [2, 4, 5].contains id.number
    ∃ compilation inside, console.compile {} loopsApart = .ok compilation ∧
      console.compile {} (loopsApart.restrict members) = .ok inside ∧
      inside.body = compilation.body.filter (·.node.any members) ∧
      inside.diagnostics = compilation.diagnostics.filter (·.node.any members) ∧
      inside.diagnostics = [] ∧ compilation.isValid = false := by
  intro members
  obtain ⟨compilation, hcompiled, hothers, hinvalid⟩ : ∃ compilation,
      console.compile {} loopsApart = .ok compilation ∧
      compilation.diagnostics.filter (·.node.any members) = [] ∧
      compilation.isValid = false := ⟨_, rfl, rfl, rfl⟩
  obtain ⟨inside, _, hinside, _, hbody, hdiagnostics, _⟩ :=
    compile_restrict console {} loopsApart members (by decide) compilation hcompiled
  exact ⟨compilation, inside, hcompiled, hinside, hbody, hdiagnostics,
    hdiagnostics.trans hothers, hinvalid⟩

end Language

end VisualScript
