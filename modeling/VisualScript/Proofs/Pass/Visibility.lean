import VisualScript.Proofs.Graph.Built
import VisualScript.Proofs.Pass.Adequacy
import VisualScript.Proofs.Pass.Grounding

/-!
# Locals are visible where they are used

A compilation that reports nothing uses the local of a node only where the node
introduced it before, in the block of the consumer or in one around it.
-/

namespace VisualScript

/-- A statement that introduces a local reads as such: the local stands behind the keyword. -/
def Statement.Introduces (statement : Statement) (node : NodeId) : Prop :=
  (∃ rest, statement.text = "let " ++ node.localName ++ " = " ++ rest) ∨
    ∃ rest, statement.text = "var " ++ node.localName ++ rest

theorem Statement.introduces_of_boundNode? {statement : Statement} {node : NodeId}
    (h : statement.boundNode? = some node) : statement.Introduces node := by
  cases statement with
  | bind other value =>
      cases h
      exact .inl ⟨_, rfl⟩
  | declare other value =>
      cases h
      exact .inr ⟨" = " ++ value.text, String.append_assoc ..⟩
  | declareTyped other type =>
      cases h
      exact .inr ⟨": " ++ type, String.append_assoc ..⟩
  | _ => cases h

/-- The local of a node was introduced by its name, by an emission of the node that is
complete, in a scope or in one around it. Events are listed in order. -/
def Introduced (journal : List Event) (node : NodeId) (scope : ScopePath) : Prop :=
  ∃ outer statement, outer <+: scope ∧ Statement.boundNode? statement = some node ∧
    statement.Introduces node ∧
    [.entered node outer, .wrote ⟨outer, node, statement⟩, .finished node].Sublist journal

theorem Bound.introduced {events : List Event} {node : NodeId} {scope : ScopePath}
    (h : Bound events node scope) : Introduced events.reverse node scope := by
  obtain ⟨outer, statement, houter, hbinds, hsub⟩ := h
  exact ⟨outer, statement, houter, hbinds, statement.introduces_of_boundNode? hbinds, hsub.reverse⟩

/-! ## Tours -/

variable {context : Context}

/-- Nothing is known before a pass. -/
theorem sound_initial (block : Block) : Sound context none { block := block } where
  kept := by
    intro node value hresult
    cases hresult
  literals := by
    intro definition node key hmem
    cases hmem
  usable := by
    intro node scope hscope
    cases hscope
  known := by
    rintro node (hmem | hmem)
    · cases hmem
    · cases hmem
  default := by
    intro definition node key hmem
    cases hmem
  touched := by
    intro node definition key hresult
    cases hresult
  asked := by
    intro node hmem
    cases hmem
  placed := fun _ => rfl
  claims := by
    intro definition node key hmem
    cases hmem
  renewed := by
    intro node scope before hsuffix
    cases List.suffix_nil.mp hsuffix
  justified := by
    intro resolution before hsuffix
    cases List.suffix_nil.mp hsuffix

/-- Between top-level nodes no emission is under way. -/
theorem CleanTour.sound {index : Nat} {roots : List NodeId} {written : List Written}
    {pass next : Pass} (h : CleanTour context index roots written pass next)
    (hidle : pass.emitting = []) (hsound : Sound context none pass) :
    Sound context none next := by
  induction h with
  | done => exact hsound
  | @root index id _ _ pass middle _ first _ ih =>
      have hopened : Sound context none (pass.openBlock (Block.root index)) :=
        hsound.of_silent (.openBlock _ _)
      have hready : (Task.chain id).Ready context [] (pass.openBlock (Block.root index)) := by
        intro node hbusy
        change node ∈ pass.emitting at hbusy
        rw [hidle] at hbusy
        exact hbusy
      have hfirst := (first.upholds hready hopened).1
      refine ih ?_ hfirst.sound
      -- A chain leaves no emission under way that was not before it, and none was.
      refine List.eq_nil_iff_forall_not_mem.mpr fun node hbusy => ?_
      have hbefore : node ∈ pass.emitting := (hfirst.emitting node).mp hbusy
      rw [hidle] at hbefore
      cases hbefore

/-- A compilation without errors comes from a pass that reported nothing. -/
theorem Pass.Grows.clean {start pass : Pass} {written : List Written} (h : start.Grows pass)
    (hstart : start.events = []) (hvalid : (Compilation.ofPass written pass).isValid = true) :
    pass.Clean := by
  obtain ⟨added, hadded, herrors⟩ := h
  rw [hstart, List.append_nil] at hadded
  intro diagnostic hmem
  -- What the pass reported is part of the compilation, and each report of a pass is an error.
  have hlisted : diagnostic ∈ (Compilation.ofPass written pass).diagnostics :=
    List.mem_append_left _
      (List.mem_filterMap.mpr ⟨_, List.mem_reverse.mpr hmem, rfl⟩)
  have hbad : (Compilation.ofPass written pass).diagnostics.hasErrors = true :=
    List.any_eq_true.mpr ⟨diagnostic, hlisted, herrors (.reported diagnostic) (hadded ▸ hmem)⟩
  rw [Compilation.isValid, hbad] at hvalid
  cases hvalid

theorem Compilation.isValid_of_eq_nil {compilation : Compilation}
    (h : compilation.diagnostics = []) : compilation.isValid = true := by
  rw [isValid, h]
  rfl

namespace Language

variable {language : Language} {options : CompileOptions} {graph : Graph}
  {compilation : Compilation}

/-- The pass behind a compilation of a built graph without errors is clean. -/
theorem exists_cleanTour (hbuilt : language.Builds graph)
    (hcompiled : language.compile options graph = .ok compilation)
    (hvalid : compilation.isValid = true) :
    ∃ written pass, (language.context options graph).run = .ok (written, pass) ∧
      compilation = .ofPass written pass ∧
      CleanTour (language.context options graph) 0 (language.context options graph).roots written
        { block := Block.root 0 } pass ∧ Sound (language.context options graph) none pass := by
  obtain ⟨written, pass, hrun, rfl, htour⟩ := tour_of_compile hcompiled
  have hwired : (language.context options graph).Wired := wired hbuilt.fits
  have hclean := htour.cleanTour_of_clean hwired hwired.starts (htour.grows.clean rfl hvalid)
  exact ⟨written, pass, hrun, rfl, hclean, hclean.sound rfl (sound_initial _)⟩

/-- What the journal of a compilation without errors says of a resolution. -/
theorem justified_of_journal (hbuilt : language.Builds graph)
    (hcompiled : language.compile options graph = .ok compilation)
    (hvalid : compilation.isValid = true) {before after : List Event} {resolution : Resolution}
    (hjournal : compilation.journal = before ++ .resolved resolution :: after) :
    Justified (language.context options graph) resolution before.reverse := by
  obtain ⟨written, pass, _, rfl, _, hsound⟩ := exists_cleanTour hbuilt hcompiled hvalid
  refine hsound.justified ⟨after.reverse, ?_⟩
  have hevents := congrArg List.reverse hjournal
  rw [List.reverse_append, List.reverse_cons, List.append_assoc] at hevents
  exact (hevents.symm.trans (List.reverse_reverse _))

/-- A value that refers to no parameter by itself is that of its source. -/
theorem ofSource_of_kind? {before : List Event} {resolution : Resolution}
    (h : Justified (language.context options graph) resolution before)
    (hkind : language.kind? graph resolution.source ≠ some .definition) :
    resolution.ofSource = true := by
  cases hsource : resolution.ofSource with
  | true => rfl
  | false =>
      have hfeed := h.feed
      rw [hsource] at hfeed
      obtain ⟨key, hfeed, _⟩ := hfeed
      exact absurd ((kind?_context _).symm.trans (Context.kind?_of_feed hfeed)) hkind

/-- Where an input takes the value of a node that is no function and no default of a
parameter, the value is put in place or is the local of the node, written by its name and
introduced by it before in a block that the consumer sees. So is every local inside the value. -/
theorem local_introduced_of_resolved (hbuilt : language.Builds graph)
    (hcompiled : language.compile options graph = .ok compilation)
    (hclean : compilation.diagnostics = []) {before after : List Event} {resolution : Resolution}
    (hjournal : compilation.journal = before ++ .resolved resolution :: after) :
    (language.kind? graph resolution.source ≠ some .definition →
      (∀ definition key, .claimed definition resolution.source key ∉ before) →
        resolution.value.isInline = true ∨ resolution.value = .name resolution.source ∧
          resolution.value.text = resolution.source.localName ∧
          Introduced before resolution.source resolution.scope) ∧
    ∀ node, (Expression.name node).PartOf resolution.value →
      Introduced before node resolution.scope := by
  have hvalid := Compilation.isValid_of_eq_nil hclean
  have hjustified := justified_of_journal hbuilt hcompiled hvalid hjournal
  have hnames : ∀ node, (Expression.name node).PartOf resolution.value →
      Introduced before node resolution.scope := by
    intro node hpart
    rcases hjustified.grounded with hgrounded | ⟨definition, key, hvalue⟩
    · have hbound : Bound before.reverse node resolution.scope := hgrounded _ hpart
      exact List.reverse_reverse before ▸ hbound.introduced
    · rw [hvalue] at hpart
      cases hpart
  refine ⟨fun hkind hunclaimed => ?_, hnames⟩
  have hsource := ofSource_of_kind? hjustified hkind
  rcases hjustified.shape hsource with hvalue | hinline | ⟨definition, key, hvalue⟩
  · exact .inr ⟨hvalue, by rw [hvalue, Expression.text], hnames _ (hvalue ▸ .self)⟩
  · exact .inl hinline
  · have htouch := List.mem_of_find?_eq_some (hjustified.parameter hsource _ _ hvalue)
    exact absurd (List.mem_reverse.mp htouch) (hunclaimed definition key)

/-! ## A loop over a variable -/

/-- The language of the built-in components alone. -/
def bare : Language := .build {} {}

/-- A function with a loop whose condition is a variable. -/
def variableLoop : Graph where
  nodes := [
    { id := ⟨1⟩, name := "Function", outputs := ⟨[("fout", .flow)]⟩ },
    { id := ⟨2⟩, name := "Variable", inputs := ⟨[("value", ⟨"Value", .any "any"⟩)]⟩
      outputs := ⟨[("result", ⟨"Result", .any "any"⟩)]⟩ },
    { id := ⟨3⟩, name := "While"
      inputs := ⟨[("fin", .flow), ("inValue", ⟨"Condition", .any "any"⟩)]⟩
      outputs := ⟨[("fout", .flow), ("body", .flow)]⟩ }]
  connections := [⟨1, ⟨1⟩, "fout", ⟨3⟩, "fin"⟩, ⟨2, ⟨2⟩, "result", ⟨3⟩, "inValue"⟩]
  lastNode := 3
  lastConnection := 2

theorem builds_variableLoop : bare.Builds variableLoop := by
  have hempty : bare.Builds .empty := .empty
  have hfunction := hempty.spawn "Function" .empty rfl
  have hvariable := hfunction.spawn "Variable" .empty rfl
  have hloop := hvariable.spawn "While" .empty rfl
  have hflow := hloop.connect ⟨1⟩ "fout" ⟨3⟩ "fin" rfl
  exact hflow.connect ⟨2⟩ "result" ⟨3⟩ "inValue" rfl

/-- What happens before the loop takes its condition. -/
def beforeCondition : List Event :=
  [.opened [0], .entered ⟨1⟩ [0], .wrote ⟨[0], ⟨1⟩, .exportMark⟩,
    .wrote ⟨[0], ⟨1⟩, .definition "" []⟩, .opened [0, 0], .entered ⟨3⟩ [0, 0],
    .entered ⟨2⟩ [0, 0], .wrote ⟨[0, 0], ⟨2⟩, .declareTyped ⟨2⟩ ""⟩, .finished ⟨2⟩]

/-- The condition of the loop is a local that its variable introduced before. -/
theorem condition_introduced_variableLoop :
    ∃ compilation after, bare.compile {} variableLoop = .ok compilation ∧
      compilation.diagnostics = [] ∧
      compilation.journal = beforeCondition ++
        .resolved ⟨⟨3⟩, "inValue", [0, 0], ⟨2⟩, .name ⟨2⟩, true⟩ :: after ∧
      Introduced beforeCondition ⟨2⟩ [0, 0] := by
  obtain ⟨compilation, after, hcompiled, hclean, hjournal⟩ :
      ∃ compilation after, bare.compile {} variableLoop = .ok compilation ∧
        compilation.diagnostics = [] ∧ compilation.journal = beforeCondition ++
          .resolved ⟨⟨3⟩, "inValue", [0, 0], ⟨2⟩, .name ⟨2⟩, true⟩ :: after :=
    ⟨_, _, rfl, rfl, rfl⟩
  refine ⟨compilation, after, hcompiled, hclean, hjournal, ?_⟩
  have hunclaimed : ∀ definition key, .claimed definition ⟨2⟩ key ∉ beforeCondition := by
    intro definition key hmem
    simp [beforeCondition] at hmem
  have hvisible := local_introduced_of_resolved builds_variableLoop hcompiled hclean hjournal
  rcases hvisible.1 (by decide) hunclaimed with hinline | ⟨_, _, hintroduced⟩
  · cases hinline
  · exact hintroduced

end Language

end VisualScript
