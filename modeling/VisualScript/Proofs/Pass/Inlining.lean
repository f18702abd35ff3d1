import VisualScript.Proofs.Pass.Readings
import VisualScript.Proofs.Pass.Restyling
import VisualScript.Proofs.Pass.Visibility

/-!
# Inlining changes no value

Whether values are bound to locals or put in place of their uses, the inputs of a
graph take the same: with the bindings unfolded, what each of them took is what is
read off the graph, and what is read off the graph knows of no bindings.
-/

namespace VisualScript

namespace Context

variable (context : Context) (inlining : InlineStrategy) (marks : Bool) (events : List Event)

/-! What is read off the graph does not depend on how a pass writes. -/

theorem meaning_restyled :
    (context.restyled inlining marks).meaning events = context.meaning events := by
  induction events with
  | nil => rfl
  | cons event before ih =>
      funext id
      cases event with
      | finished other =>
          rw [meaning, meaning, ih]
          rfl
      | claimed definition literal key =>
          rw [meaning, meaning, ih]
          rfl
      | _ => exact congrFun ih id

theorem readings_restyled :
    (context.restyled inlining marks).readings events = context.readings events := by
  induction events with
  | nil => rfl
  | cons event before ih =>
      cases event with
      | resolved resolution => rw [readings, readings, ih, meaning_restyled]
      | _ => exact ih

end Context

/-- What the inputs took in a compilation, in order: who took it where, with the bindings
of pure nodes unfolded that were visible then. -/
def Compilation.substitutions (compilation : Compilation) (context : Context) :
    List (NodeId × String × Expression) :=
  (context.substitutions compilation.journal.reverse).reverse

namespace Language

variable {language : Language} {options : CompileOptions} {inlining : InlineStrategy}
  {graph : Graph} {compilation other : Compilation}

/-- In a compilation without errors, what stood for a source was what the source meant. -/
theorem agrees_of_compile (hbuilt : language.Builds graph)
    (hcompiled : language.compile options graph = .ok compilation)
    (hvalid : compilation.isValid = true) :
    (language.context options graph).Agrees compilation.journal.reverse := by
  obtain ⟨written, pass, _, rfl, htour, _⟩ := exists_cleanTour hbuilt hcompiled hvalid
  have hfaithful := htour.faithful (faithful_initial _) fun huses => absurd huses not_uses_initial
  exact (List.reverse_reverse pass.events).symm ▸ hfaithful.agrees

/-- Compilations that differ in how they write have one outline. -/
theorem outline_eq_of_restyled {marks : Bool}
    (hcompiled : language.compile options graph = .ok compilation)
    (hcompiled' : language.compile { options with inlining := inlining, exportMarks := marks }
      graph = .ok other) :
    compilation.journal.reverse.filterMap Event.outline? =
      other.journal.reverse.filterMap Event.outline? := by
  unfold compile at hcompiled hcompiled'
  rw [show language.context { options with inlining := inlining, exportMarks := marks } graph =
    (language.context options graph).restyled inlining marks from rfl] at hcompiled'
  rcases (language.context options graph).run_restyled inlining marks with
    ⟨written, written', pass, pass', hrun, hrun', halike⟩ | ⟨hdeep, _⟩
  · rw [hrun] at hcompiled
    rw [hrun'] at hcompiled'
    cases hcompiled
    cases hcompiled'
    change pass.events.reverse.reverse.filterMap _ = pass'.events.reverse.reverse.filterMap _
    rw [List.reverse_reverse, List.reverse_reverse, halike.events]
  · rw [hdeep] at hcompiled
    cases hcompiled

/-- With any two strategies, the same inputs take values in the same order, and with the
bindings unfolded the values are the same. No local of a pure node is left in them then,
and the text that is kept with a value is that of its parts. -/
theorem substitutions_eq_of_inlining (hbuilt : language.Builds graph)
    (hcompiled : language.compile options graph = .ok compilation)
    (hclean : compilation.diagnostics = [])
    (hcompiled' : language.compile { options with inlining := inlining } graph = .ok other)
    (hclean' : other.diagnostics = []) :
    compilation.substitutions (language.context options graph) =
        other.substitutions (language.context { options with inlining := inlining } graph) ∧
      (∀ taken ∈ compilation.substitutions (language.context options graph),
        (language.context options graph).Plain taken.2.2) ∧
      ∀ resolution, .resolved resolution ∈ compilation.journal ++ other.journal →
        resolution.value.substitute .name = resolution.value := by
  have hagrees := agrees_of_compile hbuilt hcompiled (Compilation.isValid_of_eq_nil hclean)
  have hagrees' := agrees_of_compile hbuilt hcompiled' (Compilation.isValid_of_eq_nil hclean')
  refine ⟨congrArg List.reverse ?_, fun taken hmem => ?_, fun resolution hmem => ?_⟩
  · have hrestyled := (language.context options graph).readings_restyled inlining
      options.exportMarks
    calc (language.context options graph).substitutions compilation.journal.reverse
      _ = (language.context options graph).readings compilation.journal.reverse :=
        hagrees.substitutions_eq
      _ = (language.context options graph).readings other.journal.reverse := by
        rw [← Context.readings_outline, outline_eq_of_restyled hcompiled hcompiled',
          Context.readings_outline]
      _ = (language.context { options with inlining := inlining } graph).readings
          other.journal.reverse := (hrestyled _).symm
      _ = _ := hagrees'.substitutions_eq.symm
  · exact hagrees.plain taken (List.mem_reverse.mp hmem)
  · rcases List.mem_append.mp hmem with hmem | hmem
    · exact hagrees.rendered (List.mem_reverse.mpr hmem)
    · exact hagrees'.rendered (List.mem_reverse.mpr hmem)

/-! ## A sum in a condition -/

/-- A language with integers and their sums. -/
def sums : Language :=
  let integer : TypeDescription :=
    { machineName := "int", displayName := "int", defaultLiteral := some "0"
      values := some ["0"], copyable := true }
  let sum : FunctionDescription :=
    { name := "sum", result := "int", arguments := [⟨"x", "int"⟩, ⟨"y", "int"⟩] }
  .build { types := [integer], functions := [sum] } {}

/-- A function with a loop whose condition is the sum of a literal and itself. -/
def doubledCondition : Graph where
  nodes := [
    { id := ⟨1⟩, name := "Function", outputs := ⟨[("fout", .flow)]⟩ },
    { id := ⟨2⟩, name := "int", data := ⟨[("value", .string "0")]⟩
      outputs := ⟨[("result", ⟨"Result", .data "int" .value⟩)]⟩ },
    { id := ⟨3⟩, name := "sum", data := ⟨[("x", .string "0"), ("y", .string "0")]⟩
      inputs := ⟨[("x", ⟨"x", .data "int" .value⟩), ("y", ⟨"y", .data "int" .value⟩)]⟩
      outputs := ⟨[("result", ⟨"Result", .data "int" .value⟩)]⟩ },
    { id := ⟨4⟩, name := "While"
      inputs := ⟨[("fin", .flow), ("inValue", ⟨"Condition", .any "any"⟩)]⟩
      outputs := ⟨[("fout", .flow), ("body", .flow)]⟩ }]
  connections := [⟨1, ⟨1⟩, "fout", ⟨4⟩, "fin"⟩, ⟨2, ⟨2⟩, "result", ⟨3⟩, "x"⟩,
    ⟨3, ⟨2⟩, "result", ⟨3⟩, "y"⟩, ⟨4, ⟨3⟩, "result", ⟨4⟩, "inValue"⟩]
  lastNode := 4
  lastConnection := 4

theorem builds_doubledCondition : sums.Builds doubledCondition := by
  have hempty : sums.Builds .empty := .empty
  have hfunction := hempty.spawn "Function" .empty rfl
  have hliteral := hfunction.spawn "int" .empty rfl
  have hsum := hliteral.spawn "sum" .empty rfl
  have hloop := hsum.spawn "While" .empty rfl
  have hflow := hloop.connect ⟨1⟩ "fout" ⟨4⟩ "fin" rfl
  have hfirst := hflow.connect ⟨2⟩ "result" ⟨3⟩ "x" rfl
  have hsecond := hfirst.connect ⟨2⟩ "result" ⟨3⟩ "y" rfl
  exact hsecond.connect ⟨3⟩ "result" ⟨4⟩ "inValue" rfl

/-- One strategy binds the literal and the sum and the other puts them in place, and the
inputs take the same. -/
theorem substitutions_eq_doubledCondition :
    ∃ compilation other,
      sums.compile { inlining := .never } doubledCondition = .ok compilation ∧
      sums.compile { inlining := .always } doubledCondition = .ok other ∧
      compilation.diagnostics = [] ∧ other.diagnostics = [] ∧
      .resolved ⟨⟨3⟩, "x", [0, 0], ⟨2⟩, .name ⟨2⟩, true⟩ ∈ compilation.journal ∧
      .resolved ⟨⟨3⟩, "x", [0, 0], ⟨2⟩, .literal "0", true⟩ ∈ other.journal ∧
      compilation.substitutions (sums.context { inlining := .never } doubledCondition) =
        other.substitutions (sums.context { inlining := .always } doubledCondition) := by
  obtain ⟨compilation, other, hcompiled, hcompiled', hclean, hclean', htaken, htaken'⟩ :
      ∃ compilation other,
        sums.compile { inlining := .never } doubledCondition = .ok compilation ∧
        sums.compile { inlining := .always } doubledCondition = .ok other ∧
        compilation.diagnostics = [] ∧ other.diagnostics = [] ∧
        compilation.journal[12]? =
          some (.resolved ⟨⟨3⟩, "x", [0, 0], ⟨2⟩, .name ⟨2⟩, true⟩) ∧
        other.journal[11]? =
          some (.resolved ⟨⟨3⟩, "x", [0, 0], ⟨2⟩, .literal "0", true⟩) :=
    ⟨_, _, rfl, rfl, rfl, rfl, rfl, rfl⟩
  exact ⟨compilation, other, hcompiled, hcompiled', hclean, hclean', List.mem_of_getElem? htaken,
    List.mem_of_getElem? htaken',
    (substitutions_eq_of_inlining builds_doubledCondition hcompiled hclean hcompiled' hclean').1⟩

end Language

end VisualScript
