import VisualScript.Proofs.Language.Completion
import VisualScript.Proofs.Pass.Layout
import VisualScript.Proofs.Pass.Visibility

/-!
# What is submitted is complete

A program is submitted only if every node that was emitted for it has all it needs.
-/

namespace VisualScript.Language

variable {core : CoreDescription} {user : UserDescription} {engine : Pattern.Engine}
  {options : CompileOptions} {graph : Graph} {compilation : Compilation}

/-- Whichever engine reads the patterns of literals, what is submitted is the code, of a pass
in which every node that was reached has a known component and all it needs, and which wrote
every branch with a then block that is not blank. Literals count as valid by what the engine
makes of the patterns. -/
theorem complete_of_submission? (hbuilt : (Language.build core user engine).Builds graph)
    (hcompiled : (Language.build core user engine).compile options graph = .ok compilation)
    {text : String} (hsubmitted : compilation.submission? = some text) :
    text = compilation.code ∧
      (∀ name type, (Language.build core user engine).registry.get? name = some type →
        type.validator = type.description.pattern.bind engine) ∧
      ∃ written pass,
        ((Language.build core user engine).context options graph).run = .ok (written, pass) ∧
        compilation = .ofPass written pass ∧
        (∀ id ∈ pass.reached,
          ((Language.build core user engine).context options graph).CompleteAt id) ∧
        Guarded written ∧
        ∀ id scope, .entered id scope ∈ compilation.journal → id ∈ pass.reached ∧
          ((Language.build core user engine).kind? graph id = some .branch →
            ∃ condition, ⟨scope, id, .ifHeader condition⟩ ∈ written) := by
  have hvalid : compilation.isValid = true := by
    unfold Compilation.submission? at hsubmitted
    split at hsubmitted
    next hvalid => exact hvalid
    next => cases hsubmitted
  have htext : text = compilation.code := by
    rw [Compilation.submission?, if_pos hvalid] at hsubmitted
    exact (Option.some.inj hsubmitted).symm
  obtain ⟨written, pass, hrun, rfl, htour, _⟩ := exists_cleanTour hbuilt hcompiled hvalid
  have hreaches := htour.reaches (registered_build core user engine options graph)
  obtain ⟨events, hevents, hlaid⟩ := htour.laid
  refine ⟨htext, fun _ _ => Registry.validator_of_get?_build, written, pass, hrun, rfl, ?_,
    hlaid.guarded, ?_⟩
  · intro id hid
    rcases hreaches.complete id hid with hnone | hcomplete
    · cases hnone
    · exact hcomplete
  · intro id scope hjournal
    have hentered : .entered id scope ∈ pass.events := List.mem_reverse.mp hjournal
    refine ⟨?_, fun hbranch => ?_⟩
    · rcases hreaches.entered id scope hentered with hnone | hreached
      · cases hnone
      · exact hreached
    · rw [hevents, List.append_nil] at hentered
      exact hlaid.headers id scope hentered ((kind?_context id).trans hbranch)

/-- An engine that reads a pattern of digits. -/
def digitEngine : Pattern.Engine := fun text =>
  if text = "^[0-9]+$" then
    some ⟨.ofRegular (.sequence [.condition .textStart,
      .repetition (.oneOf ⟨[(0x30, 0x39)]⟩ true) 1 none true, .condition .textEnd])⟩
  else none

/-- A language with integers that are written with digits, and a function that shows one. -/
def showing : Language :=
  let integer : TypeDescription :=
    { machineName := "int", displayName := "int", pattern := some "^[0-9]+$" }
  let shows : FunctionDescription :=
    { name := "show", result := "int", arguments := [⟨"value", "int"⟩], hasEffect := true }
  .build { types := [integer], functions := [shows] } {} digitEngine

/-- A function that shows the number 17. -/
def shownNumber : Graph where
  nodes := [
    { id := ⟨1⟩, name := "Function", outputs := ⟨[("fout", .flow)]⟩ },
    { id := ⟨2⟩, name := "show", data := ⟨[("value", .string "17")]⟩
      inputs := ⟨[("fin", .flow), ("value", ⟨"value", .data "int" .value⟩)]⟩
      outputs := ⟨[("result", ⟨"Result", .data "int" .value⟩), ("fout", .flow)]⟩ }]
  connections := [⟨1, ⟨1⟩, "fout", ⟨2⟩, "fin"⟩]
  lastNode := 2
  lastConnection := 1

theorem builds_shownNumber : showing.Builds shownNumber := by
  have hempty : showing.Builds .empty := .empty
  have hfunction := hempty.spawn "Function" .empty rfl
  have hshow := hfunction.spawn "show" ⟨[("value", .string "17")]⟩ rfl
  exact hshow.connect ⟨1⟩ "fout" ⟨2⟩ "fin" rfl

/-- The program that shows 17 is submitted. Its call is complete, as the engine takes 17 for a
number, which it does not take every text for. -/
theorem complete_shownNumber :
    ∃ compilation text type, showing.compile {} shownNumber = .ok compilation ∧
      compilation.submission? = some text ∧ (showing.context {} shownNumber).CompleteAt ⟨2⟩ ∧
      showing.registry.get? "int" = some type ∧ type.accepts "17" = true ∧
      type.accepts "x" = false := by
  obtain ⟨compilation, text, after, hcompiled, hsubmitted, hjournal⟩ :
      ∃ compilation text after, showing.compile {} shownNumber = .ok compilation ∧
        compilation.submission? = some text ∧
        compilation.journal = [.opened [0], .entered ⟨1⟩ [0],
          .wrote ⟨[0], ⟨1⟩, .exportMark⟩, .wrote ⟨[0], ⟨1⟩, .definition "" []⟩, .opened [0, 0],
          .entered ⟨2⟩ [0, 0]] ++ after :=
    ⟨_, _, _, rfl, rfl, rfl⟩
  have hentered : .entered ⟨2⟩ [0, 0] ∈ compilation.journal := by
    rw [hjournal]
    exact List.mem_append_left _ (by simp)
  obtain ⟨-, -, written, pass, -, -, hcomplete, -, hreached⟩ :=
    complete_of_submission? builds_shownNumber hcompiled hsubmitted
  exact ⟨compilation, text, _, hcompiled, hsubmitted, hcomplete _ (hreached _ _ hentered).1, rfl,
    rfl, rfl⟩

end VisualScript.Language
