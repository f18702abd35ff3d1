import Mathlib.Data.List.Forall2
import Mathlib.Data.List.TakeWhile
import VisualScript.Compilation

/-!
# Reports on a program

Reports of the host compiler about the file of a program are added to its diagnostics, each
on the node that wrote the line it names. They never change the program or whether it may
be submitted, however many of them come and however often.
-/

namespace VisualScript

namespace HostReport

variable {owners : List (Option NodeId)} {file : String} {reports : List HostReport}
  {added : Diagnostics}

/-- The characters between the parts of a path. -/
def IsSeparator (c : Char) : Prop := c = '/' ∨ c = '\\'

/-- A path ends with a name: the name has no separator, and there is one in front of it unless
it is the whole path. -/
def EndsWith (path name : List Char) : Prop :=
  (∀ c ∈ name, ¬ IsSeparator c) ∧
    (path = name ∨ ∃ front separator, IsSeparator separator ∧ path = front ++ separator :: name)

/-- A diagnostic tells what a report says, on the node that wrote its line if there is one. -/
structure Tells (report : HostReport) (owners : List (Option NodeId)) (diagnostic : Diagnostic) :
    Prop where
  kind : diagnostic.kind = .hostError
  message : diagnostic.message = report.message
  /-- Lines are counted from one. -/
  node : ∀ id, diagnostic.node = some id ↔
    ∃ index, ∃ _ : index < owners.length, report.line = index + 1 ∧ owners[index] = some id
  hints : diagnostic.hints =
    ([("fixme: ", report.fixme), ("extra: ", report.extra)].filter fun hint => hint.2 ≠ "").map
      fun hint => hint.1 ++ hint.2

/-- Reports gone through in order: there is one diagnostic for each that is about the file. -/
inductive Told (owners : List (Option NodeId)) (file : String) :
    List HostReport → Diagnostics → Prop
  | nil : Told owners file [] []
  | told {report rest diagnostic added} (about : EndsWith report.file.toList file.toList)
      (tells : report.Tells owners diagnostic) (later : Told owners file rest added) :
      Told owners file (report :: rest) (diagnostic :: added)
  | passed {report rest added} (elsewhere : ¬ EndsWith report.file.toList file.toList)
      (later : Told owners file rest added) :
      Told owners file (report :: rest) added

/-! ## One report -/

theorem isSeparator_iff {c : Char} : IsSeparator c ↔ (c ≠ '/' && c ≠ '\\') = false := by
  unfold IsSeparator
  by_cases hslash : c = '/' <;> simp [hslash]

theorem lastPart_of_endsWith {path name : List Char} (h : EndsWith path name) :
    lastPart path = name := by
  obtain ⟨hname, hpath⟩ := h
  have hpart : ∀ c ∈ name.reverse, (c ≠ '/' && c ≠ '\\') = true := by
    intro c hmem
    have hnone := hname c (List.mem_reverse.mp hmem)
    rwa [isSeparator_iff, Bool.not_eq_false] at hnone
  rcases hpath with rfl | ⟨front, separator, hseparator, rfl⟩
  · rw [lastPart, List.takeWhile_eq_self_iff.mpr hpart, List.reverse_reverse]
  · rw [lastPart, List.reverse_append, List.reverse_cons, List.append_assoc, List.singleton_append,
      List.takeWhile_append_of_pos hpart, List.takeWhile_cons_of_neg, List.append_nil,
      List.reverse_reverse]
    rw [isSeparator_iff.mp hseparator]
    exact Bool.false_ne_true

theorem endsWith_lastPart (path : List Char) : EndsWith path (lastPart path) := by
  constructor
  · intro c hmem hseparator
    have hpart := List.mem_takeWhile_imp (List.mem_reverse.mp hmem)
    rw [isSeparator_iff.mp hseparator] at hpart
    cases hpart
  · have hsplit := List.takeWhile_append_dropWhile
      (p := fun c => c ≠ '/' && c ≠ '\\') (l := path.reverse)
    cases hfront : path.reverse.dropWhile fun c => c ≠ '/' && c ≠ '\\' with
    | nil =>
        rw [hfront, List.append_nil] at hsplit
        exact .inl (by rw [lastPart, hsplit, List.reverse_reverse])
    | cons separator front =>
        refine .inr ⟨front.reverse, separator, ?_, ?_⟩
        · have hhead := List.head?_dropWhile_not (fun c => c ≠ '/' && c ≠ '\\') path.reverse
          rw [hfront] at hhead
          exact isSeparator_iff.mpr (by simpa using hhead)
        · rw [hfront] at hsplit
          have hpath := congrArg List.reverse hsplit
          rw [List.reverse_append, List.reverse_cons, List.reverse_reverse, List.append_assoc,
            List.singleton_append] at hpath
          exact hpath.symm

/-- A report is about a file exactly if its path ends with the name of the file. -/
theorem concerns_iff (report : HostReport) (file : String) :
    report.concerns file = true ↔ EndsWith report.file.toList file.toList := by
  unfold concerns
  rw [decide_eq_true_iff]
  exact ⟨fun h => h ▸ endsWith_lastPart _, lastPart_of_endsWith⟩

example : lastPart "C:\\work\\main.das".toList = "main.das".toList := by decide

theorem owner?_eq_some_iff {report : HostReport} {id : NodeId} :
    report.owner? owners = some id ↔
      ∃ index, ∃ _ : index < owners.length, report.line = index + 1 ∧ owners[index] = some id := by
  unfold owner?
  cases hline : report.line with
  | zero => simp
  | succ line =>
      simp only [Option.join_eq_some_iff, List.getElem?_eq_some_iff, Nat.add_right_cancel_iff]
      constructor
      · rintro ⟨hindex, howner⟩
        exact ⟨line, hindex, rfl, howner⟩
      · rintro ⟨index, hindex, rfl, howner⟩
        exact ⟨hindex, howner⟩

theorem tells_diagnostic (report : HostReport) (owners : List (Option NodeId)) :
    report.Tells owners (report.diagnostic owners) where
  kind := rfl
  message := by
    change "" ++ report.message ++ "" = report.message
    rw [String.empty_append, String.append_empty]
  node _ := owner?_eq_some_iff
  hints := by
    change report.hints = _
    unfold hints
    by_cases hfixme : report.fixme = "" <;> by_cases hextra : report.extra = "" <;>
      simp [hfixme, hextra]

/-- What the host compiler tells is no error of the program. -/
theorem Told.hasErrors_eq (h : Told owners file reports added) : added.hasErrors = false := by
  induction h with
  | nil => rfl
  | told _ tells _ ih =>
      rw [Diagnostics.hasErrors, List.any_cons, Diagnostic.isError, Diagnostic.severity, tells.kind]
      exact ih
  | passed _ _ ih => exact ih

end HostReport

namespace Compilation

variable {before middle after : Compilation} {first second : Diagnostics}

/-- Diagnostics are added behind those of a compilation, and nothing else is changed. -/
structure Extends (before : Compilation) (added : Diagnostics) (after : Compilation) : Prop where
  diagnostics : after.diagnostics = before.diagnostics ++ added
  lines : after.lines = before.lines
  modules : after.modules = before.modules
  journal : after.journal = before.journal

namespace Extends

theorem refl (compilation : Compilation) : compilation.Extends [] compilation :=
  ⟨(List.append_nil _).symm, rfl, rfl, rfl⟩

theorem trans (h : before.Extends first middle) (hlater : middle.Extends second after) :
    before.Extends (first ++ second) after where
  diagnostics := by rw [hlater.diagnostics, h.diagnostics, List.append_assoc]
  lines := hlater.lines.trans h.lines
  modules := hlater.modules.trans h.modules
  journal := hlater.journal.trans h.journal

theorem owners_eq (h : before.Extends first after) : after.owners = before.owners :=
  congrArg (List.map Line.node) h.lines

theorem code_eq (h : before.Extends first after) : after.code = before.code := by
  rw [code, code, h.lines]

theorem isValid_eq (h : before.Extends first after) (hnone : first.hasErrors = false) :
    after.isValid = before.isValid := by
  unfold isValid Diagnostics.hasErrors
  rw [h.diagnostics, List.any_append, show first.any Diagnostic.isError = false from hnone,
    Bool.or_false]

theorem submission?_eq (h : before.Extends first after) (hnone : first.hasErrors = false) :
    after.submission? = before.submission? := by
  rw [submission?, submission?, h.isValid_eq hnone, h.code_eq]

end Extends

/-! ## Many reports -/

theorem note_of_concerns {file : String} {report : HostReport}
    (h : report.concerns file = true) (count : Nat) (compilation : Compilation) :
    note file (count, compilation) report =
      (count + 1, { compilation with
        diagnostics := compilation.diagnostics ++ [report.diagnostic compilation.owners] }) :=
  if_pos h

theorem note_of_not_concerns {file : String} {report : HostReport}
    (h : ¬ report.concerns file = true) (counted : Nat × Compilation) :
    note file counted report = counted :=
  if_neg h

/-- Going through reports adds what they tell about the file and counts it. -/
theorem told_foldl_note (file : String) (reports : List HostReport) (count : Nat)
    (compilation : Compilation) :
    ∃ added, HostReport.Told compilation.owners file reports added ∧
      (reports.foldl (note file) (count, compilation)).1 = count + added.length ∧
      compilation.Extends added (reports.foldl (note file) (count, compilation)).2 := by
  induction reports generalizing count compilation with
  | nil => exact ⟨[], .nil, rfl, .refl compilation⟩
  | cons report rest ih =>
      rw [List.foldl_cons]
      by_cases habout : report.concerns file = true
      · rw [note_of_concerns habout]
        have hnoted : compilation.Extends [report.diagnostic compilation.owners]
          { compilation with
            diagnostics := compilation.diagnostics ++ [report.diagnostic compilation.owners] } :=
          ⟨rfl, rfl, rfl, rfl⟩
        obtain ⟨added, htold, hcount, hextends⟩ := ih (count + 1) { compilation with
          diagnostics := compilation.diagnostics ++ [report.diagnostic compilation.owners] }
        refine ⟨report.diagnostic compilation.owners :: added, ?_, ?_, hnoted.trans hextends⟩
        · exact .told ((report.concerns_iff file).mp habout) (report.tells_diagnostic _) htold
        · rw [hcount, List.length_cons]
          omega
      · rw [note_of_not_concerns habout]
        obtain ⟨added, htold, hcount, hextends⟩ := ih count compilation
        refine ⟨added, .passed ?_ htold, hcount, hextends⟩
        exact fun h => habout ((report.concerns_iff file).mpr h)

/-- One call after another, each with reports and the name of a file: the numbers of reports
added by each, and what comes out in the end. -/
def attachAll (compilation : Compilation) : List (List HostReport × String) → List Nat × Compilation
  | [] => ([], compilation)
  | (reports, file) :: rest =>
      let (count, attached) := compilation.attachCounted reports file
      let (counts, last) := attached.attachAll rest
      (count :: counts, last)

/-- However often reports are attached, every call adds a diagnostic for each report whose path
ends with the name of the file, in order, and tells how many there are. The program, its
modules and whether it is submitted stay as they are. -/
theorem attachAll_told (compilation : Compilation) (calls : List (List HostReport × String)) :
    ∃ told : List Diagnostics,
      List.Forall₂ (fun call added => HostReport.Told compilation.owners call.2 call.1 added)
        calls told ∧
      (compilation.attachAll calls).1 = told.map List.length ∧
      (compilation.attachAll calls).2.diagnostics = compilation.diagnostics ++ told.flatten ∧
      (compilation.attachAll calls).2.code = compilation.code ∧
      (compilation.attachAll calls).2.owners = compilation.owners ∧
      (compilation.attachAll calls).2.modules = compilation.modules ∧
      (compilation.attachAll calls).2.isValid = compilation.isValid ∧
      (compilation.attachAll calls).2.submission? = compilation.submission? := by
  suffices general : ∃ told : List Diagnostics,
      List.Forall₂ (fun call added => HostReport.Told compilation.owners call.2 call.1 added)
        calls told ∧
      (compilation.attachAll calls).1 = told.map List.length ∧
      compilation.Extends told.flatten (compilation.attachAll calls).2 ∧
      Diagnostics.hasErrors told.flatten = false by
    obtain ⟨told, htold, hcounts, hextends, hnone⟩ := general
    exact ⟨told, htold, hcounts, hextends.diagnostics, hextends.code_eq, hextends.owners_eq,
      hextends.modules, hextends.isValid_eq hnone, hextends.submission?_eq hnone⟩
  induction calls generalizing compilation with
  | nil => exact ⟨[], .nil, rfl, .refl compilation, rfl⟩
  | cons call rest ih =>
      obtain ⟨reports, file⟩ := call
      obtain ⟨added, hadded, hcount, hextends⟩ := told_foldl_note file reports 0 compilation
      obtain ⟨told, htold, hcounts, hlater, hnone⟩ :=
        ih (compilation.attachCounted reports file).2
      rw [attachCounted, hextends.owners_eq] at htold
      refine ⟨added :: told, .cons hadded htold, ?_, hextends.trans hlater, ?_⟩
      · change (compilation.attachCounted reports file).1 :: _ = _
        rw [List.map_cons, ← hcounts, attachCounted, hcount, Nat.zero_add]
      · rw [List.flatten_cons, Diagnostics.hasErrors, List.any_append, Bool.or_eq_false_iff]
        exact ⟨hadded.hasErrors_eq, hnone⟩

end Compilation

end VisualScript
