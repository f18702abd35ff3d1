import VisualScript.Proofs.Pass.Adequacy
import VisualScript.Proofs.Pass.Content
import VisualScript.Proofs.Program.Lines

/-!
# The table of lines

The table of a program tells for each of its lines which node wrote it. Statements are
cut at their newlines before they are laid out, so the table describes the text as long
as the names of required modules hold no newline; those are written as they stand.
-/

namespace VisualScript

/-- The text that a statement adds to a program: its own text inside its scope, and a
newline. -/
def Written.text (written : Written) : List Char :=
  Text.indent (List.replicate (written.scope.length - 1) '\t') true
    written.statement.text.toList ++ ['\n']

namespace Compilation

/-- The text that requires modules, with an empty line behind it if there are any. -/
def preamble (modules : List String) : List Char :=
  if modules.isEmpty then []
  else modules.flatMap (fun name => ("require " ++ name).toList ++ ['\n']) ++ ['\n']

/-- The table of a program describes its text, which was laid out from some statements.
Where a statement stands in the text is told by the newlines in front of it. -/
structure Tabled (compilation : Compilation) (laid : List Written) : Prop where
  /-- Cut at its newlines, the text gives a line for each entry and nothing behind them. -/
  lines : ∃ lines, Text.pieces compilation.code.toList = lines ++ [[]] ∧
    lines.length = compilation.owners.length
  /-- The lines that require modules, and the empty line behind them, are no node's. -/
  unowned : ∀ line, line ≤ (preamble compilation.modules).count '\n' →
    compilation.nodeAtLine? line = none
  /-- The lines of a statement are those of the node that wrote it. -/
  owned : ∀ before written after, laid = before ++ written :: after → ∀ line,
    (preamble compilation.modules ++ before.flatMap Written.text).count '\n' < line →
    line ≤ (preamble compilation.modules ++ before.flatMap Written.text ++
      written.text).count '\n' →
    compilation.nodeAtLine? line = some written.node
  beyond : ∀ line, compilation.code.toList.count '\n' < line →
    compilation.nodeAtLine? line = none
  /-- The first line of a node is the least of its lines. -/
  first : ∀ id line, compilation.firstLineOf? id = some line ↔
    compilation.nodeAtLine? line = some id ∧
      ∀ earlier, earlier < line → compilation.nodeAtLine? earlier ≠ some id

end Compilation

/-! ## The lines of statements -/

namespace Written

theorem text_lines (written : Written) :
    written.lines.map (fun line => line.text.toList) =
      (Text.pieces written.statement.text.toList).map
        (Text.behindTabs (List.replicate (written.scope.length - 1) '\t')) := by
  rw [lines, List.map_map, List.map_inj_left]
  intro piece _
  cases piece <;> simp [Text.behindTabs]

theorem node_lines (written : Written) :
    written.lines.map Line.node = List.replicate written.lines.length (some written.node) := by
  rw [lines, List.map_map, List.length_map, ← List.map_const']
  rfl

/-- The text of a statement is made of its lines. -/
theorem text_eq (written : Written) :
    written.text = Text.ended (written.lines.map fun line => line.text.toList) := by
  rw [text, Text.indent_true, text_lines]

theorem not_mem_of_mem_lines {written : Written} {line : Line} (h : line ∈ written.lines) :
    '\n' ∉ line.text.toList := by
  obtain ⟨piece, hpiece, rfl⟩ := List.mem_map.mp h
  have hnone := Text.not_mem_of_mem_pieces hpiece
  split
  next => simpa using hnone
  next => simp [hnone]

theorem count_text (written : Written) : written.text.count '\n' = written.lines.length := by
  rw [text_eq, Text.count_ended_eq_iff.mpr, List.length_map]
  intro text htext
  obtain ⟨line, hline, rfl⟩ := List.mem_map.mp htext
  exact not_mem_of_mem_lines hline

theorem flatMap_text (laid : List Written) :
    laid.flatMap text = Text.ended ((laid.flatMap lines).map fun line => line.text.toList) := by
  induction laid with
  | nil => rfl
  | cons written rest ih =>
      rw [List.flatMap_cons, List.flatMap_cons, List.map_append, Text.ended_append, text_eq, ih]

theorem count_flatMap_text (laid : List Written) :
    (laid.flatMap text).count '\n' = (laid.flatMap lines).length := by
  rw [flatMap_text, Text.count_ended_eq_iff.mpr, List.length_map]
  intro text htext
  obtain ⟨line, hline, rfl⟩ := List.mem_map.mp htext
  obtain ⟨written, _, hmem⟩ := List.mem_flatMap.mp hline
  exact not_mem_of_mem_lines hmem

end Written

namespace Compilation

variable {compilation : Compilation} {laid : List Written} {pass : Pass}

theorem toList_code (compilation : Compilation) :
    compilation.code.toList =
      Text.ended (compilation.lines.map fun line => line.text.toList) := by
  rw [code, String.toList_join, List.flatMap_map, Text.ended, List.flatMap_map]
  refine congrArg (List.flatMap · _) (funext fun line => ?_)
  rw [String.toList_append]
  rfl

theorem text_header (modules : List String) :
    preamble modules = Text.ended ((header modules).map fun line => line.text.toList) := by
  unfold preamble header
  split
  next => rfl
  next =>
    rw [List.map_append, Text.ended_append, List.map_map, Text.ended, List.flatMap_map]
    rfl

theorem node_header {modules : List String} {owner : Option NodeId}
    (h : owner ∈ (header modules).map Line.node) : owner = none := by
  obtain ⟨line, hline, rfl⟩ := List.mem_map.mp h
  unfold header at hline
  split at hline
  next => cases hline
  next =>
    rcases List.mem_append.mp hline with hline | hline
    · obtain ⟨name, _, rfl⟩ := List.mem_map.mp hline
      rfl
    · obtain rfl := List.mem_singleton.mp hline
      rfl

/-- A line that requires a module holds a newline if the name of the module does. -/
theorem newline_header_iff {modules : List String} :
    (∀ line ∈ header modules, '\n' ∉ line.text.toList) ↔
      ∀ name ∈ modules, '\n' ∉ name.toList := by
  have hrequire : ∀ name : String, '\n' ∈ ("require " ++ name).toList ↔ '\n' ∈ name.toList := by
    intro name
    rw [String.toList_append, List.mem_append]
    exact or_iff_right (by decide)
  unfold header
  split
  next hempty =>
    rw [List.isEmpty_iff] at hempty
    simp [hempty]
  next =>
    simp only [List.mem_append, List.mem_map, List.mem_singleton]
    constructor
    · intro h name hname hnewline
      exact h _ (.inl ⟨name, hname, rfl⟩) ((hrequire name).mpr hnewline)
    · rintro h line (⟨name, hname, rfl⟩ | rfl)
      · exact fun hnewline => h name hname ((hrequire name).mp hnewline)
      · exact List.not_mem_nil

theorem lines_ofPass (laid : List Written) (pass : Pass) :
    (ofPass laid pass).lines = header (ofPass laid pass).modules ++ laid.flatMap Written.lines :=
  rfl

/-- The text of a program: that which requires its modules, and its statements in the order in
which they were laid out. -/
theorem code_ofPass (laid : List Written) (pass : Pass) :
    (ofPass laid pass).code.toList =
      preamble (ofPass laid pass).modules ++ laid.flatMap Written.text := by
  rw [toList_code, lines_ofPass, List.map_append, Text.ended_append, ← text_header,
    ← Written.flatMap_text]

/-! ## Entries of the table -/

/-- Where the table is known to be made of parts, so are its entries. -/
theorem nodeAtLine?_of_owners {front middle back : List (Option NodeId)}
    (howners : compilation.owners = front ++ middle ++ back) {line : Nat}
    (hfront : front.length < line) (hmiddle : line ≤ front.length + middle.length) :
    compilation.nodeAtLine? line ∈ middle := by
  cases line with
  | zero => cases hfront
  | succ index =>
      have hindex : index - front.length < middle.length := by omega
      rw [nodeAtLine?, howners, List.append_assoc, List.getElem?_append_right (by omega),
        List.getElem?_append_left hindex, List.getElem?_eq_getElem hindex]
      exact List.getElem_mem hindex

theorem nodeAtLine?_of_length_lt {line : Nat} (h : compilation.owners.length < line) :
    compilation.nodeAtLine? line = none := by
  cases line with
  | zero => cases h
  | succ index => rw [nodeAtLine?, List.getElem?_eq_none (by omega)]; rfl

/-- The first line of a node is the least of its lines, in every table. -/
theorem firstLineOf?_eq_some_iff {id : NodeId} {line : Nat} :
    compilation.firstLineOf? id = some line ↔ compilation.nodeAtLine? line = some id ∧
      ∀ earlier, earlier < line → compilation.nodeAtLine? earlier ≠ some id := by
  have hentry : ∀ index, compilation.nodeAtLine? (index + 1) = some id ↔
      ∃ h : index < compilation.owners.length, compilation.owners[index] = some id := by
    intro index
    rw [nodeAtLine?, Option.join_eq_some_iff, List.getElem?_eq_some_iff]
  cases line with
  | zero => simp [firstLineOf?, nodeAtLine?]
  | succ index =>
      simp only [firstLineOf?, Option.map_eq_some_iff, List.findIdx?_eq_some_iff_getElem,
        decide_eq_true_eq, Nat.add_right_cancel_iff, exists_eq_right, hentry]
      constructor
      · rintro ⟨hindex, hfound, hearlier⟩
        refine ⟨⟨hindex, hfound⟩, fun earlier hlt => ?_⟩
        cases earlier with
        | zero => simp [nodeAtLine?]
        | succ earlier =>
            rw [Ne, hentry]
            rintro ⟨_, hsame⟩
            exact hearlier earlier (by omega) hsame
      · rintro ⟨⟨hindex, hfound⟩, hearlier⟩
        refine ⟨hindex, hfound, fun earlier hlt hsame => ?_⟩
        exact hearlier (earlier + 1) (by omega) ((hentry earlier).mpr ⟨by omega, hsame⟩)

/-! ## The table describes the text -/

/-- The table is made of the entries of the header and those of the statements. -/
theorem owners_ofPass (laid : List Written) (pass : Pass) :
    (ofPass laid pass).owners = (header (ofPass laid pass).modules).map Line.node ++
      (laid.flatMap Written.lines).map Line.node := by
  rw [owners, lines_ofPass, List.map_append]

theorem count_preamble {modules : List String} (h : ∀ name ∈ modules, '\n' ∉ name.toList) :
    (preamble modules).count '\n' = (header modules).length := by
  rw [text_header, Text.count_ended_eq_iff.mpr, List.length_map]
  intro text htext
  obtain ⟨line, hline, rfl⟩ := List.mem_map.mp htext
  exact newline_header_iff.mpr h line hline

/-- No line of a program holds a newline if no module has one in its name. -/
theorem not_mem_lines_ofPass (h : ∀ name ∈ (ofPass laid pass).modules, '\n' ∉ name.toList) :
    ∀ text ∈ (ofPass laid pass).lines.map (fun line => line.text.toList), '\n' ∉ text := by
  intro text htext
  obtain ⟨line, hline, rfl⟩ := List.mem_map.mp htext
  rcases List.mem_append.mp hline with hline | hline
  · exact newline_header_iff.mpr h line hline
  · obtain ⟨written, _, hmem⟩ := List.mem_flatMap.mp hline
    exact Written.not_mem_of_mem_lines hmem

/-- The entries of the header are no node's. -/
theorem nodeAtLine?_header {line : Nat}
    (hline : line ≤ (header (ofPass laid pass).modules).length) :
    (ofPass laid pass).nodeAtLine? line = none := by
  cases line with
  | zero => rfl
  | succ index =>
      have howners := (owners_ofPass laid pass).trans (List.nil_append _).symm
      rw [← List.append_assoc] at howners
      refine node_header (nodeAtLine?_of_owners howners (Nat.zero_lt_succ _) ?_)
      rw [List.length_nil, List.length_map]
      omega

/-- The entries of a statement, behind those of the header and of the statements before it, are
those of the node that wrote it. -/
theorem nodeAtLine?_written {before after : List Written} {written : Written} {line : Nat}
    (heq : laid = before ++ written :: after)
    (hbefore : (header (ofPass laid pass).modules).length +
      (before.flatMap Written.lines).length < line)
    (hafter : line ≤ (header (ofPass laid pass).modules).length +
      (before.flatMap Written.lines).length + written.lines.length) :
    (ofPass laid pass).nodeAtLine? line = some written.node := by
  have howners : (ofPass laid pass).owners =
      ((header (ofPass laid pass).modules).map Line.node ++
        (before.flatMap Written.lines).map Line.node) ++ written.lines.map Line.node ++
        (after.flatMap Written.lines).map Line.node := by
    rw [owners_ofPass, heq, List.flatMap_append, List.flatMap_cons]
    simp only [List.map_append, List.append_assoc]
  have hmem : (ofPass laid pass).nodeAtLine? line ∈ written.lines.map Line.node := by
    refine nodeAtLine?_of_owners howners ?_ ?_
    · rw [List.length_append, List.length_map, List.length_map]
      exact hbefore
    · rw [List.length_append, List.length_map, List.length_map, List.length_map]
      exact hafter
  rw [Written.node_lines] at hmem
  exact List.eq_of_mem_replicate hmem

/-- Where no line holds a newline, the table describes the text. -/
theorem tabled_ofPass (h : ∀ name ∈ (ofPass laid pass).modules, '\n' ∉ name.toList) :
    (ofPass laid pass).Tabled laid := by
  have hlines := not_mem_lines_ofPass h
  have hlength : (ofPass laid pass).owners.length = (ofPass laid pass).lines.length :=
    List.length_map _
  refine ⟨?_, ?_, ?_, ?_, fun id line => firstLineOf?_eq_some_iff⟩
  · refine ⟨_, by rw [toList_code, Text.pieces_ended hlines], ?_⟩
    rw [hlength, List.length_map]
  · intro line hline
    rw [count_preamble h] at hline
    exact nodeAtLine?_header hline
  · intro before written after heq line hbefore hafter
    rw [List.count_append, count_preamble h, Written.count_flatMap_text] at hbefore
    rw [List.count_append, List.count_append, count_preamble h, Written.count_flatMap_text,
      Written.count_text] at hafter
    exact nodeAtLine?_written heq hbefore hafter
  · intro line hline
    rw [toList_code, Text.count_ended_eq_iff.mpr hlines, List.length_map, ← hlength] at hline
    exact nodeAtLine?_of_length_lt hline

/-- A newline in the name of a module makes a line that the table knows nothing of. -/
theorem Tabled.no_newline (h : (ofPass laid pass).Tabled laid) :
    ∀ name ∈ (ofPass laid pass).modules, '\n' ∉ name.toList := by
  obtain ⟨lines, hpieces, hlength⟩ := h.lines
  have hcount := congrArg List.length hpieces
  rw [Text.length_pieces, List.length_append, List.length_singleton, hlength, owners,
    List.length_map, ← List.length_map fun line : Line => line.text.toList, toList_code,
    Nat.add_right_cancel_iff, Text.count_ended_eq_iff] at hcount
  refine newline_header_iff.mp fun line hline => hcount _ (List.mem_map.mpr ⟨line, ?_, rfl⟩)
  exact lines_ofPass laid pass ▸ List.mem_append_left _ hline

end Compilation

namespace Language

/-- The text of a compiled program is made of what its pass wrote, and its table describes
the text exactly if no required module has a newline in its name. -/
theorem tabled_iff {language : Language} {options : CompileOptions} {graph : Graph}
    {compilation : Compilation} (hcompiled : language.compile options graph = .ok compilation) :
    ∃ laid pass, (language.context options graph).run = .ok (laid, pass) ∧
      (∀ written ∈ laid, .wrote written ∈ compilation.journal) ∧
      compilation.code.toList =
        Compilation.preamble compilation.modules ++ laid.flatMap Written.text ∧
      (compilation.Tabled laid ↔ ∀ name ∈ compilation.modules, '\n' ∉ name.toList) := by
  obtain ⟨laid, pass, hrun, rfl, htour⟩ := tour_of_compile hcompiled
  refine ⟨laid, pass, hrun, fun written hmem => ?_, Compilation.code_ofPass laid pass, ?_⟩
  · exact List.mem_reverse.mpr (htour.wrote.2 written hmem)
  · exact ⟨Compilation.Tabled.no_newline, Compilation.tabled_ofPass⟩

/-! ## A function with an integer argument -/

/-- A language whose integers ask for a module. -/
def requiring (module : String) : Language :=
  let integer : TypeDescription :=
    { machineName := "int", displayName := "int", copyable := true, modules := [module] }
  .build { types := [integer] } {}

def oneArgument : Graph where
  nodes := [
    { id := ⟨1⟩, name := "Function"
      data := ⟨[("numArgs", .string "1"), ("typeName", .array [.string "int"])]⟩
      inputs := ⟨[("arg0", ⟨"Argument 1", .any "any"⟩)]⟩
      outputs := ⟨[("fout", .flow), ("out0", ⟨"Output 1", .data "int" .value⟩)]⟩ }]
  lastNode := 1

/-- With a plain name the table describes the text: the line behind the required module is
no node's, and the next one is the first of the function. -/
theorem tabled_plainModule :
    ∃ compilation laid, (requiring "math").compile {} oneArgument = .ok compilation ∧
      compilation.modules = ["math"] ∧ compilation.Tabled laid ∧
      compilation.nodeAtLine? 2 = none ∧ compilation.firstLineOf? ⟨1⟩ = some 3 := by
  obtain ⟨compilation, hcompiled, hmodules, hsecond, hfirst⟩ : ∃ compilation,
      (requiring "math").compile {} oneArgument = .ok compilation ∧
      compilation.modules = ["math"] ∧ compilation.nodeAtLine? 2 = none ∧
      compilation.firstLineOf? ⟨1⟩ = some 3 := ⟨_, rfl, rfl, rfl, rfl⟩
  obtain ⟨laid, _, _, _, _, htabled⟩ := tabled_iff hcompiled
  refine ⟨compilation, laid, hcompiled, hmodules, htabled.mpr ?_, hsecond, hfirst⟩
  rw [hmodules]
  intro name hname
  obtain rfl := List.mem_singleton.mp hname
  decide

/-- With a newline in the name it does not: a line of the text comes without an entry. -/
theorem not_tabled_brokenModule :
    ∃ compilation laid pass, (requiring "math\nio").compile {} oneArgument = .ok compilation ∧
      ((requiring "math\nio").context {} oneArgument).run = .ok (laid, pass) ∧
      ¬ compilation.Tabled laid := by
  obtain ⟨laid, pass, hrun, hmodules⟩ : ∃ laid pass,
      ((requiring "math\nio").context {} oneArgument).run = .ok (laid, pass) ∧
      (Compilation.ofPass laid pass).modules = ["math\nio"] := ⟨_, _, rfl, rfl⟩
  refine ⟨.ofPass laid pass, laid, pass, ?_, hrun, fun htabled => ?_⟩
  · unfold compile
    rw [hrun]
  · refine htabled.no_newline "math\nio" ?_ (by decide)
    rw [hmodules]
    exact List.mem_singleton_self _

end Language

end VisualScript
