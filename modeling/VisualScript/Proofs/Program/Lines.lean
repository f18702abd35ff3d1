import VisualScript.Compilation

/-!
# Lines of indented text

A text inside a scope has tabs in front of every line that is not empty. Cutting
such a text at its newlines gives the pieces of the text behind their tabs, so the
lines that a statement makes are the lines of its text.
-/

namespace VisualScript

namespace Text

/-- Pieces laid end to end with a newline behind each. -/
def ended (pieces : List (List Char)) : List Char := pieces.flatMap (· ++ ['\n'])

/-- A text with tabs in front of every line that is not empty, its first line
included if the text begins a line. -/
def indent (tabs : List Char) (begins : Bool) : List Char → List Char
  | [] => []
  | c :: rest =>
      if c = '\n' then c :: indent tabs true rest
      else (if begins then tabs else []) ++ c :: indent tabs false rest

/-- A piece behind its tabs, if it is not empty. -/
def behindTabs (tabs piece : List Char) : List Char := if piece.isEmpty then [] else tabs ++ piece

@[simp] theorem ended_nil : ended [] = [] := rfl

@[simp] theorem ended_cons (piece : List Char) (rest : List (List Char)) :
    ended (piece :: rest) = piece ++ '\n' :: ended rest := by
  simp [ended]

@[simp] theorem ended_append (first second : List (List Char)) :
    ended (first ++ second) = ended first ++ ended second :=
  List.flatMap_append

/-- There is one piece more than newlines. -/
theorem length_pieces (text : List Char) : (pieces text).length = text.count '\n' + 1 := by
  induction text with
  | nil => rfl
  | cons c rest ih =>
      rw [pieces]
      split
      next hc => simp [hc, ih]
      next hc =>
        have hcount : (c :: rest).count '\n' = rest.count '\n' :=
          List.count_cons_of_ne hc
        rw [hcount, ← ih]
        cases hpieces : pieces rest with
        | nil => exact absurd hpieces (pieces_ne_nil rest)
        | cons piece others => rfl

/-- Pieces hold no newline. -/
theorem not_mem_of_mem_pieces {text piece : List Char} (h : piece ∈ pieces text) :
    '\n' ∉ piece := by
  induction text generalizing piece with
  | nil =>
      obtain rfl := List.mem_singleton.mp h
      exact List.not_mem_nil
  | cons c rest ih =>
      rw [pieces] at h
      split at h
      next =>
        rcases List.mem_cons.mp h with rfl | h
        · exact List.not_mem_nil
        · exact ih h
      next hc =>
        cases hpieces : pieces rest with
        | nil => exact absurd hpieces (pieces_ne_nil rest)
        | cons first others =>
            rw [hpieces, consFirst] at h
            rw [hpieces] at ih
            rcases List.mem_cons.mp h with rfl | h
            · rw [List.mem_cons, not_or]
              exact ⟨Ne.symm hc, ih (List.mem_cons_self ..)⟩
            · exact ih (List.mem_cons_of_mem _ h)

theorem pieces_append_newline {line : List Char} (h : '\n' ∉ line) (rest : List Char) :
    pieces (line ++ '\n' :: rest) = line :: pieces rest := by
  induction line with
  | nil => simp [pieces]
  | cons c line ih =>
      rw [List.mem_cons, not_or] at h
      rw [List.cons_append, pieces, if_neg (Ne.symm h.1), ih h.2]
      rfl

/-- Lines that hold no newline are the pieces of the text they make. -/
theorem pieces_ended {lines : List (List Char)} (h : ∀ line ∈ lines, '\n' ∉ line) :
    pieces (ended lines) = lines ++ [[]] := by
  induction lines with
  | nil => rfl
  | cons line rest ih =>
      rw [ended_cons, pieces_append_newline (h line (List.mem_cons_self ..)),
        ih fun other hmem => h other (List.mem_cons_of_mem _ hmem)]
      rfl

theorem length_le_count_ended (lines : List (List Char)) :
    lines.length ≤ (ended lines).count '\n' := by
  induction lines with
  | nil => exact Nat.le_refl _
  | cons line rest ih =>
      rw [ended_cons, List.count_append, List.count_cons_self, List.length_cons]
      omega

/-- A text made of lines has as many newlines as lines exactly if none is inside a line. -/
theorem count_ended_eq_iff {lines : List (List Char)} :
    (ended lines).count '\n' = lines.length ↔ ∀ line ∈ lines, '\n' ∉ line := by
  induction lines with
  | nil => simp
  | cons line rest ih =>
      have hrest := length_le_count_ended rest
      rw [ended_cons, List.count_append, List.count_cons_self, List.length_cons,
        List.forall_mem_cons, ← ih, ← List.count_eq_zero]
      omega

/-- Tabs go in front of the pieces. A text that goes on with a line has none in front of
its first piece. -/
theorem indent_eq (tabs text : List Char) :
    ∃ first rest, pieces text = first :: rest ∧
      indent tabs true text ++ ['\n'] = ended ((first :: rest).map (behindTabs tabs)) ∧
      indent tabs false text ++ ['\n'] = first ++ '\n' :: ended (rest.map (behindTabs tabs)) := by
  induction text with
  | nil => exact ⟨[], [], rfl, rfl, rfl⟩
  | cons c text ih =>
      obtain ⟨first, rest, hpieces, hbegins, hgoesOn⟩ := ih
      by_cases hc : c = '\n'
      · subst hc
        refine ⟨[], first :: rest, by rw [pieces, if_pos rfl, hpieces], ?_, ?_⟩
        · simp only [indent, if_true, List.cons_append, hbegins]
          rfl
        · simp only [indent, if_true, List.cons_append, hbegins]
          rfl
      · refine ⟨c :: first, rest, by rw [pieces, if_neg hc, hpieces, consFirst], ?_, ?_⟩
        · simp [indent, hc, hgoesOn, behindTabs]
        · simp [indent, hc, hgoesOn]

/-- Indenting a text indents its pieces. -/
theorem indent_true (tabs text : List Char) :
    indent tabs true text ++ ['\n'] = ended ((pieces text).map (behindTabs tabs)) := by
  obtain ⟨first, rest, hpieces, hbegins, _⟩ := indent_eq tabs text
  rw [hpieces, hbegins]

end Text

end VisualScript
