import Mathlib.Data.List.TakeWhile
import VisualScript.Language.Template

/-!
# Templates taken apart

Every template can be taken apart in one way into texts without dollar signs and the
placeholders between them. Filling it puts texts in place of the placeholders and leaves the
rest alone, whatever stands in the texts that are put there.
-/

namespace VisualScript

/-! ## Runs of characters -/

namespace Text

variable {p : Char → Bool} {word other rest tail : List Char}

/-- A text does not begin with a character that passes a test. -/
def EndsRun (p : Char → Bool) (text : List Char) : Prop := ∀ c ∈ text.head?, p c = false

theorem endsRun_nil (p : Char → Bool) : EndsRun p [] := fun _ hhead => by cases hhead

theorem endsRun_cons {c : Char} (h : p c = false) (rest : List Char) : EndsRun p (c :: rest) := by
  intro first hhead
  obtain rfl := Option.some.inj hhead
  exact h

theorem endsRun_append (h : EndsRun p word) (hrest : EndsRun p rest) :
    EndsRun p (word ++ rest) := by
  cases word with
  | nil => exact hrest
  | cons c others => exact h

theorem takeWhile_append (hword : ∀ c ∈ word, p c = true) (hrest : EndsRun p rest) :
    (word ++ rest).takeWhile p = word := by
  rw [List.takeWhile_append_of_pos hword]
  cases rest with
  | nil => rw [List.takeWhile_nil, List.append_nil]
  | cons c others =>
      have hc : ¬ p c = true := by simp [hrest c rfl]
      rw [List.takeWhile_cons_of_neg hc, List.append_nil]

/-- Where a run of characters ends is told by the text. -/
theorem append_inj_of_run (h : word ++ rest = other ++ tail) (hword : ∀ c ∈ word, p c = true)
    (hrest : EndsRun p rest) (hother : ∀ c ∈ other, p c = true) (htail : EndsRun p tail) :
    word = other ∧ rest = tail := by
  have hsame : word = other := by
    rw [← takeWhile_append hword hrest, h, takeWhile_append hother htail]
  exact ⟨hsame, List.append_cancel_left (hsame ▸ h)⟩

end Text

namespace Template

/-- The letters, digits and the underscore of ASCII. -/
def InName (c : Char) : Prop :=
  ('A' ≤ c ∧ c ≤ 'Z') ∨ ('a' ≤ c ∧ c ≤ 'z') ∨ ('0' ≤ c ∧ c ≤ '9') ∨ c = '_'

/-- A placeholder by its name, and the text behind it up to the next placeholder. -/
@[ext] structure Slot where
  name : List Char
  behind : List Char
  named : ∀ c ∈ name, InName c
  /-- The name goes on as long as it can. -/
  ended : ∀ c ∈ behind.head?, ¬ InName c
  plain : '$' ∉ behind

/-- A template taken apart: the text in front of its placeholders, and those. -/
@[ext] structure Parts where
  lead : List Char
  slots : List Slot
  plain : '$' ∉ lead

namespace Slot

def text (slot : Slot) : List Char := '$' :: (slot.name ++ slot.behind)

/-- What stands in place of a placeholder: the argument of its name if it has a name and there
is one, else the value if there is one, else the placeholder itself. -/
def replacement (value : Option String) (arguments : OrderedMap String String) (slot : Slot) :
    List Char :=
  let argument := if slot.name = [] then none else arguments.get? (String.ofList slot.name)
  ((argument <|> value).map String.toList).getD ('$' :: slot.name)

end Slot

namespace Parts

def text (parts : Parts) : List Char := parts.lead ++ parts.slots.flatMap Slot.text

/-- The text with something in place of each placeholder. -/
def filled (value : Option String) (arguments : OrderedMap String String) (parts : Parts) :
    List Char :=
  parts.lead ++ parts.slots.flatMap fun slot => slot.replacement value arguments ++ slot.behind

end Parts

/-! ## Cutting -/

theorem isNameChar_iff {c : Char} : isNameChar c = true ↔ InName c := by
  have hchar : isNameChar c =
      (decide ('A' ≤ c ∧ c ≤ 'Z') || (decide ('a' ≤ c) && decide (c ≤ 'z')) ||
        (decide ('0' ≤ c) && decide (c ≤ '9')) || decide (c = '_')) := rfl
  simp only [hchar, InName, Bool.or_eq_true, Bool.and_eq_true, decide_eq_true_eq, or_assoc]

theorem not_isNameChar_iff {c : Char} : isNameChar c = false ↔ ¬ InName c := by
  rw [← isNameChar_iff, Bool.not_eq_true]

theorem cut_dollar (rest : List Char) : cut none ('$' :: rest) = cut (some []) rest := by
  rw [cut, if_pos rfl]

theorem cut_char {c : Char} (h : c ≠ '$') (rest : List Char) :
    cut none (c :: rest) = .char c :: cut none rest :=
  if_neg h

/-- Behind a name the template goes on as if nothing had been read. -/
theorem cut_some (read : List Char) (c : Char) (rest : List Char) :
    cut (some read) (c :: rest) =
      if isNameChar c then cut (some (c :: read)) rest
      else .placeholder read.reverse :: cut none (c :: rest) := rfl

theorem cut_plain {text : List Char} (h : '$' ∉ text) (rest : List Char) :
    cut none (text ++ rest) = text.map .char ++ cut none rest := by
  induction text with
  | nil => rfl
  | cons c others ih =>
      have hc : c ≠ '$' := fun hc => h (hc ▸ List.mem_cons_self ..)
      rw [List.cons_append, cut_char hc, ih fun hmem => h (.tail _ hmem), List.map_cons,
        List.cons_append]

/-- A name goes on until a character that belongs to none. -/
theorem cut_name {name rest : List Char} (hname : ∀ c ∈ name, isNameChar c = true)
    (hrest : Text.EndsRun isNameChar rest) (read : List Char) :
    cut (some read) (name ++ rest) = .placeholder (read.reverse ++ name) :: cut none rest := by
  induction name generalizing read with
  | nil =>
      rw [List.nil_append, List.append_nil]
      cases rest with
      | nil => rfl
      | cons c others =>
          have hc : ¬ isNameChar c = true := by simp [hrest c rfl]
          rw [cut_some, if_neg hc]
  | cons c others ih =>
      rw [List.cons_append, cut_some, if_pos (hname c (List.mem_cons_self ..)),
        ih (fun other hmem => hname other (.tail _ hmem)), List.reverse_cons, List.append_assoc,
        List.singleton_append]

namespace Slot

theorem isNameChar_name (slot : Slot) : ∀ c ∈ slot.name, isNameChar c = true :=
  fun c hmem => isNameChar_iff.mpr (slot.named c hmem)

theorem endsRun_behind (slot : Slot) : Text.EndsRun isNameChar slot.behind :=
  fun c hhead => not_isNameChar_iff.mpr (slot.ended c hhead)

/-- A run that dollar signs do not belong to ends in front of placeholders. -/
theorem endsRun_flatMap_text {p : Char → Bool} (hp : p '$' = false) (slots : List Slot) :
    Text.EndsRun p (slots.flatMap text) := by
  cases slots with
  | nil => exact Text.endsRun_nil p
  | cons slot rest => exact Text.endsRun_cons hp _

theorem cut_text (slot : Slot) {rest : List Char} (hrest : Text.EndsRun isNameChar rest) :
    cut none (slot.text ++ rest) =
      .placeholder slot.name :: (slot.behind.map .char ++ cut none rest) := by
  rw [text, List.cons_append, cut_dollar, List.append_assoc,
    cut_name slot.isNameChar_name (Text.endsRun_append slot.endsRun_behind hrest),
    List.reverse_nil, List.nil_append, cut_plain slot.plain]

/-- A placeholder is filled with what the template wants there. -/
theorem fill_placeholder (value : Option String) (arguments : OrderedMap String String)
    (slot : Slot) :
    Piece.fill (value.map String.toList) arguments (.placeholder slot.name) =
      slot.replacement value arguments := by
  unfold Piece.fill replacement
  by_cases hname : slot.name = []
  · cases hbound : arguments.get? (String.ofList slot.name) <;> cases value <;>
      simp_all
  · cases hbound : arguments.get? (String.ofList slot.name) <;> cases value <;>
      simp [hname, hbound]

end Slot

theorem flatMap_fill_char (value : Option (List Char)) (arguments : OrderedMap String String)
    (text : List Char) : (text.map Piece.char).flatMap (Piece.fill value arguments) = text := by
  induction text with
  | nil => rfl
  | cons c rest ih =>
      rw [List.map_cons, List.flatMap_cons, ih]
      rfl

namespace Parts

theorem pieces_text (parts : Parts) :
    pieces parts.text = parts.lead.map .char ++
      parts.slots.flatMap fun slot => .placeholder slot.name :: slot.behind.map .char := by
  rw [pieces, text, cut_plain parts.plain]
  congr 1
  induction parts.slots with
  | nil => rfl
  | cons slot rest ih =>
      rw [List.flatMap_cons, List.flatMap_cons,
        slot.cut_text (Slot.endsRun_flatMap_text rfl rest), ih, List.cons_append]

/-- Filling puts something in place of each placeholder and keeps what is between them. -/
theorem flatMap_fill_pieces (parts : Parts) (value : Option String)
    (arguments : OrderedMap String String) :
    (pieces parts.text).flatMap (Piece.fill (value.map String.toList) arguments) =
      parts.filled value arguments := by
  rw [pieces_text, filled, List.flatMap_append, flatMap_fill_char, List.flatMap_assoc]
  congr 1
  refine congrArg (List.flatMap · parts.slots) (funext fun slot => ?_)
  rw [List.flatMap_cons, flatMap_fill_char, slot.fill_placeholder]

/-! ## Taking apart -/

/-- Every template can be taken apart: a dollar sign in front of parts takes as much of their
lead as can be a name. -/
theorem exists_text_eq (template : List Char) : ∃ parts : Parts, parts.text = template := by
  induction template with
  | nil => exact ⟨⟨[], [], List.not_mem_nil⟩, rfl⟩
  | cons c rest ih =>
      obtain ⟨parts, rfl⟩ := ih
      by_cases hc : c = '$'
      · have hsplit := List.takeWhile_append_dropWhile (p := isNameChar) (l := parts.lead)
        let slot : Slot :=
          { name := parts.lead.takeWhile isNameChar
            behind := parts.lead.dropWhile isNameChar
            named := fun other hmem => isNameChar_iff.mp (List.mem_takeWhile_imp hmem)
            ended := by
              intro other hhead
              have hfirst := List.head?_dropWhile_not isNameChar parts.lead
              rw [Option.mem_def.mp hhead] at hfirst
              exact not_isNameChar_iff.mp (by simpa using hfirst)
            plain := fun hmem => parts.plain (List.dropWhile_subset _ hmem) }
        refine ⟨⟨[], slot :: parts.slots, List.not_mem_nil⟩, ?_⟩
        rw [text, text, List.nil_append, List.flatMap_cons, Slot.text, hsplit, hc, List.cons_append]
      · refine ⟨⟨c :: parts.lead, parts.slots, fun hmem => ?_⟩, rfl⟩
        rcases List.mem_cons.mp hmem with heq | hrest
        · exact hc heq.symm
        · exact parts.plain hrest

/-- Text without dollar signs ends where the text of the placeholders behind it begins. -/
theorem append_slots_inj {lead other : List Char} {slots others : List Slot}
    (h : lead ++ slots.flatMap Slot.text = other ++ others.flatMap Slot.text)
    (hlead : '$' ∉ lead) (hother : '$' ∉ other) :
    lead = other ∧ slots.flatMap Slot.text = others.flatMap Slot.text := by
  have hplain : ∀ text : List Char, '$' ∉ text → ∀ c ∈ text, decide (c ≠ '$') = true :=
    fun text hnone c hmem => decide_eq_true fun hc => hnone (hc ▸ hmem)
  exact Text.append_inj_of_run h (hplain _ hlead) (Slot.endsRun_flatMap_text rfl slots)
    (hplain _ hother) (Slot.endsRun_flatMap_text rfl others)

theorem slots_inj {slots others : List Slot}
    (h : slots.flatMap Slot.text = others.flatMap Slot.text) : slots = others := by
  induction slots generalizing others with
  | nil =>
      cases others with
      | nil => rfl
      | cons other rest => cases h
  | cons slot rest ih =>
      cases others with
      | nil => cases h
      | cons other tail =>
          rw [List.flatMap_cons, List.flatMap_cons, Slot.text, Slot.text, List.cons_append,
            List.cons_append, List.append_assoc, List.append_assoc] at h
          obtain ⟨hname, hbehind⟩ := Text.append_inj_of_run (List.cons.inj h).2
            slot.isNameChar_name
            (Text.endsRun_append slot.endsRun_behind (Slot.endsRun_flatMap_text rfl _))
            other.isNameChar_name
            (Text.endsRun_append other.endsRun_behind (Slot.endsRun_flatMap_text rfl _))
          obtain ⟨hsame, hrest⟩ := append_slots_inj hbehind slot.plain other.plain
          rw [Slot.ext hname hsame, ih hrest]

/-- A template can be taken apart in one way only. -/
theorem text_inj {parts other : Parts} (h : parts.text = other.text) : parts = other := by
  obtain ⟨hlead, hslots⟩ := append_slots_inj h parts.plain other.plain
  exact Parts.ext hlead (slots_inj hslots)

end Parts

/-- There is one way to take a template apart, and to fill it is to put the argument, the value
or the placeholder itself in place of each placeholder. -/
theorem fill_of_parts (template : String) :
    ∃ parts : Parts, parts.text = template.toList ∧
      (∀ other : Parts, other.text = template.toList → other = parts) ∧
      ∀ value arguments,
        fill template value arguments = String.ofList (parts.filled value arguments) := by
  obtain ⟨parts, htext⟩ := Parts.exists_text_eq template.toList
  refine ⟨parts, htext, fun other hother => Parts.text_inj (hother.trans htext.symm), ?_⟩
  intro value arguments
  rw [fill, ← htext, parts.flatMap_fill_pieces]

example : fill "$a_$é$" (some "$a") (.ofList [("a", "1"), ("", "2")]) = "$a$aé$a" := by decide

end Template

end VisualScript
