import VisualScript.Diagnostic.Printer
import VisualScript.Proofs.Program.Lines

/-!
# Where diagnostics point

The bytes that a diagnostic points at are found by the lengths of the lines before
them, while the line itself is told without its ending. The two agree: for every
text and table of owners, the bytes begin where the line begins, no character is
cut, and what they cover is the line, or one byte of the ending of an empty line.
-/

namespace VisualScript

namespace Text

/-! ## Cutting at bytes -/

/-- Divide a text at a byte. There is no way to do so behind the end of the text or
inside a character. -/
def cutAt? : Nat → List Char → Option (List Char × List Char)
  | 0, text => some ([], text)
  | _ + 1, [] => none
  | offset + 1, c :: rest =>
      if c.utf8Size ≤ offset + 1 then
        (cutAt? (offset + 1 - c.utf8Size) rest).map fun (front, back) => (c :: front, back)
      else none

/-- The part of a text between two bytes. -/
def slice? (range : Nat × Nat) (text : List Char) : Option (List Char) := do
  if range.2 < range.1 then none
  let (_, rest) ← cutAt? range.1 text
  let (covered, _) ← cutAt? (range.2 - range.1) rest
  return covered

theorem byteLength_pos {text : List Char} (h : text ≠ []) : 0 < byteLength text := by
  cases text with
  | nil => exact absurd rfl h
  | cons c rest =>
      have hc := c.utf8Size_pos
      simp only [byteLength]
      omega

/-- A text can be divided behind each of its beginnings. -/
@[simp] theorem cutAt?_byteLength (front back : List Char) :
    cutAt? (byteLength front) (front ++ back) = some (front, back) := by
  induction front with
  | nil => cases back <;> simp [byteLength, cutAt?]
  | cons c front ih =>
      obtain ⟨size, hsize⟩ : ∃ size, c.utf8Size = size + 1 :=
        Nat.exists_eq_add_one.mpr c.utf8Size_pos
      have hlength : byteLength (c :: front) = size + byteLength front + 1 := by
        simp only [byteLength, hsize]
        omega
      have hfits : size + 1 ≤ size + byteLength front + 1 := by omega
      have hrest : size + byteLength front + 1 - (size + 1) = byteLength front := by omega
      simp [hlength, cutAt?, hsize, hfits, hrest, ih]

/-- The bytes of a middle part give the part. -/
theorem slice?_append (front covered back : List Char) :
    slice? (byteLength front, byteLength front + byteLength covered) (front ++ (covered ++ back)) =
      some covered := by
  simp [slice?]

/-! ## The lines of a text -/

/-- What a line ends with, given what stands behind: a newline, a carriage return
with a newline, or nothing where the text breaks off in a line that is not empty. -/
inductive Ending : List Char → List Char → List Char → Prop where
  | newline {line back} (plain : line.getLast? ≠ some '\r') : Ending line ['\n'] back
  | carriageReturn {line back} : Ending line ['\r', '\n'] back
  | brokenOff {line} (filled : line ≠ []) : Ending line [] []

/-- The line of a text with an index, given the pieces before it, what it ends with
and what stands behind it. -/
structure LineAt (text : List Char) (index : Nat) (before : List (List Char))
    (line ending back : List Char) : Prop where
  whole : text = ended before ++ (line ++ (ending ++ back))
  count : before.length = index
  unbroken : ∀ piece ∈ before, '\n' ∉ piece
  single : '\n' ∉ line
  ends : Ending line ending back

theorem endedPieces_append_newline {line : List Char} (h : '\n' ∉ line) (rest : List Char) :
    endedPieces (line ++ '\n' :: rest) = (line ++ ['\n']) :: endedPieces rest := by
  induction line with
  | nil => simp [endedPieces]
  | cons c line ih =>
      rw [List.mem_cons, not_or] at h
      simp [endedPieces, Ne.symm h.1, ih h.2, consFirst]

/-- A text without a newline is one piece. -/
theorem endedPieces_of_not_mem {text : List Char} (h : '\n' ∉ text) (hsome : text ≠ []) :
    endedPieces text = [text] := by
  induction text with
  | nil => exact absurd rfl hsome
  | cons c rest ih =>
      rw [List.mem_cons, not_or] at h
      cases rest with
      | nil => simp [endedPieces, Ne.symm h.1, consFirst]
      | cons next rest =>
          rw [endedPieces, if_neg (Ne.symm h.1), ih h.2 (by simp)]
          rfl

theorem endedPieces_ended_append {lines : List (List Char)} (h : ∀ line ∈ lines, '\n' ∉ line)
    (rest : List Char) :
    endedPieces (ended lines ++ rest) = lines.map (· ++ ['\n']) ++ endedPieces rest := by
  induction lines with
  | nil => rfl
  | cons line lines ih =>
      rw [List.forall_mem_cons] at h
      simp [endedPieces_append_newline h.1, ih h.2]

namespace Ending

variable {line ending back : List Char}

/-- A line with its ending is the first piece from there on. -/
theorem endedPieces_eq (h : Ending line ending back) (hline : '\n' ∉ line) :
    endedPieces (line ++ (ending ++ back)) = (line ++ ending) :: endedPieces back := by
  cases h with
  | newline => simpa using endedPieces_append_newline hline back
  | carriageReturn =>
      have hreturn : '\n' ∉ line ++ ['\r'] := by simp [hline]
      simpa using endedPieces_append_newline hreturn back
  | brokenOff filled => simpa [endedPieces] using endedPieces_of_not_mem hline filled

/-- The ending is all that is dropped from a piece. -/
theorem dropEnding_eq (h : Ending line ending back) (hline : '\n' ∉ line) :
    dropEnding (line ++ ending) = line := by
  cases h with
  | newline plain =>
      cases hreverse : line.reverse with
      | nil => simp_all [dropEnding]
      | cons c rest =>
          have hlast : line.getLast? = some c := by simp [← List.head?_reverse, hreverse]
          have hc : c ≠ '\r' := by
            rintro rfl
            exact plain hlast
          have hline : line = (c :: rest).reverse := by simp [← hreverse]
          simp [dropEnding, hc, hline]
  | carriageReturn => simp [dropEnding]
  | brokenOff =>
      cases hreverse : line.reverse with
      | nil => simp [dropEnding, hreverse]
      | cons c rest =>
          have hmem : c ∈ line := by
            rw [← List.mem_reverse, hreverse]
            exact List.mem_cons_self ..
          have hc : c ≠ '\n' := by
            rintro rfl
            exact hline hmem
          simp [dropEnding, hreverse, hc]

/-- What can be pointed at in a line: its text, or one byte of its ending. -/
theorem exists_covered (h : Ending line ending back) :
    ∃ covered behind, covered = (if line = [] then ending.take 1 else line) ∧
      line ++ (ending ++ back) = covered ++ behind ∧
      byteLength covered = max (byteLength line) 1 := by
  by_cases hline : line = []
  · subst hline
    cases h with
    | newline => exact ⟨['\n'], back, by simp, by simp, by decide⟩
    | carriageReturn => exact ⟨['\r'], '\n' :: back, by simp, by simp, by decide⟩
    | brokenOff filled => exact absurd rfl filled
  · have hpos := byteLength_pos hline
    exact ⟨line, ending ++ back, by simp [hline], rfl, by omega⟩

/-- A piece in front of a newline divides into a line and its ending. -/
theorem exists_of_newline {piece : List Char} (h : '\n' ∉ piece) (back : List Char) :
    ∃ line ending, piece ++ '\n' :: back = line ++ (ending ++ back) ∧ '\n' ∉ line ∧
      Ending line ending back := by
  by_cases hlast : piece.getLast? = some '\r'
  · obtain ⟨line, rfl⟩ := List.getLast?_eq_some_iff.mp hlast
    have hline : '\n' ∉ line := fun hmem => h (List.mem_append_left _ hmem)
    exact ⟨line, ['\r', '\n'], by simp, hline, .carriageReturn⟩
  · exact ⟨piece, ['\n'], by simp, h, .newline hlast⟩

end Ending

namespace LineAt

variable {text : List Char} {index : Nat} {before : List (List Char)}
  {line ending back : List Char}

/-- There is a line wherever there is a piece. -/
theorem exists_of_lt (text : List Char) (index : Nat) (h : index < (endedPieces text).length) :
    ∃ before line ending back, LineAt text index before line ending back := by
  induction index generalizing text with
  | zero =>
      by_cases hmem : '\n' ∈ text
      · obtain ⟨piece, back, rfl, hpiece⟩ := List.eq_append_cons_of_mem hmem
        obtain ⟨line, ending, hwhole, hline, hends⟩ := Ending.exists_of_newline hpiece back
        exact ⟨[], line, ending, back, hwhole, rfl, by simp, hline, hends⟩
      · have hsome : text ≠ [] := by
          rintro rfl
          simp [endedPieces] at h
        exact ⟨[], text, [], [], by simp, rfl, by simp, hmem, .brokenOff hsome⟩
  | succ index ih =>
      by_cases hmem : '\n' ∈ text
      · obtain ⟨piece, rest, rfl, hpiece⟩ := List.eq_append_cons_of_mem hmem
        rw [endedPieces_append_newline hpiece, List.length_cons] at h
        obtain ⟨before, line, ending, back, hrest⟩ := ih rest (by omega)
        refine ⟨piece :: before, line, ending, back, ?_, ?_, ?_, hrest.single, hrest.ends⟩
        · simp [← hrest.whole]
        · simp [hrest.count]
        · simpa using ⟨hpiece, hrest.unbroken⟩
      · -- A text without a newline has no second piece.
        have hnone : text = [] ∨ endedPieces text = [text] := by
          by_cases hsome : text = []
          · exact .inl hsome
          · exact .inr (endedPieces_of_not_mem hmem hsome)
        rcases hnone with rfl | hone
        · simp [endedPieces] at h
        · simp [hone] at h

theorem endedPieces_eq (h : LineAt text index before line ending back) :
    endedPieces text = before.map (· ++ ['\n']) ++ (line ++ ending) :: endedPieces back := by
  rw [h.whole, endedPieces_ended_append h.unbroken, h.ends.endedPieces_eq h.single]

/-- The pieces before a line make up what stands before it. -/
theorem flatten_take (h : LineAt text index before line ending back) :
    ((endedPieces text).take index).flatten = ended before := by
  rw [h.endedPieces_eq, ← h.count, ← List.length_map (· ++ ['\n']), List.take_left]
  rfl

theorem flatten_drop (h : LineAt text index before line ending back) :
    ((endedPieces text).drop index).flatten = line ++ (ending ++ back) := by
  rw [h.endedPieces_eq, ← h.count, ← List.length_map (· ++ ['\n']), List.drop_left]
  simp [flatten_endedPieces]

end LineAt

end Text

namespace Listing

/-! ## The line of a node -/

/-- What stands before a line. -/
def beforeLine (listing : Listing) (index : Nat) : List Char :=
  ((Text.endedPieces listing.source).take index).flatten

/-- A line is the first that a node wrote. -/
def FirstOwned (listing : Listing) (id : NodeId) (index : Nat) : Prop :=
  listing.owners[index]? = some (some id) ∧
    ∀ earlier < index, listing.owners[earlier]? ≠ some (some id)

theorem firstLine?_eq_some_iff {listing : Listing} {id : NodeId} {index : Nat} :
    listing.firstLine? id = some index ↔ listing.FirstOwned id index := by
  rw [firstLine?, List.findIdx?_eq_some_iff_getElem, FirstOwned]
  constructor
  · rintro ⟨hindex, hfound, hearlier⟩
    refine ⟨by simpa [List.getElem?_eq_getElem hindex] using hfound, fun earlier hlt => ?_⟩
    have hbound : earlier < listing.owners.length := by omega
    simpa [List.getElem?_eq_getElem hbound] using hearlier earlier hlt
  · rintro ⟨hfound, hearlier⟩
    obtain ⟨hindex, howner⟩ := List.getElem?_eq_some_iff.mp hfound
    refine ⟨hindex, by simp [howner], fun earlier hlt => ?_⟩
    have hbound : earlier < listing.owners.length := by omega
    simpa [List.getElem?_eq_getElem hbound] using hearlier earlier hlt

/-- A diagnostic points at the first line of its node, if the program has that line. -/
structure Locates (listing : Listing) (diagnostic : Diagnostic) : Prop where
  /-- A line is looked for exactly if its node wrote one, -/
  sought : (∃ range, listing.range? diagnostic = some range) ↔
    ∃ id index, diagnostic.node = some id ∧ listing.FirstOwned id index
  /-- and the program can be divided where that line is said to begin, also if the table of
  owners is longer than the program. -/
  divides : ∀ id index range, diagnostic.node = some id → listing.FirstOwned id index →
    listing.range? diagnostic = some range →
    Text.cutAt? range.1 listing.source = some (listing.beforeLine index, listing.fromLine index)
  /-- It points at something exactly if its node wrote a line that the program has. -/
  located : (∃ range, listing.located? diagnostic = some range) ↔
    ∃ id index, diagnostic.node = some id ∧ listing.FirstOwned id index ∧
      index < (Text.endedPieces listing.source).length
  /-- What it points at begins with the line and is its text, or one byte of the ending
  of an empty line. -/
  covers : ∀ range, listing.located? diagnostic = some range →
    ∃ id index before line ending back, diagnostic.node = some id ∧
      listing.FirstOwned id index ∧
      Text.LineAt listing.source index before line ending back ∧
      range.1 = Text.byteLength (Text.ended before) ∧
      range.2 ≤ Text.byteLength listing.source ∧
      Text.slice? range listing.source = some (if line = [] then ending.take 1 else line)

variable {listing : Listing} {diagnostic : Diagnostic}

/-- A program divides in front of every line, and behind the last one. -/
theorem cutAt?_beforeLine (listing : Listing) (index : Nat) :
    Text.cutAt? (Text.byteLength (listing.beforeLine index)) listing.source =
      some (listing.beforeLine index, listing.fromLine index) := by
  have hwhole : listing.beforeLine index ++ listing.fromLine index = listing.source := by
    rw [beforeLine, fromLine, ← List.flatten_append, List.take_append_drop,
      Text.flatten_endedPieces]
  have hcut := Text.cutAt?_byteLength (listing.beforeLine index) (listing.fromLine index)
  rwa [hwhole] at hcut

theorem exists_firstOwned_of_range? {range : Nat × Nat}
    (h : listing.range? diagnostic = some range) :
    ∃ id index, diagnostic.node = some id ∧ listing.FirstOwned id index := by
  simp only [range?, Option.bind_eq_bind, Option.bind_eq_some_iff] at h
  obtain ⟨id, hnode, index, hindex, _⟩ := h
  exact ⟨id, index, hnode, firstLine?_eq_some_iff.mp hindex⟩

theorem range?_eq_some {id : NodeId} {index : Nat} (hnode : diagnostic.node = some id)
    (hfirst : listing.FirstOwned id index) :
    listing.range? diagnostic =
      some (Text.byteLength (listing.beforeLine index),
        Text.byteLength (listing.beforeLine index) +
          max (Text.byteLength ((Text.lines (listing.fromLine index)).head?.getD [])) 1) := by
  simp [range?, hnode, firstLine?_eq_some_iff.mpr hfirst, beforeLine]

/-- The line of a diagnostic in the program gives the bytes that it points at. -/
theorem located?_of_lineAt {id : NodeId} {index : Nat} {before : List (List Char)}
    {line ending back : List Char} (hnode : diagnostic.node = some id)
    (hfirst : listing.FirstOwned id index)
    (hline : Text.LineAt listing.source index before line ending back) :
    ∃ range, listing.located? diagnostic = some range ∧
      range.1 = Text.byteLength (Text.ended before) ∧
      range.2 ≤ Text.byteLength listing.source ∧
      Text.slice? range listing.source = some (if line = [] then ending.take 1 else line) := by
  obtain ⟨covered, behind, hcovered, hdivides, hlength⟩ := hline.ends.exists_covered
  have hhead : (Text.lines (listing.fromLine index)).head?.getD [] = line := by
    rw [fromLine, hline.flatten_drop, Text.lines, hline.ends.endedPieces_eq hline.single]
    simp [hline.ends.dropEnding_eq hline.single]
  have hrange : listing.range? diagnostic = some (Text.byteLength (Text.ended before),
      Text.byteLength (Text.ended before) + Text.byteLength covered) := by
    rw [range?_eq_some hnode hfirst, beforeLine, hline.flatten_take, hhead, hlength]
  have hsource : listing.source = Text.ended before ++ (covered ++ behind) := by
    rw [hline.whole, hdivides]
  have hinside : Text.byteLength (Text.ended before) + Text.byteLength covered ≤
      Text.byteLength listing.source := by
    simp only [hsource, Text.byteLength_append]
    omega
  have hlocated : listing.located? diagnostic = some (Text.byteLength (Text.ended before),
      Text.byteLength (Text.ended before) + Text.byteLength covered) := by
    simp [located?, hrange, hinside]
  refine ⟨_, hlocated, rfl, hinside, ?_⟩
  rw [← hcovered, hsource]
  exact Text.slice?_append _ _ _

/-- Behind the last line of the program there is no byte to point at. -/
theorem located?_eq_none {id : NodeId} {index : Nat} (hnode : diagnostic.node = some id)
    (hfirst : listing.FirstOwned id index)
    (hbehind : (Text.endedPieces listing.source).length ≤ index) :
    listing.located? diagnostic = none := by
  have hbefore : listing.beforeLine index = listing.source := by
    rw [beforeLine, List.take_of_length_le hbehind, Text.flatten_endedPieces]
  have hbeyond : ¬ Text.byteLength listing.source +
      max (Text.byteLength ((Text.lines (listing.fromLine index)).head?.getD [])) 1 ≤
        Text.byteLength listing.source := by
    omega
  simp [located?, range?_eq_some hnode hfirst, hbefore, hbeyond]

/-- What is pointed at is in the first line of a node, and the program has that line. -/
theorem exists_firstOwned_of_located? {range : Nat × Nat}
    (h : listing.located? diagnostic = some range) :
    ∃ id index, diagnostic.node = some id ∧ listing.FirstOwned id index ∧
      index < (Text.endedPieces listing.source).length := by
  have hsome := h
  simp only [located?, Option.bind_eq_bind, Option.bind_eq_some_iff] at hsome
  obtain ⟨_, hrange, _⟩ := hsome
  obtain ⟨id, index, hnode, hfirst⟩ := exists_firstOwned_of_range? hrange
  refine ⟨id, index, hnode, hfirst, ?_⟩
  rcases Nat.lt_or_ge index (Text.endedPieces listing.source).length with hlt | hbehind
  · exact hlt
  · simp [located?_eq_none hnode hfirst hbehind] at h

/-- For every program, table of owners and diagnostic: the program is only divided
between characters, the diagnostic points at something exactly if its node wrote a line
that the program has, and then at that line. -/
theorem locates (listing : Listing) (diagnostic : Diagnostic) : listing.Locates diagnostic where
  sought := by
    constructor
    · rintro ⟨range, hrange⟩
      exact exists_firstOwned_of_range? hrange
    · rintro ⟨id, index, hnode, hfirst⟩
      exact ⟨_, range?_eq_some hnode hfirst⟩
  divides := by
    intro id index range hnode hfirst hrange
    rw [range?_eq_some hnode hfirst] at hrange
    cases hrange
    exact listing.cutAt?_beforeLine index
  located := by
    constructor
    · rintro ⟨range, hlocated⟩
      exact exists_firstOwned_of_located? hlocated
    · rintro ⟨id, index, hnode, hfirst, hindex⟩
      obtain ⟨before, line, ending, back, hline⟩ := Text.LineAt.exists_of_lt _ _ hindex
      obtain ⟨range, hlocated, _⟩ := located?_of_lineAt hnode hfirst hline
      exact ⟨range, hlocated⟩
  covers := by
    intro range hlocated
    obtain ⟨id, index, hnode, hfirst, hindex⟩ := exists_firstOwned_of_located? hlocated
    obtain ⟨before, line, ending, back, hline⟩ := Text.LineAt.exists_of_lt _ _ hindex
    obtain ⟨found, hfound, hbytes⟩ := located?_of_lineAt hnode hfirst hline
    obtain rfl : found = range := by simpa [hlocated] using hfound.symm
    exact ⟨id, index, before, line, ending, back, hnode, hfirst, hline, hbytes⟩

/-- The first byte of the ending of an empty line, behind a character of two bytes. -/
example : located? ⟨['é', '\r', '\n', '\r', '\n'], [none, some ⟨3⟩]⟩
    (Diagnostic.of .flowCycle (some ⟨3⟩) none) = some (4, 5) := by
  decide

end Listing

end VisualScript
