import VisualScript.Proofs.Pass.Edges
import VisualScript.Proofs.Pass.Visibility

/-!
# Blocks stand behind their headers

What a pass writes is arranged: a block that a function, a loop or a branch has opened stands
right behind the header of its own, one tab deeper, and all of the block stands there. It is
blank only behind the header of a branch whose then block was reported for it. Nothing is assumed
of the graph, so this holds of programs with mistakes, too.
-/

namespace VisualScript

/-! ## Headers and their blocks -/

/-- A scope is one of the blocks inside another from a number on, or further inside. -/
def Below (scope : ScopePath) (first : Nat) (path : ScopePath) : Prop :=
  ∃ index, first ≤ index ∧ scope ++ [index] <+: path

theorem not_under_self (scope : ScopePath) (index : Nat) : ¬ scope ++ [index] <+: scope := by
  intro hunder
  have hlength := hunder.length_le
  rw [List.length_append] at hlength
  exact Nat.not_succ_le_self _ hlength

namespace Below

variable {scope path : ScopePath} {first index : Nat}

theorem of_inside (h : path = scope ++ [first] ∨ Below (scope ++ [first]) index path) :
    Below scope first path := by
  refine ⟨first, Nat.le_refl _, ?_⟩
  rcases h with rfl | ⟨_, _, hunder⟩
  · exact List.prefix_rfl
  · exact (List.prefix_append _ _).trans hunder

theorem of_succ (h : Below scope (first + 1) path) : Below scope first path := by
  obtain ⟨index, hle, hunder⟩ := h
  exact ⟨index, Nat.le_of_succ_le hle, hunder⟩

theorem deepen {deeper : ScopePath} (h : Below scope first path) (hunder : path <+: deeper) :
    Below scope first deeper := by
  obtain ⟨index, hle, hpath⟩ := h
  exact ⟨index, hle, hpath.trans hunder⟩

theorem prefix_scope (h : Below scope first path) : scope <+: path := by
  obtain ⟨_, _, hunder⟩ := h
  exact (List.prefix_append _ _).trans hunder

/-- No scope has two blocks on its way that are beside each other. -/
theorem not_under (h : Below scope (first + 1) path) : ¬ scope ++ [first] <+: path := by
  obtain ⟨index, hle, hunder⟩ := h
  intro hother
  have heq : scope ++ [first] = scope ++ [index] :=
    (List.prefix_of_prefix_length_le hother hunder (by simp)).eq_of_length (by simp)
  simp at heq
  omega

theorem not_above_scope (h : Below scope first path) : ¬ path <+: scope := by
  obtain ⟨index, _, hunder⟩ := h
  exact fun hback => not_under_self scope index (hunder.trans hback)

end Below

/-- A scope inside a block, and a block inside the same one on the way to it: this is the block,
or the block is on the way to it. -/
theorem eq_or_under {scope parent path : ScopePath} {first index : Nat}
    (hscope : scope <+: parent) (hfirst : scope ++ [first] <+: path)
    (hindex : parent ++ [index] <+: path) :
    (parent = scope ∧ index = first) ∨ scope ++ [first] <+: parent := by
  obtain ⟨more, rfl⟩ := hscope
  cases more with
  | nil =>
      rw [List.append_nil] at hindex ⊢
      have heq : scope ++ [index] = scope ++ [first] :=
        (List.prefix_of_prefix_length_le hindex hfirst (by simp)).eq_of_length (by simp)
      exact .inl ⟨rfl, by simpa using heq⟩
  | cons other more =>
      have hparent : scope ++ other :: more <+: path := (List.prefix_append _ _).trans hindex
      exact .inr (List.prefix_of_prefix_length_le hfirst hparent (by simp))

/-- The kind of the components that write a statement as the header of a block. -/
def Statement.headerKind? : Statement → Option ComponentKind
  | definition _ _ => some .definition
  | whileHeader _ => some .loop
  | ifHeader _ => some .branch
  | elseHeader => some .branch
  | _ => none

/-- A block was opened for a header: right after it was written, or, for the header of an else
block, before, as this one is left out if the block turns out blank. -/
def OpenedFor (events : List Event) (header : Written) (block : ScopePath) : Prop :=
  match header.statement with
  | .elseHeader => [.wrote header, .opened block].Sublist events
  | _ => [.opened block, .wrote header] <:+: events

/-- A statement of a block is not blank, or it is the block of a then branch, for which that was
reported. -/
def Filled (events : List Event) (header : Written) (inner : List Written) : Prop :=
  (∃ written ∈ inner, Text.allBlank (Statement.text written.statement) = false) ∨
    (∃ condition, header.statement = .ifHeader condition) ∧
      .reported (Diagnostic.of .thenBranchExpected (some header.node) none) ∈ events

/-- What a header and the block that was opened for it have to do with each other. -/
structure Heads (context : Context) (events : List Event) (header : Written) (block : ScopePath)
    (inner : List Written) : Prop where
  kind : ∃ kind, header.statement.headerKind? = some kind ∧ context.kind? header.node = some kind
  opened : OpenedFor events header block
  filled : Filled events header inner

/-- Code at the top level was emitted into a scope. Its block has no header. -/
def HostsCode (context : Context) (events : List Event) (scope : ScopePath) : Prop :=
  ∃ node, context.kind? node = some .topLevelCode ∧ .entered node scope ∈ events

/-- The statements of a block, with those of the blocks inside, of which the first has one number
and the next one would have another. -/
inductive Arranged (context : Context) (events : List Event) :
    ScopePath → Nat → Nat → List Written → Prop where
  | done {scope next} : Arranged context events scope next next []
  | line {scope first next written rest} (place : written.scope = scope)
      (plain : written.statement.headerKind? = none)
      (others : Arranged context events scope first next rest) :
      Arranged context events scope first next (written :: rest)
  /-- A block behind its header. -/
  | headed {scope first next count header inner rest} (place : header.scope = scope)
      (heads : Heads context events header (scope ++ [first]) inner)
      (block : Arranged context events (scope ++ [first]) 0 count inner)
      (others : Arranged context events scope (first + 1) next rest) :
      Arranged context events scope first next (header :: (inner ++ rest))
  /-- A block without a header: a root, that of code at the top level, or one left out. -/
  | bare {scope first next count inner rest}
      (free : inner = [] ∨ scope = [] ∨ HostsCode context events scope)
      (block : Arranged context events (scope ++ [first]) 0 count inner)
      (others : Arranged context events scope (first + 1) next rest) :
      Arranged context events scope first next (inner ++ rest)

theorem OpenedFor.mono {events later : List Event} {header : Written} {block : ScopePath}
    (h : OpenedFor events header block) (hsuffix : events <:+ later) :
    OpenedFor later header block := by
  unfold OpenedFor at h ⊢
  split
  next heq =>
    rw [heq] at h
    exact h.trans hsuffix.sublist
  next hother =>
    split at h
    next heq => exact absurd heq hother
    next => exact h.trans hsuffix.isInfix

theorem Filled.mono {events later : List Event} {header : Written} {inner : List Written}
    (h : Filled events header inner) (hsuffix : events <:+ later) : Filled later header inner :=
  h.imp_right fun hreported => ⟨hreported.1, hsuffix.subset hreported.2⟩

namespace Arranged

variable {context : Context} {events later : List Event} {scope : ScopePath}
  {first middle next count : Nat} {content added : List Written}

theorem mono (h : Arranged context events scope first next content) (hsuffix : events <:+ later) :
    Arranged context later scope first next content := by
  induction h with
  | done => exact .done
  | line place plain _ ih => exact .line place plain ih
  | headed place heads _ _ ihblock ihothers =>
      refine .headed place ⟨heads.kind, ?_, ?_⟩ ihblock ihothers
      · exact heads.opened.mono hsuffix
      · exact heads.filled.mono hsuffix
  | bare free _ _ ihblock ihothers =>
      refine .bare (free.imp_right (.imp_right ?_)) ihblock ihothers
      rintro ⟨node, hkind, hentered⟩
      exact ⟨node, hkind, hsuffix.subset hentered⟩

theorem append (h : Arranged context events scope first middle content)
    (hadded : Arranged context events scope middle next added) :
    Arranged context events scope first next (content ++ added) := by
  induction h with
  | done => exact hadded
  | line place plain _ ih => exact .line place plain (ih hadded)
  | headed place heads block _ _ ih =>
      rw [List.cons_append, List.append_assoc]
      exact .headed place heads block (ih hadded)
  | bare free block _ _ ih =>
      rw [List.append_assoc]
      exact .bare free block (ih hadded)

/-- A block without a header and nothing behind it. -/
theorem alone (free : content = [] ∨ scope = [] ∨ HostsCode context events scope)
    (block : Arranged context events (scope ++ [first]) 0 count content) :
    Arranged context events scope first (first + 1) content := by
  simpa using bare free block .done

/-- A header with its block and nothing behind it. -/
theorem underHeader {header : Written} (place : header.scope = scope)
    (heads : Heads context events header (scope ++ [first]) content)
    (block : Arranged context events (scope ++ [first]) 0 count content) :
    Arranged context events scope first (first + 1) (header :: content) := by
  simpa using headed place heads block .done

/-- What is arranged stands in the block itself or in one of those inside. -/
theorem within (h : Arranged context events scope first next content) {written : Written}
    (hmem : written ∈ content) : written.scope = scope ∨ Below scope first written.scope := by
  induction h with
  | done => cases hmem
  | line place _ _ ih =>
      rcases List.mem_cons.mp hmem with rfl | hmem
      · exact .inl place
      · exact ih hmem
  | headed place _ _ _ ihblock ihothers =>
      rcases List.mem_cons.mp hmem with rfl | hmem
      · exact .inl place
      · rcases List.mem_append.mp hmem with hinner | hrest
        · exact .inr (.of_inside (ihblock hinner))
        · exact (ihothers hrest).imp_right .of_succ
  | bare _ _ _ ihblock ihothers =>
      rcases List.mem_append.mp hmem with hinner | hrest
      · exact .inr (.of_inside (ihblock hinner))
      · exact (ihothers hrest).imp_right .of_succ

/-- All that is arranged in a block inside stands in this block. -/
theorem inside {index : Nat} (h : Arranged context events (scope ++ [index]) 0 count content)
    {written : Written} (hmem : written ∈ content) : scope ++ [index] <+: written.scope := by
  rcases h.within hmem with heq | hbelow
  · exact heq ▸ List.prefix_rfl
  · exact hbelow.prefix_scope

/-- What is arranged behind a block inside does not stand in this block. -/
theorem behind (h : Arranged context events scope (first + 1) next content)
    {written : Written} (hmem : written ∈ content) : ¬ scope ++ [first] <+: written.scope := by
  rcases h.within hmem with heq | hbelow
  · rw [heq]
    exact not_under_self scope first
  · exact hbelow.not_under

end Arranged

/-- A block and its header in a program: the block stands right behind, and nowhere else. -/
structure StandsBehind (context : Context) (events : List Event) (before : List Written)
    (header : Written) (inner after : List Written) (block : ScopePath) : Prop where
  child : ∃ index, block = header.scope ++ [index]
  inside : ∀ written ∈ inner, block <+: written.scope
  apart : ∀ written ∈ before ++ after, ¬ block <+: written.scope
  heads : Heads context events header block inner

namespace StandsBehind

variable {context : Context} {events : List Event} {before inner after added : List Written}
  {header : Written} {block : ScopePath}

/-- A block that was laid behind its header. -/
theorem own {scope : ScopePath} {first next count : Nat} (hplace : header.scope = scope)
    (heads : Heads context events header (scope ++ [first]) inner)
    (hblock : Arranged context events (scope ++ [first]) 0 count inner)
    (hothers : Arranged context events scope (first + 1) next after) :
    StandsBehind context events [] header inner after (scope ++ [first]) where
  child := ⟨first, by rw [hplace]⟩
  inside := fun _ hmem => hblock.inside hmem
  apart := fun _ hmem => hothers.behind hmem
  heads := heads

/-- More may stand in front that is not in the block. -/
theorem prepend (h : StandsBehind context events before header inner after block)
    (added : List Written) (hadded : ∀ written ∈ added, ¬ block <+: written.scope) :
    StandsBehind context events (added ++ before) header inner after block := by
  refine { h with apart := ?_ }
  rw [List.append_assoc]
  exact List.forall_mem_append.mpr ⟨hadded, h.apart⟩

/-- More may stand behind that is not in the block. -/
theorem extend (h : StandsBehind context events before header inner after block)
    (hadded : ∀ written ∈ added, ¬ block <+: written.scope) :
    StandsBehind context events before header inner (after ++ added) block := by
  refine { h with apart := ?_ }
  rw [← List.append_assoc]
  exact List.forall_mem_append.mpr ⟨h.apart, hadded⟩

end StandsBehind

/-- A block stands behind its header somewhere in what was written. -/
def HasHeader (context : Context) (events : List Event) (content : List Written)
    (block : ScopePath) : Prop :=
  ∃ before header inner after, content = before ++ header :: (inner ++ after) ∧
    StandsBehind context events before header inner after block

namespace HasHeader

variable {context : Context} {events : List Event} {content added : List Written}
  {block : ScopePath}

theorem prepend (h : HasHeader context events content block) (added : List Written)
    (hadded : ∀ written ∈ added, ¬ block <+: written.scope) :
    HasHeader context events (added ++ content) block := by
  obtain ⟨before, header, inner, after, rfl, hstands⟩ := h
  exact ⟨added ++ before, header, inner, after, by simp, hstands.prepend added hadded⟩

theorem extend (h : HasHeader context events content block)
    (hadded : ∀ written ∈ added, ¬ block <+: written.scope) :
    HasHeader context events (content ++ added) block := by
  obtain ⟨before, header, inner, after, rfl, hstands⟩ := h
  exact ⟨before, header, inner, after ++ added, by simp, hstands.extend hadded⟩

end HasHeader

/-- What stands behind a header begins with its block, one of those from a number on. -/
def HasBlock (context : Context) (events : List Event) (scope : ScopePath) (first : Nat)
    (before : List Written) (header : Written) (rest : List Written) : Prop :=
  ∃ block inner after, rest = inner ++ after ∧
    StandsBehind context events before header inner after block ∧ Below scope first block

namespace Arranged

variable {context : Context} {events : List Event} {scope : ScopePath} {first next : Nat}
  {content : List Written}

/-- A header that stands in a block inside or behind it has its own block there. -/
theorem hasBlock_of_append {count : Nat} {inner others before rest : List Written}
    {header : Written} (hblock : Arranged context events (scope ++ [first]) 0 count inner)
    (hothers : Arranged context events scope (first + 1) next others)
    (hinside : ∀ {before rest}, inner = before ++ header :: rest →
      HasBlock context events (scope ++ [first]) 0 before header rest)
    (hbehind : ∀ {before rest}, others = before ++ header :: rest →
      HasBlock context events scope (first + 1) before header rest)
    (heq : inner ++ others = before ++ header :: rest) :
    HasBlock context events scope first before header rest := by
  have hlater : ∀ middle, others = middle ++ header :: rest →
      HasBlock context events scope first (inner ++ middle) header rest := by
    intro middle hmiddle
    obtain ⟨block, own, after, hrest, hstands, hbelow⟩ := hbehind hmiddle
    refine ⟨block, own, after, hrest, hstands.prepend _ ?_, hbelow.of_succ⟩
    intro written hmem hunder
    exact (hbelow.deepen hunder).not_under (hblock.inside hmem)
  rcases List.append_eq_append_iff.mp heq with ⟨middle, rfl, hmiddle⟩ | ⟨middle, rfl, hmiddle⟩
  · exact hlater middle hmiddle
  · cases middle with
    | nil => simpa using hlater [] hmiddle.symm
    | cons own middle =>
        obtain ⟨rfl, rfl⟩ := List.cons.inj hmiddle
        obtain ⟨block, own, after, rfl, hstands, hbelow⟩ := hinside rfl
        refine ⟨block, own, after ++ others, List.append_assoc .., hstands.extend ?_,
          .of_inside (.inr hbelow)⟩
        intro written hmem hunder
        exact hothers.behind hmem (hbelow.prefix_scope.trans hunder)

/-- In a block that is arranged, each header has its block right behind it. -/
theorem hasBlock (h : Arranged context events scope first next content)
    {before rest : List Written} {header : Written} (heq : content = before ++ header :: rest)
    (hheader : header.statement.headerKind? ≠ none) :
    HasBlock context events scope first before header rest := by
  induction h generalizing before rest with
  | done => simp at heq
  | @line scope first next written others place plain hothers ih =>
      cases before with
      | nil =>
          cases heq
          exact absurd plain hheader
      | cons other before =>
          obtain ⟨rfl, hcontent⟩ := List.cons.inj heq
          obtain ⟨block, inner, after, hrest, hstands, hbelow⟩ := ih hcontent
          refine ⟨block, inner, after, hrest, hstands.prepend [written] ?_, hbelow⟩
          simpa [place] using hbelow.not_above_scope
  | @headed scope first next count own inner others place heads block hothers ihblock ihothers =>
      cases before with
      | nil =>
          cases heq
          exact ⟨scope ++ [first], inner, others, rfl, .own place heads block hothers,
            first, Nat.le_refl _, List.prefix_rfl⟩
      | cons other before =>
          obtain ⟨rfl, hcontent⟩ := List.cons.inj heq
          obtain ⟨path, inner, after, hrest, hstands, hbelow⟩ :=
            hasBlock_of_append block hothers ihblock ihothers hcontent
          refine ⟨path, inner, after, hrest, hstands.prepend [own] ?_, hbelow⟩
          simpa [place] using hbelow.not_above_scope
  | bare _ block hothers ihblock ihothers =>
      exact hasBlock_of_append block hothers ihblock ihothers heq

/-- A block of which something is in a block inside, or behind it, is this one, or has its header
there unless it is that of code. -/
theorem hasHeader_of_append {count index : Nat} {inner others : List Written} {parent : ScopePath}
    {written : Written} (hblock : Arranged context events (scope ++ [first]) 0 count inner)
    (hothers : Arranged context events scope (first + 1) next others)
    (hinside : written ∈ inner → scope ++ [first] <+: parent →
      HasHeader context events inner (parent ++ [index]) ∨ HostsCode context events parent)
    (hbehind : written ∈ others →
      HasHeader context events others (parent ++ [index]) ∨ HostsCode context events parent)
    (hscope : scope <+: parent) (hunder : parent ++ [index] <+: written.scope)
    (hmem : written ∈ inner ++ others) :
    (written ∈ inner ∧ parent = scope ∧ index = first) ∨
      HasHeader context events (inner ++ others) (parent ++ [index]) ∨
        HostsCode context events parent := by
  rcases List.mem_append.mp hmem with hinner | hrest
  · rcases eq_or_under hscope (hblock.inside hinner) hunder with heq | hdeeper
    · exact .inl ⟨hinner, heq⟩
    · refine .inr ((hinside hinner hdeeper).imp_left (·.extend ?_))
      intro other hother hwithin
      exact hothers.behind hother
        ((hdeeper.trans (List.prefix_append _ _)).trans hwithin)
  · refine .inr ((hbehind hrest).imp_left (·.prepend _ ?_))
    have hbelow : Below scope (first + 1) (parent ++ [index]) := by
      rcases hothers.within hrest with heq | ⟨other, hle, hpath⟩
      · exact absurd ((heq ▸ hunder).trans hscope) (not_under_self parent index)
      · refine ⟨other, hle, ?_⟩
        rcases eq_or_under hscope hpath hunder with ⟨rfl, rfl⟩ | hdeeper
        · exact List.prefix_rfl
        · exact hdeeper.trans (List.prefix_append _ _)
    intro other hother hwithin
    exact (hbelow.deepen hwithin).not_under (hblock.inside hother)

/-- In a block that is arranged, each block inside of which there is something has its header in
front of it, unless it is that of code at the top level. -/
theorem hasHeader (h : Arranged context events scope first next content) {written : Written}
    (hmem : written ∈ content) {parent : ScopePath} {index : Nat} (hparent : parent ≠ [])
    (hscope : scope <+: parent) (hunder : parent ++ [index] <+: written.scope) :
    HasHeader context events content (parent ++ [index]) ∨ HostsCode context events parent := by
  have hnot : ∀ {scope : ScopePath}, scope <+: parent → ¬ parent ++ [index] <+: scope :=
    fun hscope hback => not_under_self parent index (hback.trans hscope)
  induction h with
  | done => cases hmem
  | @line scope _ _ own _ place _ _ ih =>
      rcases List.mem_cons.mp hmem with rfl | hmem
      · exact absurd hunder (place ▸ hnot hscope)
      · refine (ih hmem hscope).imp_left (·.prepend [own] ?_)
        simpa [place] using hnot hscope
  | @headed scope first _ _ own inner others place heads block hothers ihblock ihothers =>
      rcases List.mem_cons.mp hmem with rfl | hmem
      · exact absurd hunder (place ▸ hnot hscope)
      · rcases hasHeader_of_append block hothers ihblock (ihothers · hscope) hscope hunder
          hmem with ⟨_, rfl, rfl⟩ | hfound
        · exact .inl ⟨[], own, inner, others, rfl, .own place heads block hothers⟩
        · refine hfound.imp_left (·.prepend [own] ?_)
          simpa [place] using hnot hscope
  | bare free block hothers ihblock ihothers =>
      rcases hasHeader_of_append block hothers ihblock (ihothers · hscope) hscope hunder
        hmem with ⟨hinner, rfl, rfl⟩ | hfound
      · rcases free with rfl | hempty | hcode
        · cases hinner
        · exact absurd hempty hparent
        · exact .inr hcode
      · exact hfound

end Arranged

/-! ## What passes write is arranged -/

/-- Whether an edit writes no header and lays no other block into the one being written. -/
def Edit.IsPlain : Edit → Prop
  | write _ statement => statement.headerKind? = none
  | splice _ => False
  | _ => True

/-- Statements were added to the block, arranged from its next block inside on, and the journal
has grown. -/
structure Pass.Arranges (context : Context) (pass next : Pass) : Prop where
  path : next.block.path = pass.block.path
  journal : pass.events <:+ next.events
  added : ∃ content, next.block.content = pass.block.content ++ content ∧
    Arranged context next.events pass.block.path pass.block.children next.block.children content

namespace Pass.Arranges

variable {context : Context} {pass middle next : Pass}

theorem of_block (hjournal : pass.events <:+ next.events) (hblock : next.block = pass.block) :
    Arranges context pass next where
  path := by rw [hblock]
  journal := hjournal
  added := by
    refine ⟨[], by simp [hblock], ?_⟩
    rw [hblock]
    exact .done

theorem refl (pass : Pass) : Arranges context pass pass := of_block (List.suffix_refl _) rfl

theorem trans (h : Arranges context pass middle) (hrest : Arranges context middle next) :
    Arranges context pass next where
  path := hrest.path.trans h.path
  journal := h.journal.trans hrest.journal
  added := by
    obtain ⟨content, hcontent, harranged⟩ := h.added
    obtain ⟨later, hlater, hafter⟩ := hrest.added
    rw [h.path] at hafter
    refine ⟨content ++ later, ?_, (harranged.mono hrest.journal).append hafter⟩
    rw [hlater, hcontent, List.append_assoc]

theorem log (pass : Pass) (event : Event) : Arranges context pass (pass.log event) :=
  of_block (List.suffix_cons _ _) rfl

theorem of_edited (h : pass.Edited Edit.IsPlain next) : Arranges context pass next := by
  refine h.related refl trans fun pass edit hedit => ?_
  cases edit with
  | report | require => exact log _ _
  | write => exact ⟨rfl, List.suffix_cons _ _, _, rfl, .line rfl hedit .done⟩
  | splice => cases hedit
  | setResult | dropResult => exact of_block (List.suffix_refl _) rfl
  | claim => exact of_block (List.suffix_cons _ _) rfl

end Pass.Arranges

/-- A block inside was opened, written and handed back. It is not blank if it was to be padded. -/
structure Pass.Fills (context : Context) (pads : Bool) (inner : Block) (pass next : Pass) :
    Prop where
  block : next.block = pass.block.opened
  journal : .opened pass.block.child.path :: pass.events <:+ next.events
  arranged : ∃ count,
    Arranged context next.events pass.block.child.path 0 count inner.content
  padded : pads = true → inner.isBlank = false

/-- What a piece of work adds to the block. -/
def Task.Arranges (context : Context) : Task → Pass → Pass → Prop
  | .inside _ _ pads inner, pass, next => pass.Fills context pads inner next
  | .emission kind node, pass, next =>
      context.kind? node.id = some kind → .entered node.id pass.block.path ∈ pass.events →
        pass.Arranges context next
  | _, pass, next => pass.Arranges context next

/-- What is in a block that is not blank is not all blank. -/
theorem Block.exists_visible {block : Block} (h : block.isBlank = false) :
    ∃ written ∈ block.content, Text.allBlank written.statement.text = false := by
  simpa [Block.isBlank] using h

namespace Pass.Fills

variable {context : Context} {pass start next last : Pass} {pads : Bool} {inner : Block}
  {id : NodeId} {header : Statement} {kind : ComponentKind}

theorem of_arranges (h : pass.openChild.Arranges context last) (id : NodeId)
    (hclose : next = if pads then last.padded id else last) :
    pass.Fills context pads next.block (next.backTo pass.block) := by
  have hnext : pass.openChild.Arranges context next := by
    rw [hclose]
    exact h.trans (.of_edited (.paddedIf _ _ _))
  obtain ⟨content, hcontent, harranged⟩ := hnext.added
  have hinner : next.block.content = content := hcontent
  refine ⟨rfl, hnext.journal, ⟨_, hinner ▸ harranged⟩, ?_⟩
  rintro rfl
  rw [hclose, if_pos rfl, Pass.padded]
  split
  next =>
    rw [Block.isBlank, List.all_eq_false]
    refine ⟨⟨last.block.path, id, .pass⟩, by simp [Pass.write, Pass.log], ?_⟩
    change ¬ Text.allBlank "pass" = true
    decide
  next hvisible => simpa using hvisible

theorem path (h : start.Fills context pads inner next) : next.block.path = start.block.path := by
  rw [h.block]
  rfl

/-- The block of code at the top level is laid into the one around it without a header. -/
theorem splice (h : start.Fills context pads inner next) (hstart : pass.Arranges context start)
    (hkind : context.kind? id = some .topLevelCode)
    (hentered : .entered id start.block.path ∈ start.events) :
    pass.Arranges context (next.splice inner) := by
  obtain ⟨count, harranged⟩ := h.arranged
  have hjournal : start.events <:+ next.events := (List.suffix_cons _ _).trans h.journal
  have hcode : HostsCode context next.events start.block.path :=
    ⟨id, hkind, hjournal.subset hentered⟩
  apply hstart.trans
  refine ⟨h.path, hjournal, inner.content, ?_, ?_⟩
  · simp [Pass.splice, Block.splice, h.block, Block.opened]
  · simpa [Pass.splice, Block.splice, h.block, Block.opened] using
      Arranged.alone (.inr (.inr hcode)) harranged

/-- A block that is laid behind the header that was written when it was opened. -/
theorem headed {later : Pass}
    (h : (start.write id header).Fills context pads inner next)
    (hstart : pass.Arranges context start) (hkind : context.kind? id = some kind)
    (hheader : header.headerKind? = some kind) (helse : header ≠ .elseHeader)
    (hblock : later.block = next.block) (hjournal : next.events <:+ later.events)
    (hfilled : Filled later.events ⟨start.block.path, id, header⟩ inner.content) :
    pass.Arranges context (later.splice inner) := by
  obtain ⟨count, harranged⟩ := h.arranged
  have hopened : OpenedFor later.events ⟨start.block.path, id, header⟩
      start.block.child.path := by
    unfold OpenedFor
    split
    next heq => exact absurd heq helse
    next =>
      have hunder : [.opened start.block.child.path, .wrote ⟨start.block.path, id, header⟩] <+:
          .opened start.block.child.path :: (start.write id header).events :=
        ⟨start.events, rfl⟩
      exact hunder.isInfix.trans (h.journal.trans hjournal).isInfix
  apply hstart.trans
  refine ⟨?_, ?_, ⟨start.block.path, id, header⟩ :: inner.content, ?_, ?_⟩
  · simp [Pass.splice, Block.splice, hblock, h.path, Pass.write, Pass.log]
  · exact (List.suffix_cons _ _).trans
      ((List.suffix_cons _ _).trans (h.journal.trans hjournal))
  · simp [Pass.splice, Block.splice, hblock, h.block, Block.opened, Pass.write, Pass.log]
  · simpa [Pass.splice, Block.splice, hblock, h.block, Block.opened, Pass.write, Pass.log] using
      Arranged.underHeader rfl ⟨⟨kind, hheader, hkind⟩, hopened, hfilled⟩
        (harranged.mono hjournal)

/-- The body of a function or a loop, which is padded. -/
theorem headed_body (h : (start.write id header).Fills context true inner next)
    (hstart : pass.Arranges context start) (hkind : context.kind? id = some kind)
    (hheader : header.headerKind? = some kind) (helse : header ≠ .elseHeader) :
    pass.Arranges context (next.splice inner) := by
  exact h.headed hstart hkind hheader helse rfl (List.suffix_refl _)
    (.inl (Block.exists_visible (h.padded rfl)))

/-- The block of a then branch. A blank one is reported. -/
theorem headed_then {value : Expression}
    (h : (start.write id (.ifHeader value)).Fills context pads inner next)
    (hstart : pass.Arranges context start) (hkind : context.kind? id = some .branch) :
    pass.Arranges context (next.closeThen id inner) := by
  unfold Pass.closeThen
  split
  next =>
    exact h.headed hstart hkind rfl nofun rfl (List.suffix_cons _ _)
      (.inr ⟨⟨value, rfl⟩, .head _⟩)
  next hvisible =>
    exact h.headed hstart hkind rfl nofun rfl (List.suffix_refl _)
      (.inl (Block.exists_visible (by simpa using hvisible)))

/-- An else block is laid behind its header unless it is blank. -/
theorem closeElse (h : start.Fills context pads inner next) (hstart : pass.Arranges context start)
    (hkind : context.kind? id = some .branch) :
    pass.Arranges context (next.closeElse id inner) := by
  obtain ⟨count, harranged⟩ := h.arranged
  have hjournal : start.events <:+ next.events := (List.suffix_cons _ _).trans h.journal
  apply hstart.trans
  unfold Pass.closeElse
  split
  next hblank =>
    refine ⟨h.path, hjournal, [], ?_, ?_⟩
    · simp [h.block, Block.opened]
    · simpa [h.block, Block.opened] using
        Arranged.alone (.inl rfl) .done
  next hvisible =>
    refine ⟨h.path, hjournal.trans (List.suffix_cons _ _),
      ⟨next.block.path, id, .elseHeader⟩ :: inner.content, ?_, ?_⟩
    · simp [Pass.splice, Block.splice, Pass.write, Pass.log, h.block, Block.opened]
    · have heads : Heads context (.wrote ⟨next.block.path, id, .elseHeader⟩ :: next.events)
          ⟨next.block.path, id, .elseHeader⟩ start.block.child.path inner.content :=
        ⟨⟨.branch, rfl, hkind⟩,
          .cons_cons _ (List.singleton_sublist.mpr (h.journal.subset (.head _))),
          .inl (Block.exists_visible (by simpa using hvisible))⟩
      simpa [Pass.splice, Block.splice, Pass.write, Pass.log, h.block, Block.opened] using
        Arranged.underHeader h.path heads (harranged.mono (List.suffix_cons _ _))

end Pass.Fills

open Pass in
/-- Whatever a walk adds to the block is arranged. -/
theorem Walk.arranges {context : Context} {onChain : List NodeId} {task : Task}
    {pass next : Pass} (h : Walk context onChain task pass next) :
    task.Arranges context pass next := by
  have hedited : ∀ {pass next : Pass}, pass.Edited Edit.IsPlain next →
      pass.Arranges context next := .of_edited
  induction h with
  | turnBack => exact hedited (.report _ _ _)
  | chainEnd _ _ ih => exact ih
  | chainOn _ _ _ ihvisit ihrest => exact Arranges.trans ihvisit ihrest
  | missing => exact Arranges.refl _
  | @unknown _ id _ pass =>
      have hreached : pass.Arranges context (pass.reach id) := .of_block (List.suffix_refl _) rfl
      exact hreached.trans (hedited (.report _ _ _))
  | @emitted _ id node component _ pass _ found known _ _ ih =>
      have hid := Graph.id_of_node? found
      have hkind : context.kind? node.id = some component.kind := by
        simp [Context.kind?, Context.component?, hid, found, known]
      have hentered : pass.Arranges context ((pass.reach id).enter id) :=
        .of_block (List.suffix_cons _ _) rfl
      exact (hentered.trans (ih hkind (hid ▸ .head _))).trans (.of_block (List.suffix_cons _ _) rfl)
  | unconnected => exact Arranges.refl _
  | followed _ _ ih => exact ih
  | inside _ close ih => exact .of_arranges ih _ close
  | noExits => exact Arranges.refl _
  | moreExits _ _ ihfirst ihothers => exact Arranges.trans ihfirst ihothers
  | settled => exact Arranges.refl _
  | @fresh _ _ source _ pass _ _ _ _ ih =>
      have hinitiated : pass.Arranges context (pass.initiate source) :=
        .of_block (List.suffix_refl _) rfl
      exact hinitiated.trans ih
  | again _ _ _ _ _ _ ih => exact ih
  | refused => exact hedited (.report _ _ _)
  | unfed => exact Arranges.refl _
  | byParameter => exact Arranges.log _ _
  | byValue _ _ ih => exact Arranges.trans ih (.log _ _)
  | found _ ih => exact ih
  | lacking _ ih => exact Arranges.trans ih (hedited (.report _ _ _))
  | noOperands => exact Arranges.refl _
  | untypedOperand _ _ ih => exact ih
  | optionalOperand _ _ _ _ ihinput ihothers =>
      exact ((hedited (.require _ _)).trans ihinput).trans ihothers
  | enteredOperand _ _ _ _ ihinput ihothers =>
      have hinput := (hedited (.require _ _)).trans ihinput
      exact (hinput.trans (hedited (.checkLiteral _ _ _ _))).trans ihothers
  | requiredOperand _ _ _ _ ihinput ihothers =>
      exact ((hedited (.require _ _)).trans ihinput).trans ihothers
  | lackingOperand _ _ _ _ ihinput ihothers =>
      have hinput := (hedited (.require _ _)).trans ihinput
      exact (hinput.trans (hedited (.checkLiteral _ _ _ _))).trans ihothers
  | noParameters => exact Arranges.refl _
  | moreParameters _ ih =>
      exact (hedited (.trans (.declare _ _ _ _) (.noteDuplicate _ _ _ _))).trans ih
  | unknownLiteral => exact fun _ _ => Arranges.refl _
  | literal => exact fun _ _ => hedited (.trans (.checkLiteral _ _ _ _) (.keep _ _ _ _))
  | call _ ih =>
      exact fun _ _ => Arranges.trans ih
        (hedited (.trans (.requireCall _ _ _) (.placeCall _ _ _ _ _)))
  | declared _ ih => exact fun _ _ => Arranges.trans ih (hedited (.write _ _ _))
  | declaredTyped _ ih => exact fun _ _ => Arranges.trans ih (hedited (.declareTyped _ _ _))
  | bareBranch _ ih => exact fun _ _ => ih
  | @branch _ node value thenBlock elseBlock _ start middle next _ _ _ ihcondition ihthen ihelse =>
      intro hkind _
      have hthen := Fills.headed_then ihthen ihcondition hkind
      exact Fills.closeElse ihelse hthen hkind
  | bareLoop _ ih => exact fun _ _ => ih
  | loop _ _ ihcondition ihbody =>
      intro hkind _
      exact Fills.headed_body ihbody ihcondition hkind rfl (by simp)
  | sequence _ ih => exact fun _ _ => ih
  | @definition _ node inner pass start next _ _ ihparameters ihbody =>
      intro hkind _
      have hmarked : pass.Arranges context (if context.options.exportMarks then
          start.write node.id .exportMark else start) := by
        split
        next => exact Arranges.trans ihparameters (hedited (.write _ _ _))
        next => exact ihparameters
      have hbody := Fills.headed_body ihbody hmarked hkind rfl (by simp)
      exact hbody.trans (hedited (.write _ _ _))
  | code => exact fun _ _ => hedited (.writeCode _ _)
  | @topLevelCode _ node _ pass _ _ ih =>
      intro hkind hentered
      have hcode : pass.Arranges context (pass.writeCode node) := hedited (.writeCode _ _)
      exact Fills.splice ih hcode hkind (hcode.path ▸ hcode.journal.subset hentered)

/-- What the roots write, one after another, is arranged, each root being a block without a header
in no other. -/
theorem Tour.arranged {context : Context} {index : Nat} {roots : List NodeId}
    {written : List Written} {pass next : Pass} (h : Tour context index roots written pass next) :
    pass.events <:+ next.events ∧ (∃ last, Arranged context next.events [] index last written) ∧
      ∀ line ∈ written, line.scope ≠ [] := by
  induction h with
  | done => exact ⟨List.suffix_refl _, ⟨_, .done⟩, by simp⟩
  | @root index id rest written pass middle next first _ ih =>
      obtain ⟨hjournal, ⟨last, hlater⟩, hscopes⟩ := ih
      have hfirst : (pass.openBlock (Block.root index)).Arranges context middle := first.arranges
      obtain ⟨content, hcontent, harranged⟩ := hfirst.added
      obtain rfl : middle.block.content = content := hcontent
      have hblock : Arranged context next.events ([] ++ [index]) 0 middle.block.children
          middle.block.content := harranged.mono hjournal
      refine ⟨((List.suffix_cons _ _).trans hfirst.journal).trans hjournal,
        ⟨last, .bare (.inr (.inl rfl)) hblock hlater⟩,
        List.forall_mem_append.mpr ⟨fun line hmem hempty => ?_, hscopes⟩⟩
      have hinside := hblock.inside hmem
      rw [hempty] at hinside
      cases List.prefix_nil.mp hinside

/-! ## The lines of a block -/

namespace Text

theorem all_pieces (test : Char → Bool) (hnewline : test '\n' = true) (text : List Char) :
    (pieces text).all (·.all test) = text.all test := by
  induction text with
  | nil => rfl
  | cons c rest ih =>
      rw [pieces]
      split
      next hc => simp [hc, hnewline, ih]
      next =>
        rw [List.all_cons, ← ih]
        cases hpieces : pieces rest with
        | nil => exact absurd hpieces (pieces_ne_nil rest)
        | cons piece others => simp [consFirst, Bool.and_assoc]

end Text

namespace Written

/-- The number of tabs in front of the lines of a statement. -/
def indentation (written : Written) : Nat := written.scope.length - 1

/-- A line of a statement that is not blank stands behind its tabs. -/
theorem tabs_of_mem_lines {written : Written} {line : Line} (hmem : line ∈ written.lines)
    (hvisible : Text.allBlank line.text = false) :
    List.replicate written.indentation '\t' <+: line.text.toList := by
  obtain ⟨piece, _, rfl⟩ := List.mem_map.mp hmem
  cases hpiece : piece.isEmpty with
  | true =>
      rw [List.isEmpty_iff] at hpiece
      simp [hpiece, Text.allBlank] at hvisible
  | false => simp [indentation]

/-- A statement that is not blank has a line that is not. -/
theorem exists_line {written : Written} (h : Text.allBlank written.statement.text = false) :
    ∃ line ∈ written.lines, Text.allBlank line.text = false := by
  have hpieces := Text.all_pieces Text.isBlank (by decide) written.statement.text.toList
  unfold Text.allBlank at h
  rw [h, List.all_eq_false] at hpieces
  obtain ⟨piece, hmem, hvisible⟩ := hpieces
  refine ⟨_, List.mem_map_of_mem hmem, ?_⟩
  rw [Text.allBlank, String.toList_ofList, List.all_append, Bool.and_eq_false_iff]
  exact .inr (Bool.not_eq_true _ ▸ hvisible)

end Written

namespace StandsBehind

variable {context : Context} {events : List Event} {before inner after : List Written}
  {header : Written} {block : ScopePath}

/-- The lines of a block stand deeper than its header. -/
theorem tabs (h : StandsBehind context events before header inner after block)
    (hscope : header.scope ≠ []) {line : Line} (hmem : line ∈ inner.flatMap Written.lines)
    (hvisible : Text.allBlank line.text = false) :
    List.replicate (header.indentation + 1) '\t' <+: line.text.toList := by
  obtain ⟨written, hwritten, hline⟩ := List.mem_flatMap.mp hmem
  obtain ⟨index, rfl⟩ := h.child
  have hdeeper := (h.inside written hwritten).length_le
  have hlength : header.indentation + 1 ≤ written.indentation := by
    have hpositive := List.length_pos_iff.mpr hscope
    rw [List.length_append, List.length_singleton] at hdeeper
    unfold Written.indentation
    omega
  obtain ⟨more, hmore⟩ := Nat.exists_eq_add_of_le hlength
  have htabs := Written.tabs_of_mem_lines hline hvisible
  rw [hmore, ← List.replicate_append_replicate] at htabs
  exact (List.prefix_append _ _).trans htabs

/-- A block is not blank unless that was reported. -/
theorem filled (h : StandsBehind context events before header inner after block) :
    (∃ line ∈ inner.flatMap Written.lines, Text.allBlank line.text = false) ∨
      (∃ condition, header.statement = .ifHeader condition) ∧
        .reported (Diagnostic.of .thenBranchExpected (some header.node) none) ∈ events := by
  refine h.heads.filled.imp_left ?_
  rintro ⟨written, hmem, hvisible⟩
  obtain ⟨line, hline, hseen⟩ := Written.exists_line hvisible
  exact ⟨line, List.mem_flatMap.mpr ⟨written, hmem, hline⟩, hseen⟩

end StandsBehind

namespace Language

variable {language : Language} {options : CompileOptions} {graph : Graph}
  {compilation : Compilation}

/-- In every program the lines of a block that a function, a loop or a branch has opened follow
directly behind the lines of its header, at least one tab deeper, and one of them is not blank,
but for then blocks of branches for which this was reported. Lines stand in no blocks but these,
the roots and those of code at the top level. -/
theorem blocks_of_compile (h : language.compile options graph = .ok compilation) :
    ∃ written pass, (language.context options graph).run = .ok (written, pass) ∧
      compilation = .ofPass written pass ∧
      (∀ before header rest, written = before ++ header :: rest →
        header.statement.headerKind? ≠ none →
          ∃ block inner after, rest = inner ++ after ∧
            StandsBehind (language.context options graph) pass.events before header inner after
              block ∧
            compilation.lines =
              (Compilation.header compilation.modules ++ before.flatMap Written.lines) ++
                header.lines ++ inner.flatMap Written.lines ++ after.flatMap Written.lines ∧
            (∀ line ∈ inner.flatMap Written.lines, Text.allBlank line.text = false →
              List.replicate (header.indentation + 1) '\t' <+: line.text.toList) ∧
            ((∃ line ∈ inner.flatMap Written.lines, Text.allBlank line.text = false) ∨
              (∃ condition, header.statement = .ifHeader condition) ∧
                Diagnostic.of .thenBranchExpected (some header.node) none ∈
                  compilation.diagnostics)) ∧
      ∀ line ∈ written, ∀ parent index, parent ≠ [] → parent ++ [index] <+: line.scope →
        HasHeader (language.context options graph) pass.events written (parent ++ [index]) ∨
          HostsCode (language.context options graph) pass.events parent := by
  obtain ⟨written, pass, hrun, rfl, htour⟩ := tour_of_compile h
  obtain ⟨_, ⟨last, harranged⟩, hscopes⟩ := htour.arranged
  refine ⟨written, pass, hrun, rfl, ?_, fun line hmem parent index hparent hunder => ?_⟩
  · intro before header rest hwritten hheader
    obtain ⟨block, inner, after, rfl, hstands, _⟩ := harranged.hasBlock hwritten hheader
    refine ⟨block, inner, after, rfl, hstands, ?_, fun line hmem hvisible => ?_, ?_⟩
    · simp [Compilation.ofPass, hwritten]
    · exact hstands.tabs (hscopes header (by simp [hwritten])) hmem hvisible
    · refine hstands.filled.imp_right fun hreported => ⟨hreported.1, ?_⟩
      simp only [Compilation.ofPass, List.mem_append, List.mem_filterMap, List.mem_reverse]
      exact .inl ⟨_, hreported.2, rfl⟩
  · exact harranged.hasHeader hmem hparent ⟨_, rfl⟩ hunder

/-- A function with a branch whose then block is missing and whose else block is code of two
lines. -/
def blankThen : Graph where
  nodes := [
    { id := ⟨1⟩, name := "Function", outputs := ⟨[("fout", .flow)]⟩ },
    { id := ⟨2⟩, name := "If"
      inputs := ⟨[("fin", .flow), ("inValue", ⟨"Condition", .any "any"⟩)]⟩
      outputs := ⟨[("fout", .flow), ("then", .flow), ("else", .flow)]⟩ },
    { id := ⟨3⟩, name := "Variable", inputs := ⟨[("value", ⟨"Value", .any "any"⟩)]⟩
      outputs := ⟨[("result", ⟨"Result", .any "any"⟩)]⟩ },
    { id := ⟨4⟩, name := "InjectCode", data := ⟨[("code", .string "\nstop()")]⟩
      inputs := ⟨[("fin", .flow)]⟩, outputs := ⟨[("fout", .flow)]⟩ }]
  connections := [⟨1, ⟨1⟩, "fout", ⟨2⟩, "fin"⟩, ⟨2, ⟨3⟩, "result", ⟨2⟩, "inValue"⟩,
    ⟨3, ⟨2⟩, "else", ⟨4⟩, "fin"⟩]
  lastNode := 4
  lastConnection := 3

/-- The then block is blank, which is reported. The else block has a line that is not. -/
theorem blocks_of_compile_blankThen :
    ∃ compilation, bare.compile {} blankThen = .ok compilation ∧
      compilation.diagnostics = [Diagnostic.of .thenBranchExpected (some ⟨2⟩) none] ∧
      ∃ events before inner after block,
        StandsBehind (bare.context {} blankThen) events before ⟨[0, 0], ⟨2⟩, .elseHeader⟩ inner
          after block ∧
        ∃ line ∈ inner.flatMap Written.lines, Text.allBlank line.text = false ∧
          List.replicate 2 '\t' <+: line.text.toList := by
  obtain ⟨compilation, hcompiled, hdiagnostics⟩ :
      ∃ compilation, bare.compile {} blankThen = .ok compilation ∧
        compilation.diagnostics = [Diagnostic.of .thenBranchExpected (some ⟨2⟩) none] :=
    ⟨_, rfl, rfl⟩
  obtain ⟨written, pass, hrun, -, hblocks, -⟩ := blocks_of_compile hcompiled
  obtain ⟨before, rest, hwritten⟩ : ∃ before rest,
      written = before ++ ⟨[0, 0], ⟨2⟩, .elseHeader⟩ :: rest := by
    obtain ⟨known, last, hknown, hsplit⟩ : ∃ known last,
        (bare.context {} blankThen).run = .ok (known, last) ∧
          known = known.take 4 ++ ⟨[0, 0], ⟨2⟩, .elseHeader⟩ :: known.drop 5 := ⟨_, _, rfl, rfl⟩
    obtain ⟨rfl, _⟩ := Prod.mk.inj (Except.ok.inj (hrun.symm.trans hknown))
    exact ⟨_, _, hsplit⟩
  obtain ⟨block, inner, after, _, hstands, _, htabs, hfilled⟩ :=
    hblocks before _ rest hwritten nofun
  refine ⟨compilation, hcompiled, hdiagnostics, pass.events, before, inner, after, block, hstands,
    ?_⟩
  rcases hfilled with ⟨line, hline, hvisible⟩ | ⟨⟨condition, hheader⟩, _⟩
  · exact ⟨line, hline, hvisible, htabs line hline hvisible⟩
  · cases hheader

end Language

end VisualScript
