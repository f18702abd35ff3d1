import VisualScript.Proofs.Pass.Outline

/-!
# Passes over parts of a graph

A pass over a graph of two parts that no connection joins, beside a pass over each of the
parts. While the pass over the whole is at a root of the one part, the pass over that part
does the same, and the pass over the other stands still. All that is known of a node is
known where the node is; only the places of roots differ.
-/

namespace VisualScript

/-! ## What is known of a node -/

/-- What a pass knows of a node, but where it was emitted. -/
@[ext]
structure Facts where
  result : Option Expression
  initiated : Prop
  reached : Prop
  emitting : Prop

namespace Pass

def facts (pass : Pass) (id : NodeId) : Facts where
  result := pass.results.get? id
  initiated := id ∈ pass.initiated
  reached := id ∈ pass.reached
  emitting := id ∈ pass.emitting

/-- A change is all about what is known of one node. -/
structure Alters (node : NodeId) (change : Pass → Pass) : Prop where
  facts : ∃ update : Facts → Facts, ∀ pass id,
    (change pass).facts id = if id = node then update (pass.facts id) else pass.facts id
  scopes : ∀ pass, (change pass).scopes = pass.scopes
  events : ∀ pass, (change pass).events = pass.events
  block : ∀ pass, (change pass).block = pass.block

namespace Alters

variable (node : NodeId)

theorem initiate : Alters node (·.initiate node) where
  facts := by
    refine ⟨fun known => { known with initiated := True }, fun pass id => ?_⟩
    by_cases hid : id = node <;> simp [Pass.facts, Pass.initiate, hid]
  scopes _ := rfl
  events _ := rfl
  block _ := rfl

theorem reach : Alters node (·.reach node) where
  facts := by
    refine ⟨fun known => { known with reached := True }, fun pass id => ?_⟩
    by_cases hid : id = node <;> simp [Pass.facts, Pass.reach, hid]
  scopes _ := rfl
  events _ := rfl
  block _ := rfl

theorem begin : Alters node fun pass => { pass with emitting := node :: pass.emitting } where
  facts := by
    refine ⟨fun known => { known with emitting := True }, fun pass id => ?_⟩
    by_cases hid : id = node <;> simp [Pass.facts, hid]
  scopes _ := rfl
  events _ := rfl
  block _ := rfl

theorem finish :
    Alters node fun pass => { pass with emitting := pass.emitting.filter (· ≠ node) } where
  facts := by
    refine ⟨fun known => { known with emitting := False }, fun pass id => ?_⟩
    by_cases hid : id = node <;> simp [Pass.facts, hid]
  scopes _ := rfl
  events _ := rfl
  block _ := rfl

theorem setResult (value : Expression) : Alters node (·.setResult node value) where
  facts := by
    refine ⟨fun known => { known with result := some value }, fun pass id => ?_⟩
    by_cases hid : id = node
    · simp [Pass.facts, Pass.setResult, OrderedMap.get?_insert, hid]
    · simp [Pass.facts, Pass.setResult, OrderedMap.get?_insert, hid, Ne.symm hid]
  scopes _ := rfl
  events _ := rfl
  block _ := rfl

theorem dropResult : Alters node (·.dropResult node) where
  facts := by
    refine ⟨fun known => { known with result := none }, fun pass id => ?_⟩
    by_cases hid : id = node
    · simp [Pass.facts, Pass.dropResult, OrderedMap.get?_erase, hid]
    · simp [Pass.facts, Pass.dropResult, OrderedMap.get?_erase, hid, Ne.symm hid]
  scopes _ := rfl
  events _ := rfl
  block _ := rfl

end Alters

end Pass

/-! ## What a journal says of nodes -/

/-- What an event says of a node. -/
inductive Mention where
  | fault (diagnostic : Diagnostic)
  /-- The value of a source is put to use. -/
  | use (source : NodeId)

namespace Mention

def diagnostic? : Mention → Option Diagnostic
  | fault diagnostic => some diagnostic
  | use _ => none

def source? : Mention → Option NodeId
  | fault _ => none
  | use source => some source

/-- Whether something is said of a node of a part. -/
def concerns (members : NodeId → Bool) : Mention → Bool
  | fault diagnostic => diagnostic.node.any members
  | use source => members source

theorem concerns_others {members : NodeId → Bool} {mention : Mention}
    (h : mention.concerns members = true) : mention.concerns (fun id => !members id) = false := by
  cases mention with
  | fault diagnostic =>
      obtain ⟨id, hnode, hid⟩ := Option.any_eq_true _ _ |>.mp h
      rw [concerns, hnode, Option.any_some, hid]
      rfl
  | use source => exact congrArg (!·) h

end Mention

def Event.mention? : Event → Option Mention
  | reported diagnostic => some (.fault diagnostic)
  | resolved resolution => if resolution.ofSource then some (.use resolution.source) else none
  | _ => none

theorem Event.diagnostic?_eq_bind (event : Event) :
    event.diagnostic? = event.mention?.bind Mention.diagnostic? := by
  cases event with
  | resolved resolution =>
      cases hsource : resolution.ofSource <;>
        simp [diagnostic?, mention?, hsource, Mention.diagnostic?]
  | _ => rfl

theorem Event.usedSource?_eq_bind_mention? (event : Event) :
    event.usedSource? = event.mention?.bind Mention.source? := by
  cases event with
  | resolved resolution =>
      cases hsource : resolution.ofSource <;>
        simp [usedSource?, mention?, hsource, Mention.source?]
  | _ => rfl

namespace Pass

/-- What was said of nodes, latest first. -/
def mentions (pass : Pass) : List Mention := pass.events.filterMap Event.mention?

/-- The modules that were required. -/
def modules (pass : Pass) : List String := pass.events.flatMap Event.modules

end Pass

/-! ## Scopes under roots -/

/-- A node was last emitted under older roots, or never. -/
inductive Older (root place : Nat) : Option ScopePath → Option ScopePath → Prop where
  | never : Older root place none none
  | under {first other inner inner'} (before : first < root) (before' : other < place) :
      Older root place (some (first :: inner)) (some (other :: inner'))

/-- A node was last emitted into the same scope under the current roots, or before. -/
inductive SameScope (root place : Nat) : Option ScopePath → Option ScopePath → Prop where
  | older {scope scope'} (h : Older root place scope scope') : SameScope root place scope scope'
  | here (inner : ScopePath) : SameScope root place (some (root :: inner)) (some (place :: inner))

theorem Older.mono {root place root' place' : Nat} {scope scope' : Option ScopePath}
    (h : Older root place scope scope') (hroot : root ≤ root') (hplace : place ≤ place') :
    Older root' place' scope scope' := by
  cases h with
  | never => exact .never
  | under before before' =>
      exact .under (Nat.lt_of_lt_of_le before hroot) (Nat.lt_of_lt_of_le before' hplace)

/-- Where the next roots are, all is older. -/
theorem SameScope.older_succ {root place : Nat} {scope scope' : Option ScopePath}
    (h : SameScope root place scope scope') : Older (root + 1) (place + 1) scope scope' := by
  cases h with
  | older h => exact h.mono (Nat.le_succ _) (Nat.le_succ _)
  | here => exact .under (Nat.lt_succ_self _) (Nat.lt_succ_self _)

/-- Only what was emitted under the current roots can be seen. -/
theorem SameScope.isPrefixOf_eq {root place : Nat} {scope scope' : Option ScopePath}
    (h : SameScope root place scope scope') (inner : ScopePath) :
    scope.all (·.isPrefixOf (root :: inner)) = scope'.all (·.isPrefixOf (place :: inner)) := by
  cases h with
  | older h =>
      cases h with
      | never => rfl
      | under before before' =>
          -- Neither path starts with the current root, so neither block can be seen.
          have hother := beq_eq_false_iff_ne.mpr (Nat.ne_of_lt before)
          have hother' := beq_eq_false_iff_ne.mpr (Nat.ne_of_lt before')
          simp [List.isPrefixOf, hother, hother']
  | here => simp [List.isPrefixOf]

/-! ## Passes side by side -/

/-- What a pass over a graph knows of the nodes of a part is what the pass over the part
knows. -/
structure Portion (members : NodeId → Bool)
    (scopes : Option ScopePath → Option ScopePath → Prop) (full part : Pass) : Prop where
  facts : ∀ {id}, members id = true → full.facts id = part.facts id
  scopes : ∀ {id}, members id = true → scopes (full.scopes.get? id) (part.scopes.get? id)
  mentions : full.mentions.filter (·.concerns members) = part.mentions

/-- What was written, without the way to its scope. -/
def Written.bare (written : Written) : Nat × NodeId × Statement :=
  (written.scope.length, written.node, written.statement)

/-- The same was written, by nodes of a part. -/
structure SameContent (members : NodeId → Bool) (content content' : List Written) : Prop where
  bare : content.map Written.bare = content'.map Written.bare
  own : ∀ written ∈ content, members written.node = true

/-- Where the passes over a graph and over a part of it stand. -/
structure Division where
  members : NodeId → Bool
  /-- The pass over the other nodes, which stands still. -/
  rest : Pass
  /-- The current root in the graph, and its place among the roots of the part. -/
  root : Nat
  place : Nat
  /-- The number of roots that the pass over the other nodes has dealt with. -/
  bound : Nat

namespace Division

variable {division : Division} {full part : Pass} {id : NodeId}

/-- The same block is being written. -/
structure SameBlock (division : Division) (block block' : Block) : Prop where
  path : ∃ inner, block.path = division.root :: inner ∧ block'.path = division.place :: inner
  children : block.children = block'.children
  content : SameContent division.members block.content block'.content

/-- The pass over a graph is where the pass over the current part is. -/
structure Alike (division : Division) (full part : Pass) : Prop where
  own : Portion division.members (SameScope division.root division.place) full part
  others : Portion (fun id => !division.members id) (Older division.root division.bound) full
    division.rest
  modules : ∀ name, name ∈ full.modules ↔ name ∈ part.modules ∨ name ∈ division.rest.modules
  block : division.SameBlock full.block part.block

end Division

namespace SameContent

variable {members : NodeId → Bool} {content content' more more' : List Written}

theorem nil (members : NodeId → Bool) : SameContent members [] [] := ⟨rfl, nofun⟩

theorem append (h : SameContent members content content') (hmore : SameContent members more more') :
    SameContent members (content ++ more) (content' ++ more') where
  bare := by rw [List.map_append, List.map_append, h.bare, hmore.bare]
  own written hmem := (List.mem_append.mp hmem).elim (h.own written) (hmore.own written)

theorem isBlank_eq {block block' : Block}
    (h : SameContent members block.content block'.content) : block.isBlank = block'.isBlank := by
  have hall : ∀ content : List Written, (content.all fun written =>
      Text.allBlank written.statement.text) = ((content.map Written.bare).all fun bare =>
        Text.allBlank bare.2.2.text) := by
    intro content
    rw [List.all_map]
    rfl
  rw [Block.isBlank, hall, h.bare, ← hall]
  rfl

end SameContent

namespace Division.Alike

variable {division : Division} {full part : Pass} {node id : NodeId}

theorem ne_of_other (hmem : division.members node = true)
    (hid : (!division.members id) = true) : id ≠ node := by
  rintro rfl
  rw [hmem] at hid
  cases hid

theorem inScope_eq (h : division.Alike full part) (hmem : division.members node = true) :
    full.inScope node = part.inScope node := by
  obtain ⟨inner, hpath, hpath'⟩ := h.block.path
  unfold Pass.inScope Block.sees
  rw [hpath, hpath']
  exact (h.own.scopes hmem).isPrefixOf_eq inner

theorem valueOf_eq (h : division.Alike full part) (hmem : division.members node = true) :
    full.valueOf node = part.valueOf node := by
  have hresult : full.results.get? node = part.results.get? node :=
    congrArg Facts.result (h.own.facts hmem)
  rw [Pass.valueOf, hresult]
  rfl

/-! What is done to both, about nodes of the part, keeps them alike. -/

theorem alter (h : division.Alike full part) (hmem : division.members node = true)
    {change : Pass → Pass} (halters : Pass.Alters node change) :
    division.Alike (change full) (change part) where
  own := by
    obtain ⟨update, hupdate⟩ := halters.facts
    constructor
    · intro id hid
      rw [hupdate, hupdate, h.own.facts hid]
    · intro id hid
      rw [halters.scopes, halters.scopes]
      exact h.own.scopes hid
    · rw [Pass.mentions, halters.events, Pass.mentions, halters.events]
      exact h.own.mentions
  others := by
    obtain ⟨update, hupdate⟩ := halters.facts
    constructor
    · intro id hid
      rw [hupdate, if_neg (ne_of_other hmem hid), h.others.facts hid]
    · intro id hid
      rw [halters.scopes]
      exact h.others.scopes hid
    · rw [Pass.mentions, halters.events]
      exact h.others.mentions
  modules := by
    intro name
    rw [Pass.modules, halters.events, Pass.modules, halters.events]
    exact h.modules name
  block := by
    rw [halters.block, halters.block]
    exact h.block

/-- Both are told the same of a node of the part. -/
theorem log (h : division.Alike full part) {event event' : Event}
    (hmention : event.mention? = event'.mention?)
    (hconcerns : ∀ {mention}, event.mention? = some mention →
      mention.concerns division.members = true)
    (hmodules : event.modules = event'.modules) :
    division.Alike (full.log event) (part.log event') where
  own := by
    refine ⟨h.own.facts, h.own.scopes, ?_⟩
    change (List.filterMap _ (event :: full.events)).filter _ =
      List.filterMap _ (event' :: part.events)
    cases hevent : event.mention? with
    | none =>
        rw [List.filterMap_cons_none hevent, List.filterMap_cons_none (hmention ▸ hevent)]
        exact h.own.mentions
    | some mention =>
        rw [List.filterMap_cons_some hevent, List.filterMap_cons_some (hmention ▸ hevent),
          List.filter_cons_of_pos (hconcerns hevent)]
        exact congrArg (mention :: ·) h.own.mentions
  others := by
    refine ⟨h.others.facts, h.others.scopes, ?_⟩
    change (List.filterMap _ (event :: full.events)).filter _ = _
    cases hevent : event.mention? with
    | none =>
        rw [List.filterMap_cons_none hevent]
        exact h.others.mentions
    | some mention =>
        have hconcerns := Mention.concerns_others (hconcerns hevent)
        rw [List.filterMap_cons_some hevent, List.filter_cons_of_neg (by simp [hconcerns])]
        exact h.others.mentions
  modules := by
    intro name
    change name ∈ event.modules ++ full.modules ↔
      name ∈ event'.modules ++ part.modules ∨ name ∈ division.rest.modules
    rw [List.mem_append, List.mem_append, hmodules, h.modules name, or_assoc]
  block := h.block

theorem withBlock (h : division.Alike full part) {block block' : Block}
    (hblock : division.SameBlock block block') :
    division.Alike { full with block := block } { part with block := block' } :=
  ⟨⟨h.own.facts, h.own.scopes, h.own.mentions⟩,
    ⟨h.others.facts, h.others.scopes, h.others.mentions⟩, h.modules, hblock⟩

/-- A node of the part is emitted into the current block. -/
theorem place (h : division.Alike full part) (hmem : division.members node = true) :
    division.Alike { full with scopes := full.scopes.insert node full.block.path }
      { part with scopes := part.scopes.insert node part.block.path } := by
  refine ⟨⟨h.own.facts, fun {id} hid => ?_, h.own.mentions⟩,
    ⟨h.others.facts, fun {id} hid => ?_, h.others.mentions⟩, h.modules, h.block⟩
  · obtain ⟨inner, hpath, hpath'⟩ := h.block.path
    dsimp only
    rw [OrderedMap.get?_insert, OrderedMap.get?_insert, hpath, hpath']
    by_cases hid' : node = id
    · rw [if_pos hid', if_pos hid']
      exact .here inner
    · rw [if_neg hid', if_neg hid']
      exact h.own.scopes hid
  · dsimp only
    rw [OrderedMap.get?_insert, if_neg (ne_of_other hmem hid).symm]
    exact h.others.scopes hid

theorem report (h : division.Alike full part) (hmem : division.members node = true)
    (kind : DiagnosticKind) (detail : Option String) :
    division.Alike (full.report kind node detail) (part.report kind node detail) := by
  refine h.log rfl (fun hmention => ?_) rfl
  cases hmention
  exact hmem

/-- What is said of no node. -/
theorem note (h : division.Alike full part) {event event' : Event}
    (hmention : event.mention? = none) (hmention' : event'.mention? = none)
    (hmodules : event.modules = event'.modules) :
    division.Alike (full.log event) (part.log event') := by
  refine h.log (hmention.trans hmention'.symm) (fun hsome => ?_) hmodules
  cases hmention.symm.trans hsome

theorem require (h : division.Alike full part) (modules : List String) :
    division.Alike (full.require modules) (part.require modules) := h.note rfl rfl rfl

theorem enter (h : division.Alike full part) (hmem : division.members node = true) :
    division.Alike (full.enter node) (part.enter node) :=
  ((h.alter hmem (.begin node)).place hmem).note rfl rfl rfl

theorem leave (h : division.Alike full part) (hmem : division.members node = true) :
    division.Alike (full.leave node) (part.leave node) :=
  (h.alter hmem (.finish node)).note rfl rfl rfl

theorem claim (h : division.Alike full part) (definition : NodeId)
    (hmem : division.members node = true) :
    division.Alike (full.claim definition node) (part.claim definition node) := by
  have hclaimed := ((h.alter hmem (.reach node)).alter hmem (.initiate node)).alter hmem
    (.setResult node (.parameter definition node.localName))
  exact hclaimed.note rfl rfl rfl

theorem write (h : division.Alike full part) (hmem : division.members node = true)
    (statement : Statement) :
    division.Alike (full.write node statement) (part.write node statement) := by
  obtain ⟨inner, hpath, hpath'⟩ := h.block.path
  have hwritten : SameContent division.members [⟨full.block.path, node, statement⟩]
      [⟨part.block.path, node, statement⟩] := by
    refine ⟨?_, fun written hwritten => List.mem_singleton.mp hwritten ▸ hmem⟩
    rw [hpath, hpath']
    rfl
  have hblock : division.SameBlock
      { full.block with content := full.block.content ++ [⟨full.block.path, node, statement⟩] }
      { part.block with content := part.block.content ++ [⟨part.block.path, node, statement⟩] } :=
    ⟨h.block.path, h.block.children, h.block.content.append hwritten⟩
  exact (h.withBlock hblock).note rfl rfl rfl

theorem splice (h : division.Alike full part) {inner inner' : Block}
    (hinner : SameContent division.members inner.content inner'.content) :
    division.Alike (full.splice inner) (part.splice inner') :=
  h.withBlock ⟨h.block.path, h.block.children, h.block.content.append hinner⟩

theorem openChild (h : division.Alike full part) :
    division.Alike full.openChild part.openChild := by
  have hchild : division.SameBlock full.block.child part.block.child := by
    obtain ⟨inner, hpath, hpath'⟩ := h.block.path
    refine ⟨⟨inner ++ [full.block.children], ?_, ?_⟩, rfl, .nil _⟩
    · rw [Block.child, hpath]
      rfl
    · rw [Block.child, hpath', h.block.children]
      rfl
  exact (h.withBlock hchild).note rfl rfl rfl

theorem backTo (h : division.Alike full part) {outer outer' : Block}
    (houter : division.SameBlock outer outer') :
    division.Alike (full.backTo outer) (part.backTo outer') :=
  h.withBlock ⟨houter.path, congrArg (· + 1) houter.children, houter.content⟩

theorem checkLiteral (h : division.Alike full part) (type : LanguageType) {literal : Node}
    (hmem : division.members literal.id = true) (key : String) :
    division.Alike (full.checkLiteral type literal key) (part.checkLiteral type literal key) := by
  unfold Pass.checkLiteral
  split
  next => exact h.require _
  next => exact (h.report hmem _ _).require _

end Division.Alike

end VisualScript
