import VisualScript.Proofs.Pass.Order
import VisualScript.Proofs.Pass.Visibility

/-!
# The journal of a clean pass

All that is known of the journal of a pass that reported nothing: what it tells is
justified, in the order of the roots, and misses nothing that the roots lead to.
-/

namespace VisualScript

/-! ## Journals -/

/-- After a node was touched last, nothing touched it. -/
theorem exists_suffix_of_lastTouch {events : List Event} {node : NodeId} {event : Event}
    (h : lastTouch events node = some event) :
    ∃ before, (event :: before) <:+ events ∧
      ∀ other ∈ events, other.touches node = true → other = event ∨ other ∈ before := by
  obtain ⟨_, since, before, rfl, hsince⟩ := List.find?_eq_some_iff_append.mp h
  refine ⟨before, List.suffix_append _ _, fun other hmem htouches => ?_⟩
  rcases List.mem_append.mp hmem with hmem | hmem
  · have := hsince other hmem
    rw [htouches] at this
    cases this
  · exact List.mem_cons.mp hmem

/-- The first emission of a node that was entered. -/
theorem exists_first_entered {events : List Event} {node : NodeId}
    (h : (lastScope events node).isSome = true) :
    ∃ scope before, (.entered node scope :: before) <:+ events ∧
      lastScope before node = none := by
  induction events with
  | nil => cases h
  | cons event rest ih =>
      cases hrest : lastScope rest node with
      | some scope =>
          obtain ⟨first, before, hfirst, hnone⟩ := ih (by rw [hrest]; rfl)
          exact ⟨first, before, hfirst.trans (List.suffix_cons _ _), hnone⟩
      | none =>
          obtain ⟨scope, hscope⟩ := Option.isSome_iff_exists.mp h
          rcases List.mem_cons.mp (entered_of_lastScope hscope) with rfl | hmem
          · exact ⟨scope, rest, List.suffix_rfl, hrest⟩
          · have := isSome_lastScope hmem
            rw [hrest] at this
            cases this

/-- What is known of a pass that reported nothing. -/
structure JournalFacts (context : Context) (pass : Pass) : Prop where
  wired : context.Wired
  sound : Sound context none pass
  told : Told context context.roots.length pass.events
  followed : ∀ {id scope}, .entered id scope ∈ pass.events →
    Followed context pass.events id scope

theorem Justified.source_eq {context : Context} {resolution : Resolution} {before : List Event}
    {source : NodeId} (h : Justified context resolution before)
    (hfeed : context.feed resolution.consumer resolution.input = .value source) :
    resolution.ofSource = true ∧ resolution.source = source := by
  have hown := h.feed
  cases hsource : resolution.ofSource with
  | true =>
      rw [hsource, if_pos rfl, hfeed] at hown
      exact ⟨rfl, (Feed.value.inj hown).symm⟩
  | false =>
      rw [hsource] at hown
      obtain ⟨key, hparameter, _⟩ := hown
      cases hparameter.symm.trans hfeed

theorem Justified.value_eq {context : Context} {resolution : Resolution} {before : List Event}
    {definition : NodeId} {key : String} (h : Justified context resolution before)
    (hfeed : context.feed resolution.consumer resolution.input = .parameter definition key) :
    resolution.value = .parameter definition key := by
  have hown := h.feed
  cases hsource : resolution.ofSource with
  | true =>
      rw [hsource, if_pos rfl, hfeed] at hown
      cases hown
  | false =>
      rw [hsource] at hown
      obtain ⟨other, hparameter, hvalue⟩ := hown
      cases hparameter.symm.trans hfeed
      exact hvalue

theorem Context.isOnDemand_of_literal {context : Context} {id : NodeId} {name : String}
    (h : context.kind? id = some (.literal name)) : context.isOnDemand id = true :=
  isOnDemand_eq_of_kind? h

namespace JournalFacts

variable {context : Context} {pass : Pass} {index : Nat} {root : NodeId}

/-- What was entered into a scope around one under a root was entered under the root. -/
theorem under_of_entered (h : JournalFacts context pass) {id : NodeId} {scope inner : ScopePath}
    (hmem : .entered id scope ∈ pass.events) (hscope : scope <+: inner)
    (hinner : [index] <+: inner) : [index] <+: scope := by
  obtain ⟨other, _, _, _, hother, _⟩ := h.told.placed _ hmem
  have hsame := head?_of_under (hother.trans hscope)
  rw [head?_of_under hinner, Option.some.injEq] at hsame
  exact hsame ▸ hother

section Resolutions

variable {resolution : Resolution} {before : List Event}

/-- A source that no parameter stands for was entered under the root of the consumer. -/
theorem entered_of_resolved (h : JournalFacts context pass)
    (hresolved : (.resolved resolution :: before) <:+ pass.events)
    (hsource : resolution.ofSource = true)
    (hvalue : ∀ definition key, resolution.value ≠ .parameter definition key)
    (hscope : [index] <+: resolution.scope) :
    ∃ scope, [index] <+: scope ∧ .entered resolution.source scope ∈ before := by
  have hjustified := h.sound.justified hresolved
  have hsince := (List.suffix_cons _ _).trans hresolved
  cases hlast : lastScope before resolution.source with
  | none =>
      obtain ⟨definition, key, hparameter⟩ := hjustified.default hsource hlast
      exact absurd hparameter (hvalue definition key)
  | some scope =>
      have hmem := entered_of_lastScope hlast
      have hvisible := hjustified.visible hsource scope hlast
      exact ⟨scope, h.under_of_entered (hsince.subset hmem) hvisible hscope, hmem⟩

/-- A parameter that stands for a source is one that a root made it the default of. -/
theorem claimed_of_resolved (h : JournalFacts context pass)
    (hresolved : (.resolved resolution :: before) <:+ pass.events)
    (hsource : resolution.ofSource = true) {definition : NodeId} {key : String}
    (hvalue : resolution.value = .parameter definition key) :
    lastTouch before resolution.source = some (.claimed definition resolution.source key) ∧
      .claimed definition resolution.source key ∈ before ∧
      key = resolution.source.localName ∧ context.Claims definition resolution.source ∧
      ∃ index : Nat, context.roots[index]? = some definition := by
  have htouch := (h.sound.justified hresolved).parameter hsource _ _ hvalue
  have hmem := List.mem_of_find?_eq_some htouch
  have hsince := (List.suffix_cons _ _).trans hresolved
  obtain ⟨hkey, hclaims, index, _, hroot⟩ := h.told.placed _ (hsince.subset hmem)
  exact ⟨htouch, hmem, hkey, hclaims, index, hroot⟩

end Resolutions

/-- Where a node was entered, all that it leads to but literals was entered too. -/
theorem arrived_of_leads (h : JournalFacts context pass) {earlier id : NodeId}
    (harrived : Arrived pass.events earlier [index]) (hleads : context.Leads earlier id)
    (hname : ∀ name, context.kind? id ≠ some (.literal name)) :
    Arrived pass.events id [index] := by
  obtain ⟨scope, hscope, hmem⟩ := harrived
  have hfollowed := h.followed hmem
  cases hleads with
  | flow exits connected =>
      obtain ⟨inner, hinner, hmem⟩ := hfollowed.exits exits connected
      exact ⟨inner, hscope.trans hinner, hmem⟩
  | value takes feed =>
      obtain ⟨resolution, hserved, rfl, rfl, rfl⟩ :=
        hfollowed.inputs takes (by rw [feed]; exact nofun)
      obtain ⟨before, hresolved⟩ := exists_suffix_of_mem hserved
      obtain ⟨hsource, rfl⟩ := (h.sound.justified hresolved).source_eq feed
      have hvalue : ∀ definition key, resolution.value ≠ .parameter definition key := by
        intro definition key hvalue
        obtain ⟨_, hclaimed, _⟩ := h.claimed_of_resolved hresolved hsource hvalue
        have hsince := (List.suffix_cons _ _).trans hresolved
        obtain ⟨name, hliteral⟩ := h.sound.literals (hsince.subset hclaimed)
        exact hname name hliteral
      obtain ⟨inner, hinner, hentered⟩ := h.entered_of_resolved hresolved hsource hvalue hscope
      exact ⟨inner, hinner, ((List.suffix_cons _ _).trans hresolved).subset hentered⟩

/-- All nodes that a root leads to but literals were entered under it. -/
theorem arrived (h : JournalFacts context pass) (hroot : context.roots[index]? = some root)
    {id : NodeId} (hbelow : context.Below root id)
    (hname : ∀ name, context.kind? id ≠ some (.literal name)) :
    Arrived pass.events id [index] := by
  induction hbelow with
  | first leads =>
      obtain ⟨hlt, _⟩ := List.getElem?_eq_some_iff.mp hroot
      have hentered := (h.told.journals hlt hroot).1
      exact h.arrived_of_leads ⟨[index], List.prefix_rfl, hentered⟩ leads hname
  | next below leads ih => exact h.arrived_of_leads (ih leads.ne_literal) leads hname

/-- Inputs below a root that are fed took their values under the root. -/
theorem resolved_of_takes (h : JournalFacts context pass)
    (hroot : context.roots[index]? = some root) {consumer : NodeId} {input : String}
    (hbelow : context.Below root consumer) (htakes : context.Takes consumer input)
    (hfed : context.feed consumer input ≠ .nothing) :
    ∃ resolution before, (.resolved resolution :: before) <:+ pass.events ∧
      resolution.consumer = consumer ∧ resolution.input = input ∧
      [index] <+: resolution.scope := by
  obtain ⟨scope, hscope, hmem⟩ := h.arrived hroot hbelow htakes.ne_literal
  obtain ⟨resolution, hserved, rfl, rfl, rfl⟩ := (h.followed hmem).inputs htakes hfed
  obtain ⟨before, hresolved⟩ := exists_suffix_of_mem hserved
  exact ⟨resolution, before, hresolved, rfl, rfl, hscope⟩

theorem claimed_of_claims (h : JournalFacts context pass)
    (hroot : context.roots[index]? = some root) {literal : NodeId}
    (hclaims : context.Claims root literal) :
    .claimed root literal literal.localName ∈ pass.events := by
  obtain ⟨hlt, _⟩ := List.getElem?_eq_some_iff.mp hroot
  obtain ⟨_, heading, body, hjournal, hheading, _⟩ := h.told.journals hlt hroot
  exact hheading (hjournal.claims hclaims)

theorem announced (h : JournalFacts context pass) (hroot : context.roots[index]? = some root)
    {node : Node} {key : String} (hfound : context.graph.node? root = some node)
    (hknown : context.kind? root = some .definition)
    (hkey : key ∈ context.parameterNames node) :
    Announced context pass.events index root key := by
  obtain ⟨hlt, _⟩ := List.getElem?_eq_some_iff.mp hroot
  obtain ⟨_, heading, body, hjournal, _, hbody⟩ := h.told.journals hlt hroot
  exact (hjournal.header hfound hknown hkey).mono hbody

end JournalFacts

/-- A tour that reports nothing, from the first root to the last, is known. -/
theorem CleanTour.journalFacts {context : Context} (hwired : context.Wired)
    {content : List Written} {block : Block} {pass : Pass}
    (h : CleanTour context 0 context.roots content { block := block } pass)
    (hsound : Sound context none pass) : JournalFacts context pass where
  wired := hwired
  sound := hsound
  told := by
    have htold := h.told hwired rfl .empty
    rw [Nat.zero_add] at htold
    exact htold
  followed := fun hmem => (h.follows.2 _ _ hmem).resolve_left nofun

end VisualScript
