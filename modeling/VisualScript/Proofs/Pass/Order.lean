import VisualScript.Proofs.Pass.RootJournals

/-!
# The order of a journal

The journals of the roots follow each other in the order of the roots. So of two
events of values the later one belongs to the same part of the journal or to a later
one, where the heading and the body of each are parts.
-/

namespace VisualScript

/-- The part of a journal that an event of values belongs to: the heading of the root
that makes a default, or the body of the root that the event happens in. -/
def Event.part? (context : Context) : Event → Option Nat
  | entered id scope =>
      if context.isOnDemand id then scope.head?.map fun index => 2 * index + 1 else none
  | resolved resolution => resolution.scope.head?.map fun index => 2 * index + 1
  | claimed definition _ _ => (context.roots.idxOf? definition).map fun index => 2 * index
  | _ => none

/-- Where an event has its place in a journal of so many roots. -/
def Event.Placed (context : Context) (count : Nat) : Event → Prop
  | entered id scope => ∃ index root, index < count ∧ context.roots[index]? = some root ∧
      [index] <+: scope ∧ (id = root ∨ context.Below root id)
  | resolved resolution => ∃ index root, index < count ∧ context.roots[index]? = some root ∧
      [index] <+: resolution.scope ∧ context.Below root resolution.consumer
  | claimed definition literal key => key = literal.localName ∧
      context.Claims definition literal ∧
      ∃ index, index < count ∧ context.roots[index]? = some definition
  | _ => True

/-- A journal tells of the first roots, one after another. Events are listed latest
first. -/
structure Told (context : Context) (count : Nat) (events : List Event) : Prop where
  placed : ∀ event ∈ events, event.Placed context count
  sorted : events.Pairwise fun later earlier =>
    ∀ part ∈ later.part? context, ∀ other ∈ earlier.part? context, other ≤ part
  journals : ∀ {index root}, index < count → context.roots[index]? = some root →
    .entered root [index] ∈ events ∧ ∃ heading body, RootJournal context index root heading body ∧
      heading ⊆ events ∧ body ⊆ events

namespace Context.Wired

variable {context : Context} (h : context.Wired)

include h

/-- Each root has one place among the roots. -/
theorem idxOf?_eq {index : Nat} {root : NodeId} (hroot : context.roots[index]? = some root) :
    context.roots.idxOf? root = some index := by
  obtain ⟨hlt, rfl⟩ := List.getElem?_eq_some_iff.mp hroot
  refine List.idxOf?_eq_some_iff.mpr ⟨hlt, rfl, fun other hother heq => ?_⟩
  have hsame : context.roots[other]? = context.roots[index]? := by
    rw [List.getElem?_eq_getElem hlt, ← heq, List.getElem?_eq_getElem]
  exact Nat.ne_of_lt hother ((List.getElem?_inj (Nat.lt_trans hother hlt) h.distinct).mp hsame)

theorem isOnDemand_root {index : Nat} {root : NodeId}
    (hroot : context.roots[index]? = some root) : context.isOnDemand root = false := by
  exact (h.isFlow_of_mem_roots (List.mem_of_getElem? hroot)).isOnDemand_eq

end Context.Wired

/-- The head of a scope tells which root it lies under. -/
theorem head?_of_under {index : Nat} {scope : ScopePath} (h : [index] <+: scope) :
    scope.head? = some index :=
  List.singleton_prefix_iff_head?_eq_some.mp h

namespace Event

variable {context : Context} {event : Event} {index part : Nat} {root : NodeId}

theorem part?_resolved {resolution : Resolution} (h : [index] <+: resolution.scope) :
    (resolved resolution).part? context = some (2 * index + 1) := by
  rw [part?, head?_of_under h]
  rfl

theorem part?_entered {id : NodeId} {scope : ScopePath} (h : [index] <+: scope)
    (hdemand : context.isOnDemand id = true) :
    (entered id scope).part? context = some (2 * index + 1) := by
  rw [part?, head?_of_under h, if_pos hdemand]
  rfl

theorem part?_claimed (hwired : context.Wired) {definition literal : NodeId} {key : String}
    (hroot : context.roots[index]? = some definition) :
    (claimed definition literal key).part? context = some (2 * index) := by
  rw [part?, hwired.idxOf?_eq hroot]
  rfl

theorem part?_of_inBody (h : event.InBody context root [index])
    (hpart : part ∈ event.part? context) : part = 2 * index + 1 := by
  cases event with
  | entered id scope =>
      cases hdemand : context.isOnDemand id with
      | true => exact Option.some.inj (hpart.symm.trans (part?_entered h.2 hdemand))
      | false =>
          rw [part?, hdemand] at hpart
          cases hpart
  | resolved resolution => exact Option.some.inj (hpart.symm.trans (part?_resolved h.2))
  | claimed => exact h.elim
  | _ => cases hpart

theorem part?_of_inHeading (hwired : context.Wired) (hroot : context.roots[index]? = some root)
    (h : event.InHeading context root) (hpart : part ∈ event.part? context) :
    part = 2 * index := by
  rcases h with hwriting | ⟨literal, _, rfl⟩
  · cases event <;> first | cases hpart | cases hwriting
  · exact Option.some.inj (hpart.symm.trans (part?_claimed hwired hroot))

theorem Placed.part?_lt {count : Nat} (hwired : context.Wired) (h : event.Placed context count)
    (hpart : part ∈ event.part? context) : part < 2 * count := by
  cases event with
  | entered id scope =>
      obtain ⟨index, root, hlt, _, hscope, _⟩ := h
      cases hdemand : context.isOnDemand id with
      | true =>
          have := Option.some.inj (hpart.symm.trans (part?_entered hscope hdemand))
          omega
      | false =>
          rw [part?, hdemand] at hpart
          cases hpart
  | resolved resolution =>
      obtain ⟨index, root, hlt, _, hscope, _⟩ := h
      have := Option.some.inj (hpart.symm.trans (part?_resolved hscope))
      omega
  | claimed definition literal key =>
      obtain ⟨_, _, index, hlt, hroot⟩ := h
      have := Option.some.inj (hpart.symm.trans (part?_claimed hwired hroot))
      omega
  | _ => cases hpart

theorem Placed.mono {count larger : Nat} (h : event.Placed context count)
    (hle : count ≤ larger) : event.Placed context larger := by
  cases event with
  | entered id scope =>
      obtain ⟨index, root, hlt, hrest⟩ := h
      exact ⟨index, root, Nat.lt_of_lt_of_le hlt hle, hrest⟩
  | resolved resolution =>
      obtain ⟨index, root, hlt, hrest⟩ := h
      exact ⟨index, root, Nat.lt_of_lt_of_le hlt hle, hrest⟩
  | claimed definition literal key =>
      obtain ⟨hkey, hclaims, index, hlt, hroot⟩ := h
      exact ⟨hkey, hclaims, index, Nat.lt_of_lt_of_le hlt hle, hroot⟩
  | _ => exact trivial

theorem placed_of_inBody (hroot : context.roots[index]? = some root)
    (h : event.InBody context root [index]) : event.Placed context (index + 1) := by
  cases event with
  | entered id scope => exact ⟨index, root, Nat.lt_succ_self _, hroot, h.2, .inr h.1⟩
  | resolved resolution => exact ⟨index, root, Nat.lt_succ_self _, hroot, h.2, h.1⟩
  | claimed => exact h.elim
  | _ => exact trivial

theorem placed_of_inHeading (hroot : context.roots[index]? = some root)
    (h : event.InHeading context root) : event.Placed context (index + 1) := by
  rcases h with hwriting | ⟨literal, hclaims, rfl⟩
  · cases event <;> first | exact trivial | cases hwriting
  · exact ⟨rfl, hclaims, index, Nat.lt_succ_self _, hroot⟩

end Event

namespace Told

variable {context : Context}

theorem empty : Told context 0 [] where
  placed := nofun
  sorted := .nil
  journals := nofun

/-- One more root is told of. -/
theorem root {index : Nat} {root : NodeId} {heading body events : List Event}
    (hwired : context.Wired) (h : Told context index events)
    (hroot : context.roots[index]? = some root)
    (hjournal : RootJournal context index root heading body) :
    Told context (index + 1)
      (body ++ heading ++ .entered root [index] :: .opened [index] :: events) := by
  have hbody : ∀ event ∈ body, ∀ part ∈ event.part? context, part = 2 * index + 1 :=
    fun event hmem part => Event.part?_of_inBody (hjournal.inBody event hmem)
  have hheading : ∀ event ∈ heading, ∀ part ∈ event.part? context, part = 2 * index :=
    fun event hmem part => Event.part?_of_inHeading hwired hroot (hjournal.inHeading event hmem)
  have hentered : (Event.entered root [index]).part? context = none :=
    if_neg (by rw [hwired.isOnDemand_root hroot]; exact Bool.false_ne_true)
  have hearlier : ∀ event ∈ Event.entered root [index] :: .opened [index] :: events,
      ∀ part ∈ event.part? context, part < 2 * index := by
    intro event hmem part hpart
    rcases List.mem_cons.mp hmem with rfl | hmem
    · rw [hentered] at hpart
      cases hpart
    · rcases List.mem_cons.mp hmem with rfl | hmem
      · cases hpart
      · exact (h.placed event hmem).part?_lt hwired hpart
  have hsubset : events ⊆
      body ++ heading ++ .entered root [index] :: .opened [index] :: events := by
    intro event hmem
    exact List.mem_append_right _ (List.mem_cons_of_mem _ (List.mem_cons_of_mem _ hmem))
  constructor
  · intro event hmem
    rcases List.mem_append.mp hmem with hmem | hmem
    · rcases List.mem_append.mp hmem with hmem | hmem
      · exact Event.placed_of_inBody hroot (hjournal.inBody event hmem)
      · exact Event.placed_of_inHeading hroot (hjournal.inHeading event hmem)
    · rcases List.mem_cons.mp hmem with rfl | hmem
      · exact ⟨index, root, Nat.lt_succ_self _, hroot, List.prefix_rfl, .inl rfl⟩
      · rcases List.mem_cons.mp hmem with rfl | hmem
        · exact trivial
        · exact (h.placed event hmem).mono (Nat.le_succ _)
  · rw [List.pairwise_append, List.pairwise_append, List.pairwise_cons, List.pairwise_cons]
    -- The journal is latest first: the body, the heading, the root, and what was told before.
    refine ⟨⟨?_, ?_, ?_⟩, ⟨?_, nofun, h.sorted⟩, ?_⟩
    · refine List.pairwise_of_forall_mem_list fun later hlater earlier hearlier => ?_
      intro part hpart other hother
      have hsame := hbody later hlater part hpart
      exact Nat.le_of_eq ((hbody earlier hearlier other hother).trans hsame.symm)
    · refine List.pairwise_of_forall_mem_list fun later hlater earlier hearlier => ?_
      intro part hpart other hother
      have hsame := hheading later hlater part hpart
      exact Nat.le_of_eq ((hheading earlier hearlier other hother).trans hsame.symm)
    · intro later hlater earlier hearlier part hpart other hother
      rw [hbody later hlater part hpart, hheading earlier hearlier other hother]
      exact Nat.le_succ _
    · intro earlier _ part hpart
      rw [hentered] at hpart
      cases hpart
    · intro later hlater earlier hmem part hpart other hother
      have hother := hearlier earlier hmem other hother
      rcases List.mem_append.mp hlater with hlater | hlater
      · rw [hbody later hlater part hpart]
        omega
      · rw [hheading later hlater part hpart]
        omega
  · intro other root' hlt hroot'
    rcases Nat.lt_succ_iff_lt_or_eq.mp hlt with hlt | rfl
    · obtain ⟨hmem, first, rest, hother, hfirst, hrest⟩ := h.journals hlt hroot'
      exact ⟨hsubset hmem, first, rest, hother, List.Subset.trans hfirst hsubset,
        List.Subset.trans hrest hsubset⟩
    · cases Option.some.inj (hroot.symm.trans hroot')
      refine ⟨List.mem_append_right _ (List.mem_cons_self ..), heading, body, hjournal, ?_, ?_⟩
      · exact fun event hmem => List.mem_append_left _ (List.mem_append_right _ hmem)
      · exact fun event hmem => List.mem_append_left _ (List.mem_append_left _ hmem)

section Places

variable {count part earlier : Nat} {event other : Event} {before events : List Event}

/-- What belongs to an earlier part happened before. -/
theorem mem_of_part_lt (h : Told context count events) (hsuffix : (event :: before) <:+ events)
    (hmem : other ∈ events) (hpart : event.part? context = some part)
    (hother : other.part? context = some earlier) (hlt : earlier < part) : other ∈ before := by
  obtain ⟨since, rfl⟩ := hsuffix
  rcases List.mem_append.mp hmem with hmem | hmem
  -- Had it happened since, its part would be no earlier than that of the event.
  · have hsorted := (List.pairwise_append.mp h.sorted).2.2 other hmem event
      (List.mem_cons_self ..) earlier hother part hpart
    exact absurd hlt (Nat.not_lt_of_le hsorted)
  · rcases List.mem_cons.mp hmem with rfl | hmem
    · cases hpart.symm.trans hother
      exact absurd hlt (Nat.lt_irrefl _)
    · exact hmem

/-- What happened before belongs to no later part. -/
theorem part_le (h : Told context count events) (hsuffix : (event :: before) <:+ events)
    (hmem : other ∈ before) (hpart : event.part? context = some part)
    (hother : other.part? context = some earlier) : earlier ≤ part := by
  have hsorted := h.sorted.sublist hsuffix.sublist
  exact (List.pairwise_cons.mp hsorted).1 other hmem part hpart earlier hother

end Places

end Told

/-- A tour that reports nothing tells of each root. -/
theorem CleanTour.told {context : Context} (hwired : context.Wired) {index : Nat}
    {roots : List NodeId} {written : List Written} {pass next : Pass}
    (h : CleanTour context index roots written pass next)
    (hroots : context.roots.drop index = roots) (htold : Told context index pass.events) :
    Told context (index + roots.length) next.events := by
  induction h with
  | done => exact htold
  | @root index root rest _ pass middle _ first _ ih =>
      have hroot : context.roots[index]? = some root := by
        rw [← List.head?_drop, hroots]
        rfl
      have hrest : context.roots.drop (index + 1) = rest := by
        rw [← List.tail_drop, hroots]
        rfl
      obtain ⟨kind, hknown, htop⟩ := hwired.starts root (List.mem_of_getElem? hroot)
      obtain ⟨heading, body, hevents, hjournal⟩ := first.rootJournal hwired hknown htop rfl
      have htold := htold.root hwired hroot hjournal
      rw [List.length_cons, Nat.add_comm rest.length, ← Nat.add_assoc]
      exact ih hrest (hevents ▸ htold)

end VisualScript
