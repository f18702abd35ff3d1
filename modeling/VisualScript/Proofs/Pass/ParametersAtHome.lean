import VisualScript.Proofs.Pass.JournalFacts
import VisualScript.Proofs.Pass.Statements

/-!
# Parameters at home

A reference to a parameter means something only in the body of its function. Nothing
checks that it is used there, so whether it is depends on the graph: on which nodes the
roots lead to, and on which root comes to a literal first.
-/

namespace VisualScript

namespace Context

/-- The value of a node is taken in the body of a root. -/
def TakesAt (context : Context) (index : Nat) (source : NodeId) : Prop :=
  ∃ root consumer input, context.roots[index]? = some root ∧ context.Below root consumer ∧
    context.Takes consumer input ∧ context.feed consumer input = .value source

/-- A root makes a literal the default of one of its parameters. -/
def ClaimsAt (context : Context) (index : Nat) (literal : NodeId) : Prop :=
  ∃ root, context.roots[index]? = some root ∧ context.Claims root literal

/-- The graph leaves the parameters of functions in the functions. -/
structure StaysHome (context : Context) : Prop where
  /-- Only the body of a function takes its parameters, and only those that it has. -/
  outputs : ∀ {root consumer input definition key}, root ∈ context.roots →
    context.Below root consumer → context.Takes consumer input →
      context.feed consumer input = .parameter definition key → definition = root ∧
        ∃ node, context.graph.node? definition = some node ∧ key ∈ context.parameterNames node
  /-- A value that a root takes is a default of the root, or it is taken by some root
  before any makes it a default. -/
  defaults : ∀ {index source}, context.TakesAt index source → context.ClaimsAt index source ∨
    ∃ first, context.TakesAt first source ∧
      ∀ earlier, earlier ≤ first → ¬ context.ClaimsAt earlier source

end Context

/-- A parameter is referred to in a scope: an input takes a value with a reference to it
there, or a statement of the program that was written there has one. -/
inductive RefersAt (journal : List Event) (content : List Written) :
    ScopePath → NodeId → String → Prop where
  | taken {resolution definition key} (resolved : .resolved resolution ∈ journal)
      (part : (Expression.parameter definition key).PartOf resolution.value) :
      RefersAt journal content resolution.scope definition key
  | written {written value definition key} (listed : written ∈ content)
      (holds : written.statement.value? = some value)
      (part : (Expression.parameter definition key).PartOf value) :
      RefersAt journal content written.scope definition key

/-- What a program refers to was taken in the same scope. -/
theorem RefersAt.substituted {context : Context} {index : Nat} {roots : List NodeId}
    {content : List Written} {block : Block} {pass : Pass}
    (htour : CleanTour context index roots content { block := block } pass)
    {scope : ScopePath} {definition : NodeId} {key : String}
    (h : RefersAt pass.events.reverse content scope definition key) :
    Substituted pass.events scope definition key := by
  cases h with
  | taken resolved part => exact ⟨_, List.mem_reverse.mp resolved, rfl, part⟩
  | written listed holds part =>
      obtain ⟨_, hwrote, hgathered⟩ := htour.writes
      exact (hgathered _ (hwrote _ listed)).resolve_left nofun _ holds _ _ part

/-- A scope lies in the root block of a function whose header declares a parameter. -/
def AtHome (context : Context) (journal : List Event) (scope : ScopePath)
    (definition : NodeId) (key : String) : Prop :=
  ∃ index, context.roots[index]? = some definition ∧ [index] <+: scope ∧
    Announced context journal index definition key

theorem AtHome.mono {context : Context} {events later : List Event} {scope inner : ScopePath}
    {definition : NodeId} {key : String} (h : AtHome context events scope definition key)
    (hlater : events ⊆ later) (hinner : scope <+: inner) :
    AtHome context later inner definition key := by
  obtain ⟨index, hroot, hscope, hannounced⟩ := h
  exact ⟨index, hroot, hscope.trans hinner, hannounced.mono hlater⟩

/-! ## Where the graph leaves parameters at home -/

namespace JournalFacts

variable {context : Context} {pass : Pass} {index : Nat} {root : NodeId}
  {resolution : Resolution} {before : List Event} {definition : NodeId} {key : String}

/-- No default was claimed by a later root than the one that takes it. -/
theorem claim_le (h : JournalFacts context pass)
    (hresolved : (.resolved resolution :: before) <:+ pass.events)
    (hscope : [index] <+: resolution.scope) {literal : NodeId} {other : Nat}
    (hmem : .claimed definition literal key ∈ before)
    (hother : context.roots[other]? = some definition) : other ≤ index := by
  have hle := h.told.part_le hresolved hmem (Event.part?_resolved hscope)
    (Event.part?_claimed h.wired hother)
  omega

/-- What a root takes while it is its default is its own parameter. -/
theorem eq_root_of_claims (h : JournalFacts context pass)
    (hresolved : (.resolved resolution :: before) <:+ pass.events)
    (hsource : resolution.ofSource = true) (hvalue : resolution.value = .parameter definition key)
    (hroot : context.roots[index]? = some root) (hscope : [index] <+: resolution.scope)
    (hclaims : context.Claims root resolution.source) : definition = root := by
  obtain ⟨htouch, hclaimed, _, _, other, hother⟩ :=
    h.claimed_of_resolved hresolved hsource hvalue
  obtain ⟨rest, hrest, htouched⟩ := exists_suffix_of_lastTouch htouch
  have hown := h.told.mem_of_part_lt hresolved (h.claimed_of_claims hroot hclaims)
    (Event.part?_resolved hscope) (Event.part?_claimed h.wired hroot) (Nat.lt_succ_self _)
  rcases htouched _ hown (decide_eq_true rfl) with heq | hmem
  · cases heq
    rfl
  · -- The claim of the root came first, and no root after it could claim the literal yet.
    have hle := h.told.part_le (hrest.trans ((List.suffix_cons _ _).trans hresolved)) hmem
      (Event.part?_claimed h.wired hother) (Event.part?_claimed h.wired hroot)
    have hge := h.claim_le hresolved hscope hclaimed hother
    obtain rfl : other = index := by omega
    exact Option.some.inj (hother.symm.trans hroot)

/-- A literal that is a parameter under some root was claimed before any root took it. -/
theorem exists_claimsAt_le (h : JournalFacts context pass)
    (hresolved : (.resolved resolution :: before) <:+ pass.events)
    (hsource : resolution.ofSource = true) (hvalue : resolution.value = .parameter definition key)
    (hscope : [index] <+: resolution.scope) {first : Nat}
    (htakesAt : context.TakesAt first resolution.source) :
    ∃ earlier, earlier ≤ first ∧ context.ClaimsAt earlier resolution.source := by
  obtain ⟨htouch, hclaimed, _, hclaims, other, hother⟩ :=
    h.claimed_of_resolved hresolved hsource hvalue
  have hle := h.claim_le hresolved hscope hclaimed hother
  have hsince := (List.suffix_cons _ _).trans hresolved
  obtain ⟨name, hliteral⟩ := h.sound.literals (hsince.subset hclaimed)
  have hdemand := Context.isOnDemand_of_literal hliteral
  by_cases hfirst : other ≤ first
  · exact ⟨other, hfirst, definition, hother, hclaims⟩
  obtain ⟨root, consumer, input, hroot, hbelow, htakes, hfeed⟩ := htakesAt
  obtain ⟨taken, since, htaken, rfl, rfl, hinner⟩ :=
    h.resolved_of_takes hroot hbelow htakes (by rw [hfeed]; exact nofun)
  obtain ⟨hown, hsame⟩ := (h.sound.justified htaken).source_eq hfeed
  by_cases hparameter : ∃ definition key, taken.value = .parameter definition key
  · obtain ⟨claimer, name, hparameter⟩ := hparameter
    obtain ⟨_, hmem, _, hclaims, earlier, hearlier⟩ :=
      h.claimed_of_resolved htaken hown hparameter
    exact ⟨earlier, h.claim_le htaken hinner hmem hearlier, claimer, hearlier, hsame ▸ hclaims⟩
  · -- The literal was emitted under the first root already. So it was emitted again under
    -- this one, after it was claimed, and no parameter stands for it.
    have hvalues : ∀ definition key, taken.value ≠ .parameter definition key :=
      fun claimer name heq => hparameter ⟨claimer, name, heq⟩
    obtain ⟨scope, hunder, hentered⟩ := h.entered_of_resolved htaken hown hvalues hinner
    rw [hsame] at hentered
    have hknown := h.told.mem_of_part_lt hresolved
      (((List.suffix_cons _ _).trans htaken).subset hentered) (Event.part?_resolved hscope)
      (Event.part?_entered hunder hdemand) (by omega)
    obtain ⟨last, hlast⟩ := Option.isSome_iff_exists.mp (isSome_lastScope hknown)
    have hmem := entered_of_lastScope hlast
    have hvisible := (h.sound.justified hresolved).visible hsource last hlast
    have hagain := h.under_of_entered (hsince.subset hmem) hvisible hscope
    obtain ⟨rest, hrest, htouched⟩ := exists_suffix_of_lastTouch htouch
    rcases htouched _ hmem (decide_eq_true rfl) with heq | hmem
    · cases heq
    · have := h.told.part_le (hrest.trans hsince) hmem (Event.part?_claimed h.wired hother)
        (Event.part?_entered hagain hdemand)
      omega

/-- Where the graph leaves parameters at home, an input takes them only there. -/
theorem atHome_of_value (h : JournalFacts context pass) (hstays : context.StaysHome)
    (hresolved : (.resolved resolution :: before) <:+ pass.events)
    (hvalue : resolution.value = .parameter definition key) :
    AtHome context pass.events resolution.scope definition key := by
  obtain ⟨index, root, _, hroot, hscope, hbelow⟩ :=
    h.told.placed _ (hresolved.subset (List.mem_cons_self ..))
  have hjustified := h.sound.justified hresolved
  have hfeed := hjustified.feed
  cases hsource : resolution.ofSource with
  | false =>
      rw [hsource] at hfeed
      obtain ⟨name, hfeed, hparameter⟩ := hfeed
      cases hvalue.symm.trans hparameter
      obtain ⟨rfl, node, hfound, hkey⟩ :=
        hstays.outputs (List.mem_of_getElem? hroot) hbelow hjustified.takes hfeed
      exact ⟨index, hroot, hscope,
        h.announced hroot hfound (Context.kind?_of_feed hfeed) hkey⟩
  | true =>
      rw [hsource, if_pos rfl] at hfeed
      obtain ⟨_, _, rfl, hclaims, _⟩ := h.claimed_of_resolved hresolved hsource hvalue
      have htakesAt : context.TakesAt index resolution.source :=
        ⟨root, _, _, hroot, hbelow, hjustified.takes, hfeed⟩
      rcases hstays.defaults htakesAt with ⟨other, hother, hown⟩ | ⟨first, htakes, hunclaimed⟩
      -- A root that makes the source a default itself means its own parameter.
      · cases Option.some.inj (hroot.symm.trans hother)
        obtain rfl := h.eq_root_of_claims hresolved hsource hvalue hroot hscope hown
        obtain ⟨node, argument, type, found, hfound, hknown, hcounted, hwiring⟩ := hclaims
        have hkey : resolution.source.localName ∈ context.parameterNames node := by
          rw [Context.parameterNames_eq]
          exact List.mem_map.mpr ⟨argument, List.mem_range.mpr hcounted, by rw [hwiring]; rfl⟩
        exact ⟨index, hroot, hscope, h.announced hroot hfound hknown hkey⟩
      -- Otherwise the source was taken first, and then no parameter ever stands for it.
      · obtain ⟨earlier, hearlier, hclaimsAt⟩ :=
          h.exists_claimsAt_le hresolved hsource hvalue hscope htakes
        exact absurd hclaimsAt (hunclaimed earlier hearlier)

/-- Where the graph leaves parameters at home, every reference to one is there. -/
theorem atHome_of_partOf (h : JournalFacts context pass) (hstays : context.StaysHome)
    (hmem : .resolved resolution ∈ pass.events)
    (hpart : (Expression.parameter definition key).PartOf resolution.value) :
    AtHome context pass.events resolution.scope definition key := by
  obtain ⟨before, hresolved⟩ := exists_suffix_of_mem hmem
  rcases (h.sound.justified hresolved).grounded with hgrounded | ⟨other, name, hvalue⟩
  · obtain ⟨taken, htaken, hvalue, hscope⟩ := hgrounded _ hpart
    have hsince := (List.suffix_cons _ _).trans hresolved
    obtain ⟨since, htaken⟩ := exists_suffix_of_mem (hsince.subset htaken)
    exact (h.atHome_of_value hstays htaken hvalue).mono (List.Subset.refl _) hscope
  · rw [hvalue] at hpart
    cases hpart
    exact h.atHome_of_value hstays hresolved hvalue

end JournalFacts

/-! ## Where all parameters are at home -/

namespace Context

variable {context : Context} {index : Nat} {root literal : NodeId} {name : String}

theorem kind?_of_claims (h : context.Claims root literal) :
    ∃ name, context.kind? literal = some (.literal name) := by
  obtain ⟨node, argument, type, found, _, _, _, hwiring⟩ := h
  obtain ⟨name, hliteral, _⟩ := kind?_of_wiring hwiring
  exact ⟨name, hliteral⟩

/-- A root leads to literals only where their value is taken. -/
theorem Wired.takesAt_of_below (hwired : context.Wired) (hroot : context.roots[index]? = some root)
    (hbelow : context.Below root literal)
    (hliteral : context.kind? literal = some (.literal name)) :
    context.TakesAt index literal := by
  obtain ⟨earlier, hearlier, hleads⟩ := hbelow.exists_leads
  cases hleads with
  | flow exits connected =>
      obtain ⟨kind, hknown, hflow⟩ := hwired.flows exits connected
      cases Option.some.inj (hknown.symm.trans hliteral)
      cases hflow
  | value takes feed =>
      rcases hearlier with rfl | hearlier
      · obtain ⟨kind, hknown, htop⟩ := hwired.starts _ (List.mem_of_getElem? hroot)
        rw [takes.isTopLevel_eq hknown] at htop
        cases htop
      · exact ⟨root, earlier, _, hroot, hearlier, takes, feed⟩

end Context

namespace JournalFacts

variable {context : Context} {pass : Pass}

/-- A literal that was entered was first taken before any root made it a default. -/
theorem exists_takesAt_of_entered (h : JournalFacts context pass) {literal : NodeId}
    {scope : ScopePath} {name : String} (hliteral : context.kind? literal = some (.literal name))
    (hentered : .entered literal scope ∈ pass.events) :
    ∃ first, context.TakesAt first literal ∧
      ∀ earlier, earlier ≤ first → ¬ context.ClaimsAt earlier literal := by
  obtain ⟨inner, before, hfirst, hnone⟩ := exists_first_entered (isSome_lastScope hentered)
  obtain ⟨first, root, _, hroot, hscope, hplace⟩ :=
    h.told.placed _ (hfirst.subset (List.mem_cons_self ..))
  have hbelow : context.Below root literal := by
    refine hplace.resolve_left ?_
    rintro rfl
    obtain ⟨kind, hknown, htop⟩ := h.wired.starts _ (List.mem_of_getElem? hroot)
    cases Option.some.inj (hknown.symm.trans hliteral)
    cases htop
  refine ⟨first, h.wired.takesAt_of_below hroot hbelow hliteral, ?_⟩
  rintro earlier hearlier ⟨claimer, hclaimer, hclaims⟩
  -- A claim by then would come before the first emission, which a default does not get.
  have hclaimed := h.told.mem_of_part_lt hfirst (h.claimed_of_claims hclaimer hclaims)
    (Event.part?_entered hscope (Context.isOnDemand_of_literal hliteral))
    (Event.part?_claimed h.wired hclaimer) (by omega)
  have hsome := h.sound.renewed hfirst hclaimed
  rw [hnone] at hsome
  cases hsome

/-- Where all parameters are at home, the graph leaves them there. -/
theorem staysHome (h : JournalFacts context pass)
    (hhome : ∀ {resolution definition key}, .resolved resolution ∈ pass.events →
      resolution.value = .parameter definition key →
        AtHome context pass.events resolution.scope definition key) : context.StaysHome := by
  constructor
  -- The input took its value under the root, which is where the parameter is at home.
  · intro root consumer input definition key hmem hbelow htakes hfeed
    obtain ⟨index, hroot⟩ := List.mem_iff_getElem?.mp hmem
    obtain ⟨resolution, before, hresolved, rfl, rfl, hscope⟩ :=
      h.resolved_of_takes hroot hbelow htakes (by rw [hfeed]; exact nofun)
    have hvalue := (h.sound.justified hresolved).value_eq hfeed
    obtain ⟨other, hother, hinner, node, _, _, _, _, hfound, _, hkey, _⟩ :=
      hhome (hresolved.subset (List.mem_cons_self ..)) hvalue
    have hsame := head?_of_under hinner
    rw [head?_of_under hscope, Option.some.injEq] at hsame
    subst hsame
    exact ⟨Option.some.inj (hother.symm.trans hroot), node, hfound, List.mem_of_getElem? hkey⟩
  · intro index source htakesAt
    -- A source that nobody makes a default is no matter; of one that somebody does, the input took
    -- a parameter of the root itself, or the value of a literal that was emitted before any claim.
    by_cases hclaimed : ∃ earlier, context.ClaimsAt earlier source
    · obtain ⟨earlier, claimer, _, hclaims⟩ := hclaimed
      obtain ⟨name, hliteral⟩ := Context.kind?_of_claims hclaims
      obtain ⟨root, consumer, input, hroot, hbelow, htakes, hfeed⟩ := htakesAt
      obtain ⟨resolution, before, hresolved, rfl, rfl, hscope⟩ :=
        h.resolved_of_takes hroot hbelow htakes (by rw [hfeed]; exact nofun)
      obtain ⟨hsource, rfl⟩ := (h.sound.justified hresolved).source_eq hfeed
      by_cases hvalue : ∃ definition key, resolution.value = .parameter definition key
      · obtain ⟨definition, key, hvalue⟩ := hvalue
        obtain ⟨other, hother, hinner, _⟩ :=
          hhome (hresolved.subset (List.mem_cons_self ..)) hvalue
        have hsame := head?_of_under hinner
        rw [head?_of_under hscope, Option.some.injEq] at hsame
        subst hsame
        have hown := (h.claimed_of_resolved hresolved hsource hvalue).2.2.2.1
        exact .inl ⟨definition, hother, hown⟩
      · have hvalues : ∀ definition key, resolution.value ≠ .parameter definition key :=
          fun definition key heq => hvalue ⟨definition, key, heq⟩
        obtain ⟨scope, _, hentered⟩ := h.entered_of_resolved hresolved hsource hvalues hscope
        have hsince := (List.suffix_cons _ _).trans hresolved
        exact .inr (h.exists_takesAt_of_entered hliteral (hsince.subset hentered))
    · exact .inr ⟨index, htakesAt, fun earlier _ hclaims => hclaimed ⟨earlier, hclaims⟩⟩

end JournalFacts

namespace Language

variable {language : Language} {options : CompileOptions} {graph : Graph}
  {compilation : Compilation}

/-- In a compilation without errors, every reference to a parameter of a function, where
an input takes it and in the statements of the program, lies in the root block of the
function, whose header declares the parameter, exactly if the graph leaves the parameters
of functions in the functions. -/
theorem atHome_iff_staysHome (hbuilt : language.Builds graph)
    (hcompiled : language.compile options graph = .ok compilation)
    (hvalid : compilation.isValid = true) :
    ∃ content pass, (language.context options graph).run = .ok (content, pass) ∧
      compilation = .ofPass content pass ∧
      ((∀ scope definition key, RefersAt compilation.journal content scope definition key →
        AtHome (language.context options graph) compilation.journal scope definition key) ↔
          (language.context options graph).StaysHome) := by
  obtain ⟨content, pass, hrun, rfl, htour, hsound⟩ := exists_cleanTour hbuilt hcompiled hvalid
  have hfacts := htour.journalFacts (wired hbuilt.fits) hsound
  have hevents : ∀ {event}, event ∈ pass.events.reverse ↔ event ∈ pass.events :=
    List.mem_reverse
  refine ⟨content, pass, hrun, rfl, ?_, ?_⟩
  · intro hhome
    refine hfacts.staysHome fun {resolution definition key} hmem hvalue => ?_
    have hpart : (Expression.parameter definition key).PartOf resolution.value := by
      rw [hvalue]
      exact .self
    have hat := hhome _ _ _ (.taken (hevents.mpr hmem) hpart)
    exact hat.mono (fun _ => hevents.mp) List.prefix_rfl
  · intro hstays scope definition key hrefers
    obtain ⟨resolution, hmem, rfl, hpart⟩ := RefersAt.substituted htour hrefers
    have hat := hfacts.atHome_of_partOf hstays hmem hpart
    exact hat.mono (fun _ => hevents.mpr) List.prefix_rfl

/-! ## A loop over a parameter -/

/-- A language with a type of integers. -/
def integers : Language :=
  let integer : TypeDescription :=
    { machineName := "int", displayName := "int", defaultLiteral := some "0", copyable := true }
  .build { types := [integer] } {}

/-- Two functions, and a loop in one of them over a parameter of the first. -/
def parameterLoop (host : NodeId) : Graph where
  nodes := [
    { id := ⟨1⟩, name := "Function"
      data := ⟨[("numArgs", .string "1"), ("typeName", .array [.string "int"])]⟩
      inputs := ⟨[("arg0", ⟨"Argument 1", .any "any"⟩)]⟩
      outputs := ⟨[("fout", .flow), ("out0", ⟨"Output 1", .data "int" .value⟩)]⟩ },
    { id := ⟨2⟩, name := "Function", outputs := ⟨[("fout", .flow)]⟩ },
    { id := ⟨3⟩, name := "While"
      inputs := ⟨[("fin", .flow), ("inValue", ⟨"Condition", .any "any"⟩)]⟩
      outputs := ⟨[("fout", .flow), ("body", .flow)]⟩ }]
  connections := [⟨1, host, "fout", ⟨3⟩, "fin"⟩, ⟨2, ⟨1⟩, "out0", ⟨3⟩, "inValue"⟩]
  lastNode := 3
  lastConnection := 2

theorem builds_parameterLoop {host : NodeId} (h : host = ⟨1⟩ ∨ host = ⟨2⟩) :
    integers.Builds (parameterLoop host) := by
  have hempty : integers.Builds .empty := .empty
  have hfirst := hempty.spawn "Function"
    ⟨[("numArgs", .string "1"), ("typeName", .array [.string "int"])]⟩ rfl
  have hsecond := hfirst.spawn "Function" .empty rfl
  have hloop := hsecond.spawn "While" .empty rfl
  rcases h with rfl | rfl
  · have hflow := hloop.connect ⟨1⟩ "fout" ⟨3⟩ "fin" rfl
    exact hflow.connect ⟨1⟩ "out0" ⟨3⟩ "inValue" rfl
  · have hflow := hloop.connect ⟨2⟩ "fout" ⟨3⟩ "fin" rfl
    exact hflow.connect ⟨1⟩ "out0" ⟨3⟩ "inValue" rfl

/-- The resolution that an event tells of. -/
def taken? : Event → Option Resolution
  | .resolved resolution => some resolution
  | _ => none

/-- The value in a statement, with the scope that it was written into. -/
def placed? (written : Written) : Option (ScopePath × Expression) :=
  written.statement.value?.map fun value => (written.scope, value)

/-- The loop leaves the parameter of the first function in the function if it is there. -/
theorem staysHome_parameterLoop :
    ∃ compilation, integers.compile {} (parameterLoop ⟨1⟩) = .ok compilation ∧
      compilation.isValid = true ∧
      (integers.context {} (parameterLoop ⟨1⟩)).StaysHome := by
  obtain ⟨compilation, header, hcompiled, hvalid, htaken, hheader⟩ :
      ∃ compilation header, integers.compile {} (parameterLoop ⟨1⟩) = .ok compilation ∧
        compilation.isValid = true ∧
        compilation.journal.filterMap taken? =
          [⟨⟨3⟩, "inValue", [0, 0], ⟨1⟩, .parameter ⟨1⟩ "arg0", false⟩] ∧
        compilation.journal[4]? = some (.wrote ⟨[0], ⟨1⟩, .definition header ["arg0: int"]⟩) :=
    ⟨_, _, rfl, rfl, rfl, rfl⟩
  obtain ⟨content, pass, hrun, rfl, hiff⟩ :=
    atHome_iff_staysHome (builds_parameterLoop (.inl rfl)) hcompiled hvalid
  have hwritten : content.filterMap placed? = [([0, 0], .parameter ⟨1⟩ "arg0")] := by
    cases hrun
    rfl
  have hhome : AtHome (integers.context {} (parameterLoop ⟨1⟩))
      (Compilation.ofPass content pass).journal [0, 0] ⟨1⟩ "arg0" :=
    ⟨0, rfl, List.prefix_append _ _, _, header, _, 0, "int", rfl, List.mem_of_getElem? hheader,
      rfl, .inr rfl⟩
  refine ⟨_, hcompiled, hvalid, hiff.mp fun scope definition key hrefers => ?_⟩
  cases hrefers with
  | @taken resolution _ _ resolved part =>
      have hmem : resolution ∈ List.filterMap taken? (Compilation.ofPass content pass).journal :=
        List.mem_filterMap.mpr ⟨_, resolved, rfl⟩
      rw [htaken] at hmem
      cases List.mem_singleton.mp hmem
      cases part
      exact hhome
  | @written written value _ _ listed holds part =>
      have hmem : (written.scope, value) ∈ content.filterMap placed? :=
        List.mem_filterMap.mpr ⟨written, listed, by rw [placed?, holds]; rfl⟩
      rw [hwritten] at hmem
      obtain ⟨hscope, hvalue⟩ := Prod.mk.inj (List.mem_singleton.mp hmem)
      rw [hvalue] at part
      cases part
      exact hscope ▸ hhome

/-- In the other function it refers to the parameter, and no error is reported. -/
theorem not_atHome_parameterLoop :
    ∃ compilation, integers.Builds (parameterLoop ⟨2⟩) ∧
      integers.compile {} (parameterLoop ⟨2⟩) = .ok compilation ∧
      compilation.diagnostics = [] ∧
      .resolved ⟨⟨3⟩, "inValue", [1, 0], ⟨1⟩, .parameter ⟨1⟩ "arg0", false⟩ ∈
        compilation.journal ∧
      ¬ AtHome (integers.context {} (parameterLoop ⟨2⟩)) compilation.journal [1, 0] ⟨1⟩
        "arg0" := by
  obtain ⟨compilation, hcompiled, hclean, htaken⟩ :
      ∃ compilation, integers.compile {} (parameterLoop ⟨2⟩) = .ok compilation ∧
        compilation.diagnostics = [] ∧ compilation.journal[15]? =
          some (.resolved ⟨⟨3⟩, "inValue", [1, 0], ⟨1⟩, .parameter ⟨1⟩ "arg0", false⟩) :=
    ⟨_, rfl, rfl, rfl⟩
  refine ⟨compilation, builds_parameterLoop (.inr rfl), hcompiled, hclean,
    List.mem_of_getElem? htaken, ?_⟩
  rintro ⟨index, hroot, hscope, _⟩
  cases head?_of_under hscope
  exact absurd (Option.some.inj hroot) (by decide)

end Language

end VisualScript
