import Mathlib.Data.Finset.Card
import Mathlib.Data.Finset.Insert
import VisualScript.Proofs.Graph.Built
import VisualScript.Proofs.Pass.Adequacy
import VisualScript.Proofs.Pass.Emissions
import VisualScript.Proofs.Pass.Parameters
import VisualScript.Proofs.Pass.Rebinding

/-!
# Headers of functions

What the emission of a function tells of the function, told apart from what is emitted in its
body: there is one header, it declares a parameter for each argument, and as many names are
reported as come again in it.
-/

namespace VisualScript

/-! ## What a function tells -/

namespace Event

/-- What the header of a function declares, if an event writes it. -/
def header? (id : NodeId) : Event → Option (List String)
  | wrote ⟨_, node, .definition _ declarations⟩ => if node = id then some declarations else none
  | _ => none

/-- Whether an event reports that a parameter of a function has the name of an earlier one. -/
def repeatsName (id : NodeId) : Event → Bool
  | reported diagnostic => diagnostic.kind = .duplicateArgument && diagnostic.node = some id
  | _ => false

variable {id : NodeId} {event : Event}

theorem header?_of_landmark? (h : event.landmark? ≠ some id) : event.header? id = none := by
  unfold header?
  split
  next node name declarations =>
    rw [if_neg]
    rintro rfl
    exact h rfl
  next => rfl

theorem repeatsName_of_landmark? (h : event.landmark? ≠ some id) :
    event.repeatsName id = false := by
  rw [← Bool.not_eq_true]
  intro hrepeats
  cases event with
  | reported diagnostic =>
      rw [repeatsName, Bool.and_eq_true, decide_eq_true_eq, decide_eq_true_eq] at hrepeats
      rw [landmark?, if_pos hrepeats.1] at h
      exact h hrepeats.2
  | _ => cases hrepeats

end Event

/-- What a part of a journal tells of a function: the headers that are written, how many names
are reported to come again, and that the emission does not end. -/
structure Tally (id : NodeId) (headers : List (List String)) (repeats : Nat) (told : List Event) :
    Prop where
  headers : told.filterMap (Event.header? id) = headers
  repeats : told.countP (Event.repeatsName id) = repeats
  unfinished : .finished id ∉ told

namespace Tally

variable {id : NodeId} {headers others : List (List String)} {repeats more : Nat}
  {told later : List Event}

theorem append (hlater : Tally id headers repeats later) (h : Tally id others more told) :
    Tally id (headers ++ others) (repeats + more) (later ++ told) where
  headers := by rw [List.filterMap_append, hlater.headers, h.headers]
  repeats := by rw [List.countP_append, hlater.repeats, h.repeats]
  unfinished := by
    rw [List.mem_append]
    exact fun hmem => hmem.elim hlater.unfinished h.unfinished

theorem of_landmark? (h : ∀ event ∈ told, event.landmark? ≠ some id) : Tally id [] 0 told where
  headers := List.filterMap_eq_nil_iff.mpr fun event hmem =>
    Event.header?_of_landmark? (h event hmem)
  repeats := List.countP_eq_zero.mpr fun event hmem => by
    rw [Event.repeatsName_of_landmark? (h event hmem)]
    exact Bool.false_ne_true
  unfinished hmem := h _ hmem rfl

theorem of_plain (h : ∀ event ∈ told, event.landmark? = none) : Tally id [] 0 told := by
  refine of_landmark? fun event hmem => ?_
  rw [h event hmem]
  exact nofun

end Tally

/-- A parameter whose name came before is reported, and only such a one. -/
theorem Pass.events_noteDuplicate (pass : Pass) (id : NodeId) (seen : List String)
    (name : String) :
    ∃ told, (pass.noteDuplicate id seen name).events = told ++ pass.events ∧
      Tally id [] (if name ∈ seen then 1 else 0) told := by
  unfold noteDuplicate
  split
  next => exact ⟨[_], rfl, rfl, by simp [Event.repeatsName, Diagnostic.of], by simp⟩
  next => exact ⟨[], rfl, rfl, rfl, List.not_mem_nil⟩

/-- A function writes one header. -/
theorem Pass.tally_writeHeader (context : Context) (pass : Pass) (node : Node)
    (declarations : List String) :
    ∃ told, (pass.writeHeader context node declarations).events = told ++ pass.events ∧
      Tally node.id [declarations] 0 told := by
  unfold writeHeader
  split
  next =>
    refine ⟨[_, .wrote ⟨_, node.id, .exportMark⟩], rfl, ?_, rfl, by simp⟩
    simp [Event.header?]
  next => exact ⟨[_], rfl, by simp [Event.header?], rfl, by simp⟩

/-- A name is counted once, however often it comes. -/
theorem card_toFinset_cons (name : String) (seen : List String) :
    (name :: seen).toFinset.card + (if name ∈ seen then 1 else 0) = seen.toFinset.card + 1 := by
  rw [List.toFinset_cons, Finset.card_insert_eq_ite]
  simp only [List.mem_toFinset]
  split
  next => rfl
  next => rfl

theorem card_toFinset_append_cons (names : List String) (name : String) (seen : List String) :
    (names ++ name :: seen).toFinset.card = (name :: names ++ seen).toFinset.card :=
  congrArg Finset.card (List.toFinset_eq_of_perm _ _ List.perm_middle)

/-- Where parameters are declared, as many names are reported as come again. -/
theorem Walk.repeats_of_parameters {context : Context} {onChain : List NodeId} {node : Node}
    {seen : List String} {indices : List Nat} {pass next : Pass}
    (h : Walk context onChain (.parameters node seen indices) pass next) :
    ∃ told repeats, next.events = told ++ pass.events ∧ Tally node.id [] repeats told ∧
      repeats + ((indices.map fun index => (context.wiring node index).name index) ++
        seen).toFinset.card = indices.length + seen.toFinset.card := by
  induction indices generalizing seen pass with
  | nil =>
      cases h
      exact ⟨[], 0, rfl, .of_plain nofun, rfl⟩
  | cons index rest ih =>
      cases h with
      | moreParameters others =>
          obtain ⟨later, repeats, hlater, htally, hcount⟩ := ih others
          obtain ⟨noted, hnoted, hrepeats⟩ := Pass.events_noteDuplicate
            (pass.declare node.id index (context.wiring node index)) node.id seen
            ((context.wiring node index).name index)
          have hunmarked : pass.Unmarked
              (pass.declare node.id index (context.wiring node index)) :=
            .of_edited (.declare _ _ _ _)
          obtain ⟨declared, hdeclared, hplain⟩ := hunmarked
          refine ⟨later ++ (noted ++ declared), _, ?_,
            htally.append (hrepeats.append (.of_plain hplain)), ?_⟩
          · rw [hlater, hnoted, hdeclared]
            simp only [List.append_assoc]
          -- The name of this parameter is among those that the later ones are told from.
          · have hnew := card_toFinset_cons ((context.wiring node index).name index) seen
            rw [card_toFinset_append_cons] at hcount
            rw [List.map_cons, List.length_cons]
            omega

/-- Among the parameters that a function declares, as many names are reported as come again,
and it has one header, which declares them all. -/
theorem Walk.repeats_of_definition {context : Context} {onChain : List NodeId} {node : Node}
    {pass next : Pass}
    (hosts : context.Hosts node .definition) (hchain : node.id ∈ onChain)
    (h : Walk context onChain (.emission .definition node) pass next) :
    ∃ told repeats, next.events = told ++ pass.events ∧
      Tally node.id [context.declarations node] repeats told ∧
      repeats + ((context.declarations node).map declaredName).toFinset.card =
        node.count keys.argumentCount := by
  cases h with
  | @definition _ _ inner _ start last parameters body =>
      obtain ⟨heading, repeats, hheading, hnames, hcount⟩ := parameters.repeats_of_parameters
      obtain ⟨header, hheader, hdeclares⟩ :=
        start.tally_writeHeader context node (context.declarations node)
      obtain ⟨added, hadded, homits⟩ := (body.recounts (List.Subset.refl _) trivial).omits
      -- The function is on the chain in its body, so the body tells nothing of it.
      have hbody : Tally node.id [] 0 added := .of_landmark? fun event hmem hmarks =>
        homits event hmem node.id hmarks hosts.kind? hchain
      have hends : Tally node.id [] 0 [.wrote ⟨(last.splice inner).block.path, node.id, .blank⟩] :=
        .of_plain (List.forall_mem_singleton.mpr rfl)
      refine ⟨_, _, ?_, hends.append (hbody.append (hdeclares.append hnames)), ?_⟩
      · change Event.wrote _ :: last.events = _
        have hstart : last.events = added ++ (header ++ start.events) := hheader ▸ hadded
        rw [hstart, hheading]
        simp only [List.cons_append, List.nil_append, List.append_assoc]
      · rw [List.append_nil, List.length_range, List.toFinset_nil, Finset.card_empty] at hcount
        have hnames : (context.declarations node).map declaredName =
            (List.range (node.count keys.argumentCount)).map
              fun index => (context.wiring node index).name index := by
          rw [Context.declarations, List.map_map]
          exact List.map_congr_left fun index _ => Wiring.declaredName_declaration index _
        rw [hnames]
        omega

/-! ## Headers in a compilation -/

/-- The emission of a function, as a pass tells of it: its header declares its parameters, and
the names that come again are reported. -/
structure Declares (graph : Graph) (node : Node) (told : List Event) (declarations : List String) :
    Prop where
  /-- There is one header. -/
  header : told.filterMap (Event.header? node.id) = [declarations]
  counted : declarations.length = node.count keys.argumentCount
  /-- Whoever reads a parameter sees it under the name that is declared. -/
  named : ∀ index < node.count keys.argumentCount,
    Surroundings.parameterName? graph node.id (numbered keys.exit index) =
      declarations[index]?.map declaredName
  repeated : told.countP (Event.repeatsName node.id) +
    (declarations.map declaredName).toFinset.card = node.count keys.argumentCount

theorem Context.getElem?_declarations (context : Context) (node : Node) {index : Nat}
    (h : index < node.count keys.argumentCount) :
    (context.declarations node)[index]? =
      some ((context.wiring node index).declaration index) := by
  rw [declarations, List.getElem?_map, List.getElem?_range h, Option.map_some]

/-- Between the beginning and the end of its emission a function declares its parameters. -/
theorem Context.Emits.declares {context : Context} {node : Node} {earlier after : List Event}
    {scope : ScopePath} (hosts : context.Hosts node .definition)
    (h : context.Emits node.id (.entered node.id scope :: earlier) after) :
    ∃ later told declarations,
      after = later ++ .finished node.id :: told ++ .entered node.id scope :: earlier ∧
      .finished node.id ∉ told ∧ Declares context.graph node told declarations := by
  cases h with
  | @between _ other kind _ last _ named hosts' walked emission begins ends =>
      obtain ⟨rfl, rfl⟩ := hosts.unique hosts' named.symm
      obtain ⟨told, repeats, htold, htally, hcount⟩ :=
        emission.repeats_of_definition hosts (walked rfl)
      obtain ⟨later, hlater⟩ := ends
      refine ⟨later, told, context.declarations node, ?_, htally.unfinished, htally.headers, ?_,
        ?_, ?_⟩
      · rw [← hlater, htold, begins]
        simp only [List.cons_append, List.append_assoc]
      · rw [declarations, List.length_map, List.length_range]
      · intro index hindex
        have hfits := (Nat.le_of_lt hindex).trans (node.count_le keys.argumentCount)
        rw [context.parameterName?_exit node hfits, context.getElem?_declarations node hindex,
          Option.map_some, Wiring.declaredName_declaration]
      · rw [htally.repeats]
        exact hcount

theorem Declares.reverse {graph : Graph} {node : Node} {told : List Event}
    {declarations : List String} (h : Declares graph node told declarations) :
    Declares graph node told.reverse declarations where
  header := by rw [List.filterMap_reverse, h.header, List.reverse_singleton]
  counted := h.counted
  named := h.named
  repeated := by rw [List.countP_reverse, h.repeated]

namespace Language

variable {language : Language} {options : CompileOptions} {graph : Graph}
  {compilation : Compilation}

end Language

end VisualScript
