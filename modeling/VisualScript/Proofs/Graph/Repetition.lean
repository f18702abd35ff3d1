import VisualScript.Proofs.Graph.Settling

/-!
# Fitting a node once more

A second fit finds what the first has left. It has nothing to do unless a port behind a gap has
come into the count, or an input takes something else than the first time: what was turned away
makes room for what comes next, and a type that was selected is known by the name of its socket
only.
-/

namespace VisualScript

open Editing

/-! ## What an input takes the second time -/

namespace Registry

variable (registry : Registry)

/-- The name of a socket stands for a type with that socket. -/
def ReadsBack (socket : Socket) : Prop :=
  socketOf registry (registry.getOrAny? (some socket.typeName)) = socket

/-- What an input takes the second time is what it took at first, and nothing more is turned
away. -/
inductive Repeats : List (Option LanguageType) → Option String → Prop where
  /-- Nothing is offered, and the selected type is found again. -/
  | unfed {selected : Option String}
      (h : registry.ReadsBack (socketOf registry (registry.getOrAny? selected))) :
      Repeats [] selected
  /-- The first offer is taken. -/
  | taken {offer : Option LanguageType} {rest : List (Option LanguageType)}
      {selected : Option String} (h : offer.any LanguageType.isRefused = false) :
      Repeats (offer :: rest) selected
  /-- The only offer is turned away, and the wildcard is found again. -/
  | emptied {offer : Option LanguageType} {selected : Option String}
      (hrefused : offer.any LanguageType.isRefused = true)
      (h : registry.ReadsBack registry.anySocket) : Repeats [offer] selected
  /-- The first offer is turned away, and the next one gives a wildcard. -/
  | replaced {offer next : Option LanguageType} {rest : List (Option LanguageType)}
      {selected : Option String} (hrefused : offer.any LanguageType.isRefused = true)
      (htaken : next.any LanguageType.isRefused = false)
      (h : socketOf registry (next <|> registry.anyType?) = registry.anySocket) :
      Repeats (offer :: next :: rest) selected

variable {registry}

theorem socketOf_anyType? (registry : Registry) :
    socketOf registry registry.anyType? = registry.anySocket := by
  unfold socketOf anySocket
  cases registry.anyType? with
  | none => rfl
  | some type => rfl

/-- The offers that are left once the first was turned away, if it was. -/
def remaining (registry : Registry) (offers : List (Option LanguageType))
    (selected : Option String) : List (Option LanguageType) :=
  if (registry.intake offers selected).2 then offers.tail else offers

theorem intake_nil (selected : Option String) :
    registry.intake [] selected = (registry.getOrAny? selected, false) := rfl

theorem intake_taken {offer : Option LanguageType} (h : offer.any LanguageType.isRefused = false)
    (rest : List (Option LanguageType)) (selected : Option String) :
    registry.intake (offer :: rest) selected = (offer <|> registry.anyType?, false) := by
  simp [intake, h]

theorem intake_refused {offer : Option LanguageType} (h : offer.any LanguageType.isRefused = true)
    (rest : List (Option LanguageType)) (selected : Option String) :
    registry.intake (offer :: rest) selected = (registry.anyType?, true) := by
  simp [intake, h]

/-- What an input takes the second time: of the offers that are left, with the name of the
socket that it gave as the selected type. -/
def intakeAgain (registry : Registry) (offers : List (Option LanguageType))
    (selected : Option String) : Option LanguageType × Bool :=
  registry.intake (registry.remaining offers selected)
    (some (socketOf registry (registry.intake offers selected).1).typeName)

theorem repeats_nil_iff {selected : Option String} : registry.Repeats [] selected ↔
    registry.ReadsBack (socketOf registry (registry.getOrAny? selected)) := by
  refine ⟨fun h => ?_, .unfed⟩
  cases h with
  | unfed hreads => exact hreads

theorem repeats_emptied_iff {offer : Option LanguageType} {selected : Option String}
    (hrefused : offer.any LanguageType.isRefused = true) :
    registry.Repeats [offer] selected ↔ registry.ReadsBack registry.anySocket := by
  refine ⟨fun h => ?_, .emptied hrefused⟩
  cases h with
  | taken htaken => exact absurd (htaken.symm.trans hrefused) (by decide)
  | emptied _ hreads => exact hreads

theorem repeats_replaced_iff {offer next : Option LanguageType}
    {rest : List (Option LanguageType)} {selected : Option String}
    (hrefused : offer.any LanguageType.isRefused = true) :
    registry.Repeats (offer :: next :: rest) selected ↔
      next.any LanguageType.isRefused = false ∧
        socketOf registry (next <|> registry.anyType?) = registry.anySocket := by
  refine ⟨fun h => ?_, fun hnext => .replaced hrefused hnext.1 hnext.2⟩
  cases h with
  | taken htaken => exact absurd (htaken.symm.trans hrefused) (by decide)
  | replaced _ htaken hsocket => exact ⟨htaken, hsocket⟩

theorem repeats_iff (registry : Registry) (offers : List (Option LanguageType))
    (selected : Option String) :
    registry.Repeats offers selected ↔
      (registry.intakeAgain offers selected).2 = false ∧
        socketOf registry (registry.intakeAgain offers selected).1 =
          socketOf registry (registry.intake offers selected).1 := by
  unfold intakeAgain
  cases offers with
  | nil =>
      simp only [remaining, intake_nil, true_and, Bool.false_eq_true, if_false]
      exact repeats_nil_iff
  | cons offer rest =>
      cases hrefused : offer.any LanguageType.isRefused with
      | false =>
          simp only [remaining, intake_taken hrefused, Bool.false_eq_true, if_false, and_self,
            iff_true]
          exact .taken hrefused
      | true =>
          simp only [remaining, intake_refused hrefused, if_true, List.tail_cons,
            socketOf_anyType?]
          cases rest with
          | nil =>
              rw [repeats_emptied_iff hrefused, intake_nil]
              exact (and_iff_right rfl).symm
          | cons next others =>
              rw [repeats_replaced_iff hrefused]
              cases hnext : next.any LanguageType.isRefused with
              | true =>
                  rw [intake_refused hnext, socketOf_anyType?]
                  simp
              | false => rw [intake_taken hnext]

end Registry

/-! ## What is noted and read again -/

/-- Putting a value under a key once more changes nothing. -/
theorem OrderedMap.insert_insert (map : OrderedMap String Json) (key : String) (value : Json) :
    (map.insert key value).insert key value = map.insert key value := by
  have hput : ∀ entries : List (String × Json),
      put key value (put key value entries) = put key value entries := by
    intro entries
    induction entries with
    | nil => simp [put]
    | cons entry rest ih =>
        obtain ⟨other, old⟩ := entry
        by_cases heq : other = key
        · simp [put, heq]
        · simp [put, heq, ih]
  exact congrArg OrderedMap.mk (hput map.entries)

namespace ComponentKind

variable {registry : Registry} {id : NodeId} {graph fitted : Graph} {node other : Node}

theorem note_note (kind : ComponentKind) (names : List String) (node : Node) :
    kind.note names (kind.note names node) = kind.note names node := by
  cases kind with
  | definition => exact congrArg (fun data => { node with data }) (OrderedMap.insert_insert ..)
  | localVariable => exact congrArg (fun data => { node with data }) (OrderedMap.insert_insert ..)
  | _ => rfl

/-- What is noted is all that changes. -/
theorem note_rest (kind : ComponentKind) (names : List String) (node : Node) :
    (kind.note names node).id = node.id ∧ (kind.note names node).name = node.name ∧
      (kind.note names node).inputs = node.inputs ∧
      (kind.note names node).outputs = node.outputs := by
  cases kind <;> exact ⟨rfl, rfl, rfl, rfl⟩

/-- The ports of a graph are those that it had before the names were noted. -/
theorem input?_note (kind : ComponentKind) (names : List String) (graph : Graph)
    (id other : NodeId) (key : String) :
    (graph.modifyNode id (kind.note names)).input? other key = graph.input? other key :=
  Graph.input?_modifyNode (fun node => (kind.note_rest names node).1)
    (fun node => (kind.note_rest names node).2.2.1) ..

theorem output?_note (kind : ComponentKind) (names : List String) (graph : Graph)
    (id other : NodeId) (key : String) :
    (graph.modifyNode id (kind.note names)).output? other key = graph.output? other key :=
  Graph.output?_modifyNode (fun node => (kind.note_rest names node).1)
    (fun node => (kind.note_rest names node).2.2.2) ..

theorem note_data (kind : ComponentKind) (names : List String) (h : other.data = node.data) :
    (kind.note names other).data = (kind.note names node).data := by
  cases kind with
  | definition => exact congrArg (fun data : DataFields => data.insert _ _) h
  | localVariable => exact congrArg (fun data : DataFields => data.insert _ _) h
  | _ => exact h

/-- The names that are noted are read as the selected types. -/
theorem handovers_note (kind : ComponentKind) (name : Handover → String)
    (hdata : other.data = (kind.note ((kind.handovers node).map name) node).data) :
    kind.handovers other = (kind.handovers node).map fun handover =>
      { handover with selected := some (name handover) } := by
  cases kind with
  | definition =>
      have hcount := definition.count_note _ hdata
        (show keys.typeName ≠ keys.argumentCount by decide)
      simp only [handovers, hcount, List.map_map]
      refine List.map_congr_left fun index hmem => ?_
      have hindex := List.mem_range.mp hmem
      have hread : other.textAt? keys.typeName index =
          some (name (Handover.argument (some node) index)) := by
        have hget : other.data.get? keys.typeName = some (.array
            (((definition.handovers node).map name).map Json.string)) := by
          rw [hdata]
          exact (OrderedMap.get?_insert ..).trans (if_pos rfl)
        unfold Node.textAt?
        rw [hget]
        simp only [handovers, List.getElem?_map, List.getElem?_range hindex, Option.map_some,
          Option.bind_some]
        rfl
      rw [Function.comp_apply, Handover.argument, Option.bind_some, hread]
      rfl
  | localVariable =>
      have hget : other.data.get? keys.typeName =
          some (.string (((localVariable.handovers node).map name).headD "")) := by
        rw [hdata]
        exact (OrderedMap.get?_insert ..).trans (if_pos rfl)
      simp only [handovers, Handover.value, List.map_cons, List.map_nil, Node.text?, hget]
      rfl
  | _ => rfl

/-- A node whose numbered ports are as many as its count asks for is not changed. -/
theorem resize_eq_self {kind : ComponentKind} (h : kind.isResized node = false)
    (registry : Registry) (id : NodeId) (graph : Graph) :
    kind.resize registry id node graph = graph := by
  cases kind with
  | sequence =>
      have hcount : numberedCount keys.exit node.outputs = node.count keys.exitCount :=
        bne_eq_false_iff_eq.mp h
      simp only [resize, shrink, extend, Node.addExits, hcount, Nat.sub_self, List.range'_zero,
        List.foldl_nil]
      exact graph.modifyNode_id id
  | definition =>
      have hcount : numberedCount keys.argument node.inputs = node.count keys.argumentCount :=
        bne_eq_false_iff_eq.mp h
      simp only [resize, shrink, extend, Node.addArguments, hcount, Nat.sub_self, List.range'_zero,
        List.foldl_nil]
      exact graph.modifyNode_id id
  | _ => exact graph.modifyNode_id id

theorem nodup_handovers (kind : ComponentKind) (node : Node) :
    ((kind.handovers node).map Handover.input).Nodup ∧
      ((kind.handovers node).map Handover.output).Nodup := by
  cases kind with
  | definition =>
      simp only [handovers, List.map_map]
      exact ⟨List.nodup_range.map (numbered_injective keys.argument),
        List.nodup_range.map (numbered_injective keys.exit)⟩
  | localVariable => exact ⟨List.nodup_singleton _, List.nodup_singleton _⟩
  | _ => exact ⟨.nil, .nil⟩

/-! ## What the first fit leaves -/

/-- The name of the socket that a handover gives its output. -/
def nameIn (registry : Registry) (id : NodeId) (graph : Graph) (handover : Handover) : String :=
  (handover.socket registry id graph).typeName

/-- Bringing ports to their count leaves what is offered to the inputs that are handed on. -/
theorem offers_resize (kind : ComponentKind) (registry : Registry)
    (hfed : graph.FedByOthers id) {handover : Handover} (hmem : handover ∈ kind.handovers node) :
    (kind.resize registry id node graph).offers registry id handover.input =
      graph.offers registry id handover.input :=
  (kind.reshaped_resize registry id node graph).offers hfed (List.mem_map_of_mem hmem)

/-- A fit that is done has handed on all inputs and noted their types. -/
theorem handed_of_sync (kind : ComponentKind) {answer : Bool} (hfed : graph.FedByOthers id)
    (hnode : graph.node? id = some node)
    (h : (kind.sync registry id).run graph = (.ok answer, fitted)) :
    ∃ handed,
      Handed registry id (kind.handovers node) (kind.resize registry id node graph) handed ∧
        fitted = handed.modifyNode id
          (kind.note ((kind.handovers node).map (nameIn registry id graph))) ∧
        answer = (kind.isResized node || (kind.handovers node).any fun handover =>
          !handover.isSettled registry id (kind.resize registry id node graph)) := by
  have hresized := hfed.of_sublist (kind.reshaped_resize registry id node graph).connections
  obtain ⟨hinputs, houtputs⟩ := kind.nodup_handovers node
  rw [kind.run_sync registry hnode, fit] at h
  rcases hrun : ((kind.handovers node).mapM (handOn registry id)).run
    (kind.resize registry id node graph) with ⟨error | answers, handed⟩
  · rw [hrun] at h
    cases h
  · rw [hrun] at h
    cases h
    obtain ⟨hhanded, rfl⟩ := handed_of_mapM hresized hinputs houtputs hrun
    refine ⟨handed, hhanded, ?_, ?_⟩
    · rw [List.map_map]
      congr 2
      refine List.map_congr_left fun handover hmem => ?_
      exact congrArg Socket.typeName (Handed.socket_congr (kind.offers_resize registry hfed hmem)).1
    · rw [List.any_map]
      rfl

/-- The node that a fit leaves has the types noted in its data. -/
theorem exists_node?_of_note {kind : ComponentKind} {handed : Graph} {names : List String}
    (hcontent : handed.content? id = graph.content? id) (hnode : graph.node? id = some node) :
    ∃ other, (handed.modifyNode id (kind.note names)).node? id = some other ∧
      other.name = node.name ∧ other.data = (kind.note names node).data := by
  unfold Graph.content? at hcontent
  rw [hnode, Option.map_some] at hcontent
  obtain ⟨found, hfound, heq⟩ := Option.map_eq_some_iff.mp hcontent
  obtain ⟨hname, hdata⟩ := Prod.mk.inj heq
  refine ⟨kind.note names found, ?_, ?_, kind.note_data names hdata⟩
  · rw [Graph.node?_modifyNode id fun other _ _ => (kind.note_rest names other).1, hfound,
      Option.map_some, if_pos (Graph.id_of_node? hfound)]
  · rw [(kind.note_rest names found).2.1, hname]

/-- Each output has the socket that its input gave it at first. -/
theorem socket_of_handed (kind : ComponentKind) {handed : Graph} (names : List String)
    (hfed : graph.FedByOthers id)
    (hhanded : Handed registry id (kind.handovers node) (kind.resize registry id node graph) handed)
    {handover : Handover} (hmem : handover ∈ kind.handovers node) :
    ((handed.modifyNode id (kind.note names)).output? id handover.output).map Port.socket =
      some (handover.socket registry id graph) := by
  rw [kind.output?_note, hhanded.sockets handover hmem,
    (Handed.socket_congr (kind.offers_resize registry hfed hmem)).1]

/-- An input is settled after the first fit if it takes the same the second time. -/
theorem isSettled_iff_repeats (kind : ComponentKind) {handed : Graph} {names : List String}
    (hfed : graph.FedByOthers id)
    (hhanded : Handed registry id (kind.handovers node) (kind.resize registry id node graph) handed)
    {handover : Handover} (hmem : handover ∈ kind.handovers node) :
    ({ handover with selected := some (nameIn registry id graph handover) } : Handover).isSettled
        registry id (handed.modifyNode id (kind.note names)) = true ↔
      registry.Repeats (graph.offers registry id handover.input) handover.selected := by
  have hturns := (Handed.socket_congr (kind.offers_resize registry hfed hmem)).2
  have hoffers : (handed.modifyNode id (kind.note names)).offers registry id handover.input =
      registry.remaining (graph.offers registry id handover.input) handover.selected := by
    have hsame : (handed.modifyNode id (kind.note names)).offers registry id handover.input =
        handed.offers registry id handover.input := by
      refine List.map_congr_left fun connection _ => ?_
      rw [Graph.offer?, Graph.offer?, kind.output?_note]
    rw [hsame, hhanded.left handover hmem, hturns, kind.offers_resize registry hfed hmem]
    rfl
  rw [registry.repeats_iff, Handover.isSettled, Handover.turnsAway, Handover.socket, hoffers,
    kind.socket_of_handed names hfed hhanded hmem, Bool.and_eq_true, Bool.not_eq_true',
    decide_eq_true_eq, Option.some.injEq]
  exact and_congr_right' eq_comm

theorem modifyNode_note (kind : ComponentKind) (names : List String) (graph : Graph) :
    (graph.modifyNode id (kind.note names)).modifyNode id (kind.note names) =
      graph.modifyNode id (kind.note names) := by
  unfold Graph.modifyNode
  rw [List.map_map]
  congr 1
  refine List.map_congr_left fun node _ => ?_
  rw [Function.comp_apply]
  by_cases hid : node.id = id
  · rw [if_pos hid, if_pos ((kind.note_rest names node).1.trans hid), kind.note_note]
  · rw [if_neg hid, if_neg hid]

/-- What a fit that is done leaves: which node, and what a second fit finds of it. -/
structure Leaves (kind : ComponentKind) (registry : Registry) (id : NodeId) (node : Node)
    (graph : Graph) (other : Node) (fitted : Graph) : Prop where
  found : fitted.node? id = some other
  name : other.name = node.name
  fed : fitted.FedByOthers id
  handovers : kind.handovers other = (kind.handovers node).map fun handover =>
    { handover with selected := some (nameIn registry id graph handover) }
  noted : fitted.modifyNode id (kind.note ((kind.handovers node).map (nameIn registry id graph))) =
    fitted
  resized : kind.isResized other = false ↔ kind.EndsAtCount node
  sockets : ∀ handover ∈ kind.handovers node,
    (fitted.output? id handover.output).map Port.socket = some (handover.socket registry id graph)
  settled : ∀ handover ∈ kind.handovers node,
    (({ handover with selected := some (nameIn registry id graph handover) } : Handover).isSettled
        registry id fitted = true ↔
      registry.Repeats (graph.offers registry id handover.input) handover.selected)

theorem exists_leaves (kind : ComponentKind) {answer : Bool} (hfed : graph.FedByOthers id)
    (hnode : graph.node? id = some node)
    (h : (kind.sync registry id).run graph = (.ok answer, fitted)) :
    ∃ other, kind.Leaves registry id node graph other fitted := by
  obtain ⟨handed, hhanded, rfl, -⟩ := kind.handed_of_sync hfed hnode h
  have hreshaped := kind.reshaped_resize registry id node graph
  obtain ⟨other, hother, hname, hdata⟩ :=
    exists_node?_of_note ((hhanded.contents id).trans (hreshaped.contents id)) hnode
  refine ⟨other, hother, hname,
    hfed.of_sublist (hhanded.connections.trans hreshaped.connections),
    kind.handovers_note _ hdata, kind.modifyNode_note .., ?_,
    fun _ hmem => kind.socket_of_handed _ hfed hhanded hmem,
    fun _ hmem => kind.isSettled_iff_repeats hfed hhanded hmem⟩
  exact kind.isResized_eq_false_iff hnode hother hdata
    (fun key => (kind.input?_note ..).trans (hhanded.inputs id key))
    fun key hkey => (kind.output?_note ..).trans (hhanded.outputs id key fun _ => hkey)

namespace Leaves

variable {kind : ComponentKind} (h : kind.Leaves registry id node graph other fitted)

include h

/-- A second fit that has nothing to do found all as the first would have it. -/
theorem repeats_of_again (hagain : (kind.sync registry id).run fitted = (.ok false, fitted)) :
    kind.EndsAtCount node ∧ ∀ handover ∈ kind.handovers node,
      registry.Repeats (graph.offers registry id handover.input) handover.selected := by
  obtain ⟨_, _, _, hanswer⟩ := kind.handed_of_sync h.fed h.found hagain
  obtain ⟨hcount, hall⟩ := Bool.or_eq_false_iff.mp hanswer.symm
  rw [kind.resize_eq_self hcount, List.any_eq_false, h.handovers] at hall
  refine ⟨h.resized.mp hcount, fun handover hmem => (h.settled handover hmem).mp ?_⟩
  simpa using hall _ (List.mem_map_of_mem hmem)

/-- Where all inputs are settled, the names that are noted are those that were noted at first. -/
theorem names_eq (hsettled : ∀ handover ∈ kind.handovers other,
      handover.isSettled registry id fitted = true) :
    (kind.handovers other).map (nameIn registry id fitted) =
      (kind.handovers node).map (nameIn registry id graph) := by
  rw [h.handovers] at hsettled ⊢
  rw [List.map_map]
  refine List.map_congr_left fun handover hmem => congrArg Socket.typeName ?_
  have hsocket := (Bool.and_eq_true_iff.mp (hsettled _ (List.mem_map_of_mem hmem))).2
  exact Option.some.inj ((of_decide_eq_true hsocket).symm.trans (h.sockets handover hmem))

/-- A second fit has nothing to do where it finds all as the first would have it. -/
theorem again (hends : kind.EndsAtCount node) (hrepeats : ∀ handover ∈ kind.handovers node,
      registry.Repeats (graph.offers registry id handover.input) handover.selected) :
    (kind.sync registry id).run fitted = (.ok false, fitted) := by
  have hcount := h.resized.mpr hends
  have hsettled : ∀ handover ∈ kind.handovers other,
      handover.isSettled registry id fitted = true := by
    rw [h.handovers]
    intro handover hmem
    obtain ⟨first, hfirst, rfl⟩ := List.mem_map.mp hmem
    exact (h.settled first hfirst).mpr (hrepeats first hfirst)
  have hquiet : ((kind.handovers other).map fun handover =>
      (handover.socket registry id fitted, false)).any Prod.snd = false := by
    simp
  rw [kind.run_sync registry h.found, fit, kind.resize_eq_self hcount,
    run_mapM_of_isSettled hsettled]
  dsimp only
  rw [hquiet, hcount, List.map_map]
  change (Except.ok (false || false), fitted.modifyNode id
    (kind.note ((kind.handovers other).map (nameIn registry id fitted)))) = _
  rw [h.names_eq hsettled, h.noted]
  rfl

/-- A fit that was done has nothing to do the second time exactly if no port behind a gap has
come into the count and each input that is handed on takes the same again. -/
theorem again_iff : (kind.sync registry id).run fitted = (.ok false, fitted) ↔
    kind.EndsAtCount node ∧ ∀ handover ∈ kind.handovers node,
      registry.Repeats (graph.offers registry id handover.input) handover.selected :=
  ⟨h.repeats_of_again, fun hboth => h.again hboth.1 hboth.2⟩

end Leaves

end ComponentKind

namespace Language

variable {language : Language} {id : NodeId} {graph fitted : Graph}

/-- One fit of a node is enough: no port behind a gap comes into its count, and each input that
is handed on takes the same a second time. -/
def FitsAtOnce (language : Language) (id : NodeId) (graph : Graph) : Prop :=
  ∀ node kind, graph.node? id = some node → language.kindOf? node.name = some kind →
    kind.EndsAtCount node ∧ ∀ handover ∈ kind.handovers node,
      language.registry.Repeats (graph.offers language.registry id handover.input)
        handover.selected

theorem sync_eq_ok_iff {kind : ComponentKind} {node : Node} {answer : Bool}
    (hnode : graph.node? id = some node) (hkind : language.kindOf? node.name = some kind) :
    language.sync id graph = (.ok answer, fitted) ↔
      (kind.sync language.registry id).run graph = (.ok answer, fitted) := by
  rw [sync_eq hnode hkind]
  rcases (kind.sync language.registry id).run graph with ⟨error | done, after⟩
  · constructor
    · intro h
      cases h
    · intro h
      cases h
  · constructor
    · intro h
      cases h
      rfl
    · intro h
      cases h
      rfl

theorem fitsAtOnce_iff {kind : ComponentKind} {node : Node} (hnode : graph.node? id = some node)
    (hkind : language.kindOf? node.name = some kind) :
    language.FitsAtOnce id graph ↔
      kind.EndsAtCount node ∧ ∀ handover ∈ kind.handovers node,
        language.registry.Repeats (graph.offers language.registry id handover.input)
          handover.selected := by
  constructor
  · exact fun h => h node kind hnode hkind
  · intro h found foundKind hfound hfoundKind
    rw [hnode, Option.some.injEq] at hfound
    subst hfound
    rw [hkind, Option.some.injEq] at hfoundKind
    subst hfoundKind
    exact h

/-- Where a node does not feed itself, a fit that is done is the last exactly if one is
enough. -/
theorem sync_sync_iff {answer : Bool} (hfed : graph.FedByOthers id)
    (hsync : language.sync id graph = (.ok answer, fitted)) :
    language.sync id fitted = (.ok false, fitted) ↔ language.FitsAtOnce id graph := by
  cases hnode : graph.node? id with
  | none =>
      have hnone : language.sync id graph = (.ok false, graph) := by
        simp only [sync, hnode]
      obtain ⟨_, rfl⟩ := Prod.mk.inj (hsync.symm.trans hnone)
      refine ⟨fun _ node kind hfound _ => ?_, fun _ => hnone⟩
      rw [hnode] at hfound
      cases hfound
  | some node =>
      cases hkind : language.kindOf? node.name with
      | none =>
          rw [sync_unknown hnode hkind] at hsync
          cases hsync
      | some kind =>
          obtain ⟨other, hleaves⟩ :=
            kind.exists_leaves hfed hnode ((sync_eq_ok_iff hnode hkind).mp hsync)
          rw [sync_eq_ok_iff hleaves.found (hleaves.name ▸ hkind), hleaves.again_iff,
            fitsAtOnce_iff hnode hkind]

/-- The argument that is to be a text is a text after the first fit, and stays one. -/
theorem sync_sync_retypedArgument :
    let graph := retypedArgument ⟨[("arg0", ⟨"Argument 1", .any "any"⟩)]⟩
    let fitted := (counting.sync ⟨1⟩ graph).2
    counting.sync ⟨1⟩ graph = (.ok true, fitted) ∧
      counting.sync ⟨1⟩ fitted = (.ok false, fitted) := by
  intro graph fitted
  have hfed : graph.FedByOthers ⟨1⟩ := by
    refine ⟨fun connection hmem htarget => ?_, List.nodup_singleton _⟩
    rw [List.mem_singleton.mp hmem] at htarget
    cases htarget
  have hsync : counting.sync ⟨1⟩ graph = (.ok true, fitted) := rfl
  refine ⟨hsync, (sync_sync_iff hfed hsync).mpr ?_⟩
  have hkind : counting.kindOf? "Function" = some .definition := rfl
  refine (@fitsAtOnce_iff counting ⟨1⟩ graph .definition _ rfl hkind).mpr
    ⟨fun hless => absurd hless (Nat.lt_irrefl 1), ?_⟩
  intro handover hmem
  obtain rfl := List.mem_singleton.mp hmem
  exact .unfed rfl

/-! ## A variable whose type is constant -/

/-- A language with numbers and constant numbers. -/
def constants : Language :=
  let number : TypeDescription := { machineName := "int", displayName := "int", copyable := true }
  let constant : TypeDescription :=
    { machineName := "cint", base := some "int", isConst := true, displayName := "int const",
      copyable := true }
  .build { types := [number, constant] } {}

def constantVariable : Graph where
  nodes := [
    { id := ⟨1⟩, name := "Variable"
      data := ⟨[("typeName", .string "cint")]⟩
      inputs := ⟨[("value", ⟨"Value", .any "any"⟩)]⟩
      outputs := ⟨[("result", ⟨"Result", .data "int" .const⟩)]⟩ }]
  lastNode := 1

/-- The first fit changes no port and notes the name of the socket, which is that of the type
without its qualifier. The second fit reads that name, and the variable is no constant any
more. -/
theorem not_sync_sync_constantVariable :
    ∃ fitted, constants.sync ⟨1⟩ constantVariable = (.ok false, fitted) ∧
      fitted.output? ⟨1⟩ "result" = some ⟨"Result", .data "int" .const⟩ ∧
      (constants.sync ⟨1⟩ fitted).1 = .ok true ∧
      (constants.sync ⟨1⟩ fitted).2.output? ⟨1⟩ "result" = some ⟨"Result", .data "int" .value⟩ :=
  ⟨_, rfl, rfl, rfl, rfl⟩

end Language

end VisualScript
