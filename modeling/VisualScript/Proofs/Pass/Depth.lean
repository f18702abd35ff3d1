import Mathlib.Data.Nat.Find
import VisualScript.Proofs.Pass.Tracks

/-!
# How deep emissions nest

A pass that may nest one emission more than the graph has nodes always ends. Nodes
of the flow nest only while they are on the chains. A node that is emitted on
demand settles: it was asked for and can be seen, so no emission inside asks for it
again. More room than needed changes nothing about the compilation.
-/

namespace VisualScript

open Emit

/-! ## More room changes nothing -/

namespace Surroundings

variable {fails : Prop} {context : Context} {onChain : List NodeId} {visit other : Visit}

theorem tracks_supply
    (hvisit : ∀ id, Tracks fails Anywhere (visit onChain id) (other onChain id))
    (consumer source : NodeId) :
    Tracks fails Anywhere (supply ⟨context, visit, onChain⟩ consumer source)
      (supply ⟨context, other, onChain⟩ consumer source) := by
  unfold supply
  refine Tracks.ite ?_ ?_
  · unfold initiate
    refine tracks_get.bind fun pass => ?_
    refine Tracks.ite (tracks_anywhere.bind fun _ => (hvisit source).discard) ?_
    refine Tracks.ite tracks_anywhere (Tracks.ite (tracks_pure ()) ?_)
    exact Tracks.ite (hvisit source).discard tracks_anywhere
  · unfold checkReached
    refine tracks_get.bind fun pass => ?_
    exact Tracks.ite tracks_anywhere
      (Tracks.ite tracks_anywhere (Tracks.ite tracks_anywhere (tracks_pure ())))

end Surroundings

namespace Context

variable {fails : Prop} {context : Context}

theorem tracks_reach {deeper other : Option Visit} {onChain : List NodeId} {id : NodeId}
    (hemit : ∀ node component, context.graph.node? id = some node →
      context.catalog.get? node.name = some component →
      Tracks fails Anywhere (context.emitNode deeper onChain component node)
        (context.emitNode other onChain component node)) :
    Tracks fails Anywhere (context.reach deeper onChain id) (context.reach other onChain id) := by
  unfold reach
  cases hfound : context.graph.node? id with
  | none => exact tracks_pure none
  | some node =>
      refine tracks_anywhere.bind fun _ => ?_
      cases hknown : context.catalog.get? node.name with
      | none => exact tracks_anywhere.bind fun _ => tracks_pure none
      | some component => exact hemit node component hfound hknown

theorem tracks_emitNode {deeper other : Visit} {onChain : List NodeId} {component : Component}
    {node : Node}
    (hemit : Tracks fails Anywhere
      (Surroundings.emit ⟨context, deeper, onChain⟩ component.kind node)
      (Surroundings.emit ⟨context, other, onChain⟩ component.kind node)) :
    Tracks fails Anywhere (context.emitNode (some deeper) onChain component node)
      (context.emitNode (some other) onChain component node) :=
  tracks_anywhere.bind fun _ => hemit.bind fun _ => tracks_anywhere.bind fun _ =>
    Tracks.ite (tracks_pure _) (tracks_pure _)

/-- Where one more emission may nest, visits that end in time end the same. -/
theorem tracks_visit_succ (context : Context) (depth : Nat) (onChain : List NodeId) (id : NodeId) :
    Tracks True Anywhere (context.visit depth onChain id)
      (context.visit (depth + 1) onChain id) := by
  induction depth generalizing onChain id with
  | zero =>
      refine tracks_reach fun node component _ _ => ?_
      intro pass _
      exact .inr ⟨trivial, rfl⟩
  | succ depth ih =>
      refine tracks_reach fun node component _ _ => tracks_emitNode ?_
      refine Surroundings.tracks_emit (Surroundings.tracks_supply (ih onChain))
        (fun target => ?_) _ _
      exact @Surroundings.tracks_chain _ _ _ (fun _ => True) (fun _ h => h) (fun id _ _ => ih _ id)
        _ _ _ trivial

end Context

/-! ## Settled nodes -/

/-- Whether the value of a node was asked for and can be seen, as far as it is bound. -/
def Pass.isSettled (pass : Pass) (id : NodeId) : Bool :=
  decide (id ∈ pass.initiated) && pass.inScope id

namespace Context

/-- Whether a node is emitted on demand. -/
def demands (context : Context) (node : Node) : Bool :=
  (context.component? node.id).any (·.kind.isOnDemand)

/-- Whether the flow has to lead to a node. -/
def flows (context : Context) (node : Node) : Bool :=
  (context.component? node.id).any (!·.kind.isOnDemand)

/-- The number of nodes that are emitted on demand. -/
def demanded (context : Context) : Nat := context.graph.nodes.countP context.demands

/-- The number of nodes that the demand for values may still lead to. -/
def unsettled (context : Context) (pass : Pass) : Nat :=
  context.graph.nodes.countP fun node => context.demands node && !pass.isSettled node.id

/-- The number of nodes that the flow may still lead to. -/
def offFlow (context : Context) (onChain : List NodeId) : Nat :=
  context.graph.nodes.countP fun node => context.flows node && decide (node.id ∉ onChain)

variable {context : Context}

theorem unsettled_le_demanded (context : Context) (pass : Pass) :
    context.unsettled pass ≤ context.demanded := by
  refine List.countP_mono_left fun node _ h => ?_
  rw [Bool.and_eq_true] at h
  exact h.1

theorem offFlow_add_demanded_le_size (context : Context) (onChain : List NodeId) :
    context.offFlow onChain + context.demanded ≤ context.graph.size := by
  have hsplit : context.graph.size = context.graph.nodes.countP context.demands +
      context.graph.nodes.countP fun node => ¬ context.demands node :=
    List.length_eq_countP_add_countP context.demands
  have hflow : context.offFlow onChain ≤
      context.graph.nodes.countP fun node => ¬ context.demands node := by
    refine List.countP_mono_left fun node _ h => ?_
    rw [Bool.and_eq_true] at h
    obtain ⟨hflows, _⟩ := h
    unfold flows at hflows
    unfold demands
    cases hcomponent : context.component? node.id with
    | none => simp
    | some component => simpa [hcomponent] using hflows
  unfold demanded
  omega

theorem component?_eq_some {id : NodeId} {node : Node} {component : Component}
    (hfound : context.graph.node? id = some node)
    (hknown : context.catalog.get? node.name = some component) :
    context.component? id = some component := by
  rw [component?, hfound]
  exact hknown

theorem offFlow_cons_le (id : NodeId) (onChain : List NodeId) :
    context.offFlow (id :: onChain) ≤ context.offFlow onChain := by
  refine List.countP_mono_left fun node _ h => ?_
  simp only [List.mem_cons, not_or, Bool.and_eq_true, decide_eq_true_eq] at h ⊢
  exact ⟨h.1, h.2.2⟩

/-- A node of the flow that joins the chains is one fewer that the flow may lead to. -/
theorem offFlow_cons_lt {onChain : List NodeId} {id : NodeId} {node : Node} {component : Component}
    (hfound : context.graph.node? id = some node)
    (hknown : context.catalog.get? node.name = some component)
    (hflow : component.kind.isOnDemand = false) (hnew : id ∉ onChain) :
    context.offFlow (id :: onChain) < context.offFlow onChain := by
  obtain rfl := Graph.id_of_node? hfound
  refine countP_lt_countP ?_ (Graph.mem_of_node? hfound) ?_ ?_
  · intro other h
    simp only [List.mem_cons, not_or, Bool.and_eq_true, decide_eq_true_eq] at h ⊢
    exact ⟨h.1, h.2.2⟩
  · simp [flows, component?_eq_some hfound hknown, hflow, hnew]
  · simp

theorem unsettled_le_of_settles {pass next : Pass}
    (hsettles : ∀ id, pass.isSettled id = true → next.isSettled id = true) :
    context.unsettled next ≤ context.unsettled pass := by
  refine List.countP_mono_left fun node _ h => ?_
  rw [Bool.and_eq_true, Bool.not_eq_true', Bool.eq_false_iff] at h ⊢
  exact ⟨h.1, fun hsettled => h.2 (hsettles _ hsettled)⟩

/-- A node that settles is one fewer that is not settled. -/
theorem unsettled_lt_of_settles {pass next : Pass} {id : NodeId} {node : Node}
    {component : Component} (hsettles : ∀ id, pass.isSettled id = true → next.isSettled id = true)
    (hfound : context.graph.node? id = some node)
    (hknown : context.catalog.get? node.name = some component)
    (hdemand : component.kind.isOnDemand = true) (hbefore : pass.isSettled id = false)
    (hafter : next.isSettled id = true) :
    context.unsettled next < context.unsettled pass := by
  obtain rfl := Graph.id_of_node? hfound
  refine countP_lt_countP ?_ (Graph.mem_of_node? hfound) ?_ ?_
  · intro other h
    rw [Bool.and_eq_true, Bool.not_eq_true', Bool.eq_false_iff] at h ⊢
    exact ⟨h.1, fun hsettled => h.2 (hsettles _ hsettled)⟩
  · simp [demands, component?_eq_some hfound hknown, hdemand, hbefore]
  · simp [hafter]

end Context

namespace Pass

variable {pass : Pass} {id other : NodeId}

theorem inScope_enter_self (pass : Pass) (id : NodeId) : (pass.enter id).inScope id = true := by
  change ((pass.scopes.insert id pass.block.path).get? id).all pass.block.sees = true
  rw [OrderedMap.get?_insert, if_pos rfl]
  exact List.isPrefixOf_iff_prefix.mpr List.prefix_rfl

theorem inScope_enter (h : pass.inScope other = true) : (pass.enter id).inScope other = true := by
  by_cases heq : id = other
  · subst heq
    exact inScope_enter_self pass id
  · change ((pass.scopes.insert id pass.block.path).get? other).all pass.block.sees = true
    rw [OrderedMap.get?_insert, if_neg heq]
    exact h

/-- A node that was asked for settles when it is emitted. -/
theorem isSettled_enter_self (hasked : id ∈ pass.initiated) :
    (pass.enter id).isSettled id = true := by
  rw [isSettled, inScope_enter_self, Bool.and_true, decide_eq_true_eq]
  exact hasked

theorem isSettled_enter (h : pass.isSettled other = true) :
    (pass.enter id).isSettled other = true := by
  rw [isSettled, Bool.and_eq_true] at h ⊢
  exact ⟨h.1, inScope_enter h.2⟩

theorem isSettled_initiate (h : pass.isSettled other = true) :
    (pass.initiate id).isSettled other = true := by
  rw [isSettled, Bool.and_eq_true, decide_eq_true_eq] at h ⊢
  exact ⟨List.mem_cons_of_mem _ h.1, h.2⟩

end Pass

/-! ## With enough room every pass ends -/

/-- Whether no more nodes than a number are unsettled. -/
def Context.Leaves (context : Context) (limit : Nat) (pass : Pass) : Prop :=
  context.unsettled pass ≤ limit

theorem Context.lasting_leaves (context : Context) (limit : Nat) :
    Pass.Lasting (context.Leaves limit) where
  log _ h := h
  write _ _ h := h
  setResult _ _ h := h
  dropResult _ h := h

/-- A way to emit nodes that ends for every node emitted on demand, where it leaves
no more nodes unsettled than there is room for. -/
def Visit.Settles (visit : Visit) (context : Context) (room : Nat) : Prop :=
  ∀ {onChain id limit pass}, limit ≤ room → context.isOnDemand id = true →
    context.Leaves limit pass →
    (∀ node component, context.graph.node? id = some node →
      context.catalog.get? node.name = some component →
      context.unsettled (pass.enter id) < limit) →
    ∃ answer next, (visit onChain id).Ends pass answer next ∧ context.Leaves limit next

namespace Surroundings

variable {context : Context} {onChain : List NodeId} {visit : Visit} {room limit : Nat}

theorem supply_settles (hvisit : visit.Settles context room) (hroom : limit ≤ room)
    (consumer source : NodeId) :
    Tracks False (context.Leaves limit) (supply ⟨context, visit, onChain⟩ consumer source)
      (supply ⟨context, visit, onChain⟩ consumer source) := by
  have hlasting := context.lasting_leaves limit
  unfold supply
  refine dite (context.isOnDemand source = true) (fun hdemand => ?_) (fun hflow => ?_)
  · rw [if_pos hdemand]
    intro pass hleaves
    suffices h : ∃ next, (initiate ⟨context, visit, onChain⟩ consumer source).Ends pass () next ∧
        context.Leaves limit next by
      obtain ⟨next, hend, hnext⟩ := h
      exact .inl ⟨(), next, hend, hend, hnext⟩
    -- The source is not settled, so it settles when it is entered.
    have hvisited : ∀ asked : Pass, (∀ id, pass.isSettled id = true → asked.isSettled id = true) →
        pass.isSettled source = false → source ∈ asked.initiated →
        ∃ next, (discard (visit onChain source)).Ends asked () next ∧
          context.Leaves limit next := by
      intro asked hsettles hbefore hasked
      have hstill : context.Leaves limit asked :=
        Nat.le_trans (Context.unsettled_le_of_settles hsettles) hleaves
      have hless : ∀ node component, context.graph.node? source = some node →
          context.catalog.get? node.name = some component →
          context.unsettled (asked.enter source) < limit := by
        intro node component hfound hknown
        have hkind : component.kind.isOnDemand = true := by
          rw [Context.isOnDemand, Context.component?_eq_some hfound hknown] at hdemand
          exact hdemand
        have hlt := Context.unsettled_lt_of_settles
          (fun id h => Pass.isSettled_enter (hsettles id h)) hfound hknown hkind hbefore
          (Pass.isSettled_enter_self hasked)
        exact Nat.lt_of_lt_of_le hlt hleaves
      obtain ⟨answer, next, hend, hnext⟩ := hvisit hroom hdemand hstill hless
      exact ⟨next, ends_discard.mpr ⟨answer, hend⟩, hnext⟩
    simp only [initiate, ends_bind, ends_get]
    by_cases hknown : source ∈ pass.initiated
    · by_cases hbusy : source ∈ pass.emitting
      · refine ⟨pass.report .dataCycle source none, ⟨pass, pass, ⟨rfl, rfl⟩, ?_⟩, hleaves⟩
        rw [if_neg (not_not_intro hknown), if_pos hbusy]
        exact ends_modify.mpr rfl
      · cases hvisible : pass.inScope source with
        | true =>
            refine ⟨pass, ⟨pass, pass, ⟨rfl, rfl⟩, ?_⟩, hleaves⟩
            rw [if_neg (not_not_intro hknown), if_neg hbusy, if_pos hvisible]
            exact ends_pure.mpr ⟨rfl, rfl⟩
        | false =>
            have hbefore : pass.isSettled source = false := by
              rw [Pass.isSettled, hvisible, Bool.and_false]
            by_cases hpure : (context.component? source).any (·.kind.isPure) = true
            · obtain ⟨next, hend, hnext⟩ := hvisited pass (fun _ h => h) hbefore hknown
              refine ⟨next, ⟨pass, pass, ⟨rfl, rfl⟩, ?_⟩, hnext⟩
              rw [if_neg (not_not_intro hknown), if_neg hbusy, if_neg (by simp [hvisible]),
                if_pos hpure]
              exact hend
            · refine ⟨pass.report .valueOutOfScope consumer (some source.text),
                ⟨pass, pass, ⟨rfl, rfl⟩, ?_⟩, hleaves⟩
              rw [if_neg (not_not_intro hknown), if_neg hbusy, if_neg (by simp [hvisible]),
                if_neg hpure]
              exact ends_modify.mpr rfl
    · have hbefore : pass.isSettled source = false := by
        rw [Pass.isSettled, decide_eq_false hknown, Bool.false_and]
      obtain ⟨next, hend, hnext⟩ := hvisited (pass.initiate source)
        (fun _ => Pass.isSettled_initiate) hbefore (List.mem_cons_self ..)
      refine ⟨next, ⟨pass, pass, ⟨rfl, rfl⟩, ?_⟩, hnext⟩
      rw [if_pos hknown]
      exact ends_bind.mpr ⟨(), _, ends_modify.mpr rfl, hend⟩
  · rw [if_neg hflow, checkReached]
    refine tracks_get.bind fun pass => ?_
    refine Tracks.ite (tracks_report hlasting _ _ _) (Tracks.ite (tracks_report hlasting _ _ _) ?_)
    exact Tracks.ite (tracks_report hlasting _ _ _) (tracks_pure ())

end Surroundings

namespace Context

theorem reach_settles {context : Context} {deeper : Option Visit} {room : Nat}
    (hemit : ∀ {onChain component limit pass} (node : Node), limit ≤ room →
      component.kind.isOnDemand = true → context.unsettled (pass.enter node.id) < limit →
      ∃ answer next, (context.emitNode deeper onChain component node).Ends pass answer next ∧
        context.Leaves limit next) :
    (context.reach deeper).Settles context room := by
  intro onChain id limit pass hroom hdemand hleaves hless
  unfold reach
  cases hfound : context.graph.node? id with
  | none => exact ⟨none, pass, ends_pure.mpr ⟨rfl, rfl⟩, hleaves⟩
  | some node =>
      obtain rfl := Graph.id_of_node? hfound
      dsimp only
      cases hknown : context.catalog.get? node.name with
      | none =>
          refine ⟨none, (pass.reach node.id).report .unknownComponent node.id (some node.name),
            ends_bind.mpr ⟨(), pass.reach node.id, ends_modify.mpr rfl, ?_⟩, hleaves⟩
          exact ends_bind.mpr ⟨(), _, ends_modify.mpr rfl, ends_pure.mpr ⟨rfl, rfl⟩⟩
      | some component =>
          have hkind : component.kind.isOnDemand = true := by
            rw [isOnDemand, component?_eq_some hfound hknown] at hdemand
            exact hdemand
          have hreached : context.unsettled ((pass.reach node.id).enter node.id) < limit :=
            hless node component hfound hknown
          obtain ⟨answer, next, hend, hnext⟩ := hemit node hroom hkind hreached
          exact ⟨answer, next, ends_bind.mpr ⟨(), _, ends_modify.mpr rfl, hend⟩, hnext⟩

theorem visit_settles (context : Context) (depth : Nat) :
    (context.visit depth).Settles context depth := by
  induction depth with
  | zero =>
      refine reach_settles fun node hroom _ hless => ?_
      omega
  | succ depth ih =>
      refine reach_settles fun {onChain component limit pass} node hroom hdemand hless => ?_
      have hsupply : ∀ consumer source, Tracks False (context.Leaves (limit - 1))
          (Surroundings.supply ⟨context, context.visit depth, onChain⟩ consumer source)
          (Surroundings.supply ⟨context, context.visit depth, onChain⟩ consumer source) :=
        Surroundings.supply_settles ih (by omega)
      -- The node settled as it was entered, so its inputs find one node fewer to settle.
      have hemit := Surroundings.tracks_emit_of_isOnDemand (context.lasting_leaves (limit - 1))
        hsupply hdemand node (pass.enter node.id) (by unfold Leaves; omega)
      rcases hemit with ⟨_, next, hend, _, hnext⟩ | ⟨hfalse, _⟩
      · have hleaves : context.Leaves limit (next.leave node.id) := by
          have hsame : context.unsettled (next.leave node.id) = context.unsettled next := rfl
          unfold Leaves at hnext ⊢
          omega
        refine ⟨context.nextOf component.kind node.id, next.leave node.id, ?_, hleaves⟩
        refine ends_bind.mpr ⟨(), _, ends_modify.mpr rfl, ends_bind.mpr ⟨(), next, hend, ?_⟩⟩
        refine ends_bind.mpr ⟨(), _, ends_modify.mpr rfl, ?_⟩
        unfold nextOf
        split
        next => exact ends_pure.mpr ⟨rfl, rfl⟩
        next => exact ends_pure.mpr ⟨rfl, rfl⟩
      · exact hfalse.elim

/-- The number of emissions that may still nest in that of a node on the chains. -/
def room (context : Context) (onChain : List NodeId) : Nat :=
  context.offFlow onChain + context.demanded + 1

theorem visit_ends (context : Context) {depth : Nat} {onChain : List NodeId} (id : NodeId)
    (hroom : context.room onChain ≤ depth) (hnew : id ∉ onChain) :
    Tracks False Anywhere (context.visit depth (id :: onChain) id)
      (context.visit depth (id :: onChain) id) := by
  induction depth generalizing onChain id with
  | zero =>
      unfold room at hroom
      omega
  | succ depth ih =>
      have hsupply : ∀ consumer source, Tracks False Anywhere
          (Surroundings.supply ⟨context, context.visit depth, id :: onChain⟩ consumer source)
          (Surroundings.supply ⟨context, context.visit depth, id :: onChain⟩ consumer source) := by
        intro consumer source pass _
        -- The demand for a value can lead to no more nodes than are emitted on demand.
        have hleaves : context.Leaves depth pass := by
          have := context.unsettled_le_demanded pass
          unfold room at hroom
          unfold Leaves
          omega
        rcases Surroundings.supply_settles (context.visit_settles depth) (Nat.le_refl depth)
          consumer source pass hleaves with ⟨answer, next, hend, hend', _⟩ | ⟨hfalse, _⟩
        · exact .inl ⟨answer, next, hend, hend', trivial⟩
        · exact hfalse.elim
      refine tracks_reach fun node component hfound hknown => tracks_emitNode ?_
      cases hdemand : component.kind.isOnDemand with
      | true =>
          exact Surroundings.tracks_emit_of_isOnDemand Pass.lasting_anywhere hsupply hdemand node
      | false =>
          refine Surroundings.tracks_emit hsupply (fun target => ?_) _ _
          -- The node is on the chains now, so the flow has less room to fill one level deeper.
          refine @Surroundings.tracks_chain _ _ _ (fun chain => context.room chain ≤ depth)
            ?_ (fun id hfits hnew => ih id hfits hnew) _ _ _ ?_
          · intro chain id h
            have := context.offFlow_cons_le id chain
            unfold room at h ⊢
            omega
          · have := context.offFlow_cons_lt hfound hknown hdemand hnew
            unfold room at hroom ⊢
            omega

/-! ## The limit as a threshold -/

/-- The context with another limit to how many emissions may nest. -/
def within (context : Context) (limit : Nat) : Context :=
  { context with options := { context.options with maxDepth := limit } }

theorem parameters_within (context : Context) (limit : Nat) (visit : Visit)
    (onChain : List NodeId) (node : Node) (seen : List String) (indices : List Nat) :
    Surroundings.parameters ⟨context.within limit, visit, onChain⟩ node seen indices =
      Surroundings.parameters ⟨context, visit, onChain⟩ node seen indices := by
  induction indices generalizing seen with
  | nil => rfl
  | cons index rest ih =>
      unfold Surroundings.parameters
      simp only [ih]
      rfl

theorem emit_within (context : Context) (limit : Nat) (visit : Visit) (onChain : List NodeId) :
    Surroundings.emit ⟨context.within limit, visit, onChain⟩ =
      Surroundings.emit ⟨context, visit, onChain⟩ := by
  funext kind node
  cases kind with
  | definition =>
      change Surroundings.emitDefinition _ node = Surroundings.emitDefinition _ node
      unfold Surroundings.emitDefinition
      rw [context.parameters_within]
      rfl
  | _ => rfl

theorem reach_within (context : Context) (limit : Nat) (deeper : Option Visit) :
    (context.within limit).reach deeper = context.reach deeper := by
  funext onChain id
  unfold reach emitNode
  cases deeper with
  | none => rfl
  | some visit =>
      simp only [context.emit_within]
      rfl

/-- The limit counts only at the top. -/
theorem visit_within (context : Context) (limit depth : Nat) :
    (context.within limit).visit depth = context.visit depth := by
  induction depth with
  | zero => exact context.reach_within limit none
  | succ depth ih =>
      unfold visit
      rw [ih, context.reach_within limit]

theorem tracks_emitRoots (context : Context) {fails : Prop} {limit other : Nat}
    (hvisit : ∀ {onChain} id, id ∉ onChain →
      Tracks fails Anywhere (context.visit limit (id :: onChain) id)
        (context.visit other (id :: onChain) id)) (index : Nat) (roots : List NodeId) :
    Tracks fails Anywhere ((context.within limit).emitRoots index roots)
      ((context.within other).emitRoots index roots) := by
  induction roots generalizing index with
  | nil => exact tracks_pure []
  | cons id rest ih =>
      have hchain := @Surroundings.tracks_chain fails (context.visit limit) (context.visit other)
        (fun _ => True) (fun _ h => h) (fun id _ hnew => hvisit id hnew)
        (Surroundings.chainBound context.graph) [] id trivial
      rw [← context.visit_within limit limit, ← context.visit_within other other] at hchain
      exact tracks_anywhere.bind fun _ => hchain.bind fun _ => tracks_get.bind fun _ =>
        (ih (index + 1)).bind fun _ => tracks_pure _

/-- Where more may nest, a run that ends ends the same. -/
theorem run_within_succ (context : Context) {limit : Nat} {outcome : List Written × Pass}
    (h : (context.within limit).run = .ok outcome) :
    (context.within (limit + 1)).run = .ok outcome := by
  have htracks := context.tracks_emitRoots (fun id _ => context.tracks_visit_succ limit _ id) 0
    context.roots { block := Block.root 0 } trivial
  rcases htracks with ⟨written, pass, hend, hend', _⟩ | ⟨_, hdeep⟩
  · have heq : Except.ok outcome = Except.ok (written, pass) := h.symm.trans hend
    rw [heq]
    exact hend'
  · have heq : Except.ok outcome = Except.error PassError.tooDeep := h.symm.trans hdeep
    cases heq

theorem run_within_add (context : Context) {limit : Nat} {outcome : List Written × Pass}
    (h : (context.within limit).run = .ok outcome) (extra : Nat) :
    (context.within (limit + extra)).run = .ok outcome := by
  induction extra with
  | zero => exact h
  | succ extra ih => exact context.run_within_succ ih

/-- A run in which one emission more than there are nodes may nest ends. -/
theorem run_within_size_succ (context : Context) :
    ∃ outcome, (context.within (context.graph.size + 1)).run = .ok outcome := by
  have hvisit : ∀ {onChain} id, id ∉ onChain → Tracks False Anywhere
      (context.visit (context.graph.size + 1) (id :: onChain) id)
      (context.visit (context.graph.size + 1) (id :: onChain) id) := by
    intro onChain id hnew
    refine context.visit_ends id ?_ hnew
    have := context.offFlow_add_demanded_le_size onChain
    unfold room
    omega
  rcases context.tracks_emitRoots hvisit 0 context.roots { block := Block.root 0 } trivial with
    ⟨written, pass, hend, _, _⟩ | ⟨hfalse, _⟩
  · exact ⟨(written, pass), hend⟩
  · exact hfalse.elim

/-- How deep emissions may nest decides only between one outcome of a run and none. -/
theorem run_within_eq_ite (context : Context) :
    ∃ threshold ≤ context.graph.size + 1, ∃ outcome, ∀ limit,
      (context.within limit).run = if threshold ≤ limit then .ok outcome else .error .tooDeep := by
  classical
  have hends : ∃ limit outcome, (context.within limit).run = .ok outcome :=
    ⟨context.graph.size + 1, context.run_within_size_succ⟩
  -- The least limit with which the run ends is the threshold: above it nothing changes any more.
  obtain ⟨outcome, houtcome⟩ := Nat.find_spec hends
  refine ⟨Nat.find hends, Nat.find_min' hends context.run_within_size_succ, outcome, ?_⟩
  intro limit
  by_cases hle : Nat.find hends ≤ limit
  · obtain ⟨extra, rfl⟩ := Nat.exists_eq_add_of_le hle
    rw [if_pos hle, context.run_within_add houtcome extra]
  · rw [if_neg hle]
    cases hrun : (context.within limit).run with
    | error fault => rfl
    | ok other => exact absurd (Nat.find_min' hends ⟨other, hrun⟩) hle

end Context

/-! ## Chains never feel their bound -/

namespace Surroundings

/-- Steps that nothing is left for change nothing about a chain. -/
theorem chain_add_bound {visit : Visit} {context : Context} (hvisit : visit.Walks context)
    (bound extra : Nat) (onChain : List NodeId) (id : NodeId)
    (hbound : context.graph.offChain onChain + 2 ≤ bound) :
    chain visit (bound + extra) onChain id = chain visit bound onChain id := by
  induction bound generalizing onChain id with
  | zero => omega
  | succ bound ih =>
      rw [Nat.add_right_comm]
      unfold chain
      split
      next => rfl
      next hnew =>
        funext pass
        -- The two chains differ only in what follows the visit, so the visit is run first.
        change (visit (id :: onChain) id pass >>= _) = (visit (id :: onChain) id pass >>= _)
        cases hend : visit (id :: onChain) id pass with
        | error fault => rfl
        | ok outcome =>
            obtain ⟨answer, next⟩ := outcome
            cases answer with
            | none => rfl
            | some following =>
                obtain ⟨node, hfound⟩ := (hvisit hend).exists_node_of_visit_some
                have hless := Graph.offChain_cons_lt hfound hnew
                exact congrFun (ih (id :: onChain) following (by omega)) next

end Surroundings

namespace Language

/-- Every compilation ends, whatever the graph, and no chain is cut short by the
bound on its steps. How deep emissions may nest decides only between one outcome
and none, at a threshold of at most one more than the number of nodes. -/
theorem compile_eq_ite_threshold (language : Language) (options : CompileOptions)
    (graph : Graph) :
    (∃ threshold ≤ graph.size + 1, ∃ compilation, ∀ limit,
      language.compile { options with maxDepth := limit } graph =
        if threshold ≤ limit then .ok compilation else .error .tooDeep) ∧
    ∀ limit extra onChain id,
      Surroundings.chain ((language.context options graph).visit limit)
          (Surroundings.chainBound graph + extra) onChain id =
        Surroundings.chain ((language.context options graph).visit limit)
          (Surroundings.chainBound graph) onChain id := by
  refine ⟨?_, ?_⟩
  · obtain ⟨threshold, hle, outcome, hrun⟩ :=
      (language.context options graph).run_within_eq_ite
    refine ⟨threshold, hle, .ofPass outcome.1 outcome.2, ?_⟩
    intro limit
    have hlimit : (language.context { options with maxDepth := limit } graph).run =
        if threshold ≤ limit then .ok outcome else .error .tooDeep := hrun limit
    unfold compile
    rw [hlimit]
    by_cases hreached : threshold ≤ limit
    · rw [if_pos hreached, if_pos hreached]
    · rw [if_neg hreached, if_neg hreached]
  · intro limit extra onChain id
    refine Surroundings.chain_add_bound (Context.visit_walks _ limit) _ extra onChain id ?_
    have hle : (language.context options graph).graph.offChain onChain ≤ graph.size :=
      graph.offChain_le_size onChain
    unfold Surroundings.chainBound
    omega

end Language

end VisualScript
