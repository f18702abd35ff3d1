import VisualScript.Proofs.Pass.Sightings

/-!
# Forks of the flow

A node of the flow is emitted every time the flow leads to it. Behind a node, and along
the exits of a sequence, the flow goes on in the same block; along other exits it goes
into a block of its own. So an emission of such a node is in sight of a later one only
behind a sequence that leads to the node along two of its exits, and along the first of
them without going into a block.
-/

namespace VisualScript

/-! ## Ways of the flow -/

namespace Context

/-- The flow goes on from a node to another in the same block. -/
inductive Steps (context : Context) : NodeId → NodeId → Prop where
  | behind {id kind following} (known : context.kind? id = some kind)
      (next : context.nextOf kind id = some following) : Steps context id following
  | item {node index connection} (hosts : context.Hosts node .sequence)
      (counted : index < numberedCount keys.exit node.outputs)
      (connected : context.graph.firstOutgoing? node.id (numbered keys.exit index) =
        some connection) : Steps context node.id connection.target

/-- The flow goes from a node into a block inside. -/
inductive Nests (context : Context) : NodeId → NodeId → Prop where
  | exit {id kind exit connection} (known : context.kind? id = some kind)
      (listed : exit ∈ kind.blockExits)
      (connected : context.graph.firstOutgoing? id exit = some connection) :
      Nests context id connection.target

/-- The flow leads from a node to another, in the same block or inward. -/
inductive Runs (context : Context) : Bool → NodeId → NodeId → Prop where
  | here {id} : Runs context false id id
  | on {inward id next last} (step : context.Steps id next) (rest : Runs context inward next last) :
      Runs context inward id last
  | into {inward id next last} (nest : context.Nests id next)
      (rest : Runs context inward next last) : Runs context true id last

/-- The flow leads to a node along an exit. -/
def RunsBy (context : Context) (inward : Bool) (id : NodeId) (exit : String) (last : NodeId) :
    Prop :=
  ∃ connection, context.graph.firstOutgoing? id exit = some connection ∧
    context.Runs inward connection.target last

/-- A sequence leads to a node in the same block, and along a later exit again. -/
def Forks (context : Context) (inward : Bool) (id last : NodeId) : Prop :=
  ∃ node first second, context.Hosts node .sequence ∧ node.id = id ∧ first < second ∧
    second < numberedCount keys.exit node.outputs ∧
    context.RunsBy false id (numbered keys.exit first) last ∧
    context.RunsBy inward id (numbered keys.exit second) last

end Context

namespace Leg

/-- A piece of the way leads to a node. -/
def Runs (context : Context) (inward : Bool) (last : NodeId) : Leg → Prop
  | chain start => context.Runs inward start last
  | onward following => ∃ next, following = some next ∧ context.Runs inward next last
  | follow id exit => context.RunsBy inward id exit last
  | items id indices => ∃ index ∈ indices, context.RunsBy inward id (numbered keys.exit index) last
  | blocks id exits => inward = true ∧
      ∃ exit ∈ exits, ∃ deeper, context.RunsBy deeper id exit last

/-- A piece of the way leads through a node: to it, or along its numbered exits. -/
def Through (context : Context) (id : NodeId) (leg : Leg) : Prop :=
  (∃ indices, leg = items id indices) ∨ ∃ inward, leg.Runs context inward id

/-- Numbered exits belong to a sequence, and are followed in their order. -/
def Fits (context : Context) : Leg → Prop
  | items id indices => indices.Pairwise (· < ·) ∧ ∃ node, context.Hosts node .sequence ∧
      node.id = id ∧ ∀ index ∈ indices, index < numberedCount keys.exit node.outputs
  | _ => True

/-- A piece of the way leads nowhere but where another does. -/
structure Within (context : Context) (inner outer : Leg) : Prop where
  runs : ∀ {inward last}, inner.Runs context inward last → outer.Runs context inward last
  through : ∀ {id}, inner.Through context id → outer.Through context id

theorem fits_leg {context : Context} {node : Node} {kind : ComponentKind}
    (h : context.Hosts node kind) : (kind.leg node).Fits context := by
  cases kind with
  | sequence =>
      refine ⟨List.pairwise_lt_range, node, h, rfl, fun index hmem => ?_⟩
      exact List.mem_range.mp hmem
  | _ => trivial

/-- The emission of a node that the flow goes on behind leads into blocks inside only. -/
theorem not_runs_of_nextOf {context : Context} {node : Node} {kind : ComponentKind}
    {following last : NodeId} (h : context.nextOf kind node.id = some following) :
    ¬ (kind.leg node).Runs context false last := by
  cases kind with
  | sequence => cases h
  | _ => exact fun hruns => Bool.false_ne_true hruns.1

namespace Within

variable {context : Context} {inner outer : Leg}

theorem refl (leg : Leg) : Within context leg leg := ⟨id, id⟩

/-- It is enough to lead to the same nodes where no numbered exits are followed. -/
theorem of_runs (h : ∀ {inward last}, inner.Runs context inward last →
    outer.Runs context inward last) (hitems : ∀ {id indices}, inner ≠ .items id indices) :
    Within context inner outer where
  runs := h
  through hthrough := by
    rcases hthrough with ⟨indices, rfl⟩ | ⟨inward, hruns⟩
    · exact absurd rfl hitems
    · exact .inr ⟨inward, h hruns⟩

/-- Where the emission of a node leads the flow, the flow leads from the node. -/
theorem leg {node : Node} {kind : ComponentKind} (hhosts : context.Hosts node kind) :
    Within context (kind.leg node) (.chain node.id) := by
  by_cases hsequence : kind = .sequence
  · subst hsequence
    have hruns : ∀ {inward last}, (ComponentKind.sequence.leg node).Runs context inward last →
        context.Runs inward node.id last := by
      rintro inward last ⟨index, hmem, connection, hconnected, hrest⟩
      exact .on (.item hhosts (List.mem_range.mp hmem) hconnected) hrest
    refine ⟨hruns, ?_⟩
    rintro id (⟨indices, hitems⟩ | ⟨inward, hthrough⟩)
    · cases hitems
      exact .inr ⟨false, .here⟩
    · exact .inr ⟨inward, hruns hthrough⟩
  · have hblocks : kind.leg node = .blocks node.id kind.blockExits := by
      cases kind <;> first | rfl | exact absurd rfl hsequence
    rw [hblocks]
    refine of_runs ?_ nofun
    rintro inward last ⟨rfl, exit, hlisted, deeper, connection, hconnected, hrest⟩
    exact .into (.exit hhosts.kind? hlisted hconnected) hrest

theorem onward {node : Node} {kind : ComponentKind} (hhosts : context.Hosts node kind) :
    Within context (.onward (context.nextOf kind node.id)) (.chain node.id) := by
  refine of_runs ?_ nofun
  rintro inward last ⟨following, hnext, hrest⟩
  exact .on (.behind hhosts.kind? hnext) hrest

theorem goOn (following : NodeId) :
    Within context (.chain following) (.onward (some following)) :=
  of_runs (fun hruns => ⟨following, rfl, hruns⟩) nofun

theorem followed {id : NodeId} {exit : String} {connection : Connection}
    (h : context.graph.firstOutgoing? id exit = some connection) :
    Within context (.chain connection.target) (.follow id exit) :=
  of_runs (fun hruns => ⟨connection, h, hruns⟩) nofun

theorem firstItem (id : NodeId) (index : Nat) (rest : List Nat) :
    Within context (.follow id (numbered keys.exit index)) (.items id (index :: rest)) :=
  of_runs (fun hruns => ⟨index, List.mem_cons_self .., hruns⟩) nofun

theorem otherItems (id : NodeId) (index : Nat) (rest : List Nat) :
    Within context (.items id rest) (.items id (index :: rest)) := by
  have hruns : ∀ {inward last}, (Leg.items id rest).Runs context inward last →
      (Leg.items id (index :: rest)).Runs context inward last := by
    rintro inward last ⟨other, hmem, hrest⟩
    exact ⟨other, List.mem_cons_of_mem _ hmem, hrest⟩
  refine ⟨hruns, ?_⟩
  rintro fork (⟨indices, hitems⟩ | ⟨inward, hthrough⟩)
  · cases hitems
    exact .inl ⟨_, rfl⟩
  · exact .inr ⟨inward, hruns hthrough⟩

theorem blocks (id : NodeId) {exits others : List String} (h : exits ⊆ others) :
    Within context (.blocks id exits) (.blocks id others) := by
  refine of_runs ?_ nofun
  rintro inward last ⟨rfl, exit, hmem, hrest⟩
  exact ⟨rfl, exit, h hmem, hrest⟩

end Within

end Leg

/-! ## Where visits lie -/

/-- The emission of a node of the flow that an event begins, with its scope. -/
def Event.visit? (context : Context) : Event → Option (NodeId × ScopePath)
  | entered id scope => if context.isOnDemand id = true then none else some (id, scope)
  | _ => none

/-- The emissions of nodes of the flow that a journal tells of, latest first. -/
def Context.visits (context : Context) (events : List Event) : List (NodeId × ScopePath) :=
  events.filterMap (Event.visit? context)

theorem Pass.Still.visits_eq {context : Context} {laid : List Written} {pass next : Pass}
    (h : pass.Still laid next) : context.visits next.events = context.visits pass.events := by
  obtain ⟨added, hadded, hidle⟩ := h.journal
  have hnone : added.filterMap (Event.visit? context) = [] := by
    rw [List.filterMap_eq_nil_iff]
    intro event hmem
    have hevent := hidle event hmem
    cases event <;> first | rfl | cases hevent
  rw [Context.visits, hadded, List.filterMap_append, hnone]
  rfl

/-- Where a visit lies that was made between two states of a block: in the block, or in
one of the blocks inside that were opened meanwhile. -/
inductive Lies (path : ScopePath) (first last : Nat) : Bool → ScopePath → Prop where
  | level : Lies path first last false path
  | inside {child scope} (opened : first ≤ child) (closed : child < last)
      (within : path ++ [child] <+: scope) : Lies path first last true scope

namespace Lies

variable {path scope later : ScopePath} {first middle last : Nat} {inward inward' : Bool}

theorem mono {wider higher : Nat} (h : Lies path first last inward scope) (hwider : wider ≤ first)
    (hhigher : last ≤ higher) : Lies path wider higher inward scope := by
  cases h with
  | level => exact .level
  | inside opened closed within =>
      exact .inside (Nat.le_trans hwider opened) (Nat.lt_of_lt_of_le closed hhigher) within

/-- All of it lies within the block. -/
theorem within (h : Lies path first last inward scope) : path <+: scope := by
  cases h with
  | level => exact List.prefix_rfl
  | inside _ _ within => exact (List.prefix_append _ _).trans within

/-- What lies in a block inside is out of sight of what is done after it. -/
theorem level_of_prefix (hearlier : Lies path first middle inward scope)
    (hlater : Lies path middle last inward' later) (h : scope <+: later) :
    inward = false ∧ (inward' = false → later = scope) := by
  cases hearlier with
  | level =>
      refine ⟨rfl, fun hlevel => ?_⟩
      cases hlater with
      | level => rfl
      | inside => cases hlevel
  | @inside child _ _ closed within =>
      have hbelow := within.trans h
      cases hlater with
      | level =>
          have hlength := hbelow.length_le
          rw [List.length_append, List.length_singleton] at hlength
          omega
      | @inside other _ opened _ within' =>
          have hsame : path ++ [child] = path ++ [other] :=
            (List.prefix_of_prefix_length_le hbelow within' (by simp)).eq_of_length (by simp)
          simp at hsame
          omega

end Lies

/-- A visit is out of sight of a later one of the same node, unless the flow forks to it. -/
def Context.Apart (context : Context) (through : NodeId → Prop)
    (later earlier : NodeId × ScopePath) : Prop :=
  later.1 = earlier.1 → earlier.2 <+: later.2 → ∃ fork inward, through fork ∧
    context.Forks inward fork later.1 ∧ (inward = false → later.2 = earlier.2)

/-- What is visited on a piece of the way. -/
structure Trail (context : Context) (onChain : List NodeId) (leg : Leg)
    (new : List (NodeId × ScopePath)) (pass next : Pass) : Prop where
  path : next.block.path = pass.block.path
  children : pass.block.children ≤ next.block.children
  visits : context.visits next.events = new ++ context.visits pass.events
  fresh : ∀ visit ∈ new, visit.1 ∉ onChain
  placed : ∀ visit ∈ new, ∃ inward, leg.Runs context inward visit.1 ∧
    Lies pass.block.path pass.block.children next.block.children inward visit.2
  apart : new.Pairwise (context.Apart (leg.Through context))

namespace Trail

variable {context : Context} {onChain wider : List NodeId} {leg first rest : Leg}
  {new more : List (NodeId × ScopePath)} {pass middle next : Pass}

/-- A trail without visits. -/
theorem nil (hpath : next.block.path = pass.block.path)
    (hchildren : pass.block.children ≤ next.block.children)
    (hvisits : context.visits next.events = context.visits pass.events) :
    Trail context onChain leg [] pass next :=
  ⟨hpath, hchildren, hvisits, List.forall_mem_nil _, List.forall_mem_nil _, .nil⟩

theorem refl (pass : Pass) : Trail context onChain leg [] pass pass :=
  nil rfl (Nat.le_refl _) rfl

theorem of_still {laid : List Written} (h : pass.Still laid next) :
    Trail context onChain leg [] pass next :=
  nil h.path (Nat.le_of_eq h.children.symm) h.visits_eq

/-- Events that begin no emission are no visits. -/
theorem log (pass : Pass) {event : Event} (h : event.visit? context = none) :
    Trail context onChain leg [] pass (pass.log event) :=
  nil rfl (Nat.le_refl _) (List.filterMap_cons_none h)

theorem write (pass : Pass) (id : NodeId) (statement : Statement) :
    Trail context onChain leg [] pass (pass.write id statement) :=
  nil rfl (Nat.le_refl _) (List.filterMap_cons_none rfl)

theorem leave (pass : Pass) (id : NodeId) : Trail context onChain leg [] pass (pass.leave id) :=
  nil rfl (Nat.le_refl _) (List.filterMap_cons_none rfl)

theorem enterOnDemand (pass : Pass) {id : NodeId} (h : context.isOnDemand id = true) :
    Trail context onChain leg [] pass ((pass.reach id).enter id) := by
  refine nil rfl (Nat.le_refl _) (List.filterMap_cons_none ?_)
  rw [Event.visit?, if_pos h]

theorem enter (pass : Pass) {id : NodeId} (hflow : context.isOnDemand id = false)
    (hnew : id ∉ onChain) :
    Trail context onChain (.chain id) [(id, pass.block.path)] pass ((pass.reach id).enter id) where
  path := rfl
  children := Nat.le_refl _
  visits := by
    refine List.filterMap_cons_some ?_
    rw [Event.visit?, hflow]
    rfl
  fresh _ hmem := List.mem_singleton.mp hmem ▸ hnew
  placed _ hmem := List.mem_singleton.mp hmem ▸ ⟨false, .here, .level⟩
  apart := List.pairwise_singleton _ _

/-- One trail goes on from another whose visits are out of sight of it. -/
theorem append (hfirst : Trail context onChain leg new pass middle)
    (hrest : Trail context onChain leg more middle next)
    (hcross : ∀ later ∈ more, ∀ earlier ∈ new,
      context.Apart (leg.Through context) later earlier) :
    Trail context onChain leg (more ++ new) pass next where
  path := hrest.path.trans hfirst.path
  children := Nat.le_trans hfirst.children hrest.children
  visits := by rw [hrest.visits, hfirst.visits, List.append_assoc]
  fresh visit hmem := (List.mem_append.mp hmem).elim (hrest.fresh visit) (hfirst.fresh visit)
  placed visit hmem := by
    rcases List.mem_append.mp hmem with hmem | hmem
    · obtain ⟨inward, hruns, hlies⟩ := hrest.placed visit hmem
      rw [hfirst.path] at hlies
      exact ⟨inward, hruns, hlies.mono hfirst.children (Nat.le_refl _)⟩
    · obtain ⟨inward, hruns, hlies⟩ := hfirst.placed visit hmem
      exact ⟨inward, hruns, hlies.mono (Nat.le_refl _) hrest.children⟩
  apart := List.pairwise_append.mpr ⟨hrest.apart, hfirst.apart, hcross⟩

/-- Nothing else is visited. -/
theorem andThen (hfirst : Trail context onChain leg new pass middle)
    (hrest : Trail context onChain leg [] middle next) :
    Trail context onChain leg new pass next :=
  hfirst.append hrest (List.forall_mem_nil _)

theorem mono (h : Trail context wider first new pass next) (hchain : onChain ⊆ wider)
    (hwithin : first.Within context leg) : Trail context onChain leg new pass next where
  path := h.path
  children := h.children
  visits := h.visits
  fresh visit hmem hon := h.fresh visit hmem (hchain hon)
  placed visit hmem := by
    obtain ⟨inward, hruns, hlies⟩ := h.placed visit hmem
    exact ⟨inward, hwithin.runs hruns, hlies⟩
  apart := by
    refine h.apart.imp fun hapart hsame hprefix => ?_
    obtain ⟨fork, inward, hthrough, hfork⟩ := hapart hsame hprefix
    exact ⟨fork, inward, hwithin.through hthrough, hfork⟩

/-- One piece of the way is followed by another. Only a fork leads along both to the same
node in sight. -/
theorem followedBy (hfirst : Trail context onChain first new pass middle)
    (hrest : Trail context onChain rest more middle next) (hwithin : first.Within context leg)
    (hwithin' : rest.Within context leg)
    (hfork : ∀ {inward id}, first.Runs context false id → rest.Runs context inward id →
      ∃ fork, leg.Through context fork ∧ context.Forks inward fork id) :
    Trail context onChain leg (more ++ new) pass next := by
  have hsub := List.Subset.refl onChain
  refine (hfirst.mono hsub hwithin).append (hrest.mono hsub hwithin') ?_
  intro later hlater earlier hearlier hsame hprefix
  obtain ⟨_, hruns, hlies⟩ := hfirst.placed earlier hearlier
  obtain ⟨inward, hruns', hlies'⟩ := hrest.placed later hlater
  rw [hfirst.path] at hlies'
  obtain ⟨rfl, hlevel⟩ := hlies.level_of_prefix hlies' hprefix
  obtain ⟨fork, hthrough, hfork⟩ := hfork (hsame ▸ hruns) hruns'
  exact ⟨fork, inward, hthrough, hfork, hlevel⟩

/-- What is visited in a block inside. -/
theorem inside {id : NodeId} {exit : String} {last inner : Pass}
    (h : Trail context onChain (.follow id exit) new pass.openChild last)
    (hclosed : last.Still [] inner)
    (hlaid : (inner.backTo pass.block).Still inner.block.content next) :
    Trail context onChain (.blocks id [exit]) new pass next where
  path := hlaid.path
  children := by
    rw [hlaid.children]
    exact Nat.le_succ _
  visits := by
    calc context.visits next.events
        = context.visits inner.events := hlaid.visits_eq
      _ = context.visits last.events := hclosed.visits_eq
      _ = new ++ context.visits pass.events := h.visits
  fresh := h.fresh
  placed visit hmem := by
    obtain ⟨inward, hruns, hlies⟩ := h.placed visit hmem
    refine ⟨true, ⟨rfl, exit, List.mem_singleton_self _, inward, hruns⟩, ?_⟩
    refine .inside (Nat.le_refl _) ?_ hlies.within
    rw [hlaid.children]
    exact Nat.lt_succ_self _
  apart := by
    refine h.apart.imp fun hapart hsame hprefix => ?_
    obtain ⟨fork, inward, hthrough, hfork⟩ := hapart hsame hprefix
    rcases hthrough with ⟨_, hitems⟩ | ⟨deeper, hruns⟩
    · cases hitems
    · exact ⟨fork, inward, .inr ⟨true, rfl, exit, List.mem_singleton_self _, deeper, hruns⟩, hfork⟩

theorem stores {id : NodeId} {binds : Bool} (h : pass.Stores id binds next) :
    Trail context onChain leg [] pass next := by
  cases h with
  | kept still => exact of_still still
  | bound before _ after => exact ((of_still before).andThen (write _ _ _)).andThen (of_still after)

end Trail

open Trail in
/-- No node of the flow is visited on an errand. -/
theorem Errand.trail {context : Context} {onChain : List NodeId} {leg : Leg} {consumer : NodeId}
    {pass next : Pass} (h : Errand context consumer pass next) :
    Trail context onChain leg [] pass next := by
  induction h with
  | still still => exact of_still still
  | trans _ _ ihfirst ihrest => exact ihfirst.andThen ihrest
  | refused => exact log _ rfl
  | @fresh _ node _ pass _ _ hosts demand _ _ stored ih =>
      have hinitiated : Trail context onChain leg [] pass (pass.initiate node.id) :=
        of_still (.initiate pass node.id)
      have hentered := hinitiated.andThen (enterOnDemand _ (hosts.isOnDemand_eq.trans demand))
      exact ((hentered.andThen ih).andThen (stores stored)).andThen (leave _ _)
  | again hosts demand _ _ _ _ _ stored ih =>
      have hentered := (enterOnDemand _ (hosts.isOnDemand_eq.trans demand)).andThen ih
      exact (hentered.andThen (stores stored)).andThen (leave _ _)

open Trail in
/-- What is visited along a route is where the route leads, and two visits of a node are
in sight of each other only behind a fork. -/
theorem Route.trail {context : Context} {onChain : List NodeId} {leg : Leg} {pass next : Pass}
    (h : Route context onChain leg pass next) (hfits : leg.Fits context) :
    ∃ new, Trail context onChain leg new pass next := by
  induction h with
  | turnBack => exact ⟨[], log _ rfl⟩
  | @chain _ node _ pass _ _ _ _ new hosts flow taken stored _ _ ihexits ihonward =>
      obtain ⟨inner, hexits⟩ := ihexits (Leg.fits_leg hosts)
      obtain ⟨after, honward⟩ := ihonward trivial
      have hstart := ((enter pass (hosts.isOnDemand_eq.trans flow) new).andThen
        taken.trail).andThen (stores stored)
      have hrest := (hexits.andThen (leave _ node.id)).followedBy honward (.leg hosts)
        (.onward hosts) fun hlevel ⟨_, hnext, _⟩ =>
          absurd hlevel (Leg.not_runs_of_nextOf hnext)
      -- The node itself is on the chain from here on, and not visited again.
      refine ⟨_, hstart.append (hrest.mono (List.subset_cons_self _ _) (.refl _)) ?_⟩
      intro later hmem earlier hfirst hsame
      refine absurd ?_ (hrest.fresh later hmem)
      rw [hsame, List.mem_singleton.mp hfirst]
      exact List.mem_cons_self ..
  | stop => exact ⟨[], refl _⟩
  | goOn _ ih =>
      obtain ⟨new, hrest⟩ := ih trivial
      exact ⟨new, hrest.mono (List.Subset.refl _) (.goOn _)⟩
  | unconnected => exact ⟨[], refl _⟩
  | followed connected _ ih =>
      obtain ⟨new, hchain⟩ := ih trivial
      exact ⟨new, hchain.mono (List.Subset.refl _) (.followed connected)⟩
  | noItems => exact ⟨[], refl _⟩
  | moreItems _ _ ihfirst ihothers =>
      obtain ⟨horder, node, hhosts, rfl, hcounted⟩ := hfits
      obtain ⟨hearliest, hordered⟩ := List.pairwise_cons.mp horder
      obtain ⟨new, hfirst⟩ := ihfirst trivial
      obtain ⟨more, hothers⟩ := ihothers ⟨hordered, node, hhosts, rfl, fun other hmem =>
        hcounted other (List.mem_cons_of_mem _ hmem)⟩
      refine ⟨_, hfirst.followedBy hothers (.firstItem _ _ _) (.otherItems _ _ _) ?_⟩
      rintro inward id hstraight ⟨other, hmem, hagain⟩
      have hcounted := hcounted other (List.mem_cons_of_mem _ hmem)
      exact ⟨_, .inl ⟨_, rfl⟩, node, _, other, hhosts, rfl, hearliest other hmem, hcounted,
        hstraight, hagain⟩
  | lacking => exact ⟨[], refl _⟩
  | noBlocks => exact ⟨[], refl _⟩
  | moreBlocks _ closed laid _ ihfollow ihothers =>
      obtain ⟨new, hfollow⟩ := ihfollow trivial
      obtain ⟨more, hothers⟩ := ihothers trivial
      refine ⟨_, (hfollow.inside closed laid).followedBy hothers (.blocks _ ?_) (.blocks _ ?_) ?_⟩
      · exact List.cons_subset.mpr ⟨List.mem_cons_self .., List.nil_subset _⟩
      · exact List.subset_cons_self _ _
      · exact fun hinside => absurd hinside.1 Bool.false_ne_true

/-! ## Tours -/

/-- The flow leads from a root to a node. -/
def Context.Reaches (context : Context) (id : NodeId) : Prop :=
  ∃ root ∈ context.roots, ∃ inward, context.Runs inward root id

/-- Two visits of a node are in sight of each other only behind a fork that a root leads to. -/
theorem Tour.apart {context : Context} (hwired : context.Wired) {index : Nat}
    {roots : List NodeId} {written : List Written} {pass next : Pass}
    (h : Tour context index roots written pass next) (hroots : roots ⊆ context.roots)
    (hearlier : ∀ visit ∈ context.visits pass.events, ∃ earlier < index, [earlier] <+: visit.2)
    (hapart : (context.visits pass.events).Pairwise (context.Apart context.Reaches)) :
    (context.visits next.events).Pairwise (context.Apart context.Reaches) := by
  induction h with
  | done => exact hapart
  | @root index root rest _ pass middle _ first _ ih =>
      have hroot := hroots (List.mem_cons_self ..)
      have hroute := first.routed hwired (hwired.isFlow_of_mem_roots hroot)
      obtain ⟨new, htrail⟩ := hroute.trail trivial
      have hvisits : context.visits middle.events = new ++ context.visits pass.events :=
        htrail.visits
      have hinside : ∀ visit ∈ new, [index] <+: visit.2 := by
        intro visit hmem
        obtain ⟨_, _, hlies⟩ := htrail.placed visit hmem
        exact hlies.within
      apply ih (List.Subset.trans (List.subset_cons_self _ _) hroots)
      · intro visit hmem
        rw [hvisits] at hmem
        rcases List.mem_append.mp hmem with hmem | hmem
        · exact ⟨index, Nat.lt_succ_self _, hinside visit hmem⟩
        · obtain ⟨earlier, hlt, hprefix⟩ := hearlier visit hmem
          exact ⟨earlier, Nat.lt_succ_of_lt hlt, hprefix⟩
      · rw [hvisits]
        refine List.pairwise_append.mpr ⟨?_, hapart, ?_⟩
        · refine htrail.apart.imp fun hapart hsame hprefix => ?_
          obtain ⟨fork, inward, hthrough, hfork⟩ := hapart hsame hprefix
          rcases hthrough with ⟨_, hitems⟩ | ⟨depth, hruns⟩
          · cases hitems
          · exact ⟨fork, inward, ⟨root, hroot, depth, hruns⟩, hfork⟩
        · -- What other roots visited lies in blocks of theirs.
          intro later hlater visit hmem _ hprefix
          obtain ⟨earlier, hlt, hwithin⟩ := hearlier visit hmem
          have hsame : [earlier] = [index] := (List.prefix_of_prefix_length_le
            (hwithin.trans hprefix) (hinside later hlater) (by simp)).eq_of_length (by simp)
          rw [List.singleton_inj] at hsame
          omega

/-- Two emissions of a node of the flow, the earlier in sight of the later. -/
theorem Context.exists_fork {context : Context} {through : NodeId → Prop} {events : List Event}
    (hapart : (context.visits events).Pairwise (context.Apart through)) {id : NodeId}
    (hflow : context.isOnDemand id = false) {earlier later : ScopePath} {before : List Event}
    (hlater : (.entered id later :: before) <:+ events) (hearlier : .entered id earlier ∈ before)
    (hsight : earlier <+: later) :
    ∃ fork inward, through fork ∧ context.Forks inward fork id ∧
      (inward = false → later = earlier) := by
  have hvisit : ∀ scope, (Event.entered id scope).visit? context = some (id, scope) := by
    intro scope
    rw [Event.visit?, hflow]
    rfl
  have hsuffix : context.visits (.entered id later :: before) <:+ context.visits events :=
    hlater.filterMap _
  have hpairs := hapart.sublist hsuffix.sublist
  rw [visits, List.filterMap_cons_some (hvisit later)] at hpairs
  have hmem : (id, earlier) ∈ context.visits before :=
    List.mem_filterMap.mpr ⟨_, hearlier, hvisit earlier⟩
  exact (List.pairwise_cons.mp hpairs).1 _ hmem rfl hsight

end VisualScript
