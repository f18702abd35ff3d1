import VisualScript.Proofs.Pass.Walk

/-!
# Parts of a graph

A part of a graph that no connection leaves. What a pass reads about the nodes of such
a part is the same in the graph and in the part alone, and leads to nodes of the part.
-/

namespace VisualScript

namespace Graph

/-- The part of a graph with some of its nodes, and the connections between them. -/
def restrict (graph : Graph) (members : NodeId → Bool) : Graph :=
  { graph with
    nodes := graph.nodes.filter fun node => members node.id
    connections := graph.connections.filter fun connection =>
      members connection.source && members connection.target }

/-- No connection joins a node of a part with another node. -/
def Splits (graph : Graph) (members : NodeId → Bool) : Prop :=
  ∀ connection ∈ graph.connections, members connection.source = members connection.target

instance (graph : Graph) (members : NodeId → Bool) : Decidable (graph.Splits members) :=
  inferInstanceAs (Decidable (∀ connection ∈ graph.connections, _ = _))

variable {graph : Graph} {members : NodeId → Bool} {id : NodeId}

/-- The other nodes are a part that no connection leaves, too. -/
theorem Splits.others (h : graph.Splits members) : graph.Splits fun id => !members id := by
  intro connection hmem
  exact congrArg (!·) (h connection hmem)

theorem node?_restrict (hid : members id = true) :
    (graph.restrict members).node? id = graph.node? id := by
  unfold node? restrict
  rw [List.find?_filter]
  congr 1
  funext node
  by_cases hnode : node.id = id
  · simp [hnode, hid]
  · simp [hnode]

theorem outgoing_restrict (h : graph.Splits members) (hid : members id = true) (output : String) :
    (graph.restrict members).outgoing id output = graph.outgoing id output := by
  unfold outgoing restrict
  rw [List.filter_filter]
  apply List.filter_congr
  intro connection hmem
  have hsame := h connection hmem
  by_cases hsource : connection.source = id
  · simp [hsource, ← hsame, hid]
  · simp [hsource]

theorem incoming_restrict (h : graph.Splits members) (hid : members id = true) (input : String) :
    (graph.restrict members).incoming id input = graph.incoming id input := by
  unfold incoming restrict
  rw [List.filter_filter]
  apply List.filter_congr
  intro connection hmem
  have hsame := h connection hmem
  by_cases htarget : connection.target = id
  · simp [htarget, hsame, hid]
  · simp [htarget]

theorem firstOutgoing?_restrict (h : graph.Splits members) (hid : members id = true)
    (output : String) :
    (graph.restrict members).firstOutgoing? id output = graph.firstOutgoing? id output := by
  rw [firstOutgoing?, outgoing_restrict h hid]
  rfl

theorem firstIncoming?_restrict (h : graph.Splits members) (hid : members id = true)
    (input : String) :
    (graph.restrict members).firstIncoming? id input = graph.firstIncoming? id input := by
  rw [firstIncoming?, incoming_restrict h hid]
  rfl

/-- Exits of a part lead to nodes of the part. -/
theorem Splits.target_of_firstOutgoing? (h : graph.Splits members) (hid : members id = true)
    {output : String} {connection : Connection}
    (hfound : graph.firstOutgoing? id output = some connection) :
    members connection.target = true := by
  have hmem := List.mem_filter.mp (List.mem_of_mem_head? hfound)
  have hsource : connection.source = id := by simpa using (Bool.and_eq_true_iff.mp hmem.2).1
  rw [← h connection hmem.1, hsource, hid]

/-- Inputs of a part are fed by nodes of the part. -/
theorem Splits.source_of_firstIncoming? (h : graph.Splits members) (hid : members id = true)
    {input : String} {connection : Connection}
    (hfound : graph.firstIncoming? id input = some connection) :
    members connection.source = true := by
  have hmem := List.mem_filter.mp (List.mem_of_mem_head? hfound)
  have htarget : connection.target = id := by simpa using (Bool.and_eq_true_iff.mp hmem.2).1
  rw [h connection hmem.1, htarget, hid]

theorem size_restrict_le (graph : Graph) (members : NodeId → Bool) :
    (graph.restrict members).size ≤ graph.size :=
  List.length_filter_le _ _

end Graph

namespace Context

/-- The context of the part of a graph with some of its nodes. -/
def restrict (context : Context) (members : NodeId → Bool) : Context :=
  { context with graph := context.graph.restrict members }

variable {context : Context} {members : NodeId → Bool} {id : NodeId}

theorem roots_restrict (context : Context) (members : NodeId → Bool) :
    (context.restrict members).roots = context.roots.filter members := by
  unfold roots restrict Graph.restrict
  dsimp only
  rw [List.filter_map, List.filter_filter, List.filter_filter]
  congr 1
  apply List.filter_congr
  intro node _
  exact Bool.and_comm _ _

theorem component?_restrict (hid : members id = true) :
    (context.restrict members).component? id = context.component? id := by
  unfold component? restrict
  dsimp only
  rw [Graph.node?_restrict hid]

theorem literalType?_restrict (hid : members id = true) :
    (context.restrict members).literalType? id = context.literalType? id := by
  unfold literalType?
  rw [component?_restrict hid]
  rfl

theorem isOnDemand_restrict (hid : members id = true) :
    (context.restrict members).isOnDemand id = context.isOnDemand id := by
  rw [isOnDemand, component?_restrict hid]
  rfl

section Splits

variable (hsplits : context.graph.Splits members) (hid : members id = true)

include hsplits hid

theorem uses_restrict : (context.restrict members).uses id = context.uses id :=
  congrArg List.length (Graph.outgoing_restrict hsplits hid _)

theorem feed_restrict (key : String) :
    (context.restrict members).feed id key = context.feed id key := by
  unfold feed Surroundings.parameterName? restrict
  dsimp only
  rw [Graph.firstIncoming?_restrict hsplits hid]
  cases hfound : context.graph.firstIncoming? id key with
  | none => rfl
  | some connection =>
      have hsource := hsplits.source_of_firstIncoming? hid hfound
      dsimp only
      rw [Graph.node?_restrict hsource]
      simp only [Graph.firstIncoming?_restrict hsplits hsource]

theorem source_of_feed {key : String} {source : NodeId}
    (h : context.feed id key = .value source) : members source = true := by
  unfold feed at h
  split at h
  next => cases h
  next connection hfound =>
    have hsource := hsplits.source_of_firstIncoming? hid hfound
    split at h
    next => cases h
    next =>
      split at h
      next =>
        split at h
        next => cases h
        next => cases h
      next =>
        cases h
        exact hsource

end Splits

theorem wiring_restrict (hsplits : context.graph.Splits members) {node : Node}
    (hid : members node.id = true) (index : Nat) :
    (context.restrict members).wiring node index = context.wiring node index := by
  unfold wiring
  rw [show (context.restrict members).graph = context.graph.restrict members from rfl,
    Graph.firstIncoming?_restrict hsplits hid]
  cases hfound : context.graph.firstIncoming? node.id (numbered keys.argument index) with
  | none => rfl
  | some connection =>
      have hsource := hsplits.source_of_firstIncoming? hid hfound
      dsimp only
      rw [literalType?_restrict hsource, Graph.node?_restrict hsource]

/-- A literal that is wired into a function of a part is a node of the part. -/
theorem member_of_wiring (hsplits : context.graph.Splits members) {node literal : Node}
    (hid : members node.id = true) {index : Nat} {source : NodeId} {type : LanguageType}
    (h : context.wiring node index = .byLiteral source type literal) :
    literal.id = source ∧ members source = true := by
  unfold wiring at h
  split at h
  next connection hfound =>
    split at h
    next found _ _ hnode =>
      rw [Wiring.byLiteral.injEq] at h
      obtain ⟨rfl, rfl, rfl⟩ := h
      exact ⟨Graph.id_of_node? hnode, hsplits.source_of_firstIncoming? hid hfound⟩
    next => cases h
  next =>
    split at h
    next => cases h
    next => cases h

end Context

end VisualScript
