import ShapeFlow.Graph.Order
import ShapeFlow.Proofs.Failure.Results
import ShapeFlow.Proofs.Store.Growth

/-!
# What is available to a node

The order check walks the nodes with the list of ids that are available. It accepts a graph exactly
when the graph is ordered (`Graph.checkOrder_eq_ok_iff`). Where it refuses one, an ordered front of
the node list lies before the node at fault, and the blame goes to the first operand of this node
that is not available (`Graph.checkOrder_of_node`), or to the first output that nothing produces
(`Graph.checkOrder_of_output`).
-/

set_option autoImplicit false

namespace ShapeFlow.Graph

variable {g : Graph} {available ids : List ValueId} {id : ValueId}

theorem firstMissing?_cons (available : List ValueId) (id : ValueId) (rest : List ValueId) :
    firstMissing? available (id :: rest) =
      if id ∈ available then firstMissing? available rest else some id := by
  unfold firstMissing?
  by_cases h : id ∈ available <;> simp [h]

theorem firstMissing?_eq_none_iff :
    firstMissing? available ids = none ↔ ∀ id ∈ ids, id ∈ available := by
  simp [firstMissing?]

theorem produced_cons (node : Node) (rest : List Node) :
    produced (node :: rest) = node.outputs ++ produced rest := by
  simp [produced]

theorem produced_append (front back : List Node) :
    produced (front ++ back) = produced front ++ produced back := by
  simp [produced]

theorem orderedFrom_append (front back : List Node) (available : List ValueId) :
    OrderedFrom available (front ++ back) ↔
      OrderedFrom available front ∧ OrderedFrom (available ++ produced front) back := by
  induction front generalizing available with
  | nil => simp [OrderedFrom, produced]
  | cons node rest ih =>
    simp only [List.cons_append, OrderedFrom, ih, produced_cons, List.append_assoc, and_assoc]

/-- What is available may be more. -/
theorem OrderedFrom.mono {more : List ValueId} {nodes : List Node}
    (hsub : ∀ id ∈ available, id ∈ more) (h : OrderedFrom available nodes) :
    OrderedFrom more nodes := by
  induction nodes generalizing available more with
  | nil => trivial
  | cons node rest ih =>
    obtain ⟨hnode, hrest⟩ := h
    refine ⟨fun id hid => hsub id (hnode id hid), ih ?_ hrest⟩
    intro id hid
    rcases List.mem_append.1 hid with hbefore | houtput
    · exact List.mem_append_left _ (hsub id hbefore)
    · exact List.mem_append_right _ houtput

/-- The walk gets through ordered nodes, and their results are available behind them. -/
theorem checkNodes_of_orderedFrom {front : List Node} (h : OrderedFrom available front)
    (index : Nat) (back : List Node) :
    g.checkNodes index available (front ++ back) =
      g.checkNodes (index + front.length) (available ++ produced front) back := by
  induction front generalizing index available with
  | nil => simp [produced]
  | cons node rest ih =>
    obtain ⟨hnode, hrest⟩ := h
    -- the first node lacks nothing, so the walk goes on with its outputs available
    rw [List.cons_append, checkNodes, firstMissing?_eq_none_iff.2 hnode]
    rw [ih hrest, produced_cons, List.append_assoc, List.length_cons, Nat.add_assoc,
      Nat.add_comm 1]

theorem checkNodes_nil (index : Nat) : g.checkNodes index available [] = .ok available := rfl

theorem checkNodes_of_firstMissing? {index : Nat} {node : Node} {back : List Node}
    (h : firstMissing? available node.inputs = some id) :
    g.checkNodes index available (node :: back) =
      .error (g.nameOf.blame id (.consumedEarly index node.kind)) := by
  rw [checkNodes, h]
  exact g.nameOf.fail_eq_blame id (.consumedEarly index node.kind)

/-- A list of nodes is ordered, or splits at the first node that lacks an operand. -/
theorem orderedFrom_or_exists (available : List ValueId) (nodes : List Node) :
    OrderedFrom available nodes ∨
      ∃ front node back id, nodes = front ++ node :: back ∧ OrderedFrom available front ∧
        firstMissing? (available ++ produced front) node.inputs = some id := by
  induction nodes generalizing available with
  | nil => exact Or.inl trivial
  | cons node rest ih =>
    cases hmiss : firstMissing? available node.inputs with
    | some id => exact Or.inr ⟨[], node, rest, id, rfl, trivial, by simpa [produced] using hmiss⟩
    | none =>
      have hnode := firstMissing?_eq_none_iff.1 hmiss
      -- the split of the rest is a split of the whole, with this node at the end of the front
      rcases ih (available ++ node.outputs) with h | ⟨front, next, back, id, rfl, hfront, hid⟩
      · exact Or.inl ⟨hnode, h⟩
      · refine Or.inr ⟨node :: front, next, back, id, rfl, ⟨hnode, hfront⟩, ?_⟩
        rw [produced_cons, ← List.append_assoc]
        exact hid

/-- The check blames the first operand that is not available at its node. -/
theorem checkOrder_of_node {front back : List Node} {node : Node}
    (hnodes : g.nodes = front ++ node :: back) (hfront : OrderedFrom g.inputs front)
    (hid : firstMissing? (g.inputs ++ produced front) node.inputs = some id) :
    g.checkOrder = .error (g.nameOf.blame id (.consumedEarly front.length node.kind)) := by
  rw [checkOrder, hnodes, checkNodes_of_orderedFrom hfront, Nat.zero_add,
    checkNodes_of_firstMissing? hid]
  rfl

/-- If all nodes have their operands, the check blames the first output that nothing produces. -/
theorem checkOrder_of_output (hnodes : OrderedFrom g.inputs g.nodes)
    (hid : firstMissing? (g.inputs ++ produced g.nodes) g.outputs = some id) :
    g.checkOrder = .error (g.nameOf.blame id .neverProduced) := by
  have hwalk := checkNodes_of_orderedFrom (g := g) hnodes 0 []
  rw [List.append_nil, checkNodes_nil] at hwalk
  rw [checkOrder, hwalk, except_ok_bind, hid]
  exact g.nameOf.fail_eq_blame id .neverProduced

theorem checkOrder_of_ordered (h : g.Ordered) : g.checkOrder = .ok () := by
  have hwalk := checkNodes_of_orderedFrom (g := g) h.1 0 []
  rw [List.append_nil, checkNodes_nil] at hwalk
  rw [checkOrder, hwalk, except_ok_bind, firstMissing?_eq_none_iff.2 h.2]

/-- **The order check accepts exactly the ordered graphs.** -/
theorem checkOrder_eq_ok_iff : g.checkOrder = .ok () ↔ g.Ordered := by
  refine ⟨fun h => ?_, checkOrder_of_ordered⟩
  rcases orderedFrom_or_exists g.inputs g.nodes with hord | ⟨front, node, back, id, hn, hf, hid⟩
  · refine ⟨hord, firstMissing?_eq_none_iff.1 ?_⟩
    cases hmiss : firstMissing? (g.inputs ++ produced g.nodes) g.outputs with
    | none => rfl
    | some id =>
      rw [checkOrder_of_output hord hmiss] at h
      cases h
  · rw [checkOrder_of_node hn hf hid] at h
    cases h

/-- What the check refuses a graph for: a use that comes too early, or the fault of naming it. -/
theorem checkOrder_eq_error {e : Failure} (h : g.checkOrder = .error e) :
    ∃ id cause, e = g.nameOf.blame id cause ∧ ∀ name, (cause name).category = .order := by
  rcases orderedFrom_or_exists g.inputs g.nodes with hord | ⟨front, node, back, id, hn, hf, hid⟩
  · cases hmiss : firstMissing? (g.inputs ++ produced g.nodes) g.outputs with
    | none =>
      rw [checkOrder_of_ordered ⟨hord, firstMissing?_eq_none_iff.1 hmiss⟩] at h
      cases h
    | some id =>
      rw [checkOrder_of_output hord hmiss] at h
      cases h
      exact ⟨id, _, rfl, fun _ => rfl⟩
  · rw [checkOrder_of_node hn hf hid] at h
    cases h
    exact ⟨id, _, rfl, fun _ => rfl⟩

end ShapeFlow.Graph
