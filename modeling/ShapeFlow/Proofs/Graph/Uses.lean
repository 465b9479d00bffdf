import ShapeFlow.Proofs.Pass.NodeStep

/-!
# The first use that comes too early

A graph uses values as operands of its nodes and as its outputs (`Graph.used?`). These uses have an
order: node by node, the operands of a node as they stand, and the graph outputs behind all nodes
(`Use.Before`). A use is met if its value is a graph input or an output of an earlier node, of any
node for a graph output (`Graph.Met`).

The order check walks over lists and holds what is available, without a word of places. It accepts
exactly the graphs all of whose uses are met, and what it raises otherwise is on the first use that
is not (`Graph.FirstUnmet`, `Graph.checkOrder_finds_first_unmet`).
-/

set_option autoImplicit false

namespace ShapeFlow

/-- A place at which a graph uses a value: an operand of a node, by the numbers of the node and of
the operand, or a graph output. -/
inductive Use where
  | operand (node place : Nat)
  | output (place : Nat)
  deriving DecidableEq, Repr

namespace Use

/-- The number of the node that uses the value, if it is a node. -/
def node? : Use → Option Nat
  | operand k _ => some k
  | output _ => none

/-- A use comes before another. -/
def Before : Use → Use → Prop
  | operand k i, operand l j => k < l ∨ k = l ∧ i < j
  | operand _ _, output _ => True
  | output _, operand _ _ => False
  | output i, output j => i < j

end Use

namespace Graph

/-- The value that a graph uses at a place. -/
def used? (g : Graph) : Use → Option ValueId
  | .operand k i => g.nodes[k]?.bind fun node => node.inputs[i]?
  | .output i => g.outputs[i]?

/-- A value is there for a use. -/
def Met (g : Graph) : Use → ValueId → Prop
  | .operand k _, id =>
    id ∈ g.inputs ∨ ∃ j < k, ∃ node, g.nodes[j]? = some node ∧ id ∈ node.outputs
  | .output _, id => id ∈ g.inputs ∨ ∃ node ∈ g.nodes, id ∈ node.outputs

/-- The first use, and its value, for which the value is not there. -/
structure FirstUnmet (g : Graph) (use : Use) (id : ValueId) : Prop where
  used : g.used? use = some id
  unmet : ¬ g.Met use id
  first : ∀ earlier k, earlier.Before use → g.used? earlier = some k → g.Met earlier k

/-- What is raised for a use: a report with the name of the value, and with the number of the node
that uses it if it is a node, or the fault of a value that the table has no row for. -/
inductive RaisedFor (g : Graph) (use : Use) (id : ValueId) : Failure → Prop where
  | named {name : String} {r : Report} : g.nameOf id = .ok name → r.category = .order →
      r.context.lookup "value" = some (.text name) →
        r.context.lookup "node_index" = use.node?.map Issue.count → RaisedFor g use id (.report r)
  | unnamed : ¬ g.HasRow id → RaisedFor g use id (.fault .indexOutOfRange)

variable {g : Graph} {available ids : List ValueId} {id : ValueId} {nodes front back : List Node}
  {node : Node} {use : Use}

/-! ## Places in lists -/

theorem firstMissing?_eq_some_iff :
    firstMissing? available ids = some id ↔
      id ∉ available ∧ ∃ i : Nat, ids[i]? = some id ∧
        ∀ j < i, ∀ k, ids[j]? = some k → k ∈ available := by
  unfold firstMissing?
  rw [List.find?_eq_some_iff_getElem]
  simp only [List.contains_iff_mem, Bool.not_eq_eq_eq_not, Bool.not_true, Bool.not_not]
  constructor
  · rintro ⟨hid, i, hi, rfl, hbefore⟩
    refine ⟨by simpa using hid, i, List.getElem?_eq_getElem hi, fun j hj k hk => ?_⟩
    obtain ⟨hlt, rfl⟩ := List.getElem?_eq_some_iff.1 hk
    exact hbefore j hj
  · rintro ⟨hid, i, hi, hbefore⟩
    obtain ⟨hlt, rfl⟩ := List.getElem?_eq_some_iff.1 hi
    refine ⟨by simpa using hid, i, hlt, rfl, fun j hj => ?_⟩
    have hjlt : j < ids.length := Nat.lt_trans hj hlt
    exact hbefore j hj ids[j] (List.getElem?_eq_getElem hjlt)

theorem mem_produced_iff : id ∈ produced nodes ↔ ∃ node ∈ nodes, id ∈ node.outputs :=
  List.mem_flatMap

theorem mem_produced_take_iff {k : Nat} :
    id ∈ produced (nodes.take k) ↔
      ∃ j < k, ∃ node, nodes[j]? = some node ∧ id ∈ node.outputs := by
  rw [mem_produced_iff]
  constructor
  · rintro ⟨node, hnode, hid⟩
    obtain ⟨j, hj⟩ := List.mem_iff_getElem?.1 hnode
    rw [List.getElem?_take] at hj
    split at hj
    · exact ⟨j, ‹j < k›, node, hj, hid⟩
    · cases hj
  · rintro ⟨j, hlt, node, hj, hid⟩
    refine ⟨node, List.mem_iff_getElem?.2 ⟨j, ?_⟩, hid⟩
    rw [List.getElem?_take, if_pos hlt, hj]

/-- Nodes are ordered if each operand is available behind the nodes before its node. -/
theorem orderedFrom_iff :
    OrderedFrom available nodes ↔
      ∀ (k : Nat) (node : Node), nodes[k]? = some node →
        ∀ id ∈ node.inputs, id ∈ available ++ produced (nodes.take k) := by
  induction nodes generalizing available with
  | nil => simp [OrderedFrom]
  | cons first rest ih =>
    -- the first node by itself, and the others with its outputs available
    rw [OrderedFrom, ih]
    constructor
    · rintro ⟨hfirst, hrest⟩ k node hk id hid
      cases k with
      | zero =>
        cases hk
        exact List.mem_append_left _ (hfirst id hid)
      | succ k =>
        rw [List.take_succ_cons, produced_cons, ← List.append_assoc]
        exact hrest k node hk id hid
    · intro h
      refine ⟨fun id hid => ?_, fun k node hk id hid => ?_⟩
      · simpa [produced] using h 0 first rfl id hid
      · have hbehind := h (k + 1) node hk id hid
        rwa [List.take_succ_cons, produced_cons, ← List.append_assoc] at hbehind

theorem met_operand_iff {k i : Nat} :
    g.Met (.operand k i) id ↔ id ∈ g.inputs ++ produced (g.nodes.take k) := by
  rw [List.mem_append, mem_produced_take_iff]
  rfl

theorem met_output_iff {i : Nat} : g.Met (.output i) id ↔ id ∈ g.inputs ++ produced g.nodes := by
  rw [List.mem_append, mem_produced_iff]
  rfl

/-! ## The order of uses -/

/-- A graph is ordered exactly if all of its uses are met. -/
theorem ordered_iff :
    g.Ordered ↔
      (∀ (k : Nat) (node : Node), g.nodes[k]? = some node → ∀ id ∈ node.inputs,
          id ∈ g.inputs ∨ ∃ j < k, ∃ earlier, g.nodes[j]? = some earlier ∧ id ∈ earlier.outputs) ∧
        ∀ id ∈ g.outputs, id ∈ g.inputs ∨ ∃ node ∈ g.nodes, id ∈ node.outputs := by
  unfold Ordered
  rw [orderedFrom_iff]
  simp only [List.mem_append, mem_produced_take_iff]
  simp only [mem_produced_iff]

/-- The operands of ordered nodes are met. -/
theorem met_of_orderedFrom {k i : Nat} (hnodes : g.nodes = front ++ back)
    (hfront : OrderedFrom g.inputs front) (hk : k < front.length)
    (hused : g.used? (.operand k i) = some id) : g.Met (.operand k i) id := by
  have htake : g.nodes.take k = front.take k := by
    rw [hnodes, List.take_append_of_le_length (Nat.le_of_lt hk)]
  rw [used?, hnodes, List.getElem?_append_left hk] at hused
  obtain ⟨node, hnode, hid⟩ := Option.bind_eq_some_iff.1 hused
  rw [met_operand_iff, htake]
  exact orderedFrom_iff.1 hfront k node hnode id (List.mem_of_getElem? hid)

/-- The first missing operand of the node behind ordered ones is the first use that is not met. -/
theorem exists_firstUnmet_of_node (hnodes : g.nodes = front ++ node :: back)
    (hfront : OrderedFrom g.inputs front)
    (hid : firstMissing? (g.inputs ++ produced front) node.inputs = some id) :
    ∃ i, g.FirstUnmet (.operand front.length i) id := by
  obtain ⟨hmissing, i, hi, hbefore⟩ := firstMissing?_eq_some_iff.1 hid
  have hhere : g.nodes[front.length]? = some node := by
    simp [hnodes]
  have htake : g.nodes.take front.length = front := by
    rw [hnodes, List.take_left]
  have hused : ∀ j, g.used? (.operand front.length j) = node.inputs[j]? := by
    intro j
    rw [used?, hhere, Option.bind_some]
  refine ⟨i, by rw [hused, hi], by rwa [met_operand_iff, htake], ?_⟩
  rintro (⟨k, j⟩ | j) id' hearlier huse
  · rcases hearlier with hk | ⟨rfl, hj⟩
    · exact met_of_orderedFrom hnodes hfront hk huse
    · rw [hused] at huse
      rw [met_operand_iff, htake]
      exact hbefore j hj id' huse
  · exact hearlier.elim

/-- If all nodes are ordered, the first missing output is the first use that is not met. -/
theorem exists_firstUnmet_of_output (hnodes : OrderedFrom g.inputs g.nodes)
    (hid : firstMissing? (g.inputs ++ produced g.nodes) g.outputs = some id) :
    ∃ i, g.FirstUnmet (.output i) id := by
  obtain ⟨hmissing, i, hi, hbefore⟩ := firstMissing?_eq_some_iff.1 hid
  refine ⟨i, hi, fun hmet => hmissing (met_output_iff.1 hmet), ?_⟩
  rintro (⟨k, j⟩ | j) id' hearlier huse
  · obtain ⟨node, hnode, -⟩ := Option.bind_eq_some_iff.1 huse
    have hk : k < g.nodes.length := (List.getElem?_eq_some_iff.1 hnode).1
    exact met_of_orderedFrom (List.append_nil _).symm hnodes hk huse
  · exact met_output_iff.2 (hbefore j hearlier id' huse)

/-! ## What is raised -/

/-- To blame a value for a cause on its use is to raise what is due for the use. -/
theorem raisedFor_blame {cause : String → Issue}
    (h : ∀ name, (cause name).report.category = .order ∧
      (cause name).report.context.lookup "value" = some (.text name) ∧
        (cause name).report.context.lookup "node_index" = use.node?.map Issue.count) :
    g.RaisedFor use id (g.nameOf.blame id cause) := by
  by_cases hrow : g.HasRow id
  · obtain ⟨name, hname⟩ := nameOf_of_hasRow hrow
    obtain ⟨hcategory, hvalue, hindex⟩ := h name
    rw [Naming.blame_of_name hname]
    exact .named hname hcategory hvalue hindex
  · rw [Naming.blame, nameOf_of_not_hasRow hrow]
    exact .unnamed hrow

/-- **The order check accepts a graph exactly if each operand of each node is a graph input or an
output of an earlier node, and each graph output is a graph input or an output of some node.**
Otherwise it raises what is due for the first use that is not met. -/
theorem checkOrder_finds_first_unmet (g : Graph) :
    (g.checkOrder = .ok () ↔
      (∀ (k : Nat) (node : Node), g.nodes[k]? = some node → ∀ id ∈ node.inputs,
          id ∈ g.inputs ∨ ∃ j < k, ∃ earlier, g.nodes[j]? = some earlier ∧ id ∈ earlier.outputs) ∧
        ∀ id ∈ g.outputs, id ∈ g.inputs ∨ ∃ node ∈ g.nodes, id ∈ node.outputs) ∧
      ∀ e, g.checkOrder = .error e → ∃ use id, g.FirstUnmet use id ∧ g.RaisedFor use id e := by
  refine ⟨checkOrder_eq_ok_iff.trans ordered_iff, fun e he => ?_⟩
  rcases orderedFrom_or_exists g.inputs g.nodes with hnodes | ⟨front, node, back, id, hn, hf, hid⟩
  · cases hmiss : firstMissing? (g.inputs ++ produced g.nodes) g.outputs with
    | none =>
      rw [checkOrder_of_ordered ⟨hnodes, firstMissing?_eq_none_iff.1 hmiss⟩] at he
      cases he
    | some id =>
      rw [checkOrder_of_output hnodes hmiss] at he
      cases he
      obtain ⟨i, hfirst⟩ := exists_firstUnmet_of_output hnodes hmiss
      exact ⟨_, id, hfirst, raisedFor_blame fun name => ⟨rfl, rfl, rfl⟩⟩
  · rw [checkOrder_of_node hn hf hid] at he
    cases he
    obtain ⟨i, hfirst⟩ := exists_firstUnmet_of_node hn hf hid
    exact ⟨_, id, hfirst, raisedFor_blame fun name => ⟨rfl, rfl, rfl⟩⟩

/-- A node that consumes its own output is refused, for an operand that the table has no row for. -/
example :
    let node : Node := { kind := "aten::relu", inputs := [7], outputs := [7] }
    Graph.checkOrder { nodes := [node], outputs := [7] } = .error (.fault .indexOutOfRange) :=
  rfl

end Graph

end ShapeFlow
