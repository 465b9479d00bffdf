import ShapeFlow.Proofs.Session.OrderCheck
import ShapeFlow.Proofs.Session.OtherSettings

/-!
# Well-formed graphs

A graph is well-formed if it is ordered, no id stands twice among its inputs and results, and every
result has a row in the value table (`Graph.WellFormed`). On such a graph a pass cannot lack an
operand, write a value twice or fail to name a result. What is left to fail is what the graph cannot
know beforehand: the number of inputs, an input that is refused, and the rule of a node
(`Graph.WellFormed.judgement_of_failure`). So a session over a well-formed graph whose inputs have
rows as well raises nothing but the fault of a constant that does not convert
(`Graph.WellFormed.fault_of_raised`).
-/

set_option autoImplicit false

namespace ShapeFlow

/-- A report of a node is handed on with its number and operator. -/
theorem Failure.recoverable?_atNode (d : Failure) (k : Nat) (kind : String) :
    (d.atNode k kind).recoverable? = none ↔ d.recoverable? = none := by
  cases d with
  | fault f => exact Iff.rfl
  | report r =>
    by_cases hr : r.isRecoverable = true
    · have hsame : ((r.provide "node_index" (Issue.count k)).provide "node"
        (.text kind)).isRecoverable = true := hr
      simp [atNode, recoverable?, hr, hsame]
    · simp [atNode, recoverable?, hr]

theorem Failure.recoverable?_ne_none_of_ofNode {i : Issue} (h : i.OfNode) :
    i.failure.recoverable? ≠ none := by
  simp [Issue.failure, recoverable?, h.isRecoverable]

namespace Graph

/-- A graph that keeps what a pass relies on: values are produced before they are used and only
once, and each result has a row in the value table. -/
structure WellFormed (g : Graph) : Prop where
  ordered : g.Ordered
  distinct : (g.inputs ++ produced g.nodes).Nodup
  rows : ∀ id ∈ produced g.nodes, g.HasRow id

/-- The failures of a pass that the inputs and the rules decide. -/
inductive Judgement (g : Graph) (settings : PassSettings) (xs : List Datum) : Failure → Prop where
  | count : xs.length ≠ g.inputs.length →
      Judgement g settings xs (Issue.inputCount g.inputs.length xs.length).failure
  | input {id : ValueId} {x : Datum} {i : Issue} {position : Nat} :
      (id, x) ∈ g.inputs.zip xs → x.asMeta = .error i →
        Judgement g settings xs (.report (i.report.provide "position" (Issue.count position)))
  | rule {k : Nat} {node : Node} {t : Store} {operands : List Meta} {d : Failure} :
      g.nodes[k]? = some node → g.Reached settings xs k t →
        node.inputs.map t.find? = operands.map some →
          g.yield settings.unknownConstants node operands = .error d →
            Judgement g settings xs (d.atNode k node.kind)

variable {g : Graph} {settings : PassSettings} {xs : List Datum} {k : Nat} {node : Node}
  {s t : Store} {e : Failure}

theorem WellFormed.hasRow_of_output (hg : g.WellFormed) (hnode : node ∈ g.nodes) :
    ∀ id ∈ node.outputs, g.HasRow id := by
  intro id hid
  apply hg.rows
  exact List.mem_flatMap.2 ⟨node, hnode, hid⟩

/-- Where a pass arrives on a well-formed graph, a node fails by its rule or not at all. -/
theorem WellFormed.rule_of_stepFailure (hg : g.WellFormed) (hnode : g.nodes[k]? = some node)
    (hreached : g.Reached settings xs k s)
    (h : StepFailure g g.nameOf settings.unknownConstants node s e t) :
    ∃ operands, node.inputs.map s.find? = operands.map some ∧
      g.yield settings.unknownConstants node operands = .error e := by
  cases h with
  | operand hmiss =>
    rw [hreached.ids, hg.ordered.firstMissing?_eq_none hnode] at hmiss
    cases hmiss
  | rule hoperands hyield => exact ⟨_, hoperands, hyield⟩
  | result hoperands hobey hlen hwrite =>
    cases hwrite with
    | duplicate hpairs hid ht =>
      rw [hreached.ids] at hid
      exact absurd hg.distinct (not_nodup_of_result hnode hlen hpairs hid)
    | @unnamed front back id m _ hpairs hrow ht =>
      -- the pair at fault is one of the outputs of the node
      have hmem : (id, m) ∈ node.outputs.zip _ :=
        hpairs ▸ List.mem_append_right _ List.mem_cons_self
      have houtput := (List.of_mem_zip hmem).1
      exact absurd (hg.hasRow_of_output (List.mem_of_getElem? hnode) id houtput) hrow

/-- **On a well-formed graph only the inputs and the rules are judged.** -/
theorem WellFormed.judgement_of_failure (hg : g.WellFormed) (h : PassFailure g settings xs e s) :
    Judgement g settings xs e := by
  cases h with
  | count hcount => exact .count hcount
  | order hcount hverify hcheck =>
    rw [checkOrder_of_ordered hg.ordered] at hcheck
    cases hcheck
  | input hchecks hbind =>
    have hcount := (precheck_eq_ok_iff.1 hchecks).1
    cases hbind with
    | @refused front back id x i _ hpairs hfront hx =>
      have hmem : (id, x) ∈ g.inputs.zip xs :=
        hpairs ▸ List.mem_append_right _ List.mem_cons_self
      exact .input hmem hx
    | duplicate hpairs hfront hx hid =>
      rw [hfront.ids] at hid
      exact absurd hg.distinct (not_nodup_of_input hcount hpairs hid)
  | node hnode hto hstep =>
    have hreached := reached_of_passTo hto
    obtain ⟨operands, hoperands, hyield⟩ :=
      hg.rule_of_stepFailure hnode hreached (run_step_eq_error hstep)
    exact .rule hnode hreached hoperands hyield
  | output hto hread =>
    obtain ⟨id, hmiss, rfl⟩ := Pass.readAll_eq_error hread
    rw [(reached_of_passTo hto).complete.1, firstMissing?_eq_none_iff.2 hg.ordered.2] at hmiss
    cases hmiss

/-- A judgement that is not answered is the fault of a constant that does not convert. -/
theorem WellFormed.fault_of_judgement (hg : g.WellFormed) (h : Judgement g settings xs e)
    (he : e.recoverable? = none) : ∃ f : Fault, e = .fault f ∧ f.OfConversion := by
  cases h with
  | count hcount => cases he
  | input hmem hx =>
    rw [Datum.asMeta_eq_error hx] at he
    cases he
  | @rule k node t operands d hnode hreached hoperands hyield =>
    rw [Failure.recoverable?_atNode] at he
    rcases g.failsOnly_yield _ node _ d hyield with ⟨i, hi, rfl⟩ | ⟨f, rfl⟩
    · exact absurd he (Failure.recoverable?_ne_none_of_ofNode hi)
    · have hrows := hg.hasRow_of_output (List.mem_of_getElem? hnode)
      exact ⟨f, rfl, fault_of_yield (fun id hid => value_of_hasRow (hrows id hid)) hyield⟩

/-- **A session over a well-formed graph raises only the fault of a constant that does not
convert**, provided that the graph inputs have rows for the log. -/
theorem WellFormed.fault_of_raised (hg : g.WellFormed) (hrows : ∀ id ∈ g.inputs, g.HasRow id)
    (h : (Session.new g xs settings).run.1 = .raised e) :
    ∃ f : Fault, e = .fault f ∧ f.OfConversion := by
  rcases Session.failure_of_raised h with ⟨q, hpass, he⟩ | ⟨shapes, q, f, hpass, rfl, hshown⟩
  · exact hg.fault_of_judgement (hg.judgement_of_failure (run_pass_eq_error hpass)) he
  · -- the pass gave shapes, so all that is in its store can be shown
    obtain ⟨hto, -⟩ := run_pass_eq_ok hpass
    obtain ⟨text, htext⟩ := (reached_of_passTo hto).text hrows
    rw [htext] at hshown
    cases hshown

end Graph

end ShapeFlow
