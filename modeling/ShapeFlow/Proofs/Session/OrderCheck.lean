import ShapeFlow.Proofs.Session.Ending

/-!
# The order check and the pass

A session raises a report in three cases only: a node lacks an operand, an output is missing, or a
value would be written a second time (`Graph.Raised`). The order check keeps the first two from
happening (`Session.verified_never_reads_missing`). A session that does not ask for the check and
raises a missing value would have been answered by the check instead, with a report on the same
value and, if a node lacked it, on the same node (`Session.check_reports_missing_value`).
-/

set_option autoImplicit false

namespace ShapeFlow

/-- A report that is not recoverable is passed on by a node as it is. -/
theorem Failure.eq_of_atNode {d : Failure} {k : Nat} {kind : String} {r : Report}
    (h : d.atNode k kind = .report r) (hr : r.isRecoverable = false) : d = .report r := by
  cases d with
  | fault f => cases h
  | report r' =>
    rw [atNode] at h
    by_cases hrec : r'.isRecoverable = true
    · rw [if_pos hrec] at h
      cases h
      have hsame : r'.isRecoverable = false := hr
      rw [hrec] at hsame
      cases hsame
    · rw [if_neg hrec] at h
      exact h

namespace Graph

variable {g : Graph} {settings : PassSettings} {xs : List Datum} {k : Nat} {node : Node}

/-! ## Nodes and what is available to them -/

theorem nodes_split (h : g.nodes[k]? = some node) :
    g.nodes = g.nodes.take k ++ node :: g.nodes.drop (k + 1) ∧ (g.nodes.take k).length = k := by
  obtain ⟨hlt, rfl⟩ := List.getElem?_eq_some_iff.1 h
  constructor
  · rw [← List.drop_eq_getElem_cons hlt, List.take_append_drop]
  · rw [List.length_take]
    omega

theorem Ordered.firstMissing?_eq_none (ho : g.Ordered) (h : g.nodes[k]? = some node) :
    firstMissing? (g.inputs ++ produced (g.nodes.take k)) node.inputs = none := by
  have hnodes := ho.1
  rw [(nodes_split h).1, orderedFrom_append] at hnodes
  exact firstMissing?_eq_none_iff.2 hnodes.2.1

/-- The results up to a node are a front of all results. -/
theorem produced_split (h : g.nodes[k]? = some node) :
    ∃ back, produced g.nodes = produced (g.nodes.take k) ++ (node.outputs ++ back) :=
  ⟨produced (g.nodes.drop (k + 1)), by
    conv_lhs => rw [(nodes_split h).1]
    rw [produced_append, produced_cons]⟩

/-! ## What a session raises -/

/-- The pass gets to node number `k`, and running this node fails. -/
def FailsAtNode (g : Graph) (settings : PassSettings) (xs : List Datum) (k : Nat) (e : Failure) :
    Prop :=
  ∃ node q r, g.nodes[k]? = some node ∧ (g.passTo settings xs k).runFrom {} = (.ok (), q) ∧
    (g.step settings.unknownConstants node).runFrom q = (.error e, r)

/-- The pass gets through all nodes, and reading the outputs fails. -/
def FailsAtOutputs (g : Graph) (settings : PassSettings) (xs : List Datum) (e : Failure) : Prop :=
  ∃ q, (g.passTo settings xs g.nodes.length).runFrom {} = (.ok (), q) ∧
    Pass.readAll g.nameOf g.outputs q.store = .error e

theorem FailsAtNode.reached {e : Failure} (h : g.FailsAtNode settings xs k e) :
    ∃ t, g.Reached settings xs k t := by
  obtain ⟨_, q, _, -, hto, -⟩ := h
  exact ⟨q.store, reached_of_passTo hto⟩

theorem FailsAtOutputs.reached {e : Failure} (h : g.FailsAtOutputs settings xs e) :
    ∃ t, g.Reached settings xs g.nodes.length t := by
  obtain ⟨q, hto, -⟩ := h
  exact ⟨q.store, reached_of_passTo hto⟩

/-- The reports that a session raises. -/
inductive Raised (g : Graph) (settings : PassSettings) (xs : List Datum) : Report → Prop where
  | operand {k : Nat} {node : Node} {id : ValueId} {name : String} :
      g.nodes[k]? = some node → OrderedFrom g.inputs (g.nodes.take k) →
        firstMissing? (g.inputs ++ produced (g.nodes.take k)) node.inputs = some id →
          g.nameOf id = .ok name →
            g.FailsAtNode settings xs k (Issue.missingValue name).failure →
              Raised g settings xs (Issue.missingValue name).report
  | output {id : ValueId} {name : String} : OrderedFrom g.inputs g.nodes →
      firstMissing? (g.inputs ++ produced g.nodes) g.outputs = some id →
        g.nameOf id = .ok name → g.FailsAtOutputs settings xs (Issue.missingValue name).failure →
          Raised g settings xs (Issue.missingValue name).report
  | duplicate {name : String} : ¬ (g.inputs ++ produced g.nodes).Nodup →
      Raised g settings xs (Issue.duplicateValue name).report

theorem not_nodup_of_mem_front {front : List ValueId} {id : ValueId} (h : id ∈ front)
    (back : List ValueId) : ¬ (front ++ id :: back).Nodup := by
  intro hnodup
  rw [List.nodup_append] at hnodup
  exact hnodup.2.2 id h id List.mem_cons_self rfl

/-- An input that has a record already stands among the graph inputs before it. -/
theorem not_nodup_of_input {front back : List (ValueId × Datum)} {id : ValueId} {x : Datum}
    (hcount : g.inputs.length = xs.length) (hpairs : g.inputs.zip xs = front ++ (id, x) :: back)
    (hid : id ∈ front.map Prod.fst) : ¬ (g.inputs ++ produced g.nodes).Nodup := by
  have hinputs := congrArg (List.map Prod.fst) hpairs
  rw [List.map_fst_zip (Nat.le_of_eq hcount), List.map_append, List.map_cons] at hinputs
  rw [hinputs, List.append_assoc]
  exact not_nodup_of_mem_front hid _

/-- A result that has a record already is a graph input, an earlier result or an earlier output of
its node. -/
theorem not_nodup_of_result {results : List Meta} {front back : List (ValueId × Meta)}
    {id : ValueId} {m : Meta} (hnode : g.nodes[k]? = some node)
    (hlen : node.outputs.length = results.length)
    (hpairs : node.outputs.zip results = front ++ (id, m) :: back)
    (hid : id ∈ g.inputs ++ produced (g.nodes.take k) ++ front.map Prod.fst) :
    ¬ (g.inputs ++ produced g.nodes).Nodup := by
  have houtputs := congrArg (List.map Prod.fst) hpairs
  rw [List.map_fst_zip (Nat.le_of_eq hlen), List.map_append, List.map_cons] at houtputs
  obtain ⟨rest, hrest⟩ := produced_split hnode
  have hfront := not_nodup_of_mem_front hid (back.map Prod.fst ++ rest)
  rw [hrest, houtputs]
  simpa only [List.append_assoc, List.cons_append] using hfront

/-- A step of the pass that raises a report lacks an operand, or its results repeat an id. -/
theorem raised_of_step {q r : Progress} {report : Report} (hnode : g.nodes[k]? = some node)
    (hto : (g.passTo settings xs k).runFrom {} = (.ok (), q))
    (hstep : (g.step settings.unknownConstants node).runFrom q = (.error (.report report), r))
    (hr : report.isRecoverable = false) : Raised g settings xs report := by
  have hreached := reached_of_passTo hto
  have hfails : g.FailsAtNode settings xs k (.report report) := ⟨node, q, r, hnode, hto, hstep⟩
  have hfailure := run_step_eq_error hstep
  generalize hd : Failure.report report = d at hfailure
  generalize r.store = t at hfailure
  cases hfailure with
  | operand hmiss =>
    -- what has a record at this node is what the order check holds available at it
    obtain ⟨name, hname, rfl⟩ := Naming.blame_eq_report hd.symm
    rw [hreached.ids] at hmiss
    exact .operand hnode hreached.ordered hmiss hname hfails
  | rule hoperands hyield =>
    -- a rule reports causes of its own only, and these are recoverable
    rcases g.failsOnly_yield _ node _ _ hyield with ⟨i, hi, rfl⟩ | ⟨f, rfl⟩
    · cases hd
      rw [hi.isRecoverable] at hr
      cases hr
    · cases hd
  | result hoperands hobey hlen hwrite =>
    cases hwrite with
    | unnamed hpairs hrow ht => cases hd
    | @duplicate front back id m _ hpairs hid ht =>
      obtain ⟨name, -, rfl⟩ := Naming.blame_eq_report hd.symm
      rw [hreached.ids] at hid
      exact .duplicate (not_nodup_of_result hnode hlen hpairs hid)

/-- **A session raises a report for a missing operand, a missing output or a second writing.** -/
theorem raised_of_pass {report : Report} {q : Progress}
    (h : (g.pass settings xs).runFrom {} = (.error (.report report), q))
    (hr : report.isRecoverable = false) : Raised g settings xs report := by
  have hfailure := run_pass_eq_error h
  generalize hd : Failure.report report = d at hfailure
  generalize q.store = t at hfailure
  cases hfailure with
  | count hcount =>
    -- the count of inputs is a recoverable report, which is answered and not raised
    cases hd
    cases hr
  | order hcount hverify hcheck =>
    obtain ⟨id, cause, rfl, horder⟩ := checkOrder_eq_error hcheck
    obtain ⟨name, -, rfl⟩ := Naming.blame_eq_report hd.symm
    rw [Report.isRecoverable, Issue.category_report, horder] at hr
    cases hr
  | input hchecks hbind =>
    cases hbind with
    | refused hpairs hfront hx =>
      cases hd
      rw [Datum.asMeta_eq_error hx] at hr
      cases hr
    | @duplicate front back id x m _ hpairs hfront hx hid =>
      obtain ⟨name, -, rfl⟩ := Naming.blame_eq_report hd.symm
      rw [hfront.ids] at hid
      exact .duplicate (not_nodup_of_input (precheck_eq_ok_iff.1 hchecks).1 hpairs hid)
  | node hnode hto hstep =>
    rw [Failure.eq_of_atNode hd.symm hr] at hstep
    exact raised_of_step hnode hto hstep hr
  | @output q e hto hread =>
    subst hd
    obtain ⟨id, hmiss, hblame⟩ := Pass.readAll_eq_error hread
    obtain ⟨name, hname, rfl⟩ := Naming.blame_eq_report hblame.symm
    obtain ⟨hids, hordered⟩ := (reached_of_passTo hto).complete
    rw [hids] at hmiss
    exact .output hordered hmiss hname ⟨q, hto, hread⟩

/-- If the order was checked before the pass, no value is missing. -/
theorem Raised.not_nodup_of_verified {report : Report} (h : Raised g settings xs report)
    (hverify : settings.verifyOrder = true) :
    report.category = .duplicateValue ∧ ¬ (g.inputs ++ produced g.nodes).Nodup := by
  cases h with
  | operand hnode hfront hmiss hname hfails =>
    obtain ⟨t, hreached⟩ := hfails.reached
    rw [(hreached.checked hverify).firstMissing?_eq_none hnode] at hmiss
    cases hmiss
  | output hnodes hmiss hname hfails =>
    obtain ⟨t, hreached⟩ := hfails.reached
    rw [firstMissing?_eq_none_iff.2 (hreached.checked hverify).2] at hmiss
    cases hmiss
  | duplicate hrepeat => exact ⟨rfl, hrepeat⟩

/-- A pass that the order check refuses does nothing else. -/
theorem run_pass_of_checkOrder {e : Failure} (hcount : g.inputs.length = xs.length)
    (hverify : settings.verifyOrder = true) (hcheck : g.checkOrder = .error e) :
    (g.pass settings xs).runFrom {} = (.error e, {}) := by
  have hchecks : g.precheck settings xs = .error e := by
    simp [precheck, hcount, hverify, hcheck]
  have hopen : (g.opening settings xs).runFrom {} = (.error e, {}) := by
    unfold opening
    exact Pass.run_bind_error (by rw [Pass.run_ofExcept, hchecks])
  rw [pass_eq_passTo]
  exact Pass.run_bind_error (Pass.run_bind_error hopen)

end Graph

open ShapeFlow.Graph Session

variable {g : Graph} {settings : PassSettings} {xs : List Datum} {r : Report} {n : String}

/-- What the order check refuses a graph for is answered if it is recoverable. -/
theorem Session.answered_of_checkOrder {i : Issue} (settings : PassSettings)
    (hcount : g.inputs.length = xs.length) (hcheck : g.checkOrder = .error i.failure)
    (hi : i.report.isRecoverable = true) :
    (Session.new g xs { settings with verifyOrder := true }).run.1 = .answered (.err i.failure) :=
  answered_of_error (run_pass_of_checkOrder hcount rfl hcheck) hi

/-- **A session that checks the order never reads a missing value**, and it writes a value twice
only if an id stands twice among graph inputs and results. -/
theorem Session.verified_never_reads_missing (hverify : settings.verifyOrder = true)
    (h : (Session.new g xs settings).run.1 = .raised (.report r)) :
    r.category ≠ .missingValue ∧
      (r.category = .duplicateValue → ¬ (g.inputs ++ produced g.nodes).Nodup) := by
  obtain ⟨q, hpass, hr⟩ := error_of_raised h
  obtain ⟨hduplicate, hrepeat⟩ := (raised_of_pass hpass hr).not_nodup_of_verified hverify
  refine ⟨fun hmissing => ?_, fun _ => hrepeat⟩
  rw [hduplicate] at hmissing
  cases hmissing

/-- Two nodes produce the value `y`. -/
def Graph.producedTwice : Graph where
  values := [{ id := 0, name := "x" }, { id := 1, name := "y" }]
  nodes :=
    [{ kind := "aten::relu", inputs := [0], outputs := [1] },
     { kind := "aten::add", inputs := [0, 1], outputs := [1] }]
  inputs := [0]
  outputs := [1]

theorem producedTwice_repeats_an_id :
    (Session.new producedTwice [.tensor [3]] { verifyOrder := true }).run.1 =
        .raised (Issue.duplicateValue "y").failure ∧
      (Issue.duplicateValue "y").report.category ≠ .missingValue ∧
      ¬ (producedTwice.inputs ++ produced producedTwice.nodes).Nodup := by
  have hrun : (Session.new producedTwice [.tensor [3]] { verifyOrder := true }).run.1 =
      .raised (Issue.duplicateValue "y").failure := rfl
  obtain ⟨hvalue, hrepeat⟩ := Session.verified_never_reads_missing rfl hrun
  exact ⟨hrun, hvalue, hrepeat rfl⟩

/-- **The check reports the value that a pass without it misses.** If a node lacked the value, the
check names that node; if it is an output, the check names no node. -/
theorem Session.check_reports_missing_value
    (h : (Session.new g xs settings).run.1 = .raised (.report r))
    (hmissing : r.category = .missingValue) (hvalue : r.context = [("value", .text n)]) :
    ∃ found : Report,
      (Session.new g xs { settings with verifyOrder := true }).run.1 =
          .answered (.err (.report found)) ∧
        found.category = .order ∧ found.context.lookup "value" = some (.text n) ∧
        ((∃ k, g.FailsAtNode settings xs k (.report r) ∧
            found.context.lookup "node_index" = some (Issue.count k)) ∨
          (g.FailsAtOutputs settings xs (.report r) ∧
            found.context.lookup "node_index" = none)) := by
  obtain ⟨q, hpass, hr⟩ := error_of_raised h
  cases raised_of_pass hpass hr with
  | @operand k node id name hnode hfront hmiss hname hfails =>
    obtain ⟨hnodes, hlen⟩ := nodes_split hnode
    have hcheck := checkOrder_of_node hnodes hfront hmiss
    rw [Naming.blame_of_name hname, hlen] at hcheck
    obtain ⟨t, hreached⟩ := hfails.reached
    have hanswer := answered_of_checkOrder settings hreached.count hcheck rfl
    cases hvalue
    exact ⟨_, hanswer, rfl, rfl, Or.inl ⟨k, hfails, rfl⟩⟩
  | output hnodes hmiss hname hfails =>
    have hcheck := checkOrder_of_output hnodes hmiss
    rw [Naming.blame_of_name hname] at hcheck
    obtain ⟨t, hreached⟩ := hfails.reached
    have hanswer := answered_of_checkOrder settings hreached.count hcheck rfl
    cases hvalue
    exact ⟨_, hanswer, rfl, rfl, Or.inr ⟨hfails, rfl⟩⟩
  | duplicate hrepeat => cases hmissing

/-- A sum consumes the value `later` before the activation that produces it. -/
def Graph.summedEarly : Graph where
  values := [{ id := 0, name := "x" }, { id := 1, name := "later" }, { id := 2, name := "y" }]
  nodes :=
    [{ kind := "aten::add", inputs := [0, 1], outputs := [2] },
     { kind := "aten::relu", inputs := [0], outputs := [1] }]
  inputs := [0]
  outputs := [2]

theorem summedEarly_is_reported :
    (Session.new summedEarly [.tensor [3]] {}).run.1 =
        .raised (Issue.missingValue "later").failure ∧
      ∃ found : Report,
        (Session.new summedEarly [.tensor [3]] { verifyOrder := true }).run.1 =
            .answered (.err (.report found)) ∧
          found.category = .order ∧ found.context.lookup "value" = some (.text "later") := by
  have hrun : (Session.new summedEarly [.tensor [3]] {}).run.1 =
      .raised (Issue.missingValue "later").failure := rfl
  obtain ⟨found, hanswer, hcategory, hvalue, -⟩ :=
    Session.check_reports_missing_value hrun rfl rfl
  exact ⟨hrun, found, hanswer, hcategory, hvalue⟩

example : (Session.new summedEarly [.tensor [3]] { verifyOrder := true }).run.1 =
    .answered (.err (Issue.consumedEarly 0 "aten::add" "later").failure) := rfl

end ShapeFlow
