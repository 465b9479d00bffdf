import ShapeFlow.Proofs.Session.OrderCheck

/-!
# What a refused session leaves behind

A session that answers a failure was refused by the count of its inputs, by the order check, at an
input or at a node (`Graph.Refused`). The place of the refusal decides what the store holds: nothing
before the first input, the inputs up to the one that was refused, and at a node all inputs and the
results of the nodes before it (`Graph.RefusedInput`, `Graph.RefusedNode`). The node itself has
written nothing, since a node that got as far as writing fails with a report that is raised
(`Graph.StepFailure.of_recoverable`).
-/

set_option autoImplicit false

namespace ShapeFlow

/-- The report with the number and the operator of a node behind its details. -/
def Report.located (r : Report) (k : Nat) (kind : String) : Report :=
  { r with context := r.context ++ [("node_index", Issue.count k), ("node", .text kind)] }

/-- Details that leave a name free say nothing under it. -/
theorem Context.lookup_of_free {context : Context} {name : String}
    (h : ∀ entry ∈ context, entry.1 ≠ name) : context.lookup name = none := by
  rw [List.lookup_eq_none_iff]
  intro entry hentry
  simpa using Ne.symm (h entry hentry)

/-- The pass adds the node to the report of a cause of the node, and overwrites nothing. -/
theorem Issue.OfNode.atNode {i : Issue} (h : i.OfNode) (k : Nat) (kind : String) :
    i.failure.atNode k kind = .report (i.report.located k kind) := by
  obtain ⟨hindex, hkind⟩ := h.names_free
  -- the operator is added behind the number, which has a name of its own
  have hkind' : ∀ entry ∈ i.report.context ++ [("node_index", Issue.count k)],
      entry.1 ≠ "node" := by
    intro entry hentry
    rcases List.mem_append.1 hentry with hbefore | hadded
    · exact hkind entry hbefore
    · rw [List.mem_singleton.1 hadded]
      simp
  rw [Issue.failure, Failure.atNode, if_pos h.isRecoverable, Report.provide, Report.provide,
    Context.provide_of_free hindex, Context.provide_of_free hkind', List.append_assoc]
  rfl

/-- The node can be read off the report that the pass gives for it. -/
theorem Issue.OfNode.lookup_located {i : Issue} (h : i.OfNode) (k : Nat) (kind : String) :
    (i.report.located k kind).context.lookup "node_index" = some (Issue.count k) ∧
      (i.report.located k kind).context.lookup "node" = some (.text kind) := by
  obtain ⟨hindex, hkind⟩ := h.names_free
  constructor
  · rw [Report.located, List.lookup_append, Context.lookup_of_free hindex]
    rfl
  · rw [Report.located, List.lookup_append, Context.lookup_of_free hkind]
    rfl

/-- Blaming a value for a cause that is not recoverable gives no recoverable report. -/
theorem Naming.blame_ne_report {names : Naming} {id : ValueId} {cause : String → Issue}
    {r : Report} (hcause : ∀ name, (cause name).report.isRecoverable = false)
    (hr : r.isRecoverable = true) : names.blame id cause ≠ .report r := by
  intro h
  obtain ⟨name, -, rfl⟩ := Naming.blame_eq_report h
  rw [hcause] at hr
  cases hr

/-- A report that is recoverable with a node in it was so before. -/
theorem Failure.isRecoverable_of_atNode {d r : Report} {k : Nat} {kind : String}
    (h : (Failure.report d).atNode k kind = .report r) (hr : r.isRecoverable = true) :
    d.isRecoverable = true := by
  cases hd : d.isRecoverable with
  | true => rfl
  | false =>
    rw [atNode, hd] at h
    cases h
    rw [hd] at hr
    cases hr

namespace Graph

variable {g : Graph} {settings : PassSettings} {policy : ConstantPolicy} {xs : List Datum}
  {k p : Nat} {node : Node} {r d : Report} {s t : Store}

/-- A step that fails recoverably was refused by its rule, and it wrote nothing. -/
theorem StepFailure.of_recoverable (h : StepFailure g g.nameOf policy node s (.report d) t)
    (hd : d.isRecoverable = true) : t = s ∧ ∃ i : Issue, i.OfNode ∧ d = i.report := by
  generalize he : Failure.report d = e at h
  cases h with
  | operand hmiss =>
    exact absurd he.symm (Naming.blame_ne_report (fun _ => rfl) hd)
  | rule hoperands hyield =>
    rcases g.failsOnly_yield _ node _ _ hyield with ⟨i, hi, rfl⟩ | ⟨f, rfl⟩
    · cases he
      exact ⟨rfl, i, hi, rfl⟩
    · cases he
  | result hoperands hobey hlen hwrite =>
    -- all results are there, and writing fails for a repeated id or for the name of a result
    cases hwrite with
    | duplicate hpairs hid ht =>
      exact absurd he.symm (Naming.blame_ne_report (fun _ => rfl) hd)
    | unnamed hpairs hrow ht => cases he

/-! ## Where a pass is refused -/

/-- A pass is refused at input number `p`: it is the first value that cannot be an input, the report
says where it stands, and the inputs before it are bound. -/
structure RefusedInput (g : Graph) (xs : List Datum) (p : Nat) (r : Report) (t : Store) :
    Prop where
  refused : ∃ x i, xs[p]? = some x ∧ x.asMeta = .error i ∧
    r = i.report.provide "position" (Issue.count p)
  accepted : ∀ x ∈ xs.take p, ∃ m, x.asMeta = .ok m
  category : r.category = .inputKind
  position : r.context.lookup "position" = some (Issue.count p)
  bound : Pass.Binds ((g.inputs.zip xs).take p) .empty t
  ids : t.ids = g.inputs.take p

/-- A pass is refused at node number `k`: it ran all nodes before it, the report is that of the
step with the node behind its details, and the step leaves the store as it found it. -/
structure RefusedNode (g : Graph) (settings : PassSettings) (xs : List Datum) (k : Nat)
    (node : Node) (r : Report) (t : Store) : Prop where
  here : g.nodes[k]? = some node
  step : ∃ q q' d, (g.passTo settings xs k).runFrom {} = (.ok (), q) ∧
    (g.step settings.unknownConstants node).runFrom q = (.error (.report d), q') ∧
    r = d.located k node.kind ∧ q.store = t ∧ q'.store = t
  index : r.context.lookup "node_index" = some (Issue.count k)
  kind : r.context.lookup "node" = some (.text node.kind)
  ids : t.ids = g.inputs ++ produced (g.nodes.take k)

/-- The places at which a pass is refused, each with its reports and the store that is left
behind. -/
inductive Refused (g : Graph) (settings : PassSettings) (xs : List Datum) :
    Report → Store → Prop where
  | count : xs.length ≠ g.inputs.length →
      Refused g settings xs (Issue.inputCount g.inputs.length xs.length).report .empty
  | order {r : Report} : settings.verifyOrder = true → g.checkOrder = .error (.report r) →
      r.category = .order → Refused g settings xs r .empty
  | input {p : Nat} {r : Report} {t : Store} : g.RefusedInput xs p r t →
      Refused g settings xs r t
  | node {k : Nat} {node : Node} {r : Report} {t : Store} :
      g.RefusedNode settings xs k node r t → Refused g settings xs r t

/-- An input that is refused behind a front of bound inputs is the first one to be refused. -/
theorem refusedInput_of_front {front back : List (ValueId × Datum)} {id : ValueId} {x : Datum}
    {i : Issue} (hcount : g.inputs.length = xs.length)
    (hpairs : g.inputs.zip xs = front ++ (id, x) :: back) (hfront : Pass.Binds front .empty t)
    (hx : x.asMeta = .error i) :
    g.RefusedInput xs front.length
      (i.report.provide "position" (Issue.count front.length)) t := by
  have hids : (g.inputs.zip xs).map Prod.fst = g.inputs :=
    List.map_fst_zip (Nat.le_of_eq hcount)
  have hvalues : (g.inputs.zip xs).map Prod.snd = xs :=
    List.map_snd_zip (Nat.le_of_eq hcount.symm)
  have htake : (g.inputs.zip xs).take front.length = front := by
    rw [hpairs]
    exact List.take_left
  have hplace : (g.inputs.zip xs)[front.length]? = some (id, x) := by
    rw [hpairs, List.getElem?_append_right (Nat.le_refl _), Nat.sub_self]
    rfl
  obtain rfl := Datum.asMeta_eq_error hx
  refine ⟨⟨x, _, (List.getElem?_zip_eq_some.1 hplace).2, hx, rfl⟩, ?_, rfl, rfl, ?_, ?_⟩
  · -- the values before it were bound, which none that is refused can be
    intro y hy
    rw [← hvalues, ← List.map_take, htake] at hy
    obtain ⟨pair, hpair, rfl⟩ := List.mem_map.1 hy
    obtain ⟨m, hm, -⟩ := hfront.finds pair hpair
    exact ⟨m, hm⟩
  · rw [htake]
    exact hfront
  · have hfirst : front.map Prod.fst = g.inputs.take front.length := by
      rw [← hids, ← List.map_take, htake]
    rw [hfront.ids, hfirst]
    rfl

/-- **A pass that fails recoverably was refused at one of the places.** -/
theorem PassFailure.refused (h : PassFailure g settings xs (.report r) t)
    (hr : r.isRecoverable = true) : Refused g settings xs r t := by
  generalize he : Failure.report r = e at h
  cases h with
  | count hcount =>
    cases he
    exact .count hcount
  | order hcount hverify hcheck =>
    subst he
    obtain ⟨id, cause, hblame, horder⟩ := checkOrder_eq_error hcheck
    obtain ⟨name, -, rfl⟩ := Naming.blame_eq_report hblame.symm
    exact .order hverify hcheck (by rw [Issue.category_report, horder])
  | input hchecks hbind =>
    have hcount := (precheck_eq_ok_iff.1 hchecks).1
    cases hbind with
    | refused hpairs hfront hx =>
      cases he
      rw [Nat.zero_add]
      exact .input (refusedInput_of_front hcount hpairs hfront hx)
    | duplicate hpairs hfront hx hid =>
      exact absurd he.symm (Naming.blame_ne_report (fun _ => rfl) hr)
  | @node k node q q' e hnode hto hstep =>
    cases e with
    | fault f => cases he
    | report d =>
      -- the step was refused by the rule of the node, and nothing of the report is overwritten
      have hd := Failure.isRecoverable_of_atNode he.symm hr
      obtain ⟨hstore, i, hi, rfl⟩ := (run_step_eq_error hstep).of_recoverable hd
      have hlocated : Failure.report r = .report (i.report.located k node.kind) :=
        he.trans (hi.atNode k node.kind)
      cases hlocated
      obtain ⟨hindex, hkind⟩ := hi.lookup_located k node.kind
      refine .node ⟨hnode, ⟨q, q', i.report, hto, hstep, rfl, hstore.symm, rfl⟩, hindex, hkind, ?_⟩
      rw [hstore]
      exact (reached_of_passTo hto).ids
  | output hto hread =>
    obtain ⟨id, -, hblame⟩ := Pass.readAll_eq_error hread
    exact absurd (hblame.symm.trans he.symm) (Naming.blame_ne_report (fun _ => rfl) hr)

end Graph

open ShapeFlow.Graph

/-- **A session that answers a failure was refused at one of the places**, with the report and the
store of the place and with no shapes recorded. -/
theorem Session.refused_of_answered {g : Graph} {settings : PassSettings} {xs : List Datum}
    {e : Failure} (h : (Session.new g xs settings).run.1 = .answered (.err e)) :
    (Session.new g xs settings).run.2.outputs = [] ∧
      ∃ r, e = .report r ∧ Refused g settings xs r (Session.new g xs settings).storeAfter := by
  obtain ⟨r, q, rfl, hpass, hr, hstore, houtputs⟩ := error_of_answered h
  refine ⟨houtputs, r, rfl, ?_⟩
  rw [hstore]
  exact (run_pass_eq_error hpass).refused hr

/-- A rectified tensor is multiplied by itself as a matrix. -/
def Graph.rectifiedSquare : Graph where
  values := [{ id := 0, name := "x" }, { id := 1, name := "y" }, { id := 2, name := "z" }]
  nodes :=
    [{ kind := "aten::relu", inputs := [0], outputs := [1] },
     { kind := "aten::mm", inputs := [1, 1], outputs := [2] }]
  inputs := [0]
  outputs := [2]

/-- The product of the matrix with two rows and three columns is refused. -/
theorem rectifiedSquare_refused_at_product :
    ∃ r : Report,
      (Session.new rectifiedSquare [.tensor [2, 3]] {}).run.1 = .answered (.err (.report r)) ∧
        (Session.new rectifiedSquare [.tensor [2, 3]] {}).run.2.outputs = [] ∧
        Refused rectifiedSquare {} [.tensor [2, 3]] r
          (Session.new rectifiedSquare [.tensor [2, 3]] {}).storeAfter ∧
        r.context.lookup "node_index" = some (Issue.count 1) ∧
        (Session.new rectifiedSquare [.tensor [2, 3]] {}).storeAfter.ids = [0, 1] := by
  have hrun : (Session.new rectifiedSquare [.tensor [2, 3]] {}).run.1 =
      .answered (.err (.report ((Issue.innerSizes 1 0 3 2).report.located 1 "aten::mm"))) := rfl
  obtain ⟨houtputs, r, hr, hrefused⟩ := Session.refused_of_answered hrun
  cases hr
  exact ⟨_, hrun, houtputs, hrefused, rfl, rfl⟩

end ShapeFlow
