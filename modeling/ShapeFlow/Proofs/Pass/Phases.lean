import ShapeFlow.Proofs.Pass.Inputs
import ShapeFlow.Proofs.Pass.NodeStep

/-!
# The phases of a pass

A pass checks the number of its inputs and the order of the graph, binds the inputs, runs the nodes
and reads the outputs. `Graph.passTo` is the pass up to a node, and `Graph.pass_eq_passTo` gives the
whole pass by its last case. Where the pass arrives, the inputs are bound and the nodes before have
run (`Graph.Reached`), so the ids with a record are the graph inputs and the results so far.

A pass that fails does so in one of five phases, and the phase decides what the store holds
(`Graph.PassFailure`).
-/

set_option autoImplicit false

namespace ShapeFlow.Graph

variable {g : Graph} {settings : PassSettings} {xs : List Datum} {k : Nat} {q : Progress}
  {e : Failure}

/-- The checks before a pass: the number of inputs and, if settings ask for it, the order. -/
def precheck (g : Graph) (settings : PassSettings) (xs : List Datum) : Except Failure Unit :=
  if xs.length ≠ g.inputs.length then
    .error (Issue.inputCount g.inputs.length xs.length).failure
  else if settings.verifyOrder then g.checkOrder else .ok ()

/-- The pass before its first node: the checks and the inputs. -/
def opening (g : Graph) (settings : PassSettings) (xs : List Datum) : Pass Unit := do
  Pass.ofExcept (g.precheck settings xs)
  Pass.note [passRecord ("Shape inference over " ++ toString g.nodes.length ++ " nodes, " ++
    toString g.inputs.length ++ " inputs")]
  let _ ← Pass.bindInputs g.nameOf g.inputs xs

/-- The pass up to node number `k`, with the nodes from there on left out. -/
def passTo (g : Graph) (settings : PassSettings) (xs : List Datum) (k : Nat) : Pass Unit := do
  g.opening settings xs
  g.runNodes settings.unknownConstants 0 (g.nodes.take k)

theorem pass_eq_passTo (g : Graph) (settings : PassSettings) (xs : List Datum) :
    g.pass settings xs = (do
      g.passTo settings xs g.nodes.length
      let metas ← Pass.ofStore (Pass.readAll g.nameOf g.outputs)
      return metas.map Meta.shape) := by
  unfold pass passTo opening precheck
  rw [List.take_length]
  by_cases hlen : xs.length ≠ g.inputs.length
  · simp only [if_pos hlen]
    rfl
  · cases hverify : settings.verifyOrder with
    | false =>
      simp only [if_neg hlen, Bool.false_eq_true, if_false, bind_assoc, pure_bind]
      rfl
    | true => simp only [if_neg hlen, if_true, bind_assoc, pure_bind]

theorem precheck_eq_ok_iff : g.precheck settings xs = .ok () ↔
    g.inputs.length = xs.length ∧ (settings.verifyOrder = true → g.Ordered) := by
  unfold precheck
  by_cases hlen : xs.length = g.inputs.length
  · cases hverify : settings.verifyOrder with
    | false => simp [hlen]
    | true => simpa [hlen] using checkOrder_eq_ok_iff
  · simp [hlen, Ne.symm hlen]

theorem run_opening_eq_ok (h : (g.opening settings xs).runFrom {} = (.ok (), q)) :
    g.precheck settings xs = .ok () ∧ Pass.Binds (g.inputs.zip xs) .empty q.store := by
  unfold opening at h
  obtain ⟨_, r₁, hchecks, h⟩ := Pass.run_bind_eq_ok_iff.1 h
  obtain ⟨_, r₂, hnote, h⟩ := Pass.run_bind_eq_ok_iff.1 h
  obtain ⟨metas, r₃, hbind, hpure⟩ := Pass.run_bind_eq_ok_iff.1 h
  obtain ⟨hok, rfl⟩ := Prod.mk.inj hchecks
  cases hnote
  cases hpure
  -- the checks compared the two lengths, so the same test in the binding is passed
  have hlen := (precheck_eq_ok_iff.1 hok).1
  rw [Pass.bindInputs, if_pos hlen] at hbind
  have hbinds := Pass.run_bindFrom_eq_ok hbind
  exact ⟨hok, hbinds⟩

/-! ## Arriving at a node -/

/-- What a pass has done when it arrives at node number `k` with a store. -/
structure Reached (g : Graph) (settings : PassSettings) (xs : List Datum) (k : Nat) (t : Store) :
    Prop where
  count : g.inputs.length = xs.length
  checked : settings.verifyOrder = true → g.Ordered
  ran : ∃ s, Pass.Binds (g.inputs.zip xs) .empty s ∧
    g.LeadsTo settings.unknownConstants (g.nodes.take k) s t

theorem reached_of_passTo (h : (g.passTo settings xs k).runFrom {} = (.ok (), q)) :
    g.Reached settings xs k q.store := by
  obtain ⟨_, r, hopen, hnodes⟩ := Pass.run_bind_eq_ok_iff.1 h
  obtain ⟨hchecks, hbinds⟩ := run_opening_eq_ok hopen
  obtain ⟨hcount, hchecked⟩ := precheck_eq_ok_iff.1 hchecks
  exact ⟨hcount, hchecked, r.store, hbinds, leadsTo_of_runNodes hnodes⟩

/-- The ids that are bound are the graph inputs. -/
theorem ids_of_binds {s : Store} (hcount : g.inputs.length = xs.length)
    (h : Pass.Binds (g.inputs.zip xs) .empty s) : s.ids = g.inputs := by
  rw [h.ids, List.map_fst_zip (Nat.le_of_eq hcount)]
  rfl

/-- Where the pass arrives, the ids with a record are the inputs and the results so far. -/
theorem Reached.ids {t : Store} (h : g.Reached settings xs k t) :
    t.ids = g.inputs ++ produced (g.nodes.take k) := by
  obtain ⟨s, hbinds, hleads⟩ := h.ran
  rw [hleads.ids, ids_of_binds h.count hbinds]

theorem Reached.ordered {t : Store} (h : g.Reached settings xs k t) :
    OrderedFrom g.inputs (g.nodes.take k) := by
  obtain ⟨s, hbinds, hleads⟩ := h.ran
  exact ids_of_binds h.count hbinds ▸ hleads.ordered

/-- Behind the last node all results have a record, and all nodes had their operands. -/
theorem Reached.complete {t : Store} (h : g.Reached settings xs g.nodes.length t) :
    t.ids = g.inputs ++ produced g.nodes ∧ OrderedFrom g.inputs g.nodes := by
  have hids := h.ids
  have hordered := h.ordered
  rw [List.take_length] at hids hordered
  exact ⟨hids, hordered⟩

/-- A result that was written has a row in the value table. -/
theorem Reached.rows {t : Store} (h : g.Reached settings xs k t) :
    ∀ id ∈ produced (g.nodes.take k), g.HasRow id := by
  obtain ⟨s, hbinds, hleads⟩ := h.ran
  exact hleads.rows

theorem Reached.bindsInputs {t : Store} (h : g.Reached settings xs k t) :
    g.BindsInputs xs t.find? := by
  obtain ⟨s, hbinds, hleads⟩ := h.ran
  exact bindsInputs_of_binds h.count hbinds hleads.grows

/-- Behind the last node the store solves the equations of the graph. -/
theorem Reached.solves {t : Store} (h : g.Reached settings xs g.nodes.length t) :
    g.Solves settings.unknownConstants xs t.find? := by
  refine ⟨h.bindsInputs, ?_⟩
  obtain ⟨s, hbinds, hleads⟩ := h.ran
  rw [List.take_length] at hleads
  exact hleads.holds

/-- A pass that gives shapes has run all nodes, and the shapes are those of the outputs. -/
theorem run_pass_eq_ok {shapes : List Shape}
    (h : (g.pass settings xs).runFrom {} = (.ok shapes, q)) :
    (g.passTo settings xs g.nodes.length).runFrom {} = (.ok (), q) ∧
      ∃ metas, Pass.readAll g.nameOf g.outputs q.store = .ok metas ∧
        shapes = metas.map Meta.shape := by
  rw [pass_eq_passTo] at h
  obtain ⟨_, r₁, hto, h⟩ := Pass.run_bind_eq_ok_iff.1 h
  obtain ⟨metas, r₂, hread, hpure⟩ := Pass.run_bind_eq_ok_iff.1 h
  obtain ⟨hok, rfl⟩ := Prod.mk.inj hread
  cases hpure
  exact ⟨hto, metas, hok, rfl⟩

/-! ## Failing -/

/-- The phases in which a pass fails, each with the store that it leaves behind. -/
inductive PassFailure (g : Graph) (settings : PassSettings) (xs : List Datum) :
    Failure → Store → Prop where
  | count : xs.length ≠ g.inputs.length →
      PassFailure g settings xs (Issue.inputCount g.inputs.length xs.length).failure .empty
  | order {e : Failure} : xs.length = g.inputs.length → settings.verifyOrder = true →
      g.checkOrder = .error e → PassFailure g settings xs e .empty
  | input {e : Failure} {t : Store} : g.precheck settings xs = .ok () →
      Pass.BindFailure g.nameOf 0 (g.inputs.zip xs) .empty e t → PassFailure g settings xs e t
  | node {k : Nat} {node : Node} {q r : Progress} {e : Failure} : g.nodes[k]? = some node →
      (g.passTo settings xs k).runFrom {} = (.ok (), q) →
        (g.step settings.unknownConstants node).runFrom q = (.error e, r) →
          PassFailure g settings xs (e.atNode k node.kind) r.store
  | output {q : Progress} {e : Failure} :
      (g.passTo settings xs g.nodes.length).runFrom {} = (.ok (), q) →
        Pass.readAll g.nameOf g.outputs q.store = .error e → PassFailure g settings xs e q.store

theorem run_opening_eq_error (h : (g.opening settings xs).runFrom {} = (.error e, q)) :
    PassFailure g settings xs e q.store := by
  unfold opening at h
  rcases Pass.run_bind_eq_error_iff.1 h with hchecks | ⟨_, r₁, hchecks, h⟩
  · obtain ⟨hfail, rfl⟩ := Prod.mk.inj hchecks
    unfold precheck at hfail
    by_cases hlen : xs.length = g.inputs.length
    · cases hverify : settings.verifyOrder with
      | false => simp [hlen, hverify] at hfail
      | true => exact .order hlen hverify (by simpa [hlen, hverify] using hfail)
    · rw [if_pos hlen] at hfail
      cases hfail
      exact .count hlen
  rcases Pass.run_bind_eq_error_iff.1 h with hnote | ⟨_, r₂, hnote, h⟩
  · cases hnote
  rcases Pass.run_bind_eq_error_iff.1 h with hbind | ⟨metas, r₃, hbind, hpure⟩
  · obtain ⟨hok, rfl⟩ := Prod.mk.inj hchecks
    cases hnote
    rw [Pass.bindInputs, if_pos (precheck_eq_ok_iff.1 hok).1] at hbind
    have hfail := Pass.run_bindFrom_eq_error hbind
    exact .input hok hfail
  · cases hpure

/-- **A pass that fails does so in one of its phases.** -/
theorem run_pass_eq_error (h : (g.pass settings xs).runFrom {} = (.error e, q)) :
    PassFailure g settings xs e q.store := by
  rw [pass_eq_passTo] at h
  rcases Pass.run_bind_eq_error_iff.1 h with hto | ⟨_, r₁, hto, h⟩
  · rcases Pass.run_bind_eq_error_iff.1 hto with hopen | ⟨_, r₁, hopen, hnodes⟩
    · exact run_opening_eq_error hopen
    · rw [List.take_length] at hnodes
      obtain ⟨front, node, back, r₂, d, hsplit, hfront, hstep, rfl⟩ :=
        run_runNodes_eq_error hnodes
      -- the front is what the pass to this node runs
      have hget : g.nodes[front.length]? = some node := by simp [hsplit]
      have htake : g.nodes.take front.length = front := by simp [hsplit]
      have hto : (g.passTo settings xs front.length).runFrom {} = (.ok (), r₂) :=
        Pass.run_bind_eq_ok_iff.2 ⟨(), r₁, hopen, htake.symm ▸ hfront⟩
      rw [Nat.zero_add]
      exact .node hget hto hstep
  · rcases Pass.run_bind_eq_error_iff.1 h with hread | ⟨metas, r₂, hread, hpure⟩
    · obtain ⟨hfail, rfl⟩ := Prod.mk.inj hread
      exact .output hto hfail
    · cases hpure

end ShapeFlow.Graph
