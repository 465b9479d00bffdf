import ShapeFlow.Proofs.Session.Ending

/-!
# A session solves the equations of its graph

If a session answers shapes, its store has exactly one record for each graph input and each result,
in this order, and solves the equations of the graph: the rule of each node takes the records that
the store holds in the end for its operands to those that it holds for its results. No other
valuation of these ids solves the equations, so the store does not depend on how the pass goes about
its work (`Session.store_is_unique_solution`).
-/

set_option autoImplicit false

namespace ShapeFlow

open ShapeFlow.Graph

variable {g : Graph} {xs : List Datum} {settings : PassSettings} {shapes : List Shape}

/-- The shapes read from a store are those found under the ids. -/
theorem Store.shapes_of_map_find? {s : Store} {ids : List ValueId} {ms : List Meta}
    (h : ids.map s.find? = ms.map some) :
    ids.map (fun id => (s.find? id).map Meta.shape) = (ms.map Meta.shape).map some := by
  have hshape := congrArg (List.map (Option.map Meta.shape)) h
  simpa [Function.comp_def] using hshape

/-- **An answer comes from the only solution of the equations.** The store has one record for each
input and each result, in order; it solves the equations; the answer is the shapes of the outputs in
it; and every valuation that solves the equations agrees with it on these ids. -/
theorem Session.store_is_unique_solution
    (h : (Session.new g xs settings).run.1 = .answered (.ok shapes)) :
    (Session.new g xs settings).storeAfter.ids = g.inputs ++ produced g.nodes ∧
      (g.inputs ++ produced g.nodes).Nodup ∧
      g.BindsInputs xs (Session.new g xs settings).storeAfter.find? ∧
      (∀ node ∈ g.nodes,
        g.HoldsAt settings.unknownConstants (Session.new g xs settings).storeAfter.find? node) ∧
      g.outputs.map (fun id =>
        ((Session.new g xs settings).storeAfter.find? id).map Meta.shape) = shapes.map some ∧
      ∀ v : Valuation, g.BindsInputs xs v →
        (∀ node ∈ g.nodes, g.HoldsAt settings.unknownConstants v node) →
          ∀ id ∈ g.inputs ++ produced g.nodes,
            v id = (Session.new g xs settings).storeAfter.find? id := by
  obtain ⟨q, hpass, hstore⟩ := Session.pass_of_answered h
  obtain ⟨hto, metas, hread, rfl⟩ := run_pass_eq_ok hpass
  have hreached := reached_of_passTo hto
  obtain ⟨hids, hordered⟩ := hreached.complete
  rw [hstore]
  refine ⟨hids, hids ▸ q.store.nodup, hreached.solves.binds, hreached.solves.holds, ?_, ?_⟩
  · exact Store.shapes_of_map_find? (Pass.readAll_eq_ok hread).1
  · intro v hbinds hholds
    exact Solves.unique hordered ⟨hbinds, hholds⟩ hreached.solves

/-- A tensor is scaled by a constant and split in two. -/
def Graph.scaledHalves : Graph where
  values :=
    [{ id := 0, name := "x" }, { id := 1, name := "two", type := .int }, { id := 2, name := "y" },
     { id := 3, name := "left" }, { id := 4, name := "right" }]
  nodes :=
    [{ kind := "prim::Constant", outputs := [1], attributes := [("value", .int 2)] },
     { kind := "aten::mul", inputs := [0, 1], outputs := [2] },
     { kind := "prim::ConstantChunk", inputs := [2], outputs := [3, 4]
       attributes := [("chunks", .int 2), ("dim", .int (-1))] }]
  inputs := [0]
  outputs := [4, 3]

/-- The halves of seven columns are four and three columns, and no other records would do. -/
theorem scaledHalves_unique_solution :
    (Session.new scaledHalves [.tensor [5, 7]] {}).run.1 = .answered (.ok [[5, 3], [5, 4]]) ∧
      (Session.new scaledHalves [.tensor [5, 7]] {}).storeAfter.ids = [0, 1, 2, 3, 4] ∧
      ∀ v : Valuation, scaledHalves.BindsInputs [.tensor [5, 7]] v →
        (∀ node ∈ scaledHalves.nodes, scaledHalves.HoldsAt .refuse v node) →
          v 1 = some (.scalar [2]) ∧ v 3 = some (.tensor [5, 4]) := by
  have hrun :
      (Session.new scaledHalves [.tensor [5, 7]] {}).run.1 = .answered (.ok [[5, 3], [5, 4]]) := by
    decide +kernel
  obtain ⟨hids, -, -, -, -, hunique⟩ := Session.store_is_unique_solution hrun
  refine ⟨hrun, hids, fun v hbinds hholds => ?_⟩
  have hv := hunique v hbinds hholds
  constructor
  · rw [hv 1 (by decide)]
    decide +kernel
  · rw [hv 3 (by decide)]
    decide +kernel

end ShapeFlow
