import ShapeFlow.Proofs.Session.Answers
import Mathlib.Data.List.Perm.Subperm
import Mathlib.Data.List.Flatten

/-!
# The order of the nodes and unused nodes

The equations of a node mention no other node, so a valuation that solves the equations of a graph
solves those of each choice of its nodes, in each order (`Graph.Solves.of_subset`). If some of the
nodes of a graph, in some order, still make an ordered graph, a session over them answers whenever a
session over the whole graph does. Both hold the same records, and the shapes are those of the
whole graph (`Session.answer_of_reordered`).
-/

set_option autoImplicit false

namespace ShapeFlow

namespace Graph

variable {g h : Graph} {settings : PassSettings} {policy : ConstantPolicy} {xs : List Datum}
  {node : Node} {v : Valuation}

/-- A solution solves the equations of each choice of nodes. -/
theorem Solves.of_subset (hvalues : h.values = g.values) (hinputs : h.inputs = g.inputs)
    (hnodes : h.nodes ⊆ g.nodes) (hsolves : g.Solves policy xs v) : h.Solves policy xs v where
  binds := by
    rw [BindsInputs, hinputs]
    exact hsolves.binds
  holds := by
    intro n hn
    exact (hsolves.holds n (hnodes hn)).of_values hvalues

/-! ## Some of the nodes in some order -/

theorem produced_subperm {front nodes : List Node} (hnodes : front.Subperm nodes) :
    (produced front).Subperm (produced nodes) := by
  obtain ⟨chosen, hperm, hsub⟩ := hnodes
  exact ⟨produced chosen, hperm.flatMap_right _, hsub.flatMap _⟩

/-- An ordered choice of nodes of a well-formed graph is well-formed. -/
theorem WellFormed.of_subperm (hg : g.WellFormed) (hvalues : h.values = g.values)
    (hinputs : h.inputs = g.inputs) (hnodes : h.nodes.Subperm g.nodes) (hordered : h.Ordered) :
    h.WellFormed where
  ordered := hordered
  distinct := by
    obtain ⟨chosen, hperm, hsub⟩ := produced_subperm hnodes
    -- the results keep an order of their own as a part of those of the whole graph
    have hpart : (g.inputs ++ chosen).Nodup := hg.distinct.sublist (hsub.append_left g.inputs)
    rw [hinputs]
    exact (hperm.append_left g.inputs).nodup_iff.1 hpart
  rows := by
    intro id hid
    exact (hg.rows id ((produced_subperm hnodes).subset hid)).of_values hvalues

/-- A valuation with a record for each id of a list gives shapes for the list. -/
theorem exists_shapes_of_isSome {ids : List ValueId} (hrecords : ∀ id ∈ ids, (v id).isSome) :
    ∃ shapes : List Shape, ids.map (fun id => (v id).map Meta.shape) = shapes.map some := by
  induction ids with
  | nil => exact ⟨[], rfl⟩
  | cons id rest ih =>
    obtain ⟨m, hm⟩ := Option.isSome_iff_exists.1 (hrecords id List.mem_cons_self)
    obtain ⟨shapes, hshapes⟩ := ih fun k hk => hrecords k (List.mem_cons_of_mem _ hk)
    exact ⟨m.shape :: shapes, by simp [hm, hshapes]⟩

end Graph

open ShapeFlow.Graph

/-- **Neither the order of the nodes nor unused nodes matter.** A graph with the value table and the
inputs of another one, with some of its nodes in an order that the order check accepts, and with any
outputs, is answered if the other one is. Its store holds nothing but records of the other one, and
the answer is the shapes recorded there for its outputs. -/
theorem Session.answer_of_reordered {g h : Graph} {settings : PassSettings} {xs : List Datum}
    {shapes : List Shape} (hrun : (Session.new g xs settings).run.1 = .answered (.ok shapes))
    (hvalues : h.values = g.values) (hinputs : h.inputs = g.inputs)
    (hnodes : h.nodes.Subperm g.nodes) (hcheck : h.checkOrder = .ok ()) :
    ∃ found : List Shape,
      (Session.new h xs settings).run.1 = .answered (.ok found) ∧
        (∀ id ∈ (Session.new h xs settings).storeAfter.ids,
          (Session.new h xs settings).storeAfter.find? id =
            (Session.new g xs settings).storeAfter.find? id) ∧
        h.outputs.map (fun id =>
          ((Session.new g xs settings).storeAfter.find? id).map Meta.shape) = found.map some := by
  have hanswers := answers_of_answered hrun
  obtain ⟨-, hids, -⟩ := hanswers.answered
  have hordered := checkOrder_eq_ok_iff.1 hcheck
  -- every output of the chosen nodes has a record in the store of the whole graph
  have hrecords : ∀ id ∈ h.outputs,
      ((Session.new g xs settings).storeAfter.find? id).isSome := by
    intro id hid
    rw [Store.find?_isSome_iff, hids]
    rcases List.mem_append.1 (hordered.2 id hid) with hinput | hresult
    · exact List.mem_append_left _ (hinputs ▸ hinput)
    · exact List.mem_append_right _ ((produced_subperm hnodes).subset hresult)
  obtain ⟨found, hfound⟩ := exists_shapes_of_isSome hrecords
  have hwell := hanswers.wellFormed.of_subperm hvalues hinputs hnodes hordered
  have hsolves := hanswers.solves.of_subset hvalues hinputs hnodes.subset
  have hshown : settings.logShapeMap = true → ∀ id ∈ h.inputs, h.HasRow id := by
    intro hlog id hid
    rw [hinputs] at hid
    exact (hanswers.shown hlog id hid).of_values hvalues
  have hchosen : h.Answers settings xs (Session.new g xs settings).storeAfter.find? found :=
    ⟨hwell, hshown, hsolves, hfound⟩
  obtain ⟨hrun', hids', hsame⟩ := hchosen.answered
  exact ⟨found, hrun', fun id hid => hsame id (hids' ▸ hid), hfound⟩

/-- A tensor is doubled in one branch and rectified in another. -/
def Graph.twoBranches : Graph where
  values :=
    [{ id := 0, name := "x" }, { id := 1, name := "two", type := .int }, { id := 2, name := "y" },
     { id := 3, name := "z" }]
  nodes :=
    [{ kind := "prim::Constant", outputs := [1], attributes := [("value", .int 2)] },
     { kind := "aten::mul", inputs := [0, 1], outputs := [2] },
     { kind := "aten::relu", inputs := [0], outputs := [3] }]
  inputs := [0]
  outputs := [2]

/-- The second branch stands first, and nothing is doubled. -/
def Graph.secondBranch : Graph where
  values := twoBranches.values
  nodes :=
    [{ kind := "aten::relu", inputs := [0], outputs := [3] },
     { kind := "prim::Constant", outputs := [1], attributes := [("value", .int 2)] }]
  inputs := [0]
  outputs := [1, 3]

theorem secondBranch_of_twoBranches :
    (Session.new twoBranches [.tensor [5, 7]] {}).run.1 = .answered (.ok [[5, 7]]) ∧
      secondBranch.nodes.Subperm twoBranches.nodes ∧ secondBranch.checkOrder = .ok () ∧
      (Session.new secondBranch [.tensor [5, 7]] {}).run.1 = .answered (.ok [[1], [5, 7]]) := by
  have hrun : (Session.new twoBranches [.tensor [5, 7]] {}).run.1 = .answered (.ok [[5, 7]]) := by
    decide +kernel
  have hcheck : secondBranch.checkOrder = .ok () := rfl
  -- the product is left out, and the two nodes that stay are swapped
  have hchoice : ∀ two product relu : Node, [relu, two].Subperm [two, product, relu] := by
    intro two product relu
    exact ⟨[two, relu], .swap relu two [], .cons_cons two (.cons product (.cons_cons relu .slnil))⟩
  have hnodes : secondBranch.nodes.Subperm twoBranches.nodes := hchoice _ _ _
  obtain ⟨found, hanswer, -, hshapes⟩ :=
    Session.answer_of_reordered hrun (h := secondBranch) rfl rfl hnodes hcheck
  have hrecorded : secondBranch.outputs.map (fun id =>
      ((Session.new twoBranches [.tensor [5, 7]] {}).storeAfter.find? id).map Meta.shape) =
        [[1], [5, 7]].map some := by decide +kernel
  rw [hrecorded] at hshapes
  have hfound := (List.map_inj_right fun _ _ heq => Option.some.inj heq).1 hshapes
  rw [← hfound] at hanswer
  exact ⟨hrun, hnodes, hcheck, hanswer⟩

end ShapeFlow
