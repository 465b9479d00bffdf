import ShapeFlow.Proofs.Pass.Parallel
import ShapeFlow.Proofs.Pass.Phases

/-!
# Passes of twin graphs

Two graphs are twins if they agree in all ids and in the number of values, and if node by node the
rules give records with changed sizes for operands with changed sizes, or fail alike
(`Graph.Twins`). Names, payloads and attributes may differ. The passes of twins go side by side:
their checks, their inputs and each of their nodes end alike, and so do the whole passes
(`Graph.Twins.parallel_pass`).
-/

set_option autoImplicit false

namespace ShapeFlow.Graph

open Pass (Parallel)

/-- Two nodes have the same operator and the same operands and results by id, and their rules do
the same up to a change of sizes. -/
structure NodeTwins (φ : Int → Int) (policy : ConstantPolicy) (g h : Graph) (node twin : Node) :
    Prop where
  kind : twin.kind = node.kind
  inputs : twin.inputs = node.inputs
  outputs : twin.outputs = node.outputs
  yields : ∀ {operands operands' : List Meta},
    List.Forall₂ (Meta.ResizesTo φ) operands operands' →
      Alike (Failure.ResizesTo φ) (fun y y' => List.Forall₂ (Meta.ResizesTo φ) y.metas y'.metas)
        (g.yield policy node operands) (h.yield policy twin operands')

/-- Two graphs that cannot be told apart by shapes, up to a change of sizes. -/
structure Twins (φ : Int → Int) (policy : ConstantPolicy) (g h : Graph) : Prop where
  count : h.values.length = g.values.length
  inputs : h.inputs = g.inputs
  outputs : h.outputs = g.outputs
  nodes : List.Forall₂ (NodeTwins φ policy g h) g.nodes h.nodes

variable {φ : Int → Int} {policy : ConstantPolicy} {settings : PassSettings} {g h : Graph}
  {node twin : Node} {nodes twins : List Node} {xs ys : List Datum}

/-- Tables of one length have names for the same ids. -/
theorem covers_of_count (hcount : h.values.length = g.values.length) :
    g.nameOf.Covers h.nameOf := by
  intro id
  by_cases hrow : g.HasRow id
  · have hrow' : h.HasRow id := by rwa [HasRow, hcount]
    obtain ⟨name, hname⟩ := nameOf_of_hasRow hrow
    obtain ⟨name', hname'⟩ := nameOf_of_hasRow hrow'
    rw [hname, hname']
    exact .ok trivial
  · have hrow' : ¬ h.HasRow id := by rwa [HasRow, hcount]
    rw [nameOf_of_not_hasRow hrow, nameOf_of_not_hasRow hrow']
    exact .error rfl

theorem Twins.covers (ht : Twins φ policy g h) : g.nameOf.Covers h.nameOf :=
  covers_of_count ht.count

/-! ## The order check -/

theorem alike_checkNodes (hnames : g.nameOf.Covers h.nameOf) (index : Nat)
    (available : List ValueId) (hnodes : List.Forall₂ (NodeTwins φ policy g h) nodes twins) :
    Alike (Failure.ResizesTo φ) Eq (g.checkNodes index available nodes)
      (h.checkNodes index available twins) := by
  -- twins have the same ids, so the same ones are available behind each pair of nodes
  induction hnodes generalizing index available with
  | nil => exact .ok rfl
  | @cons node twin _ _ hnode _ ih =>
    rw [checkNodes, checkNodes, hnode.inputs, hnode.outputs, hnode.kind]
    cases firstMissing? available node.inputs with
    | some id => exact (hnames.alike id).bind fun a b _ => .error (.report rfl rfl)
    | none => exact ih (index + 1) (available ++ node.outputs)

theorem Twins.alike_checkOrder (ht : Twins φ policy g h) :
    Alike (Failure.ResizesTo φ) (fun _ _ => True) g.checkOrder h.checkOrder := by
  unfold checkOrder
  rw [ht.inputs, ht.outputs]
  refine (alike_checkNodes ht.covers 0 g.inputs ht.nodes).bind fun available _ hsame => ?_
  subst hsame
  cases firstMissing? available g.outputs with
  | some id => exact (ht.covers.alike id).bind fun a b _ => .error (.report rfl rfl)
  | none => exact .ok trivial

theorem Twins.alike_precheck (ht : Twins φ policy g h) (hlen : xs.length = ys.length) :
    Alike (Failure.ResizesTo φ) (fun _ _ => True) (g.precheck settings xs)
      (h.precheck settings ys) := by
  unfold precheck
  rw [ht.inputs, hlen]
  split_ifs
  · exact .error (.report rfl rfl)
  · exact ht.alike_checkOrder
  · exact .ok trivial

/-! ## Nodes -/

theorem parallel_writeResults (hnames : g.nameOf.Covers h.nameOf)
    {pairs pairs' : List (ValueId × Meta)}
    (hpairs : List.Forall₂ (fun a b => b.1 = a.1 ∧ a.2.ResizesTo φ b.2) pairs pairs') :
    Parallel φ (fun _ _ => True) (g.writeResults node pairs) (h.writeResults twin pairs') := by
  induction hpairs with
  | nil => exact Pass.parallel_pure trivial
  | @cons a b _ _ hab _ ih =>
    obtain ⟨id, m⟩ := a
    obtain ⟨id', n⟩ := b
    obtain ⟨rfl, hm⟩ := hab
    rw [writeResults, writeResults, writeResultsNamed, writeResultsNamed]
    refine (Pass.parallel_write hnames _ hm).bind fun _ _ _ => ?_
    refine (Pass.parallel_ofExcept (hnames.alike _)).bind fun _ _ _ => ?_
    exact (Pass.parallel_note _ _).bind fun _ _ _ => ih

/-- **Twin nodes go side by side.** -/
theorem NodeTwins.parallel_step (hnode : NodeTwins φ policy g h node twin)
    (hnames : g.nameOf.Covers h.nameOf) :
    Parallel φ (fun _ _ => True) (g.step policy node) (h.step policy twin) := by
  unfold step stepNamed
  rw [hnode.inputs, hnode.outputs]
  have hread := Pass.parallel_ofStore fun s t hstore =>
    Pass.alike_readAll (φ := φ) hnames hstore node.inputs
  refine hread.bind fun operands operands' hoperands => ?_
  -- the rules have given all results before the first one is written
  refine (Pass.parallel_ofExcept (hnode.yields hoperands)).bind fun y y' hmetas => ?_
  refine (Pass.parallel_note _ _).bind fun _ _ _ => ?_
  exact parallel_writeResults hnames (forall₂_zip hmetas node.outputs)

theorem parallel_runNodes (hnames : g.nameOf.Covers h.nameOf) (index : Nat)
    (hnodes : List.Forall₂ (NodeTwins φ policy g h) nodes twins) :
    Parallel φ (fun _ _ => True) (g.runNodes policy index nodes)
      (h.runNodes policy index twins) := by
  induction hnodes generalizing index with
  | nil => exact Pass.parallel_pure trivial
  | @cons node twin _ _ hnode _ ih =>
    rw [runNodes, runNodes, hnode.kind]
    have hstep := (hnode.parallel_step hnames).mapFailure fun e d he => he.atNode index node.kind
    exact hstep.bind fun _ _ _ => ih (index + 1)

/-! ## Passes -/

theorem Twins.parallel_opening (ht : Twins φ policy g h)
    (hxs : List.Forall₂ (Datum.ResizesTo φ) xs ys) :
    Parallel φ (fun _ _ => True) (g.opening settings xs) (h.opening settings ys) := by
  unfold opening
  rw [ht.inputs]
  refine (Pass.parallel_ofExcept (ht.alike_precheck hxs.length_eq)).bind fun _ _ _ => ?_
  refine (Pass.parallel_note _ _).bind fun _ _ _ => ?_
  exact (Pass.parallel_bindInputs ht.covers g.inputs hxs).bind fun _ _ _ =>
    Pass.parallel_pure trivial

/-- **The passes of twin graphs go side by side.** -/
theorem Twins.parallel_pass (ht : Twins φ settings.unknownConstants g h)
    (hxs : List.Forall₂ (Datum.ResizesTo φ) xs ys) :
    Parallel φ (fun shapes shapes' => shapes' = shapes.map (Shape.resize φ))
      (g.pass settings xs) (h.pass settings ys) := by
  rw [pass_eq_passTo, pass_eq_passTo, passTo, passTo, List.take_length, List.take_length,
    ht.outputs]
  have hnodes := parallel_runNodes ht.covers 0 ht.nodes
  refine ((ht.parallel_opening hxs).bind fun _ _ _ => hnodes).bind fun _ _ _ => ?_
  have hread := Pass.parallel_ofStore fun s t hstore =>
    Pass.alike_readAll (φ := φ) ht.covers hstore g.outputs
  exact hread.bind fun metas metas' hmetas => Pass.parallel_pure (map_shape_of_resizesTo hmetas)

end ShapeFlow.Graph
