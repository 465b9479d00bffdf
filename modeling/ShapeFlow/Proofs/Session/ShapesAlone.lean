import ShapeFlow.Proofs.Session.Twins

/-!
# Only shapes matter

A session looks at the ids of a graph, at the attributes of its nodes, at the declared types of its
constants and at the shapes of its inputs, and at nothing else. Neither the names of values, nor the
other declared types, nor the numbers that an input holds leak into a shape or into the way in which
a session ends (`Session.shapes_alone_matter`).
-/

set_option autoImplicit false

namespace ShapeFlow

/-- Two graphs differ at most in the names of values and in declared types that no constant looks
up. A constant looks up the type of its one output; with any other number of outputs it looks up
none. -/
structure Graph.SameButNames (g h : Graph) : Prop where
  count : h.values.length = g.values.length
  nodes : h.nodes = g.nodes
  inputs : h.inputs = g.inputs
  outputs : h.outputs = g.outputs
  types : ∀ node ∈ g.nodes, node.operator = .constant → ∀ id, node.outputs = [id] →
    ∀ v w, g.value id = .ok v → h.value id = .ok w → w.type = v.type

theorem Failure.resizesTo_id (e : Failure) : e.ResizesTo id e := by
  cases e with
  | report r => exact .report (Category.resize_id _).symm rfl
  | fault f => exact .fault f

theorem Meta.resizesTo_id_iff {m n : Meta} : m.ResizesTo id n ↔ n.shape = m.shape := by
  rw [ResizesTo, Shape.resize_id]

/-- A computation ends like itself. -/
theorem alike_self {α : Type} (r : Except Failure α) : Alike (Failure.ResizesTo id) Eq r r := by
  cases r with
  | ok a => exact .ok rfl
  | error e => exact .error e.resizesTo_id

theorem forall₂_resizesTo_id (ms : List Meta) : List.Forall₂ (Meta.ResizesTo id) ms ms :=
  List.forall₂_same.2 fun _ _ => Meta.resizesTo_id_iff.2 rfl

namespace Graph

variable {g h : Graph} {policy : ConstantPolicy} {node : Node}

/-- Tables of one length have values for the same ids, and with one declared type if this is asked
for. -/
theorem alike_value {id : ValueId} (hnames : g.nameOf.Covers h.nameOf)
    (htypes : ∀ v w, g.value id = .ok v → h.value id = .ok w → w.type = v.type) :
    Alike (fun f f' => f' = f) (fun v w => w.type = v.type) (g.value id) (h.value id) := by
  have hid := hnames id
  unfold nameOf at hid
  cases hg : g.value id with
  | ok v =>
    cases hh : h.value id with
    | ok w => exact .ok (htypes v w hg hh)
    | error f' =>
      rw [hg, hh] at hid
      cases hid
  | error f =>
    cases hh : h.value id with
    | ok w =>
      rw [hg, hh] at hid
      cases hid
    | error f' =>
      rw [hg, hh] at hid
      cases hid with
      | error hf => exact .error hf

theorem alike_constantYield (hnames : g.nameOf.Covers h.nameOf)
    (htypes : ∀ id, node.outputs = [id] →
      ∀ v w, g.value id = .ok v → h.value id = .ok w → w.type = v.type) :
    Alike (Failure.ResizesTo id) (fun y y' => List.Forall₂ (Meta.ResizesTo id) y.metas y'.metas)
      (g.constantYield policy node) (h.constantYield policy node) := by
  unfold constantYield
  split
  · rename_i output hout
    -- the names may differ, but the type of the one output is looked up and is the same
    refine (alike_faulted (alike_value hnames (htypes output hout))).bind fun v w htype => ?_
    rw [htype]
    refine (alike_self _).bind fun content _ hsame => ?_
    subst hsame
    exact .ok (forall₂_resizesTo_id _)
  · exact .error (Failure.resizesTo_id _)

/-- A node is its own twin in two graphs that have the same type for it where it is a constant. -/
theorem nodeTwins_self (hnames : g.nameOf.Covers h.nameOf)
    (htypes : node.operator = .constant → ∀ id, node.outputs = [id] →
      ∀ v w, g.value id = .ok v → h.value id = .ok w → w.type = v.type) :
    NodeTwins id policy g h node node where
  kind := rfl
  inputs := rfl
  outputs := rfl
  yields := by
    intro operands operands' hoperands
    unfold yield
    split_ifs with hop
    · exact alike_constantYield hnames (htypes hop)
    · -- the rule is given the same shapes twice
      have hshapes : operands'.map Meta.shape = operands.map Meta.shape := by
        rw [map_shape_of_resizesTo hoperands, List.map_congr_left fun s _ => s.resize_id,
          List.map_id']
      rw [hshapes]
      refine (alike_self _).map fun metas _ hsame => ?_
      subst hsame
      exact forall₂_resizesTo_id metas

theorem SameButNames.twins (hg : g.SameButNames h) : Twins id policy g h where
  count := hg.count
  inputs := hg.inputs
  outputs := hg.outputs
  nodes := by
    rw [hg.nodes]
    exact List.forall₂_same.2 fun node hnode =>
      nodeTwins_self (covers_of_count hg.count) (hg.types node hnode)

end Graph

/-- **Names, types and payloads do not leak into shapes.** For graphs that differ only in names and
in types that no constant looks up, and for inputs that are all accepted and have the same shapes,
sessions answer the same shapes or fail in the same way by failures of one class, and their stores
hold the same shapes for the same ids. -/
theorem Session.shapes_alone_matter {g h : Graph} (hg : g.SameButNames h) (settings : PassSettings)
    {xs ys : List Datum}
    (hxs : List.Forall₂
      (fun x y => ∃ m n, x.asMeta = .ok m ∧ y.asMeta = .ok n ∧ n.shape = m.shape) xs ys) :
    (∀ shapes, (Session.new g xs settings).run.1 = .answered (.ok shapes) ↔
        (Session.new h ys settings).run.1 = .answered (.ok shapes)) ∧
      (∀ e, (Session.new g xs settings).run.1 = .answered (.err e) →
        ∃ d, (Session.new h ys settings).run.1 = .answered (.err d) ∧ e.SameClass d) ∧
      (∀ e, (Session.new g xs settings).run.1 = .raised e →
        ∃ d, (Session.new h ys settings).run.1 = .raised d ∧ e.SameClass d) ∧
      (Session.new h ys settings).storeAfter.shapes =
        (Session.new g xs settings).storeAfter.shapes := by
  have hinputs : List.Forall₂ (Datum.ResizesTo id) xs ys := by
    refine hxs.imp ?_
    rintro x y ⟨m, n, hx, hy, hshape⟩
    exact ⟨m, n, hx, hy, Meta.resizesTo_id_iff.2 hshape⟩
  have htwins : g.Twins id settings.unknownConstants h := hg.twins
  obtain ⟨hends, hstore⟩ := Session.ends_alike htwins hinputs
  refine ⟨?_, ?_, ?_, ?_⟩
  · -- no sizes were changed, so the shapes of both are the same
    generalize (Session.new g xs settings).run.1 = ending,
      (Session.new h ys settings).run.1 = ending' at hends
    cases hends with
    | shapes found =>
      intro shapes
      rw [List.map_congr_left fun s _ => s.resize_id, List.map_id']
    | refused _ => simp
    | raised _ => simp
  · intro e h
    obtain ⟨d, hd, he⟩ := hends.answers_failure h
    exact ⟨d, hd, he.sameClass⟩
  · intro e h
    obtain ⟨d, hd, he⟩ := hends.raises_failure h
    exact ⟨d, hd, he.sameClass⟩
  · rw [hstore.shapes]
    simp

/-- A table is shifted by a column and scaled by a constant. -/
def Graph.shiftedTable : Graph where
  values :=
    [{ id := 0, name := "table" }, { id := 1, name := "column", type := .intList },
     { id := 2, name := "two", type := .int }, { id := 3, name := "shifted" },
     { id := 4, name := "scaled" }]
  nodes :=
    [{ kind := "prim::Constant", outputs := [2], attributes := [("value", .int 2)] },
     { kind := "aten::add", inputs := [0, 1, 2], outputs := [3] },
     { kind := "aten::mul", inputs := [3, 2], outputs := [4] }]
  inputs := [0, 1]
  outputs := [4]

/-- The same graph under other names, with the column declared a tensor. -/
def Graph.renamedTable : Graph :=
  { shiftedTable with
    values :=
      [{ id := 0, name := "a" }, { id := 1, name := "b" }, { id := 2, name := "", type := .int },
       { id := 3, name := "a", type := .float }, { id := 4, name := "c", type := .other }] }

/-- Three numbers and a tensor of three rows lead to the same shapes. -/
theorem renamedTable_of_shiftedTable :
    Graph.shiftedTable.SameButNames .renamedTable ∧
      (Session.new .renamedTable [.array [3, 5], .tensor [3, 1]] {}).run.1 =
        .answered (.ok [[3, 5]]) ∧
      (Session.new .renamedTable [.array [3, 5], .tensor [3, 1]] {}).storeAfter.shapes =
        (Session.new .shiftedTable
          [.tensor [3, 5], .list [.int 7, .int 8, .int 9]] {}).storeAfter.shapes := by
  have hsame : Graph.shiftedTable.SameButNames .renamedTable := by
    refine ⟨rfl, rfl, rfl, rfl, ?_⟩
    intro node hnode hop id hout v w hv hw
    simp only [Graph.shiftedTable, List.mem_cons, List.not_mem_nil, or_false] at hnode
    rcases hnode with rfl | rfl | rfl
    · cases hout
      cases hv
      cases hw
      rfl
    · cases hop
    · cases hop
  have hrun : (Session.new .shiftedTable
      [.tensor [3, 5], .list [.int 7, .int 8, .int 9]] {}).run.1 = .answered (.ok [[3, 5]]) := by
    decide +kernel
  have hxs : List.Forall₂ (fun x y : Datum =>
      ∃ m n, x.asMeta = .ok m ∧ y.asMeta = .ok n ∧ n.shape = m.shape)
      [.tensor [3, 5], .list [.int 7, .int 8, .int 9]] [.array [3, 5], .tensor [3, 1]] :=
    .cons ⟨.tensor [3, 5], .tensor [3, 5], rfl, rfl, rfl⟩
      (.cons ⟨.intList [7, 8, 9], .tensor [3, 1], rfl, rfl, rfl⟩ .nil)
  obtain ⟨hanswer, -, -, hstore⟩ := Session.shapes_alone_matter hsame {} hxs
  exact ⟨hsame, (hanswer _).1 hrun, hstore⟩

end ShapeFlow
