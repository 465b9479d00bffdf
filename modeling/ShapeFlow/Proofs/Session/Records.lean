import ShapeFlow.Proofs.Rule.Sizes
import ShapeFlow.Proofs.Pass.Keeping
import ShapeFlow.Proofs.Session.Ending

/-!
# Well-formed records

A record is well-formed if it has no negative size, and its numbers, where they are known, fit its
shape: at most one number for a scalar, and `n` numbers for a list of `n` (`Meta.WellFormed`). What
is kept of an input is well-formed, and so are the results of a rule if its operands are, provided
that no tensor comes with a negative size from outside (`Graph.SizesNonneg`).

So all records in the store are well-formed wherever a pass is: before its inputs, between them, at
a node, and between the results of a node (`Graph.Visits`). `Session.records_wellFormed` says so,
and that the store which a session leaves behind is one of these, however the session ends.
-/

set_option autoImplicit false

namespace ShapeFlow

/-- A record without negative sizes, whose numbers fit its shape. -/
structure Meta.WellFormed (m : Meta) : Prop where
  sizes : m.shape.Nonneg
  numbers : ∀ ns, m.payload = some ns →
    (m.shape = [1] ∧ ns.length ≤ 1) ∨ m.shape = [(ns.length : Int), 1]

/-- A value that is no tensor with a negative size. -/
def Datum.SizesNonneg : Datum → Prop
  | tensor dims _ | parameter dims _ | array dims _ => Shape.Nonneg dims
  | _ => True

theorem Node.operator_eq_constant_iff {node : Node} :
    node.operator = .constant ↔ node.kind = "prim::Constant" := by
  unfold operator Operator.ofSymbol
  constructor
  · intro h
    cases hfound : Operator.symbols.lookup node.kind with
    | none =>
      rw [hfound] at h
      cases h
    | some op =>
      rw [hfound, Option.getD_some] at h
      obtain ⟨before, after, hsplit, -⟩ := List.lookup_eq_some_iff.1 hfound
      -- of the pairs in the table, only the first has this operator
      have hmem : (node.kind, op) ∈ Operator.symbols := by
        rw [hsplit]
        exact List.mem_append_right _ List.mem_cons_self
      rw [h] at hmem
      simpa [Operator.symbols] using hmem
  · intro h
    rw [h]
    rfl

namespace Meta

theorem wellFormed_tensor {dims : Shape} (h : dims.Nonneg) : (tensor dims).WellFormed where
  sizes := h
  numbers := by
    intro ns hns
    cases hns

theorem wellFormed_scalar {ns : List Int} (h : ns.length ≤ 1) : (scalar ns).WellFormed where
  sizes := by
    show Shape.Nonneg [1]
    decide
  numbers := by
    intro ns' hns
    cases hns
    exact Or.inl ⟨rfl, h⟩

theorem wellFormed_intList (ns : List Int) : (intList ns).WellFormed where
  sizes := by
    intro d hd
    rcases List.mem_pair.1 hd with rfl | rfl
    · exact Int.natCast_nonneg _
    · exact Int.one_nonneg
  numbers := by
    intro ns' hns
    cases hns
    exact Or.inr rfl

end Meta

/-- What is kept of an input is well-formed. -/
theorem Datum.wellFormed_asMeta {x : Datum} (h : x.SizesNonneg) :
    GivesOnly Meta.WellFormed x.asMeta := by
  unfold asMeta
  split
  · exact givesOnly_ok (Meta.wellFormed_tensor h)
  · exact givesOnly_ok (Meta.wellFormed_tensor h)
  · exact givesOnly_ok (Meta.wellFormed_tensor h)
  · exact givesOnly_ok (Meta.wellFormed_intList _)
  · split
    · exact givesOnly_ok (Meta.wellFormed_intList _)
    · exact givesOnly_error _
  · split
    · exact givesOnly_ok (Meta.wellFormed_intList _)
    · exact givesOnly_error _
  · split
    · exact givesOnly_ok (Meta.wellFormed_scalar (Nat.le_refl 1))
    · exact givesOnly_error _

namespace Rule

theorem nonneg_constantSizes {node : Node}
    (h : ∀ x, node.require "value" = .ok x → x.SizesNonneg) :
    GivesOnly Shape.Nonneg (constantSizes node) := by
  have hvalue : GivesOnly Datum.SizesNonneg (node.require "value") := h
  refine hvalue.bind fun x hx => ?_
  split
  · exact givesOnly_ok hx
  · exact givesOnly_ok hx
  · exact givesOnly_ok hx
  · exact givesOnly_error _

/-- The content of a constant that is no tensor is at most one number. -/
theorem length_constant (policy : ConstantPolicy) (node : Node) {type : DeclaredType}
    (h : type ≠ .tensor) :
    GivesOnly (fun content : List Int => content.length ≤ 1) (constant policy node type) := by
  have hone : ∀ n : Int, [n].length ≤ 1 := fun _ => Nat.le_refl 1
  have hvalue : GivesOnly (fun _ => True) (reported (node.require "value")) := fun _ _ => trivial
  unfold constant
  cases type with
  | float => exact givesOnly_ok (hone 1)
  | int =>
    refine hvalue.bind fun x _ => ?_
    have hnumber : GivesOnly (fun _ => True) (faulted x.toInteger) := fun _ _ => trivial
    exact hnumber.bind fun n _ => givesOnly_ok (hone n)
  | bool =>
    refine hvalue.bind fun x _ => ?_
    have htruth : GivesOnly (fun _ => True) (faulted x.truth) := fun _ _ => trivial
    exact htruth.bind fun b _ => givesOnly_ok (hone _)
  | none => exact givesOnly_ok (Nat.zero_le 1)
  | tensor => exact absurd rfl h
  | intList | other =>
    cases policy with
    | empty => exact givesOnly_ok (Nat.zero_le 1)
    | refuse => exact givesOnly_error _

theorem wellFormed_constantMeta (policy : ConstantPolicy) {node : Node} {type : DeclaredType}
    (h : type = .tensor → ∀ x, node.require "value" = .ok x → x.SizesNonneg) :
    GivesOnly (fun content => (constantMeta type content).WellFormed)
      (constant policy node type) := by
  intro content hcontent
  unfold constantMeta
  by_cases htype : type = .tensor
  · rw [if_pos htype]
    subst htype
    exact Meta.wellFormed_tensor
      (nonneg_constantSizes (h rfl) content (reported_eq_ok_iff.1 hcontent))
  · rw [if_neg htype]
    exact Meta.wellFormed_scalar (length_constant policy node htype content hcontent)

end Rule

namespace Graph

variable {g : Graph} {settings : PassSettings} {policy : ConstantPolicy} {xs : List Datum}
  {node : Node}

/-! ## The results of a node -/

/-- No tensor that a constant of tensor type holds has a negative size. -/
def ConstantSizesNonneg (g : Graph) (node : Node) : Prop :=
  node.kind = "prim::Constant" → ∀ output ∈ node.outputs, ∀ value, g.value output = .ok value →
    value.type = .tensor → ∀ x, node.require "value" = .ok x → x.SizesNonneg

/-- No tensor comes with a negative size from outside. -/
structure SizesNonneg (g : Graph) (xs : List Datum) : Prop where
  inputs : ∀ x ∈ xs, x.SizesNonneg
  constants : ∀ node ∈ g.nodes, g.ConstantSizesNonneg node

/-- **A rule takes well-formed records to well-formed records.** -/
theorem Obeys.wellFormed {operands results : List Meta} (h : g.Obeys policy node operands results)
    (hconstant : g.ConstantSizesNonneg node) (hoperands : ∀ m ∈ operands, m.WellFormed) :
    ∀ m ∈ results, m.WellFormed := by
  cases h with
  | @constant output value content hop hout hvalue hcontent =>
    have hkind := Node.operator_eq_constant_iff.1 hop
    have hmem : output ∈ node.outputs := by
      rw [hout]
      exact List.mem_cons_self
    have hsizes := hconstant hkind output hmem value hvalue
    exact List.forall_mem_singleton.2 (Rule.wellFormed_constantMeta policy hsizes content hcontent)
  | @tensors shapes hop hshapes =>
    have hnonneg : ∀ s ∈ operands.map Meta.shape, Shape.Nonneg s := by
      intro s hs
      obtain ⟨m, hm, rfl⟩ := List.mem_map.1 hs
      exact (hoperands m hm).sizes
    intro m hm
    obtain ⟨s, hs, rfl⟩ := List.mem_map.1 hm
    exact Meta.wellFormed_tensor (node.nonneg_resultShapes hnonneg shapes hshapes s hs)

/-- Only a constant gives records with numbers. -/
theorem Obeys.payload_eq_none {operands results : List Meta}
    (h : g.Obeys policy node operands results) (hkind : node.kind ≠ "prim::Constant") :
    ∀ m ∈ results, m.payload = none := by
  cases h with
  | constant hop hout hvalue hcontent => exact absurd (Node.operator_eq_constant_iff.1 hop) hkind
  | tensors hop hshapes =>
    intro m hm
    obtain ⟨s, -, rfl⟩ := List.mem_map.1 hm
    rfl

theorem keeps_wellFormed_step (h : g.ConstantSizesNonneg node) :
    Pass.Keeps (Store.Extends [] Meta.WellFormed) (fun _ => True) (g.step policy node) := by
  refine keeps_step (Pass.keeps_readAll node.inputs) fun operands hoperands y hy => ?_
  exact (obeys_of_yield hy).1.wellFormed h hoperands

/-- A step of another operator than the constant adds only records without numbers. -/
theorem extends_of_step {p q : Progress} {result : Except Failure Unit}
    (hkind : node.kind ≠ "prim::Constant")
    (h : (g.step policy node).runFrom p = (result, q)) :
    q.store.Extends p.store.entries fun m => m.payload = none := by
  have hread : Pass.Keeps (Store.Extends p.store.entries fun m => m.payload = none)
      (fun operands => ∀ m ∈ operands, True)
      (Pass.ofStore (Pass.readAll g.nameOf node.inputs)) :=
    Pass.keeps_ofStore fun _ _ _ _ _ _ => trivial
  refine (keeps_step hread ?_).leaves (Store.extends_self _ p.store) h
  intro operands _ y hy
  exact (obeys_of_yield hy).1.payload_eq_none hkind

/-! ## The points of a pass -/

/-- The stores at the points of a pass: before its inputs, behind the first `n` of them, where it
arrives at node number `k` or behind the last node, behind a step however it ends, and behind the
writing of the first `n` results of a node. -/
inductive Visits (g : Graph) (settings : PassSettings) (xs : List Datum) : Store → Prop where
  | start : Visits g settings xs .empty
  | input {n : Nat} {t : Store} : g.precheck settings xs = .ok () →
      Pass.Binds ((g.inputs.zip xs).take n) .empty t → Visits g settings xs t
  | arrives {k : Nat} {q : Progress} : (g.passTo settings xs k).runFrom {} = (.ok (), q) →
      Visits g settings xs q.store
  | step {k : Nat} {node : Node} {q r : Progress} {result : Except Failure Unit} :
      g.nodes[k]? = some node → (g.passTo settings xs k).runFrom {} = (.ok (), q) →
        (g.step settings.unknownConstants node).runFrom q = (result, r) →
          Visits g settings xs r.store
  | result {n k : Nat} {node : Node} {operands : List Meta} {y : Yield} {p q r : Progress}
      {result : Except Failure Unit} : g.nodes[k]? = some node →
        (g.passTo settings xs k).runFrom {} = (.ok (), p) →
          Pass.readAll g.nameOf node.inputs p.store = .ok operands →
            g.yield settings.unknownConstants node operands = .ok y → q.store = p.store →
              (g.writeResults node ((node.outputs.zip y.metas).take n)).runFrom q = (result, r) →
                Visits g settings xs r.store

/-- An entry of a store with bound inputs is the record of one of these inputs. -/
theorem asMeta_of_binds {pairs : List (ValueId × Datum)} {t : Store}
    (h : Pass.Binds pairs .empty t) :
    ∀ entry ∈ t.entries, ∃ pair ∈ pairs, pair.2.asMeta = .ok entry.2 := by
  rintro ⟨id, m⟩ hentry
  have hid : id ∈ t.ids := List.mem_map_of_mem hentry
  rw [h.ids] at hid
  obtain ⟨pair, hpair, rfl⟩ := List.mem_map.1 hid
  obtain ⟨m', hm', hfind⟩ := h.finds pair hpair
  -- one id has one record
  rw [Store.find?_eq_some_iff.2 hentry] at hfind
  cases hfind
  exact ⟨pair, hpair, hm'⟩

theorem SizesNonneg.wellFormed_asMeta (h : g.SizesNonneg xs) :
    ∀ x ∈ xs, GivesOnly Meta.WellFormed x.asMeta :=
  fun x hx => Datum.wellFormed_asMeta (h.inputs x hx)

/-- Where a pass arrives, all records are well-formed. -/
theorem SizesNonneg.extends_of_passTo (h : g.SizesNonneg xs) {k : Nat} {q : Progress}
    (hto : (g.passTo settings xs k).runFrom {} = (.ok (), q)) :
    q.store.Extends [] Meta.WellFormed := by
  have hstart : ({} : Progress).store.Extends [] Meta.WellFormed := Store.extends_self _ .empty
  refine (keeps_passTo k (Pass.keeps_bindInputs h.wellFormed_asMeta) ?_).leaves hstart hto
  intro node hnode
  exact keeps_wellFormed_step (h.constants node hnode)

/-- **All records are well-formed at every point of a pass.** -/
theorem SizesNonneg.extends_of_visits (h : g.SizesNonneg xs) {t : Store}
    (ht : g.Visits settings xs t) : t.Extends [] Meta.WellFormed := by
  cases ht with
  | start => exact Store.extends_self _ .empty
  | input hchecks hbinds =>
    rw [Store.extends_nil_iff]
    intro entry hentry
    obtain ⟨pair, hpair, hmeta⟩ := asMeta_of_binds hbinds entry hentry
    have hvalue := (List.of_mem_zip (List.mem_of_mem_take hpair)).2
    exact h.wellFormed_asMeta pair.2 hvalue entry.2 hmeta
  | arrives hto => exact h.extends_of_passTo hto
  | @step k node q r result hnode hto hstep =>
    have hconstant := h.constants node (List.mem_of_getElem? hnode)
    exact (keeps_wellFormed_step hconstant).leaves (h.extends_of_passTo hto) hstep
  | @result n k node operands y p q r result hnode hto hread hyield hstore hwrite =>
    have hconstant := h.constants node (List.mem_of_getElem? hnode)
    have hbefore := h.extends_of_passTo hto
    have hoperands := (Pass.keeps_readAll node.inputs p hbefore).2 operands hread
    have hmetas := (obeys_of_yield hyield).1.wellFormed hconstant hoperands
    have hpairs : ∀ pair ∈ (node.outputs.zip y.metas).take n, pair.2.WellFormed :=
      fun pair hpair => hmetas pair.2 (List.of_mem_zip (List.mem_of_mem_take hpair)).2
    exact (keeps_writeResults hpairs).leaves (hstore ▸ hbefore) hwrite

/-- Where a front of the inputs is bound, the pass is at one of its points. -/
theorem visits_of_front {front back : List (ValueId × Datum)} {t : Store}
    (hchecks : g.precheck settings xs = .ok ()) (hpairs : g.inputs.zip xs = front ++ back)
    (hfront : Pass.Binds front .empty t) : g.Visits settings xs t := by
  have htake : (g.inputs.zip xs).take front.length = front := by
    rw [hpairs]
    exact List.take_left
  rw [← htake] at hfront
  exact .input hchecks hfront

/-- A pass that fails does so at one of its points. -/
theorem PassFailure.visits {e : Failure} {t : Store} (h : PassFailure g settings xs e t) :
    g.Visits settings xs t := by
  cases h with
  | count hcount => exact .start
  | order hcount hverify hcheck => exact .start
  | input hchecks hbind =>
    -- the inputs before the one at fault are bound, and no more is written
    cases hbind with
    | refused hpairs hfront hx => exact visits_of_front hchecks hpairs hfront
    | duplicate hpairs hfront hx hid => exact visits_of_front hchecks hpairs hfront
  | node hnode hto hstep => exact .step hnode hto hstep
  | output hto hread => exact .arrives hto

end Graph

/-- The store that a session leaves behind is the one at a point of its pass. -/
theorem Session.visits_storeAfter (g : Graph) (xs : List Datum) (settings : PassSettings) :
    g.Visits settings xs (Session.new g xs settings).storeAfter := by
  have hends := ends_run g xs settings
  generalize (new g xs settings).storeAfter = t at hends ⊢
  generalize (new g xs settings).run.1 = ending at hends
  generalize (new g xs settings).run.2.outputs = outputs at hends
  cases hends with
  | shapes hpass hshown => exact .arrives (Graph.run_pass_eq_ok hpass).1
  | unshown hpass hshown => exact .arrives (Graph.run_pass_eq_ok hpass).1
  | refused hpass hr => exact (Graph.run_pass_eq_error hpass).visits
  | failed hpass hr => exact (Graph.run_pass_eq_error hpass).visits

/-- **The records of a session are well-formed at every point of its pass**, the end among them,
however the session ends; and a step of another operator than the constant, wherever it runs and
however it ends, only adds records without numbers to the store. -/
theorem Session.records_wellFormed {g : Graph} {xs : List Datum} (settings : PassSettings)
    (h : g.SizesNonneg xs) :
    (∀ t, g.Visits settings xs t → ∀ entry ∈ t.entries, entry.2.WellFormed) ∧
      g.Visits settings xs (Session.new g xs settings).storeAfter ∧
      ∀ (node : Node) (p q : Progress) (result : Except Failure Unit),
        node.kind ≠ "prim::Constant" →
          (g.step settings.unknownConstants node).runFrom p = (result, q) →
            ∃ added, q.store.entries = p.store.entries ++ added ∧
              ∀ entry ∈ added, entry.2.payload = none := by
  refine ⟨fun t ht => ?_, visits_storeAfter g xs settings, fun node p q result hkind hstep => ?_⟩
  · exact Store.extends_nil_iff.1 (h.extends_of_visits ht)
  · exact Graph.extends_of_step hkind hstep

/-- The last part of a tensor in two pieces is laid behind a constant without rows. -/
def Graph.tailBehindEmpty : Graph where
  values := [{ id := 0, name := "x" }, { id := 1, name := "none" }, { id := 2, name := "front" },
    { id := 3, name := "tail" }, { id := 4, name := "y" }]
  nodes :=
    [{ kind := "prim::Constant", outputs := [1], attributes := [("value", .tensor [0, 2])] },
     { kind := "prim::ConstantChunk", inputs := [0], outputs := [2, 3]
       attributes := [("chunks", .int 2), ("dim", .int 0)] },
     { kind := "prim::FusedConcat", inputs := [1, 3], outputs := [4]
       attributes := [("dim", .int 0)] }]
  inputs := [0]
  outputs := [4]

/-- Five rows are split into three and two, and all records of the session are well-formed. -/
theorem tailBehindEmpty_records :
    (Session.new Graph.tailBehindEmpty [.tensor [5, 2]] {}).storeAfter.shapes =
        [(0, [5, 2]), (1, [0, 2]), (2, [3, 2]), (3, [2, 2]), (4, [2, 2])] ∧
      ∀ entry ∈ (Session.new Graph.tailBehindEmpty [.tensor [5, 2]] {}).storeAfter.entries,
        entry.2.WellFormed := by
  have hsizes : Graph.tailBehindEmpty.SizesNonneg [.tensor [5, 2]] := by
    constructor
    · intro x hx
      obtain rfl := List.mem_singleton.1 hx
      show Shape.Nonneg [5, 2]
      decide
    · intro node hnode hkind output _ value _ _ x hx
      simp only [Graph.tailBehindEmpty, List.mem_cons, List.not_mem_nil, or_false] at hnode
      rcases hnode with rfl | rfl | rfl
      · cases hx
        show Shape.Nonneg [0, 2]
        decide
      · simp at hkind
      · simp at hkind
  obtain ⟨hall, hlast, -⟩ := Session.records_wellFormed {} hsizes
  exact ⟨by decide +kernel, hall _ hlast⟩

end ShapeFlow
