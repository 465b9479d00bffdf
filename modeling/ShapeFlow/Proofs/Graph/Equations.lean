import ShapeFlow.Pass.Step
import ShapeFlow.Pass.Binding
import ShapeFlow.Proofs.Failure.Results
import ShapeFlow.Proofs.Graph.Availability
import Mathlib.Data.List.Forall2

/-!
# The equations of a graph

A graph and its inputs set up equations for a valuation of ids: each graph input has the record of
the value that it is bound to (`Graph.BindsInputs`), and at each node the rule takes the records of
the operands to the records of the results (`Graph.HoldsAt`). The rule of a node is a relation
between two lists of records (`Graph.Obeys`), said without a store and without an order of writing.

Along an order of the nodes the equations have at most one solution (`Graph.Solves.unique`).
-/

set_option autoImplicit false

namespace ShapeFlow

/-- Records for some of the ids. -/
abbrev Valuation := ValueId → Option Meta

namespace Graph

/-- The rule of a node: what its results are for the records of its operands. A constant gets its
declared type from its one output; all other operators give tensors. -/
inductive Obeys (g : Graph) (policy : ConstantPolicy) (node : Node) :
    List Meta → List Meta → Prop where
  | constant {operands : List Meta} {output : ValueId} {value : Value} {content : List Int} :
      node.operator = .constant → node.outputs = [output] → g.value output = .ok value →
        Rule.constant policy node value.type = .ok content →
          Obeys g policy node operands [Rule.constantMeta value.type content]
  | tensors {operands : List Meta} {shapes : List Shape} :
      node.operator ≠ .constant → node.resultShapes (operands.map Meta.shape) = .ok shapes →
        Obeys g policy node operands (shapes.map .tensor)

/-- The equation of a node: all operands and results have records, and these obey the rule. -/
def HoldsAt (g : Graph) (policy : ConstantPolicy) (v : Valuation) (node : Node) : Prop :=
  ∃ operands results : List Meta, node.inputs.map v = operands.map some ∧
    g.Obeys policy node operands results ∧ node.outputs.map v = results.map some

/-- The equations of the inputs: as many values as graph inputs, and each input has the record of
its value. -/
def BindsInputs (g : Graph) (xs : List Datum) (v : Valuation) : Prop :=
  List.Forall₂ (fun id x => ∃ m, x.asMeta = .ok m ∧ v id = some m) g.inputs xs

/-- A valuation solves the equations of a graph and its inputs. -/
structure Solves (g : Graph) (policy : ConstantPolicy) (xs : List Datum) (v : Valuation) :
    Prop where
  binds : g.BindsInputs xs v
  holds : ∀ node ∈ g.nodes, g.HoldsAt policy v node

variable {g : Graph} {policy : ConstantPolicy} {node : Node}

/-- A rule gives one list of results for a list of operands. -/
theorem Obeys.unique {operands first second : List Meta} (h₁ : g.Obeys policy node operands first)
    (h₂ : g.Obeys policy node operands second) : first = second := by
  cases h₁ with
  | constant hop hout hvalue hcontent =>
    cases h₂ with
    | constant hop' hout' hvalue' hcontent' =>
      obtain rfl : _ = _ := List.singleton_inj.1 (hout.symm.trans hout')
      obtain rfl : _ = _ := Except.ok.inj (hvalue.symm.trans hvalue')
      rw [Except.ok.inj (hcontent.symm.trans hcontent')]
    | tensors hop' hshapes => exact absurd hop hop'
  | tensors hop hshapes =>
    cases h₂ with
    | constant hop' hout hvalue hcontent => exact absurd hop' hop
    | tensors hop' hshapes' => rw [Except.ok.inj (hshapes.symm.trans hshapes')]

theorem constantYield_eq_ok {y : Yield} (h : g.constantYield policy node = .ok y) :
    ∃ output value content, node.outputs = [output] ∧ g.value output = .ok value ∧
      Rule.constant policy node value.type = .ok content ∧
        y.metas = [Rule.constantMeta value.type content] := by
  unfold constantYield at h
  split at h
  · rename_i output hout
    obtain ⟨value, hvalue, h⟩ := except_bind_eq_ok_iff.1 h
    obtain ⟨content, hcontent, h⟩ := except_bind_eq_ok_iff.1 h
    cases h
    exact ⟨output, value, content, hout, faulted_eq_ok_iff.1 hvalue, hcontent, rfl⟩
  · cases h

/-- What a node yields obeys its rule, with one record for each output. -/
theorem obeys_of_yield {operands : List Meta} {y : Yield}
    (h : g.yield policy node operands = .ok y) :
    g.Obeys policy node operands y.metas ∧ y.metas.length = node.outputs.length := by
  unfold yield at h
  by_cases hop : node.operator = .constant
  · rw [if_pos hop] at h
    obtain ⟨output, value, content, hout, hvalue, hcontent, hmetas⟩ := constantYield_eq_ok h
    rw [hmetas, hout]
    exact ⟨.constant hop hout hvalue hcontent, rfl⟩
  · rw [if_neg hop] at h
    -- a rule that gives shapes gives results only if these are as many as the outputs
    obtain ⟨metas, hmetas, rfl⟩ := except_map_eq_ok_iff.1 h
    obtain ⟨shapes, hshapes, h⟩ := except_bind_eq_ok_iff.1 (reported_eq_ok_iff.1 hmetas)
    by_cases hlen : shapes.length = node.outputs.length
    · rw [if_pos hlen] at h
      cases h
      exact ⟨.tensors hop hshapes, by rw [List.length_map, hlen]⟩
    · rw [if_neg hlen] at h
      cases h

/-! ## At most one solution -/

/-- Two valuations that agree on the operands of a node and satisfy its equation agree on its
results. -/
theorem HoldsAt.agree {v w : Valuation} (hv : g.HoldsAt policy v node)
    (hw : g.HoldsAt policy w node) (hin : ∀ id ∈ node.inputs, v id = w id) :
    ∀ id ∈ node.outputs, v id = w id := by
  obtain ⟨vo, vr, hvo, hvobey, hvr⟩ := hv
  obtain ⟨wo, wr, hwo, hwobey, hwr⟩ := hw
  -- the same records of the operands, and a rule is a function of these
  have hoperands : vo = wo := by
    have hsome : vo.map some = wo.map some := by
      rw [← hvo, ← hwo]
      exact List.map_inj_left.2 hin
    exact (List.map_inj_right fun _ _ h => Option.some.inj h).1 hsome
  subst hoperands
  rw [hvobey.unique hwobey] at hvr
  exact List.map_inj_left.1 (hvr.trans hwr.symm)

/-- Along an order, solutions that agree on what is available agree on all results. -/
theorem eq_of_holdsAt {v w : Valuation} {available : List ValueId} {nodes : List Node}
    (ho : OrderedFrom available nodes) (hv : ∀ node ∈ nodes, g.HoldsAt policy v node)
    (hw : ∀ node ∈ nodes, g.HoldsAt policy w node) (hin : ∀ id ∈ available, v id = w id) :
    ∀ id ∈ available ++ produced nodes, v id = w id := by
  induction nodes generalizing available with
  | nil => simpa [produced] using hin
  | cons node rest ih =>
    obtain ⟨hnode, hrest⟩ := ho
    -- the operands are available, so the two agree on the outputs, which are available from now on
    have hout := (hv node List.mem_cons_self).agree (hw node List.mem_cons_self)
      fun id hid => hin id (hnode id hid)
    have hboth : ∀ id ∈ available ++ node.outputs, v id = w id := by
      intro id hid
      rcases List.mem_append.1 hid with h | h
      · exact hin id h
      · exact hout id h
    have hall := ih hrest (fun n hn => hv n (List.mem_cons_of_mem _ hn))
      (fun n hn => hw n (List.mem_cons_of_mem _ hn)) hboth
    rwa [produced_cons, ← List.append_assoc]

theorem eq_of_bindsInputs {v w : Valuation} {xs : List Datum} (hv : g.BindsInputs xs v)
    (hw : g.BindsInputs xs w) : ∀ id ∈ g.inputs, v id = w id := by
  unfold BindsInputs at hv hw
  generalize g.inputs = ids at hv hw ⊢
  induction hv with
  | nil => simp
  | @cons k x ids rest hk _ ih =>
    cases hw with
    | cons hk' hrest =>
      obtain ⟨m, hm, hvk⟩ := hk
      obtain ⟨m', hm', hwk⟩ := hk'
      rw [hm] at hm'
      cases hm'
      intro id hid
      rcases List.mem_cons.1 hid with rfl | hid
      · rw [hvk, hwk]
      · exact ih hrest id hid

/-- **The equations of a graph whose nodes are in order have at most one solution.** -/
theorem Solves.unique {v w : Valuation} {xs : List Datum} (ho : OrderedFrom g.inputs g.nodes)
    (hv : g.Solves policy xs v) (hw : g.Solves policy xs w) :
    ∀ id ∈ g.inputs ++ produced g.nodes, v id = w id :=
  eq_of_holdsAt ho hv.holds hw.holds (eq_of_bindsInputs hv.binds hw.binds)

end Graph

end ShapeFlow
