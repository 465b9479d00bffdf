import ShapeFlow.Proofs.Session.Answers
import Mathlib.Data.List.Perm.Basic

/-!
# Freezing an input

A graph input whose value is known can be made a constant in front of all nodes (`Graph.freeze`).
For the kinds of values in `Datum.Fits` an input and a constant keep the same record, so the
equation of the constant says what the equation of the input said (`Graph.holdsAt_literal_iff`). The
frozen graph then has the same ids in another order and the same solutions
(`Graph.answers_freeze_iff`), and freezing changes neither the answer nor any record
(`Session.answer_of_frozen_input`).
-/

set_option autoImplicit false

namespace ShapeFlow

/-- A constant that holds a value. -/
def Node.literal (output : ValueId) (x : Datum) : Node :=
  { kind := "prim::Constant", outputs := [output], attributes := [("value", x)] }

/-- The graph with the input at a position made a constant in front of all nodes. -/
def Graph.freeze (g : Graph) (i : Nat) (id : ValueId) (x : Datum) : Graph :=
  { g with inputs := g.inputs.eraseIdx i, nodes := Node.literal id x :: g.nodes }

/-- The values of which a constant of a declared type keeps what an input keeps: tensors and arrays,
whole numbers, among which a truth value counts, and truth values. -/
inductive Datum.Fits : DeclaredType → Datum → Prop where
  | tensor (dims : List Int) (c : Conversions) : Fits .tensor (.tensor dims c)
  | parameter (dims : List Int) (c : Conversions) : Fits .tensor (.parameter dims c)
  | array (dims : List Int) (c : Conversions) : Fits .tensor (.array dims c)
  | int (n : Int) : Fits .int (.int n)
  | truth (b : Bool) : Fits .int (.bool b)
  | sizedInt (width : IntWidth) (n : Int) : Fits .int (.sizedInt width n)
  | bool (b : Bool) : Fits .bool (.bool b)
  | sizedBool (b : Bool) : Fits .bool (.sizedBool b)

/-- A constant and an input keep the same of a value that fits. -/
theorem Datum.Fits.asMeta {type : DeclaredType} {x : Datum} (h : x.Fits type)
    (policy : ConstantPolicy) (id : ValueId) :
    ∃ content, Rule.constant policy (Node.literal id x) type = .ok content ∧
      x.asMeta = .ok (Rule.constantMeta type content) := by
  cases h with
  | tensor dims c | parameter dims c | array dims c => exact ⟨dims, rfl, rfl⟩
  | int n | sizedInt width n => exact ⟨[n], rfl, rfl⟩
  | truth b | bool b | sizedBool b => exact ⟨[Datum.bit b], rfl, rfl⟩

/-- Pairs are related all over two lists if they are at one place and all over the rest. -/
theorem forall₂_eraseIdx_iff {α β : Type} {R : α → β → Prop} {as : List α} {bs : List β} {i : Nat}
    {a : α} {b : β} (ha : as[i]? = some a) (hb : bs[i]? = some b) :
    List.Forall₂ R as bs ↔ R a b ∧ List.Forall₂ R (as.eraseIdx i) (bs.eraseIdx i) := by
  induction i generalizing as bs with
  | zero =>
    cases as with
    | nil => cases ha
    | cons first rest =>
      cases bs with
      | nil => cases hb
      | cons first' rest' =>
        cases ha
        cases hb
        exact List.forall₂_cons
  | succ i ih =>
    cases as with
    | nil => cases ha
    | cons first rest =>
      cases bs with
      | nil => cases hb
      | cons first' rest' =>
        have hrest : List.Forall₂ R rest rest' ↔
            R a b ∧ List.Forall₂ R (rest.eraseIdx i) (rest'.eraseIdx i) := ih ha hb
        simp only [List.eraseIdx_cons_succ, List.forall₂_cons, hrest]
        exact and_left_comm

namespace Graph

variable {g : Graph} {settings : PassSettings} {policy : ConstantPolicy} {xs : List Datum}
  {shapes : List Shape} {v : Valuation} {i : Nat} {id : ValueId} {x : Datum} {value : Value}

/-- The equation of a constant that holds a fitting value is the equation of an input. -/
theorem holdsAt_literal_iff (hvalue : g.value id = .ok value) (hfits : x.Fits value.type) :
    g.HoldsAt policy v (Node.literal id x) ↔ ∃ m, x.asMeta = .ok m ∧ v id = some m := by
  obtain ⟨content, hcontent, hmeta⟩ := hfits.asMeta policy id
  have hop : (Node.literal id x).operator = .constant := rfl
  have hobey : g.Obeys policy (Node.literal id x) [] [Rule.constantMeta value.type content] :=
    .constant hop rfl hvalue hcontent
  rw [hmeta]
  constructor
  · rintro ⟨operands, results, hin, hresults, hout⟩
    -- a constant has no operands, and its rule gives one list of results
    have hnone : operands = [] := by simpa [Node.literal] using hin.symm
    rw [hnone] at hresults
    rw [hresults.unique hobey] at hout
    exact ⟨_, rfl, List.head_eq_of_cons_eq hout⟩
  · rintro ⟨m, hm, hid⟩
    cases hm
    exact ⟨[], _, rfl, hobey, by simp [Node.literal, hid]⟩

theorem solves_freeze_iff (hi : g.inputs[i]? = some id) (hx : xs[i]? = some x)
    (hvalue : g.value id = .ok value) (hfits : x.Fits value.type) :
    (g.freeze i id x).Solves policy (xs.eraseIdx i) v ↔ g.Solves policy xs v := by
  have hsame : (g.freeze i id x).values = g.values := rfl
  have hbinds : g.BindsInputs xs v ↔
      (∃ m, x.asMeta = .ok m ∧ v id = some m) ∧
        (g.freeze i id x).BindsInputs (xs.eraseIdx i) v := forall₂_eraseIdx_iff hi hx
  -- the equation of the input moves over to the constant, and all others stay where they are
  constructor
  · intro h
    obtain ⟨hliteral, hnodes⟩ := List.forall_mem_cons.1 h.holds
    have hinput := (holdsAt_literal_iff hvalue hfits).1 (hliteral.of_values hsame.symm)
    refine ⟨hbinds.2 ⟨hinput, h.binds⟩, ?_⟩
    intro n hn
    exact (hnodes n hn).of_values hsame.symm
  · intro h
    obtain ⟨hinput, hrest⟩ := hbinds.1 h.binds
    have hliteral : g.HoldsAt policy v (Node.literal id x) :=
      (holdsAt_literal_iff hvalue hfits).2 hinput
    refine ⟨hrest, List.forall_mem_cons.2 ⟨hliteral.of_values hsame, ?_⟩⟩
    intro n hn
    exact (h.holds n hn).of_values hsame

/-! ## The ids of the frozen graph -/

theorem inputs_freeze_perm (hi : g.inputs[i]? = some id) :
    ((g.freeze i id x).inputs ++ [id]).Perm g.inputs := by
  obtain ⟨hlt, rfl⟩ := List.getElem?_eq_some_iff.1 hi
  exact (List.perm_append_singleton _ _).trans (List.getElem_cons_eraseIdx_perm hlt)

/-- The frozen id is no longer an input but the first result. -/
theorem ids_freeze_perm (hi : g.inputs[i]? = some id) :
    ((g.freeze i id x).inputs ++ produced (g.freeze i id x).nodes).Perm
      (g.inputs ++ produced g.nodes) := by
  have hfirst : produced (g.freeze i id x).nodes = [id] ++ produced g.nodes := produced_cons _ _
  rw [hfirst, ← List.append_assoc]
  exact (inputs_freeze_perm hi).append_right _

theorem ordered_freeze_iff (hi : g.inputs[i]? = some id) :
    (g.freeze i id x).Ordered ↔ g.Ordered := by
  have hinputs := inputs_freeze_perm (x := x) hi
  have hids := ids_freeze_perm (x := x) hi
  constructor
  · rintro ⟨⟨-, hnodes⟩, houtputs⟩
    refine ⟨hnodes.mono fun k hk => hinputs.subset hk, ?_⟩
    intro k hk
    exact hids.subset (houtputs k hk)
  · rintro ⟨hnodes, houtputs⟩
    -- the constant consumes nothing, and behind it the frozen id is available again
    have hfirst : ∀ k ∈ (Node.literal id x).inputs, k ∈ (g.freeze i id x).inputs := by
      simp [Node.literal]
    refine ⟨⟨hfirst, hnodes.mono fun k hk => hinputs.symm.subset hk⟩, ?_⟩
    intro k hk
    exact hids.symm.subset (houtputs k hk)

theorem wellFormed_freeze_iff (hi : g.inputs[i]? = some id) (hrow : g.HasRow id) :
    (g.freeze i id x).WellFormed ↔ g.WellFormed := by
  have hordered := ordered_freeze_iff (x := x) hi
  have hids := ids_freeze_perm (x := x) hi
  have hproduced : produced (g.freeze i id x).nodes = id :: produced g.nodes := produced_cons _ _
  constructor
  · intro h
    refine ⟨hordered.1 h.ordered, hids.nodup_iff.1 h.distinct, ?_⟩
    intro k hk
    exact h.rows k (hproduced ▸ List.mem_cons_of_mem id hk)
  · intro h
    refine ⟨hordered.2 h.ordered, hids.nodup_iff.2 h.distinct, ?_⟩
    -- the one result that is new is the frozen id, which has a row as an input
    intro k hk
    rw [hproduced] at hk
    rcases List.mem_cons.1 hk with rfl | hk
    · exact hrow
    · exact h.rows k hk

/-- **Freezing an input keeps what a session needs to answer.** -/
theorem answers_freeze_iff (hi : g.inputs[i]? = some id) (hx : xs[i]? = some x)
    (hvalue : g.value id = .ok value) (hfits : x.Fits value.type) :
    (g.freeze i id x).Answers settings (xs.eraseIdx i) v shapes ↔
      g.Answers settings xs v shapes := by
  have hrow : g.HasRow id := hasRow_of_value hvalue
  have hinputs := inputs_freeze_perm (x := x) hi
  constructor
  · intro h
    have hwell := (wellFormed_freeze_iff hi hrow).1 h.wellFormed
    have hsolves := (solves_freeze_iff hi hx hvalue hfits).1 h.solves
    refine ⟨hwell, ?_, hsolves, h.outputs⟩
    intro hlog k hk
    rcases List.mem_append.1 (hinputs.symm.subset hk) with hother | hfrozen
    · exact h.shown hlog k hother
    · rw [List.mem_singleton.1 hfrozen]
      exact hrow
  · intro h
    have hwell := (wellFormed_freeze_iff (x := x) hi hrow).2 h.wellFormed
    have hsolves := (solves_freeze_iff hi hx hvalue hfits).2 h.solves
    refine ⟨hwell, ?_, hsolves, h.outputs⟩
    intro hlog k hk
    exact h.shown hlog k (hinputs.subset (List.mem_append_left _ hk))

end Graph

open ShapeFlow.Graph

/-- **Freezing an input changes nothing.** If the input at a position is bound to a value that fits
its declared type, the session over the frozen graph, with the value left out, answers the same
shapes, and both stores hold the same record for every id. -/
theorem Session.answer_of_frozen_input {g : Graph} {settings : PassSettings} {xs : List Datum}
    {i : Nat} {id : ValueId} {x : Datum} {value : Value} (hi : g.inputs[i]? = some id)
    (hx : xs[i]? = some x) (hvalue : g.value id = .ok value) (hfits : x.Fits value.type)
    (shapes : List Shape) :
    ((Session.new g xs settings).run.1 = .answered (.ok shapes) ↔
        (Session.new (g.freeze i id x) (xs.eraseIdx i) settings).run.1 =
          .answered (.ok shapes)) ∧
      ((Session.new g xs settings).run.1 = .answered (.ok shapes) →
        ∀ k, (Session.new (g.freeze i id x) (xs.eraseIdx i) settings).storeAfter.find? k =
          (Session.new g xs settings).storeAfter.find? k) := by
  have hanswers : ∀ v, (g.freeze i id x).Answers settings (xs.eraseIdx i) v shapes ↔
      g.Answers settings xs v shapes := fun v => answers_freeze_iff hi hx hvalue hfits
  constructor
  · rw [Session.answered_iff, Session.answered_iff]
    exact exists_congr fun v => (hanswers v).symm
  · intro hrun k
    have hplain := answers_of_answered hrun
    obtain ⟨-, hids, -⟩ := hplain.answered
    -- the store of the one session solves the equations of the other
    obtain ⟨-, hfrozenIds, hsame⟩ := ((hanswers _).2 hplain).answered
    by_cases hk : k ∈ (g.freeze i id x).inputs ++ produced (g.freeze i id x).nodes
    · exact hsame k hk
    · -- an id that neither graph has is in neither store
      have hk' : k ∉ g.inputs ++ produced g.nodes := by
        intro hmem
        exact hk ((ids_freeze_perm hi).symm.subset hmem)
      rw [Store.find?_eq_none_of_not_mem (hfrozenIds ▸ hk),
        Store.find?_eq_none_of_not_mem (hids ▸ hk')]

/-- A tensor is scaled by a whole number that is an input. -/
def Graph.scaledByInput : Graph where
  values :=
    [{ id := 0, name := "x" }, { id := 1, name := "factor", type := .int },
     { id := 2, name := "y" }]
  nodes := [{ kind := "aten::mul", inputs := [0, 1], outputs := [2] }]
  inputs := [0, 1]
  outputs := [2, 1]

/-- The factor is a constant. -/
def Graph.scaledByConstant : Graph := scaledByInput.freeze 1 1 (.sizedInt .int16 3)

theorem scaledByConstant_of_scaledByInput :
    (Datum.sizedInt .int16 3).Fits .int ∧
      (Session.new scaledByConstant [.tensor [2, 4]] {}).run.1 = .answered (.ok [[2, 4], [1]]) ∧
      (Session.new scaledByConstant [.tensor [2, 4]] {}).storeAfter.find? 1 =
        some (.scalar [3]) := by
  have hfits : (Datum.sizedInt .int16 3).Fits .int := .sizedInt .int16 3
  have hx : [Datum.tensor [2, 4], .sizedInt .int16 3][1]? = some (.sizedInt .int16 3) := rfl
  have hvalue : scaledByInput.value 1 = .ok { id := 1, name := "factor", type := .int } := rfl
  have hrun : (Session.new scaledByInput [.tensor [2, 4], .sizedInt .int16 3] {}).run.1 =
      .answered (.ok [[2, 4], [1]]) := rfl
  obtain ⟨hanswer, hsame⟩ :=
    @Session.answer_of_frozen_input scaledByInput {} _ 1 1 _ _ rfl hx hvalue hfits [[2, 4], [1]]
  exact ⟨hfits, hanswer.1 hrun, (hsame hrun 1).trans rfl⟩

end ShapeFlow
