import ShapeFlow.Proofs.Pass.NodeStep
import ShapeFlow.Proofs.Rule.Reports

/-!
# What running a node may write

However a step ends, the store keeps what it holds, and behind it there are new records for a front
of the outputs of the node. A step that succeeds has written all outputs. A step that reports
anything but a second writing has written nothing, since the rule gives all results before the first
of them is written. A step that reports a second writing has written the outputs before the first
one that cannot be written (`Store.FirstTaken`). All of this holds whatever names the store has for
values (`Graph.step_writes_front`).
-/

set_option autoImplicit false

namespace ShapeFlow

namespace Store

/-- Output number `i` of a node cannot be written: it has a record already, or it repeats an earlier
output. -/
def Taken (s : Store) (outputs : List ValueId) (i : Nat) : Prop :=
  ∃ id, outputs[i]? = some id ∧ (id ∈ s.ids ∨ id ∈ outputs.take i)

/-- The first output that cannot be written. -/
structure FirstTaken (s : Store) (outputs : List ValueId) (i : Nat) : Prop where
  taken : s.Taken outputs i
  first : ∀ j < i, ¬ s.Taken outputs j

variable {s : Store} {front back : List ValueId} {id : ValueId}

/-- Outputs that stand behind a store without a repetition could all be written. -/
theorem not_taken_of_nodup (h : (s.ids ++ front).Nodup) (back : List ValueId) {j : Nat}
    (hj : j < front.length) : ¬ s.Taken (front ++ back) j := by
  rintro ⟨id, hid, htaken⟩
  rw [List.getElem?_append_left hj, List.getElem?_eq_getElem hj] at hid
  cases hid
  rw [List.take_append_of_le_length (Nat.le_of_lt hj)] at htaken
  -- everything before this output, in the store or in the list, is another id
  rw [← List.take_append_drop j front, List.drop_eq_getElem_cons hj, ← List.append_assoc,
    List.nodup_append] at h
  exact h.2.2 _ (List.mem_append.2 htaken) _ List.mem_cons_self rfl

/-- Where outputs could be written up to one that stands before, this one is the first that cannot
be written. -/
theorem firstTaken_of_split (hnodup : (s.ids ++ front).Nodup) (hid : id ∈ s.ids ++ front)
    (back : List ValueId) : s.FirstTaken (front ++ id :: back) front.length where
  taken := by
    refine ⟨id, ?_, ?_⟩
    · simp
    · rw [List.take_left]
      exact List.mem_append.1 hid
  first _ hj := not_taken_of_nodup hnodup _ hj

end Store

/-- A recoverable report, or one on a missing operand, is not on a second writing. -/
theorem Report.category_ne_duplicateValue {r : Report}
    (h : r.isRecoverable = true ∨ r.category = .missingValue) : r.category ≠ .duplicateValue := by
  intro hduplicate
  rw [Report.isRecoverable, hduplicate] at h
  rcases h with h | h
  · cases h
  · cases h

namespace Graph

variable {g : Graph} {names : Naming} {policy : ConstantPolicy} {node : Node} {s t : Store}
  {e : Failure}

/-- A store holds the records of another one as they are, and new records behind them, for a front
of the outputs of a node. -/
structure WritesFront (node : Node) (s t : Store) (new : List (ValueId × Meta)) : Prop where
  entries : t.entries = s.entries ++ new
  front : new.map Prod.fst <+: node.outputs

theorem writesFront_nil (node : Node) (s : Store) : WritesFront node s s [] where
  entries := (List.append_nil _).symm
  front := List.nil_prefix

/-- Writing that fails has written a front of the outputs. If it reports anything, then a second
writing, and the front ends before the first output that cannot be written. -/
theorem WriteFailure.exists_writesFront {pairs : List (ValueId × Meta)}
    (houtputs : pairs.map Prod.fst = node.outputs) (h : WriteFailure g names pairs s e t) :
    ∃ new, WritesFront node s t new ∧ ∀ r, e = .report r → r.category = .duplicateValue ∧
      ∃ i, s.FirstTaken node.outputs i ∧ new.map Prod.fst = node.outputs.take i := by
  cases h with
  | @duplicate front back id m _ hpairs hid ht =>
    have hsplit : node.outputs = front.map Prod.fst ++ id :: back.map Prod.fst := by
      rw [← houtputs, hpairs, List.map_append, List.map_cons]
    -- what was written stands in a store, which holds no id twice
    have hnodup : (s.ids ++ front.map Prod.fst).Nodup := by
      have hafter := t.nodup
      rwa [ht, List.map_append] at hafter
    refine ⟨front, ⟨ht, hsplit ▸ List.prefix_append _ _⟩, fun r hr => ?_⟩
    obtain ⟨name, -, rfl⟩ := Naming.blame_eq_report hr
    rw [hsplit]
    exact ⟨rfl, _, Store.firstTaken_of_split hnodup hid _, List.take_left.symm⟩
  | @unnamed front back id m _ hpairs hrow ht =>
    have hsplit : node.outputs = (front ++ [(id, m)]).map Prod.fst ++ back.map Prod.fst := by
      rw [← houtputs, hpairs, ← List.map_append, List.append_assoc, List.singleton_append]
    refine ⟨front ++ [(id, m)], ⟨?_, hsplit ▸ List.prefix_append _ _⟩, fun r hr => ?_⟩
    · rw [ht, List.append_assoc]
    · cases hr

/-- A step that fails has written a front of the outputs: nothing if it reports anything but a
second writing, and if it does report one, the outputs before the first that cannot be written. -/
theorem StepFailure.exists_writesFront (h : StepFailure g names policy node s e t) :
    ∃ new, WritesFront node s t new ∧
      (∀ r, e = .report r → r.category ≠ .duplicateValue → new = []) ∧
      ∀ r, e = .report r → r.category = .duplicateValue →
        ∃ i, s.FirstTaken node.outputs i ∧ new.map Prod.fst = node.outputs.take i := by
  cases h with
  | operand hmiss =>
    refine ⟨[], writesFront_nil node s, fun _ _ _ => rfl, fun r hr hcategory => ?_⟩
    obtain ⟨name, -, rfl⟩ := Naming.blame_eq_report hr
    cases hcategory
  | rule hoperands hyield =>
    refine ⟨[], writesFront_nil node s, fun _ _ _ => rfl, fun r hr hcategory => ?_⟩
    rcases g.failsOnly_yield _ node _ _ hyield with ⟨i, hi, rfl⟩ | ⟨f, rfl⟩
    · -- a rule reports recoverable causes only, and a second writing is none
      cases hr
      exact absurd hcategory (Report.category_ne_duplicateValue (Or.inl hi.isRecoverable))
    · cases hr
  | result hoperands hobey hlen hwrite =>
    obtain ⟨new, hnew, hreport⟩ :=
      hwrite.exists_writesFront (List.map_fst_zip (Nat.le_of_eq hlen))
    refine ⟨new, hnew, fun r hr hcategory => ?_, fun r hr _ => (hreport r hr).2⟩
    exact absurd (hreport r hr).1 hcategory

/-- **However a step ends, it leaves the records of the store as they are and writes a front of the
outputs of its node behind them**: all of them if it succeeds, none if it fails recoverably or lacks
an operand, and those before the first that cannot be written if it reports a second writing. -/
theorem step_writes_front (g : Graph) (names : Naming) (policy : ConstantPolicy) (node : Node)
    (p : Progress) :
    let result := ((g.stepNamed names policy node).runFrom p).1
    let after := ((g.stepNamed names policy node).runFrom p).2.store
    ∃ new, WritesFront node p.store after new ∧
      (result = .ok () → new.map Prod.fst = node.outputs) ∧
      (∀ r, result = .error (.report r) → r.isRecoverable = true ∨ r.category = .missingValue →
        new = []) ∧
      ∀ r, result = .error (.report r) → r.category = .duplicateValue →
        ∃ i, p.store.FirstTaken node.outputs i ∧ new.map Prod.fst = node.outputs.take i := by
  rcases hrun : (g.stepNamed names policy node).runFrom p with ⟨result, q⟩
  dsimp only
  cases result with
  | ok done =>
    obtain ⟨-, -, operands, results, -, -, hlen, hentries⟩ := run_step_eq_ok hrun
    have houtputs : (node.outputs.zip results).map Prod.fst = node.outputs :=
      List.map_fst_zip (Nat.le_of_eq hlen)
    refine ⟨_, ⟨hentries, houtputs.symm ▸ List.prefix_refl _⟩, fun _ => houtputs, ?_, ?_⟩
    · intro r hr
      cases hr
    · intro r hr
      cases hr
  | error e =>
    obtain ⟨new, hnew, hnothing, htaken⟩ := (run_step_eq_error hrun).exists_writesFront
    refine ⟨new, hnew, ?_, ?_, ?_⟩
    · intro hok
      cases hok
    · intro r hr hcategory
      exact hnothing r (Except.error.inj hr) (Report.category_ne_duplicateValue hcategory)
    · intro r hr
      exact htaken r (Except.error.inj hr)

/-- A chunk whose third piece repeats the first one writes two pieces. -/
example :
    let node : Node := { kind := "prim::ConstantChunk", inputs := [0], outputs := [1, 2, 1]
                         attributes := [("chunks", .int 3), ("dim", .int 0)] }
    let g : Graph := { values := [{ id := 0, name := "x" }, { id := 1, name := "a" },
                                  { id := 2, name := "b" }] }
    let held : Store := Store.empty.insert 0 (.tensor [6]) (by decide)
    (((g.stepNamed .numbers .refuse node).runFrom { store := held }).2.store.ids) = [0, 1, 2] := by
  decide

end Graph

end ShapeFlow
