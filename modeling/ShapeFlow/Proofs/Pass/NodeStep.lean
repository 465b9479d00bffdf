import ShapeFlow.Session
import ShapeFlow.Proofs.Pass.Sequencing
import ShapeFlow.Proofs.Graph.Equations

/-!
# What running a node does

A step that succeeds adds one record for each output of its node, behind the others, and the records
of operands and results obey the rule (`Graph.run_step_eq_ok`). A step that fails does so while it
reads an operand, while the rule is applied, or while it writes a result; only in the last case is
anything written (`Graph.StepFailure`).

A run of nodes leads from one store to another (`Graph.LeadsTo`): the second one holds the first as
its front, has the results of the nodes behind it, and solves the equations of all nodes that ran.
-/

set_option autoImplicit false

namespace ShapeFlow.Graph

variable {g : Graph} {names : Naming} {policy : ConstantPolicy} {node : Node} {p q : Progress}
  {e : Failure}

/-- The value table has a row for an id, counted from the front or from the end. -/
def HasRow (g : Graph) (id : ValueId) : Prop :=
  -(g.values.length : Int) ≤ id ∧ id < g.values.length

theorem value_of_hasRow {id : ValueId} (h : g.HasRow id) : ∃ value, g.value id = .ok value := by
  obtain ⟨value, hvalue⟩ := Option.isSome_iff_exists.1 ((row?_isSome_iff g.values id).2 h)
  exact ⟨value, by rw [Graph.value, row, hvalue]⟩

theorem hasRow_of_value {id : ValueId} {value : Value} (h : g.value id = .ok value) :
    g.HasRow id := by
  rw [Graph.value, row] at h
  cases hrow : row? g.values id with
  | none =>
    rw [hrow] at h
    cases h
  | some found => exact (row?_isSome_iff g.values id).1 (by rw [hrow]; rfl)

theorem nameOf_of_hasRow {id : ValueId} (h : g.HasRow id) : ∃ name, g.nameOf id = .ok name := by
  obtain ⟨value, hvalue⟩ := value_of_hasRow h
  exact ⟨value.name, by rw [nameOf, hvalue]; rfl⟩

theorem nameOf_of_not_hasRow {id : ValueId} (h : ¬ g.HasRow id) :
    g.nameOf id = .error .indexOutOfRange := by
  have hnone : row? g.values id = none := by
    rw [← Option.not_isSome_iff_eq_none, row?_isSome_iff]
    exact h
  simp [nameOf, value, Graph.row, hnone, Except.map]

theorem hasRow_of_nameOf {id : ValueId} {name : String} (h : g.nameOf id = .ok name) :
    g.HasRow id := by
  by_contra hrow
  rw [nameOf_of_not_hasRow hrow] at h
  cases h

/-! ## Writing results -/

/-- How writing results fails. A result that has a record already is not written; a result without
a row in the value table is written before its name is looked up. -/
inductive WriteFailure (g : Graph) (names : Naming) (pairs : List (ValueId × Meta)) (s : Store) :
    Failure → Store → Prop where
  | duplicate {front back : List (ValueId × Meta)} {id : ValueId} {m : Meta} {t : Store} :
      pairs = front ++ (id, m) :: back → id ∈ s.ids ++ front.map Prod.fst →
        t.entries = s.entries ++ front →
          WriteFailure g names pairs s (names.blame id .duplicateValue) t
  | unnamed {front back : List (ValueId × Meta)} {id : ValueId} {m : Meta} {t : Store} :
      pairs = front ++ (id, m) :: back → ¬ g.HasRow id →
        t.entries = s.entries ++ front ++ [(id, m)] →
          WriteFailure g names pairs s (.fault .indexOutOfRange) t

/-- A failure behind one more record that was written. -/
theorem WriteFailure.cons {pairs : List (ValueId × Meta)} {s t u : Store} {id : ValueId} {m : Meta}
    (hs : t.entries = s.entries ++ [(id, m)]) (h : WriteFailure g names pairs t e u) :
    WriteFailure g names ((id, m) :: pairs) s e u := by
  have hids : t.ids = s.ids ++ [id] := by rw [Store.ids, hs, List.map_append]; rfl
  cases h with
  | @duplicate front back k k' _ hpairs hk hu =>
    have hsplit : (id, m) :: pairs = ((id, m) :: front) ++ (k, k') :: back := by
      rw [hpairs, List.cons_append]
    refine .duplicate hsplit ?_ ?_
    · rw [hids, List.append_assoc] at hk
      exact hk
    · rw [hu, hs, List.append_assoc]
      rfl
  | @unnamed front back k k' _ hpairs hk hu =>
    have hsplit : (id, m) :: pairs = ((id, m) :: front) ++ (k, k') :: back := by
      rw [hpairs, List.cons_append]
    refine .unnamed hsplit hk ?_
    rw [hu, hs, List.append_assoc s.entries]
    rfl

theorem run_writeResults_eq_ok {pairs : List (ValueId × Meta)}
    (h : (g.writeResultsNamed names node pairs).runFrom p = (.ok (), q)) :
    q.store.entries = p.store.entries ++ pairs ∧ ∀ entry ∈ pairs, g.HasRow entry.1 := by
  induction pairs generalizing p with
  | nil =>
    cases h
    exact ⟨(List.append_nil _).symm, by simp⟩
  | cons entry rest ih =>
    obtain ⟨id, m⟩ := entry
    rw [writeResultsNamed] at h
    obtain ⟨_, r₁, hwrite, h⟩ := Pass.run_bind_eq_ok_iff.1 h
    obtain ⟨name, r₂, hname, h⟩ := Pass.run_bind_eq_ok_iff.1 h
    obtain ⟨_, r₃, hnote, h⟩ := Pass.run_bind_eq_ok_iff.1 h
    obtain ⟨-, hstore⟩ := Pass.run_write_eq_ok hwrite
    obtain ⟨hfound, rfl⟩ := Prod.mk.inj hname
    -- the name is looked up for the log, which fails for an id without a row
    have hrow := hasRow_of_nameOf (faulted_eq_ok_iff.1 hfound)
    cases hnote
    obtain ⟨hentries, hrows⟩ := ih h
    refine ⟨?_, List.forall_mem_cons.2 ⟨hrow, hrows⟩⟩
    rw [hentries, hstore, List.append_assoc]
    rfl

theorem run_writeResults_eq_error {pairs : List (ValueId × Meta)}
    (h : (g.writeResultsNamed names node pairs).runFrom p = (.error e, q)) :
    WriteFailure g names pairs p.store e q.store := by
  induction pairs generalizing p with
  | nil => cases h
  | cons entry rest ih =>
    obtain ⟨id, m⟩ := entry
    rw [writeResultsNamed] at h
    rcases Pass.run_bind_eq_error_iff.1 h with hwrite | ⟨_, r₁, hwrite, h⟩
    · obtain ⟨hid, rfl, rfl⟩ := Pass.run_write_eq_error hwrite
      have hfirst : (id, m) :: rest = [] ++ (id, m) :: rest := rfl
      exact .duplicate hfirst (by simpa using hid) (List.append_nil _).symm
    obtain ⟨-, hstore⟩ := Pass.run_write_eq_ok hwrite
    by_cases hrow : g.HasRow id
    · obtain ⟨name, hname⟩ := nameOf_of_hasRow hrow
      rcases Pass.run_bind_eq_error_iff.1 h with hfail | ⟨_, r₂, hok, h⟩
      · rw [hname] at hfail
        cases hfail
      rcases Pass.run_bind_eq_error_iff.1 h with hfail | ⟨_, r₃, hnote, h⟩
      · cases hfail
      obtain ⟨-, rfl⟩ := Prod.mk.inj hok
      cases hnote
      exact (ih h).cons hstore
    · -- without a row the record is written before the look at its name fails
      rcases Pass.run_bind_eq_error_iff.1 h with hfail | ⟨name, r₂, hok, -⟩
      · rw [nameOf_of_not_hasRow hrow] at hfail
        cases hfail
        have hfirst : (id, m) :: rest = [] ++ (id, m) :: rest := rfl
        exact .unnamed hfirst hrow (by simpa using hstore)
      · rw [nameOf_of_not_hasRow hrow] at hok
        cases hok

/-! ## One node -/

/-- How a step fails: an operand has no record, the rule gives no results, or a result cannot be
written. -/
inductive StepFailure (g : Graph) (names : Naming) (policy : ConstantPolicy) (node : Node)
    (s : Store) : Failure → Store → Prop where
  | operand {id : ValueId} : firstMissing? s.ids node.inputs = some id →
      StepFailure g names policy node s (names.blame id .missingValue) s
  | rule {operands : List Meta} {e : Failure} : node.inputs.map s.find? = operands.map some →
      g.yield policy node operands = .error e → StepFailure g names policy node s e s
  | result {operands results : List Meta} {e : Failure} {t : Store} :
      node.inputs.map s.find? = operands.map some → g.Obeys policy node operands results →
        node.outputs.length = results.length →
          WriteFailure g names (node.outputs.zip results) s e t →
            StepFailure g names policy node s e t

/-- A step that succeeds adds records for the outputs of its node, which obey the rule. -/
theorem run_step_eq_ok (h : (g.stepNamed names policy node).runFrom p = (.ok (), q)) :
    (∀ id ∈ node.inputs, id ∈ p.store.ids) ∧ (∀ id ∈ node.outputs, g.HasRow id) ∧
      ∃ operands results : List Meta, node.inputs.map p.store.find? = operands.map some ∧
        g.Obeys policy node operands results ∧ node.outputs.length = results.length ∧
          q.store.entries = p.store.entries ++ node.outputs.zip results := by
  unfold stepNamed at h
  obtain ⟨operands, r₁, hread, h⟩ := Pass.run_bind_eq_ok_iff.1 h
  obtain ⟨y, r₂, hyield, h⟩ := Pass.run_bind_eq_ok_iff.1 h
  obtain ⟨_, r₃, hnote, h⟩ := Pass.run_bind_eq_ok_iff.1 h
  obtain ⟨hall, rfl⟩ := Prod.mk.inj hread
  obtain ⟨hy, rfl⟩ := Prod.mk.inj hyield
  cases hnote
  obtain ⟨hoperands, havail⟩ := Pass.readAll_eq_ok hall
  obtain ⟨hobey, hlen⟩ := obeys_of_yield hy
  obtain ⟨hentries, hrows⟩ := run_writeResults_eq_ok h
  refine ⟨havail, fun id hid => ?_, operands, y.metas, hoperands, hobey, hlen.symm, hentries⟩
  have hfst : (node.outputs.zip y.metas).map Prod.fst = node.outputs :=
    List.map_fst_zip (Nat.le_of_eq hlen.symm)
  rw [← hfst] at hid
  obtain ⟨entry, hentry, rfl⟩ := List.mem_map.1 hid
  exact hrows entry hentry

theorem run_step_eq_error (h : (g.stepNamed names policy node).runFrom p = (.error e, q)) :
    StepFailure g names policy node p.store e q.store := by
  unfold stepNamed at h
  rcases Pass.run_bind_eq_error_iff.1 h with hread | ⟨operands, r₁, hread, h⟩
  · obtain ⟨hall, rfl⟩ := Prod.mk.inj hread
    obtain ⟨id, hmiss, rfl⟩ := Pass.readAll_eq_error hall
    exact .operand hmiss
  obtain ⟨hall, rfl⟩ := Prod.mk.inj hread
  obtain ⟨hoperands, -⟩ := Pass.readAll_eq_ok hall
  rcases Pass.run_bind_eq_error_iff.1 h with hyield | ⟨y, r₂, hyield, h⟩
  · obtain ⟨hy, rfl⟩ := Prod.mk.inj hyield
    exact .rule hoperands hy
  obtain ⟨hy, rfl⟩ := Prod.mk.inj hyield
  -- all results are there, so what is left to fail is the writing of them
  obtain ⟨hobey, hlen⟩ := obeys_of_yield hy
  rcases Pass.run_bind_eq_error_iff.1 h with hnote | ⟨_, r₃, hnote, h⟩
  · cases hnote
  cases hnote
  have hwrite := run_writeResults_eq_error h
  exact .result hoperands hobey hlen.symm hwrite

/-! ## A run of nodes -/

/-- A run of nodes leads from one store to another. -/
structure LeadsTo (g : Graph) (policy : ConstantPolicy) (nodes : List Node) (s t : Store) :
    Prop where
  grows : s.entries <+: t.entries
  ids : t.ids = s.ids ++ produced nodes
  ordered : OrderedFrom s.ids nodes
  holds : ∀ node ∈ nodes, g.HoldsAt policy t.find? node
  rows : ∀ id ∈ produced nodes, g.HasRow id

/-- An equation that a store solves is solved by every later store. -/
theorem HoldsAt.of_growth {s t : Store} (h : g.HoldsAt policy s.find? node)
    (hst : s.entries <+: t.entries) : g.HoldsAt policy t.find? node := by
  obtain ⟨operands, results, hin, hobey, hout⟩ := h
  exact ⟨operands, results, Store.map_find?_of_growth hst hin, hobey,
    Store.map_find?_of_growth hst hout⟩

theorem LeadsTo.nil (s : Store) : g.LeadsTo policy [] s s where
  grows := List.prefix_rfl
  ids := (List.append_nil _).symm
  ordered := trivial
  holds := by simp
  rows := by simp [produced]

/-- A step leads to the store that it leaves behind. -/
theorem leadsTo_of_step (h : (g.step policy node).runFrom p = (.ok (), q)) :
    g.LeadsTo policy [node] p.store q.store := by
  obtain ⟨havail, hrows, operands, results, hin, hobey, hlen, hentries⟩ := run_step_eq_ok h
  have hgrows : p.store.entries <+: q.store.entries := ⟨_, hentries.symm⟩
  have hproduced : produced [node] = node.outputs := by simp [produced]
  -- the operands had their records before the step and keep them
  refine ⟨hgrows, ?_, ⟨havail, trivial⟩, ?_, ?_⟩
  · rw [hproduced]
    exact Store.ids_of_zip hlen hentries
  · intro n hn
    rw [List.mem_singleton] at hn
    subst hn
    exact ⟨operands, results, Store.map_find?_of_growth hgrows hin, hobey,
      Store.map_find?_of_zip hlen hentries⟩
  · rw [hproduced]
    exact hrows

theorem LeadsTo.append {front back : List Node} {s t u : Store}
    (h₁ : g.LeadsTo policy front s t) (h₂ : g.LeadsTo policy back t u) :
    g.LeadsTo policy (front ++ back) s u where
  grows := h₁.grows.trans h₂.grows
  ids := by rw [h₂.ids, h₁.ids, produced_append, List.append_assoc]
  ordered := (orderedFrom_append front back s.ids).2 ⟨h₁.ordered, h₁.ids ▸ h₂.ordered⟩
  holds := by
    intro n hn
    rcases List.mem_append.1 hn with hn | hn
    · exact (h₁.holds n hn).of_growth h₂.grows
    · exact h₂.holds n hn
  rows := by
    intro id hid
    rw [produced_append] at hid
    rcases List.mem_append.1 hid with hid | hid
    · exact h₁.rows id hid
    · exact h₂.rows id hid

/-- **A run of nodes that succeeds leads to the store that it leaves behind.** -/
theorem leadsTo_of_runNodes {index : Nat} {nodes : List Node}
    (h : (g.runNodes policy index nodes).runFrom p = (.ok (), q)) :
    g.LeadsTo policy nodes p.store q.store := by
  induction nodes generalizing index p with
  | nil =>
    cases h
    exact .nil _
  | cons node rest ih =>
    -- one step, and then the rest of the nodes from the store that it leaves behind
    obtain ⟨_, r, hstep, hrest⟩ := Pass.run_bind_eq_ok_iff.1 h
    exact (leadsTo_of_step (Pass.run_mapFailure_eq_ok_iff.1 hstep)).append (ih hrest)

/-- A run of nodes that fails got through the nodes before the one at fault. -/
theorem run_runNodes_eq_error {index : Nat} {nodes : List Node}
    (h : (g.runNodes policy index nodes).runFrom p = (.error e, q)) :
    ∃ front node back r d, nodes = front ++ node :: back ∧
      (g.runNodes policy index front).runFrom p = (.ok (), r) ∧
        (g.step policy node).runFrom r = (.error d, q) ∧
          e = d.atNode (index + front.length) node.kind := by
  induction nodes generalizing index p with
  | nil => cases h
  | cons node rest ih =>
    rcases Pass.run_bind_eq_error_iff.1 h with hstep | ⟨_, r, hstep, hrest⟩
    · obtain ⟨d, hd, rfl⟩ := Pass.run_mapFailure_eq_error_iff.1 hstep
      exact ⟨[], node, rest, p, d, rfl, rfl, hd, rfl⟩
    · -- this node ran, so it joins the front before the node at fault
      obtain ⟨front, n, back, r', d, rfl, hfront, hd, rfl⟩ := ih hrest
      refine ⟨node :: front, n, back, r', d, rfl, ?_, hd, ?_⟩
      · exact Pass.run_bind_eq_ok_iff.2 ⟨(), r, hstep, hfront⟩
      · rw [List.length_cons, Nat.add_assoc, Nat.add_comm 1]

end ShapeFlow.Graph
