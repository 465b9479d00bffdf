import ShapeFlow.Proofs.Session.WellFormed
import ShapeFlow.Proofs.Session.Solution

/-!
# When a session answers shapes

A session answers shapes exactly when its graph is well-formed, its equations have a solution, and
the shapes are those of the outputs in the solution; where the store is to be logged, the graph
inputs need rows in the value table as well (`Graph.Answers`, `Session.answered_iff`). The solution
is what the store holds in the end (`Graph.Answers.answered`). Nothing else about a pass matters for
its answer: two sessions can be compared by their equations, without looking at their runs.

The solution makes every node yield, and on a well-formed graph a pass cannot fail otherwise
(`Graph.Answers.not_judgement`).
-/

set_option autoImplicit false

namespace ShapeFlow

/-- A store that was shown has a name for each id. -/
theorem Store.named_of_lines {names : Naming} {entries : List (ValueId × Meta)}
    {shown : List String} (h : lines names entries = .ok shown) :
    ∀ entry ∈ entries, ∃ name, names entry.1 = .ok name := by
  induction entries generalizing shown with
  | nil => simp
  | cons entry rest ih =>
    obtain ⟨id, m⟩ := entry
    obtain ⟨name, hname, h⟩ := except_bind_eq_ok_iff.1 h
    obtain ⟨more, hmore, -⟩ := except_bind_eq_ok_iff.1 h
    exact List.forall_mem_cons.2 ⟨⟨name, hname⟩, ih hmore⟩

namespace Graph

variable {g : Graph} {settings : PassSettings} {policy : ConstantPolicy} {xs : List Datum}
  {k : Nat} {node : Node} {shapes : List Shape} {v : Valuation} {t : Store} {e : Failure}
  {id : ValueId}

/-- A node that obeys its rule yields, if its outputs are as many as the results. -/
theorem yield_of_obeys {operands results : List Meta} (h : g.Obeys policy node operands results)
    (hlen : node.outputs.length = results.length) : ∃ y, g.yield policy node operands = .ok y := by
  cases h with
  | constant hop hout hvalue hcontent =>
    rw [yield, if_pos hop, constantYield, hout]
    dsimp only
    rw [hvalue, faulted_ok, except_ok_bind, hcontent, except_ok_bind]
    exact ⟨_, rfl⟩
  | @tensors shapes hop hshapes =>
    have hcount : shapes.length = node.outputs.length := by rw [hlen, List.length_map]
    have hresults : node.tensorResults (operands.map Meta.shape) = .ok (shapes.map .tensor) := by
      rw [Node.tensorResults, hshapes, except_ok_bind, if_pos hcount]
      rfl
    rw [yield, if_neg hop, hresults]
    exact ⟨_, rfl⟩

/-- What a session needs to answer shapes, with the valuation that gives them. -/
structure Answers (g : Graph) (settings : PassSettings) (xs : List Datum) (v : Valuation)
    (shapes : List Shape) : Prop where
  wellFormed : g.WellFormed
  shown : settings.logShapeMap = true → ∀ id ∈ g.inputs, g.HasRow id
  solves : g.Solves settings.unknownConstants xs v
  outputs : g.outputs.map (fun id => (v id).map Meta.shape) = shapes.map some

/-- Where a pass arrives, its store agrees with every solution of the equations. -/
theorem Reached.agrees (h : g.Reached settings xs k t)
    (hv : g.Solves settings.unknownConstants xs v) : ∀ id ∈ t.ids, t.find? id = v id := by
  obtain ⟨s, hbinds, hleads⟩ := h.ran
  have hinputs := eq_of_bindsInputs h.bindsInputs hv.binds
  have hbefore : ∀ n ∈ g.nodes.take k, g.HoldsAt settings.unknownConstants v n :=
    fun n hn => hv.holds n (List.mem_of_mem_take hn)
  rw [h.ids]
  exact eq_of_holdsAt h.ordered hleads.holds hbefore hinputs

/-- The solution keeps the inputs and the rules from failing. -/
theorem Answers.not_judgement (h : g.Answers settings xs v shapes) :
    ¬ Judgement g settings xs e := by
  intro hjudged
  cases hjudged with
  | count hcount => exact hcount h.solves.binds.length_eq.symm
  | input hmem hx =>
    obtain ⟨m, hm, -⟩ := (List.forall₂_iff_zip.1 h.solves.binds).2 hmem
    rw [hm] at hx
    cases hx
  | @rule k node t operands d hnode hreached hoperands hyield =>
    obtain ⟨found, results, hin, hobey, hout⟩ := h.solves.holds node (List.mem_of_getElem? hnode)
    -- the operands that the node finds are those of the solution
    have havailable : ∀ id ∈ node.inputs, id ∈ t.ids := by
      rw [hreached.ids]
      exact firstMissing?_eq_none_iff.1 (h.wellFormed.ordered.firstMissing?_eq_none hnode)
    have hsame : node.inputs.map t.find? = node.inputs.map v :=
      List.map_inj_left.2 fun id hid => hreached.agrees h.solves id (havailable id hid)
    have hoperands' : operands = found := by
      rw [hoperands, hin] at hsame
      exact (List.map_inj_right fun _ _ heq => Option.some.inj heq).1 hsame
    have hlen : node.outputs.length = results.length := by
      simpa using congrArg List.length hout
    obtain ⟨y, hy⟩ := yield_of_obeys hobey hlen
    rw [hoperands', hy] at hyield
    cases hyield

/-- **A solution of the equations of a well-formed graph carries the pass through.** -/
theorem Answers.run_pass (h : g.Answers settings xs v shapes) :
    ∃ q, (g.pass settings xs).runFrom {} = (.ok shapes, q) ∧
      g.Reached settings xs g.nodes.length q.store := by
  rcases hpass : (g.pass settings xs).runFrom {} with ⟨result, q⟩
  cases result with
  | error e =>
    exact absurd (h.wellFormed.judgement_of_failure (run_pass_eq_error hpass)) h.not_judgement
  | ok found =>
    obtain ⟨hto, metas, hread, rfl⟩ := run_pass_eq_ok hpass
    have hreached := reached_of_passTo hto
    refine ⟨q, ?_, hreached⟩
    -- the outputs are read from the store, which agrees with the solution on them
    obtain ⟨hmetas, hstored⟩ := Pass.readAll_eq_ok hread
    have hread' := Store.shapes_of_map_find? hmetas
    have hsame : g.outputs.map (fun id => (q.store.find? id).map Meta.shape) =
        g.outputs.map (fun id => (v id).map Meta.shape) :=
      List.map_inj_left.2 fun id hid => by rw [hreached.agrees h.solves id (hstored id hid)]
    rw [hread', h.outputs] at hsame
    rw [(List.map_inj_right fun _ _ heq => Option.some.inj heq).1 hsame]

/-- What a session answers is what the valuation gives, and the store holds the valuation on the
graph inputs and the results. -/
theorem Answers.answered (h : g.Answers settings xs v shapes) :
    (Session.new g xs settings).run.1 = .answered (.ok shapes) ∧
      (Session.new g xs settings).storeAfter.ids = g.inputs ++ produced g.nodes ∧
      ∀ id ∈ g.inputs ++ produced g.nodes,
        (Session.new g xs settings).storeAfter.find? id = v id := by
  obtain ⟨q, hpass, hreached⟩ := h.run_pass
  obtain ⟨hrun, hstore⟩ := Session.answered_of_pass hpass fun hlog => hreached.text (h.shown hlog)
  have hids := hreached.complete.1
  rw [hstore]
  exact ⟨hrun, hids, fun id hid => hreached.agrees h.solves id (hids ▸ hid)⟩

/-- A session that answers shapes has what it needs for this, by the store that it leaves behind. -/
theorem answers_of_answered (h : (Session.new g xs settings).run.1 = .answered (.ok shapes)) :
    g.Answers settings xs (Session.new g xs settings).storeAfter.find? shapes := by
  obtain ⟨q, hpass, hstore, hshown⟩ := Session.shown_pass_of_answered h
  obtain ⟨hto, metas, hread, rfl⟩ := run_pass_eq_ok hpass
  have hreached := reached_of_passTo hto
  obtain ⟨hids, hordered⟩ := hreached.complete
  rw [hstore]
  refine ⟨⟨ordered_of_run_pass hpass, hids ▸ q.store.nodup, ?_⟩, ?_, hreached.solves, ?_⟩
  · have hrows := hreached.rows
    rwa [List.take_length] at hrows
  · intro hlog id hid
    obtain ⟨text, htext⟩ := hshown hlog
    obtain ⟨shown, hlines, -⟩ := except_map_eq_ok_iff.1 htext
    -- an input has an entry in the store, and the entry was shown under the name of the input
    have hmem : id ∈ q.store.ids := hids ▸ List.mem_append_left _ hid
    obtain ⟨entry, hentry, rfl⟩ := List.mem_map.1 hmem
    obtain ⟨name, hname⟩ := Store.named_of_lines hlines entry hentry
    exact hasRow_of_nameOf hname
  · exact Store.shapes_of_map_find? (Pass.readAll_eq_ok hread).1

/-! ## Graphs with one value table -/

theorem value_of_values {h : Graph} (hvalues : h.values = g.values) (id : ValueId) :
    h.value id = g.value id := by
  rw [Graph.value, Graph.value, hvalues]

theorem HasRow.of_values {h : Graph} (hvalues : h.values = g.values) (hrow : g.HasRow id) :
    h.HasRow id := by
  rw [HasRow, hvalues]
  exact hrow

/-- A rule looks at the graph only for the declared type of a value. -/
theorem Obeys.of_values {h : Graph} {operands results : List Meta} (hvalues : h.values = g.values)
    (hobey : g.Obeys policy node operands results) : h.Obeys policy node operands results := by
  cases hobey with
  | constant hop hout hvalue hcontent =>
    rw [← value_of_values hvalues] at hvalue
    exact .constant hop hout hvalue hcontent
  | tensors hop hshapes => exact .tensors hop hshapes

theorem HoldsAt.of_values {h : Graph} (hvalues : h.values = g.values)
    (hholds : g.HoldsAt policy v node) : h.HoldsAt policy v node := by
  obtain ⟨operands, results, hin, hobey, hout⟩ := hholds
  exact ⟨operands, results, hin, hobey.of_values hvalues, hout⟩

end Graph

/-- **A session answers shapes exactly if its equations have a solution that gives them.** -/
theorem Session.answered_iff {g : Graph} {settings : PassSettings} {xs : List Datum}
    {shapes : List Shape} : (Session.new g xs settings).run.1 = .answered (.ok shapes) ↔
      ∃ v, g.Answers settings xs v shapes :=
  ⟨fun h => ⟨_, Graph.answers_of_answered h⟩, fun ⟨_, h⟩ => h.answered.1⟩

end ShapeFlow
