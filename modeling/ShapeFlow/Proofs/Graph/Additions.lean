import ShapeFlow.Graph.Builder
import ShapeFlow.Proofs.Graph.Availability
import Mathlib.Data.List.Perm.Basic
import Mathlib.Data.List.Nodup

/-!
# What building adds to a graph

Values are numbered in the order in which they are added (`Graph.freshIds`,
`Graph.addValues_spec`). A node is added with new values for its results, or the graph is left as it
was (`Graph.addNode_eq_ok`, `Graph.addNode_eq_error`). All additions have in common that a graph
gets new values, some of which are defined as inputs or results (`Graph.Grows`). So each of them
keeps the values numbered and the definitions distinct (`Graph.Numbered.grow`); it keeps the graph
ordered as well if it uses only what is defined (`Graph.Ordered.addNode`,
`Graph.Ordered.markOutput`).
-/

set_option autoImplicit false

namespace ShapeFlow.Graph

variable {g h : Graph} {ids : List ValueId} {id : ValueId} {kind : String} {inputs : List ValueId}
  {count : Int} {types : Option (List DeclaredType)} {names : Option (List (Option String))}
  {attributes : Context}

/-! ## New ids -/

/-- The ids of `count` values that are added to a table of `start` rows. -/
def freshIds (start count : Nat) : List ValueId := (List.range' start count).map Nat.cast

theorem freshIds_succ (start count : Nat) :
    freshIds start (count + 1) = (start : ValueId) :: freshIds (start + 1) count := rfl

theorem freshIds_append (start first second : Nat) :
    freshIds start first ++ freshIds (start + first) second = freshIds start (first + second) := by
  rw [freshIds, freshIds, freshIds, ← List.map_append, List.range'_append_1]

theorem mem_freshIds {start count : Nat} {n : Int} :
    n ∈ freshIds start count ↔ (start : Int) ≤ n ∧ n < start + count := by
  rw [freshIds, List.mem_map]
  constructor
  · rintro ⟨i, hi, rfl⟩
    rw [List.mem_range'_1] at hi
    omega
  · rintro ⟨hle, hlt⟩
    refine ⟨n.toNat, ?_, Int.toNat_of_nonneg (by omega)⟩
    rw [List.mem_range'_1]
    omega

theorem nodup_freshIds (start count : Nat) : (freshIds start count).Nodup :=
  List.Nodup.map (fun _ _ heq => Int.ofNat_inj.1 heq) List.nodup_range'

/-! ## Adding values and nodes -/

/-- Added values stand behind the others under new ids, and nothing else changes. -/
theorem addValues_spec (g : Graph) (rows : List (Option String × DeclaredType)) :
    ∃ added : List Value,
      g.addValues rows = ({ g with values := g.values ++ added }, added.map Value.id) ∧
        added.map Value.id = freshIds g.values.length rows.length := by
  induction rows generalizing g with
  | nil => exact ⟨[], by simp [addValues], rfl⟩
  | cons row rest ih =>
    obtain ⟨name, type⟩ := row
    -- the rest is added to a table that has one row more
    obtain ⟨added, hrest, hids⟩ := ih (g.addValue name type).1
    rw [addValue, List.length_append, List.length_singleton] at hids
    refine ⟨⟨g.values.length, freshName g.values.length name, type⟩ :: added, ?_, ?_⟩
    · have hfirst : g.addValues ((name, type) :: rest) =
          (((g.addValue name type).1.addValues rest).1,
            (g.addValue name type).2 :: ((g.addValue name type).1.addValues rest).2) := rfl
      rw [hfirst, hrest]
      simp [addValue]
    · rw [List.map_cons, hids, List.length_cons, freshIds_succ]

/-- A node that is added stands behind the others, and its results are new values. -/
theorem addNode_eq_ok
    (hadd : g.addNode kind inputs count types names attributes = (.ok ids, h)) :
    ∃ added : List Value, h = { g with
        values := g.values ++ added
        nodes := g.nodes ++ [{ kind, inputs, outputs := ids, attributes }] } ∧
      added.map Value.id = ids ∧ ids = freshIds g.values.length added.length := by
  rw [addNode] at hadd
  split_ifs at hadd with hcounts
  · cases hadd
  · obtain ⟨added, hvalues, hids⟩ := g.addValues_spec
      ((perOutput count none names).zip (perOutput count .tensor types))
    rw [hvalues] at hadd
    cases hadd
    have hlen := congrArg List.length hids
    rw [freshIds, List.length_map, List.length_map, List.length_range'] at hlen
    exact ⟨added, rfl, rfl, by rw [hids, hlen]⟩

/-- A node is refused only for the number of types or names of its results, and the graph that is
left behind is the same. -/
theorem addNode_eq_error {f : Fault}
    (hadd : g.addNode kind inputs count types names attributes = (.error f, h)) :
    f = .outputCounts ∧ h = g := by
  rw [addNode] at hadd
  split_ifs at hadd with hcounts
  · cases hadd
    exact ⟨rfl, rfl⟩
  · cases hadd

/-! ## Growth -/

/-- One graph grows into another by defining ids: it gets new values, and those of the ids are
inputs or results now. -/
structure Grows (g h : Graph) (ids : List ValueId) : Prop where
  values : ∃ added : List Value, h.values = g.values ++ added ∧
    added.map Value.id = freshIds g.values.length added.length ∧ ids.Sublist (added.map Value.id)
  defined : (h.inputs ++ produced h.nodes).Perm (g.inputs ++ produced g.nodes ++ ids)

theorem grows_addValue (g : Graph) (name : Option String) (type : DeclaredType) :
    g.Grows (g.addValue name type).1 [] where
  values := ⟨[_], rfl, rfl, List.nil_sublist _⟩
  defined := by
    rw [List.append_nil]
    exact List.Perm.refl _

theorem grows_addInput (g : Graph) (name : Option String) (type : DeclaredType) :
    g.Grows (g.addInput name type).1 [(g.addInput name type).2] where
  values := ⟨[_], rfl, rfl, List.Sublist.refl _⟩
  defined := by
    have hinputs : (g.addInput name type).1.inputs = g.inputs ++ [(g.addInput name type).2] := rfl
    have hnodes : (g.addInput name type).1.nodes = g.nodes := rfl
    -- the new input stands between the inputs and the results
    rw [hinputs, hnodes, List.append_assoc, List.append_assoc]
    exact List.perm_append_comm.append_left g.inputs

theorem grows_of_addNode
    (hadd : g.addNode kind inputs count types names attributes = (.ok ids, h)) :
    g.Grows h ids := by
  obtain ⟨added, rfl, rfl, hids⟩ := addNode_eq_ok hadd
  refine ⟨⟨added, rfl, hids, List.Sublist.refl _⟩, ?_⟩
  rw [produced_append, produced_cons, List.append_assoc]
  simp [produced]

theorem grows_markOutput (g : Graph) (id : ValueId) : g.Grows (g.markOutput id) [] where
  values := ⟨[], (List.append_nil _).symm, rfl, List.Sublist.refl _⟩
  defined := by
    rw [List.append_nil]
    exact List.Perm.refl _

/-- The values of a graph are numbered in order, and its inputs and results are distinct values. -/
structure Numbered (g : Graph) : Prop where
  ids : g.values.map Value.id = freshIds 0 g.values.length
  distinct : (g.inputs ++ produced g.nodes).Nodup
  indices : ∀ id ∈ g.inputs ++ produced g.nodes, id ∈ freshIds 0 g.values.length

/-- A value has its place in the table as its id. -/
theorem Numbered.id_eq (hg : g.Numbered) {i : Nat} {value : Value}
    (hvalue : g.values[i]? = some value) : value.id = i := by
  obtain ⟨hlt, rfl⟩ := List.getElem?_eq_some_iff.1 hvalue
  have hplace := congrArg (fun ids : List ValueId => ids[i]?) hg.ids
  simpa [freshIds, hlt] using hplace

theorem Numbered.bounds (hg : g.Numbered) (hid : id ∈ g.inputs ++ produced g.nodes) :
    0 ≤ id ∧ id < g.values.length := by
  simpa using mem_freshIds.1 (hg.indices id hid)

theorem numbered_empty : Numbered {} where
  ids := rfl
  distinct := List.nodup_nil
  indices := by simp [produced]

/-- **A graph that grows stays numbered.** -/
theorem Numbered.grow (hg : g.Numbered) (hgrow : g.Grows h ids) : h.Numbered := by
  obtain ⟨added, hvalues, hadded, hsub⟩ := hgrow.values
  have hnew : ∀ id ∈ ids, id ∈ freshIds g.values.length added.length := by
    intro id hid
    rw [← hadded]
    exact hsub.subset hid
  have hcount : h.values.length = g.values.length + added.length := by
    rw [hvalues, List.length_append]
  -- the ids of the new table are those of the old one and the new ones behind them
  have hsplit := freshIds_append 0 g.values.length added.length
  rw [Nat.zero_add] at hsplit
  refine ⟨?_, ?_, ?_⟩
  · rw [hvalues, List.map_append, hg.ids, hadded, hsplit, List.length_append]
  · rw [hgrow.defined.nodup_iff, List.nodup_append]
    refine ⟨hg.distinct, (hadded ▸ nodup_freshIds _ _).sublist hsub, ?_⟩
    -- the old ids lie below the number of values, and the new ones do not
    intro old hold new hid heq
    have hbelow := mem_freshIds.1 (hg.indices old hold)
    have habove := mem_freshIds.1 (hnew new hid)
    rw [heq] at hbelow
    omega
  · intro id hid
    rw [hcount, ← hsplit]
    rcases List.mem_append.1 (hgrow.defined.subset hid) with hold | hid
    · exact List.mem_append_left _ (hg.indices id hold)
    · exact List.mem_append_right _ (hnew id hid)

/-! ## Order -/

/-- One more input makes more available to every node. -/
theorem Ordered.addInput (hg : g.Ordered) (name : Option String) (type : DeclaredType) :
    (g.addInput name type).1.Ordered := by
  have hmore : ∀ id ∈ g.inputs, id ∈ (g.addInput name type).1.inputs := by
    intro id hid
    exact List.mem_append_left _ hid
  refine ⟨hg.1.mono hmore, ?_⟩
  intro id hid
  rcases List.mem_append.1 (hg.2 id hid) with hinput | hresult
  · exact List.mem_append_left _ (hmore id hinput)
  · exact List.mem_append_right _ hresult

/-- A node may be added that uses what is defined. -/
theorem Ordered.addNode (hg : g.Ordered)
    (huses : ∀ id ∈ inputs, id ∈ g.inputs ++ produced g.nodes)
    (hadd : g.addNode kind inputs count types names attributes = (.ok ids, h)) : h.Ordered := by
  obtain ⟨added, rfl, -, -⟩ := addNode_eq_ok hadd
  refine ⟨(orderedFrom_append _ _ _).2 ⟨hg.1, huses, trivial⟩, ?_⟩
  intro id hid
  rw [produced_append, ← List.append_assoc]
  exact List.mem_append_left _ (hg.2 id hid)

theorem Ordered.markOutput (hg : g.Ordered) (hid : id ∈ g.inputs ++ produced g.nodes) :
    (g.markOutput id).Ordered := by
  refine ⟨hg.1, ?_⟩
  intro k hk
  rcases List.mem_append.1 hk with hbefore | hadded
  · exact hg.2 k hbefore
  · rw [List.mem_singleton.1 hadded]
    exact hid

end ShapeFlow.Graph
