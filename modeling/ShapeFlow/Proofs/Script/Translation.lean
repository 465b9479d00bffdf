import ShapeFlow.Proofs.Script.Definitions

/-!
# Translating a scripted graph

The translation of a scripted graph adds its inputs and nodes one after another. Each addition keeps
what is built in step with the definitions so far (`ScriptGraph.InStep`): a definition is a row of
the value table with a handle, and the inputs and results are the ids of these rows in order. A node
becomes a node of the same operator whose operands are the latest definitions
(`ScriptNode.Becomes`), so nodes that are added are in order (`ScriptNode.Become.orderedFrom`).

An addition is refused for an input that is for the module and used, or for an operand that nothing
before its node defines (`ScriptGraph.addInputs_eq_error`, `ScriptGraph.addNodes_eq_error`).
-/

set_option autoImplicit false

namespace ShapeFlow

open ShapeFlow.Graph

/-- The rows of the value table for definitions, the first of them in row `start`. -/
def tableRows (start : Nat) (definitions : List ScriptValue) : List Value :=
  (definitions.zipIdx start).map fun d =>
    { id := d.2, name := freshName d.2 (some d.1.name), type := d.1.type.declared }

/-- A use of a number behind definitions refers to an id: the place of its latest definition. -/
def Refers (definitions : List ScriptValue) (unique : Int) (id : ValueId) : Prop :=
  ∃ i : Nat, Latest definitions unique i ∧ id = i

/-- What a scripted node becomes behind definitions: a node of the same operator, with the ids of
the latest definitions as its operands and the next ids as its results. -/
structure ScriptNode.Becomes (definitions : List ScriptValue) (source : ScriptNode) (node : Node) :
    Prop where
  kind : node.kind = source.kind
  attributes : node.attributes = source.keptAttributes
  inputs : List.Forall₂ (Refers definitions) source.inputs node.inputs
  outputs : node.outputs = freshIds definitions.length source.outputs.length

/-- What scripted nodes become one behind another: the results of each are defined for the next. -/
inductive ScriptNode.Become : List ScriptValue → List ScriptNode → List Node → Prop where
  | nil (definitions : List ScriptValue) : Become definitions [] []
  | cons {definitions : List ScriptValue} {source : ScriptNode} {node : Node}
      {sources : List ScriptNode} {nodes : List Node} :
      source.Becomes definitions node → Become (definitions ++ source.outputs) sources nodes →
        Become definitions (source :: sources) (node :: nodes)

namespace ScriptGraph

/-- What is built keeps step with the definitions so far: each of them has a row and a handle, and
the inputs and results are the ids of these rows in order. -/
structure InStep (definitions : List ScriptValue) (built : Graph × Handles) : Prop where
  values : built.1.values = tableRows 0 definitions
  defined : built.1.inputs ++ produced built.1.nodes = freshIds 0 definitions.length
  handles : built.2 = .upTo definitions

end ScriptGraph

variable {definitions : List ScriptValue} {built result : Graph × Handles} {unique : Int}
  {id : ValueId} {ids : List ValueId} {uniques : List Int}

/-! ## Rows and uses -/

theorem length_tableRows (start : Nat) (definitions : List ScriptValue) :
    (tableRows start definitions).length = definitions.length := by
  simp [tableRows]

theorem ids_tableRows (start : Nat) (definitions : List ScriptValue) :
    (tableRows start definitions).map Value.id = freshIds start definitions.length := by
  rw [freshIds, ← List.zipIdx_map_snd start definitions, tableRows, List.map_map, List.map_map]
  rfl

theorem tableRows_append (start : Nat) (front back : List ScriptValue) :
    tableRows start (front ++ back) =
      tableRows start front ++ tableRows (start + front.length) back := by
  simp [tableRows, List.zipIdx_append]

theorem tableRows_cons (start : Nat) (value : ScriptValue) (rest : List ScriptValue) :
    tableRows start (value :: rest) =
      { id := start, name := freshName start (some value.name), type := value.type.declared } ::
        tableRows (start + 1) rest := rfl

/-- An id that is referred to is that of one of the definitions. -/
theorem Refers.mem (h : Refers definitions unique id) : id ∈ freshIds 0 definitions.length := by
  obtain ⟨i, hi, rfl⟩ := h
  rw [mem_freshIds]
  have hlt := hi.lt
  omega

theorem Refers.mem_of_forall₂ (h : List.Forall₂ (Refers definitions) uniques ids) :
    ∀ id ∈ ids, id ∈ freshIds 0 definitions.length := by
  induction h with
  | nil => simp
  | cons hfirst _ ih => exact List.forall_mem_cons.2 ⟨hfirst.mem, ih⟩

theorem Refers.defined_of_forall₂ (h : List.Forall₂ (Refers definitions) uniques ids) :
    ∀ unique ∈ uniques, unique ∈ definitions.map ScriptValue.unique := by
  induction h with
  | nil => simp
  | cons hfirst _ ih =>
    obtain ⟨i, hi, -⟩ := hfirst
    exact List.forall_mem_cons.2 ⟨hi.mem, ih⟩

/-- Looking up numbers gives the ids that they refer to. -/
theorem Handles.mapM_find_eq_ok_iff :
    uniques.mapM (Handles.upTo definitions).find = .ok ids ↔
      List.Forall₂ (Refers definitions) uniques ids := by
  rw [except_mapM_eq_ok_iff]
  simp only [Handles.find_upTo_eq_ok_iff]
  rfl

theorem Handles.mapM_find_eq_error {f : Fault}
    (h : uniques.mapM (Handles.upTo definitions).find = .error f) :
    ∃ unique ∈ uniques, unique ∉ definitions.map ScriptValue.unique ∧
      f = .undefinedUnique unique := by
  obtain ⟨unique, hmem, hfind⟩ := except_mapM_eq_error h
  exact ⟨unique, hmem, Handles.find_upTo_eq_error_iff.1 hfind⟩

/-! ## Additions to a graph -/

/-- Values that are added for definitions are their rows. -/
theorem Graph.addValues_definitions (g : Graph) (definitions : List ScriptValue) :
    g.addValues (definitions.map fun v => (some v.name, v.type.declared)) =
      ({ g with values := g.values ++ tableRows g.values.length definitions },
        freshIds g.values.length definitions.length) := by
  induction definitions generalizing g with
  | nil => simp [addValues, tableRows, freshIds]
  | cons value rest ih =>
    -- the rest is added to a table that has one row more
    have hrest := ih (g.addValue (some value.name) value.type.declared).1
    have hfirst : g.addValues ((value :: rest).map fun v => (some v.name, v.type.declared)) =
        (((g.addValue (some value.name) value.type.declared).1.addValues
            (rest.map fun v => (some v.name, v.type.declared))).1,
          (g.addValue (some value.name) value.type.declared).2 ::
            ((g.addValue (some value.name) value.type.declared).1.addValues
              (rest.map fun v => (some v.name, v.type.declared))).2) := rfl
    rw [hfirst, hrest, tableRows_cons, List.length_cons, freshIds_succ]
    simp [addValue]

theorem Graph.perOutput_of_length {α : Type} (default : α) (given : List α) :
    perOutput given.length default (some given) = given := by
  cases given with
  | nil => rfl
  | cons first rest => rfl

/-- A node that is added for a scripted one has the next ids as its results. -/
theorem Graph.addNode_definitions (g : Graph) (kind : String) (inputs : List ValueId)
    (outputs : List ScriptValue) (attributes : Context) :
    g.addNode kind inputs outputs.length (some (outputs.map fun v => v.type.declared))
        (some (outputs.map fun v => some v.name)) attributes =
      (.ok (freshIds g.values.length outputs.length),
        { g with
          values := g.values ++ tableRows g.values.length outputs
          nodes := g.nodes ++ [{ kind, inputs, attributes
                                 outputs := freshIds g.values.length outputs.length }] }) := by
  have htypes := perOutput_of_length DeclaredType.tensor (outputs.map fun v => v.type.declared)
  have hnames := perOutput_of_length none (outputs.map fun v => some v.name)
  rw [List.length_map] at htypes hnames
  rw [addNode, htypes, hnames, if_neg (by simp), List.zip_map', addValues_definitions]

theorem Graph.foldl_markOutput (g : Graph) (ids : List ValueId) :
    ids.foldl markOutput g = { g with outputs := g.outputs ++ ids } := by
  induction ids generalizing g with
  | nil => simp
  | cons id rest ih => simp [ih, markOutput]

/-! ## One addition -/

namespace ScriptGraph

theorem inStep_empty : InStep [] ({}, []) where
  values := rfl
  defined := rfl
  handles := rfl

theorem InStep.length (h : InStep definitions built) :
    built.1.values.length = definitions.length := by
  rw [h.values, length_tableRows]

variable {g : Graph} {handles : Handles}

/-- Values that are added as rows and defined next keep step, wherever their ids go. -/
theorem InStep.grow {h : Graph} (hstep : InStep definitions (g, handles))
    (values : List ScriptValue)
    (hvalues : h.values = g.values ++ tableRows g.values.length values)
    (hdefined : h.inputs ++ produced h.nodes =
      g.inputs ++ produced g.nodes ++ freshIds g.values.length values.length) :
    InStep (definitions ++ values)
      (h, handles.define values (freshIds g.values.length values.length)) := by
  have hlen : g.values.length = definitions.length := hstep.length
  refine ⟨?_, ?_, ?_⟩
  · rw [hvalues, hstep.values, length_tableRows, tableRows_append, Nat.zero_add]
  · have hbefore : g.inputs ++ produced g.nodes = freshIds 0 definitions.length := hstep.defined
    have hsplit := freshIds_append 0 definitions.length values.length
    rw [Nat.zero_add] at hsplit
    rw [hdefined, hbefore, hlen, hsplit, List.length_append]
  · have hbefore : handles = .upTo definitions := hstep.handles
    rw [hlen, hbefore]
    exact Handles.define_upTo definitions values

/-- An input keeps step as long as no node has been added. -/
theorem InStep.addInput (hstep : InStep definitions (g, handles)) (hnodes : g.nodes = [])
    (value : ScriptValue) :
    InStep (definitions ++ [value])
      ((g.addInput (some value.name) value.type.declared).1,
        (value.unique, (g.addInput (some value.name) value.type.declared).2) :: handles) := by
  have hsame : (g.addInput (some value.name) value.type.declared).1.nodes = [] := hnodes
  have hinputs : (g.addInput (some value.name) value.type.declared).1.inputs =
      g.inputs ++ freshIds g.values.length [value].length := rfl
  refine hstep.grow [value] rfl ?_
  rw [hsame, hinputs, hnodes]
  simp [produced]

/-- What adding a node does: it looks up the operands and adds the results. -/
theorem addNode_eq_bind (source : ScriptNode) (g : Graph) (handles : Handles) :
    addNode source (g, handles) = (do
      let inputs ← source.inputs.mapM handles.find
      let ids := freshIds g.values.length source.outputs.length
      return ({ g with
          values := g.values ++ tableRows g.values.length source.outputs
          nodes := g.nodes ++
            [{ kind := source.kind, inputs, outputs := ids
               attributes := source.keptAttributes }] },
        handles.define source.outputs ids)) := by
  rw [addNode]
  refine bind_congr fun inputs => ?_
  rw [addNode_definitions]
  rfl

/-- A node that is added becomes one whose operands are the latest definitions, and keeps step. -/
theorem addNode_eq_ok {source : ScriptNode} (hstep : InStep definitions built)
    (h : addNode source built = .ok result) :
    ∃ node, source.Becomes definitions node ∧ InStep (definitions ++ source.outputs) result ∧
      result.1 = { built.1 with
        values := result.1.values
        nodes := built.1.nodes ++ [node] } := by
  obtain ⟨g, handles⟩ := built
  rw [addNode_eq_bind] at h
  obtain ⟨inputs, hinputs, h⟩ := except_bind_eq_ok_iff.1 h
  cases h
  have hhandles : handles = .upTo definitions := hstep.handles
  have hlen : g.values.length = definitions.length := hstep.length
  rw [hhandles, Handles.mapM_find_eq_ok_iff] at hinputs
  refine ⟨_, ⟨rfl, rfl, hinputs, by rw [hlen]⟩, hstep.grow source.outputs rfl ?_, rfl⟩
  rw [produced_append, produced_cons]
  simp [produced]

/-- A node is refused for an operand that nothing defines. -/
theorem addNode_eq_error {source : ScriptNode} {f : Fault} (hstep : InStep definitions built)
    (h : addNode source built = .error f) :
    ∃ unique ∈ source.inputs, unique ∉ definitions.map ScriptValue.unique ∧
      f = .undefinedUnique unique := by
  obtain ⟨g, handles⟩ := built
  have hhandles : handles = .upTo definitions := hstep.handles
  rw [addNode_eq_bind, hhandles] at h
  rcases except_bind_eq_error_iff.1 h with hfind | ⟨inputs, -, hpure⟩
  · exact Handles.mapM_find_eq_error hfind
  · cases hpure

/-! ## All additions -/

/-- Inputs keep step one after another, and none for the module is used. -/
theorem addInputs_eq_ok {rest : List ScriptValue} (hstep : InStep definitions built)
    (hnodes : built.1.nodes = []) (h : addInputs rest built = .ok result) :
    InStep (definitions ++ rest.filter fun v => v.type ≠ .module) result ∧
      result.1.nodes = [] ∧ result.1.outputs = built.1.outputs ∧
      ∀ value ∈ rest, value.type = .module → value.uses = 0 := by
  induction rest generalizing definitions built with
  | nil =>
    cases h
    simpa using ⟨hstep, hnodes⟩
  | cons value rest ih =>
    obtain ⟨g, handles⟩ := built
    rw [addInputs] at h
    by_cases hmodule : value.type = .module
    · rw [if_pos hmodule] at h
      by_cases huses : value.uses = 0
      · rw [if_neg (not_not_intro huses)] at h
        obtain ⟨hstep', hnodes', houtputs, hrest⟩ := ih hstep hnodes h
        refine ⟨by simpa [hmodule] using hstep', hnodes', houtputs, ?_⟩
        exact List.forall_mem_cons.2 ⟨fun _ => huses, hrest⟩
      · rw [if_pos huses] at h
        cases h
    · rw [if_neg hmodule] at h
      obtain ⟨hstep', hnodes', houtputs, hrest⟩ := ih (hstep.addInput hnodes value) hnodes h
      refine ⟨by simpa [hmodule] using hstep', hnodes', houtputs, ?_⟩
      exact List.forall_mem_cons.2 ⟨fun hm => absurd hm hmodule, hrest⟩

/-- Inputs are refused for one that is for the module and used. -/
theorem addInputs_eq_error {rest : List ScriptValue} {e : Failure}
    (h : addInputs rest built = .error e) :
    ∃ value ∈ rest, (value.type = .module ∧ value.uses ≠ 0) ∧
      e = (Issue.moduleInput value.name).failure := by
  induction rest generalizing built with
  | nil => cases h
  | cons value rest ih =>
    obtain ⟨g, handles⟩ := built
    rw [addInputs] at h
    by_cases hused : value.type = .module ∧ value.uses ≠ 0
    · rw [if_pos hused.1, if_pos hused.2] at h
      cases h
      exact ⟨value, List.mem_cons_self, hused, rfl⟩
    · -- this input is dropped or kept, so the one at fault lies behind it
      have hrest : ∃ built', addInputs rest built' = .error e := by
        by_cases hmodule : value.type = .module
        · rw [if_pos hmodule, if_neg fun huses => hused ⟨hmodule, huses⟩] at h
          exact ⟨_, h⟩
        · rw [if_neg hmodule] at h
          exact ⟨_, h⟩
      obtain ⟨built', hrest⟩ := hrest
      obtain ⟨other, hmem, hother⟩ := ih hrest
      exact ⟨other, List.mem_cons_of_mem value hmem, hother⟩

/-- Nodes become nodes one behind another, and keep step. -/
theorem addNodes_eq_ok {sources : List ScriptNode} (hstep : InStep definitions built)
    (h : addNodes sources built = .ok result) :
    ∃ nodes, ScriptNode.Become definitions sources nodes ∧
      InStep (definitions ++ sources.flatMap ScriptNode.outputs) result ∧
      result.1 = { built.1 with
        values := result.1.values
        nodes := built.1.nodes ++ nodes } := by
  induction sources generalizing definitions built with
  | nil =>
    cases h
    refine ⟨[], .nil definitions, by simpa using hstep, ?_⟩
    rw [List.append_nil]
  | cons source rest ih =>
    rw [addNodes] at h
    obtain ⟨next, hnode, hrest⟩ := except_bind_eq_ok_iff.1 h
    obtain ⟨node, hbecomes, hnext, hadded⟩ := addNode_eq_ok hstep hnode
    obtain ⟨nodes, hbecome, hresult, hmore⟩ := ih hnext hrest
    rw [List.append_assoc] at hresult
    refine ⟨node :: nodes, .cons hbecomes hbecome, by rwa [List.flatMap_cons], ?_⟩
    rw [hmore, hadded]
    simp

/-- Nodes are refused for an operand that nothing before its node defines. -/
theorem addNodes_eq_error {sources : List ScriptNode} {f : Fault} (hstep : InStep definitions built)
    (h : addNodes sources built = .error f) :
    ∃ k source unique, sources[k]? = some source ∧ unique ∈ source.inputs ∧
      unique ∉ (definitions ++ (sources.take k).flatMap ScriptNode.outputs).map ScriptValue.unique ∧
      f = .undefinedUnique unique := by
  induction sources generalizing definitions built with
  | nil => cases h
  | cons source rest ih =>
    rw [addNodes] at h
    rcases except_bind_eq_error_iff.1 h with hnode | ⟨next, hnode, hrest⟩
    · obtain ⟨unique, hmem, hundefined, hf⟩ := addNode_eq_error hstep hnode
      exact ⟨0, source, unique, rfl, hmem, by simpa using hundefined, hf⟩
    · -- this node was added, so the one at fault lies behind its results
      obtain ⟨node, -, hnext, -⟩ := addNode_eq_ok hstep hnode
      obtain ⟨k, other, unique, hother, hmem, hundefined, hf⟩ := ih hnext hrest
      refine ⟨k + 1, other, unique, by simpa using hother, hmem, ?_, hf⟩
      rwa [List.take_succ_cons, List.flatMap_cons, ← List.append_assoc]

end ScriptGraph

/-! ## Nodes behind definitions -/

namespace ScriptNode

theorem Become.length {sources : List ScriptNode} {nodes : List Node}
    (h : Become definitions sources nodes) : nodes.length = sources.length := by
  induction h with
  | nil => rfl
  | cons _ _ ih => rw [List.length_cons, List.length_cons, ih]

/-- Each node is what the scripted node at its place becomes behind the definitions before it. -/
theorem Become.becomes {sources : List ScriptNode} {nodes : List Node}
    (h : Become definitions sources nodes) {k : Nat} {source : ScriptNode} {node : Node}
    (hsource : sources[k]? = some source) (hnode : nodes[k]? = some node) :
    source.Becomes (definitions ++ (sources.take k).flatMap ScriptNode.outputs) node := by
  induction h generalizing k with
  | nil => cases hsource
  | cons hfirst _ ih =>
    cases k with
    | zero =>
      cases hsource
      cases hnode
      simpa using hfirst
    | succ k =>
      have hrest := ih (by simpa using hsource) (by simpa using hnode)
      rwa [List.append_assoc, ← List.flatMap_cons, ← List.take_succ_cons] at hrest

/-- Nodes that refer to definitions are in order behind the ids of the definitions. -/
theorem Become.orderedFrom {sources : List ScriptNode} {nodes : List Node}
    (h : Become definitions sources nodes) :
    OrderedFrom (freshIds 0 definitions.length) nodes := by
  induction h with
  | nil => trivial
  | @cons definitions source node sources nodes hfirst _ ih =>
    have hsplit := freshIds_append 0 definitions.length source.outputs.length
    rw [Nat.zero_add] at hsplit
    refine ⟨Refers.mem_of_forall₂ hfirst.inputs, ?_⟩
    rw [hfirst.outputs, hsplit, ← List.length_append]
    exact ih

end ScriptNode

end ShapeFlow
