import ShapeFlow.Proofs.Script.Translation
import ShapeFlow.Proofs.Session.Construction

/-!
# Scripted graphs are translated faithfully

A scripted graph stands for a graph in which every definition is a value, every node is a node of
the same operator, and every use is the id of the latest definition before it
(`ScriptGraph.StandsFor`). The translation gives this graph or fails in one of two ways: an input
for the module is used, or a number is used that nothing defines before it
(`ScriptGraph.ReadsModule`, `ScriptGraph.Dangling`). The graph that it gives can be run on all
inputs and under all settings (`ScriptGraph.toGraph_faithful`).
-/

set_option autoImplicit false

namespace ShapeFlow

open ShapeFlow.Graph

namespace ScriptGraph

/-- The graph that a scripted graph stands for: its values are the definitions in order, of which
the kept inputs come first, and its nodes and outputs are those of the scripted graph with the
latest definitions put in for the numbers. -/
structure StandsFor (s : ScriptGraph) (g : Graph) : Prop where
  values : g.values = tableRows 0 s.definitions
  inputs : g.inputs = freshIds 0 s.kept.length
  count : g.nodes.length = s.nodes.length
  nodes : ∀ (k : Nat) (source : ScriptNode) (node : Node), s.nodes[k]? = some source →
    g.nodes[k]? = some node → source.Becomes (s.definedBefore k) node
  outputs : List.Forall₂ (Refers s.definitions) s.outputs g.outputs

/-- An input for the module itself has uses. -/
def ReadsModule (s : ScriptGraph) : Prop :=
  ∃ value ∈ s.inputs, value.type = .module ∧ value.uses ≠ 0

/-- A number is used without a definition: by a node that none stands before, or as an output that
has none at all. -/
def Dangling (s : ScriptGraph) (unique : Int) : Prop :=
  (∃ k source, s.nodes[k]? = some source ∧ unique ∈ source.inputs ∧
      unique ∉ (s.definedBefore k).map ScriptValue.unique) ∨
    (unique ∈ s.outputs ∧ unique ∉ s.definitions.map ScriptValue.unique)

variable {s : ScriptGraph} {g : Graph} {e : Failure} {unique : Int}

/-- What dangles stands for nothing. -/
theorem StandsFor.not_dangling (h : s.StandsFor g) : ¬ s.Dangling unique := by
  rintro (⟨k, source, hsource, hmem, hundefined⟩ | ⟨hmem, hundefined⟩)
  · have hk : k < g.nodes.length := by
      rw [h.count]
      exact (List.getElem?_eq_some_iff.1 hsource).1
    have hbecomes := h.nodes k source _ hsource (List.getElem?_eq_getElem hk)
    exact hundefined (Refers.defined_of_forall₂ hbecomes.inputs unique hmem)
  · exact hundefined (Refers.defined_of_forall₂ h.outputs unique hmem)

/-- What is in step is numbered. -/
theorem InStep.numbered {definitions : List ScriptValue} {built : Graph × Handles}
    (h : InStep definitions built) : built.1.Numbered where
  ids := by rw [h.values, ids_tableRows, length_tableRows]
  distinct := by
    rw [h.defined]
    exact nodup_freshIds _ _
  indices := by
    rw [h.defined, h.length]
    exact fun _ hid => hid

/-- The inputs that are kept are in step, and none for the module is used. -/
theorem inStep_inputs {built : Graph × Handles} (h : addInputs s.inputs ({}, []) = .ok built) :
    InStep s.kept built ∧ built.1.nodes = [] ∧ built.1.outputs = [] ∧ ¬ s.ReadsModule := by
  obtain ⟨hstep, hnodes, houtputs, hunused⟩ := addInputs_eq_ok inStep_empty rfl h
  refine ⟨hstep, hnodes, houtputs, ?_⟩
  rintro ⟨value, hmem, hmodule, huses⟩
  exact huses (hunused value hmem hmodule)

/-- **A graph that the translation gives is the one that the scripted graph stands for**; its values
are numbered, it is ordered, and no input for the module was used. -/
theorem standsFor_of_toGraph (h : s.toGraph = .ok g) :
    s.StandsFor g ∧ g.Numbered ∧ g.Ordered ∧ ¬ s.ReadsModule := by
  rw [toGraph] at h
  obtain ⟨built, hinputs, h⟩ := except_bind_eq_ok_iff.1 h
  obtain ⟨⟨graph, handles⟩, hnodes, h⟩ := except_bind_eq_ok_iff.1 h
  obtain ⟨outputs, houtputs, h⟩ := except_bind_eq_ok_iff.1 h
  cases h
  obtain ⟨hkept, hnone, hunmarked, hunused⟩ := inStep_inputs hinputs
  obtain ⟨nodes, hbecome, hstep, hadded⟩ := addNodes_eq_ok hkept (faulted_eq_ok_iff.1 hnodes)
  have hhandles : handles = .upTo s.definitions := hstep.handles
  rw [faulted_eq_ok_iff, hhandles, Handles.mapM_find_eq_ok_iff] at houtputs
  -- nodes and outputs are added behind none, so they are all that the graph has
  have hgraphNodes : graph.nodes = nodes := by
    have hnodes' := congrArg Graph.nodes hadded
    rwa [hnone, List.nil_append] at hnodes'
  have hgraphOutputs : graph.outputs = [] := (congrArg Graph.outputs hadded).trans hunmarked
  have hgraphInputs : graph.inputs = freshIds 0 s.kept.length := by
    have hdefined := hkept.defined
    rw [hnone, produced, List.flatMap_nil, List.append_nil] at hdefined
    exact (congrArg Graph.inputs hadded).trans hdefined
  have hdefined : graph.inputs ++ produced graph.nodes = freshIds 0 s.definitions.length :=
    hstep.defined
  rw [foldl_markOutput, hgraphOutputs, List.nil_append]
  refine ⟨⟨hstep.values, hgraphInputs, ?_, ?_, houtputs⟩, ?_, ⟨?_, ?_⟩, hunused⟩
  · rw [hgraphNodes, hbecome.length]
  · intro k source node hsource hnode
    rw [hgraphNodes] at hnode
    exact hbecome.becomes hsource hnode
  · exact ⟨hstep.numbered.ids, hstep.numbered.distinct, hstep.numbered.indices⟩
  · rw [hgraphNodes, hgraphInputs]
    exact hbecome.orderedFrom
  · rw [hdefined]
    exact Refers.mem_of_forall₂ houtputs

/-- A translation is refused for the module, or for a number that dangles. -/
theorem toGraph_eq_error (h : s.toGraph = .error e) :
    (s.ReadsModule ∧ ∃ name, e = (Issue.moduleInput name).failure) ∨
      (¬ s.ReadsModule ∧ ∃ unique, s.Dangling unique ∧ e = .fault (.undefinedUnique unique)) := by
  rw [toGraph] at h
  rcases except_bind_eq_error_iff.1 h with hinputs | ⟨built, hinputs, h⟩
  · obtain ⟨value, hmem, hused, rfl⟩ := addInputs_eq_error hinputs
    exact Or.inl ⟨⟨value, hmem, hused⟩, value.name, rfl⟩
  obtain ⟨hkept, -, -, hunused⟩ := inStep_inputs hinputs
  refine Or.inr ⟨hunused, ?_⟩
  rcases except_bind_eq_error_iff.1 h with hnodes | ⟨⟨graph, handles⟩, hnodes, h⟩
  · obtain ⟨f, hfault, rfl⟩ := faulted_eq_error_iff.1 hnodes
    obtain ⟨k, source, unique, hsource, hmem, hundefined, rfl⟩ := addNodes_eq_error hkept hfault
    exact ⟨unique, Or.inl ⟨k, source, hsource, hmem, hundefined⟩, rfl⟩
  obtain ⟨nodes, -, hstep, -⟩ := addNodes_eq_ok hkept (faulted_eq_ok_iff.1 hnodes)
  have hhandles : handles = .upTo s.definitions := hstep.handles
  rcases except_bind_eq_error_iff.1 h with houtputs | ⟨outputs, -, hpure⟩
  · obtain ⟨f, hfault, rfl⟩ := faulted_eq_error_iff.1 houtputs
    rw [hhandles] at hfault
    obtain ⟨unique, hmem, hundefined, rfl⟩ := Handles.mapM_find_eq_error hfault
    exact ⟨unique, Or.inr ⟨hmem, hundefined⟩, rfl⟩
  · cases hpure

/-- **The translation is faithful, and it fails only where it must.** A graph that it gives is the
one that the scripted graph stands for, the order check accepts it, and no session over it raises a
broken precondition or a look outside of the value table. The translation is refused for the module
exactly if an input for the module is used. Otherwise it fails exactly if a number dangles, and only
by naming such a number. -/
theorem toGraph_faithful (s : ScriptGraph) :
    (∀ g, s.toGraph = .ok g → s.StandsFor g ∧ (g.inputs ++ produced g.nodes).Nodup ∧
        g.checkOrder = .ok () ∧
        ∀ xs settings e, (Session.new g xs settings).run.1 = .raised e →
          e.isInvariant = false ∧ e ≠ .fault .indexOutOfRange) ∧
      ((∃ r, s.toGraph = .error (.report r) ∧ r.category = .inputKind) ↔ s.ReadsModule) ∧
      (¬ s.ReadsModule → ((∃ e, s.toGraph = .error e) ↔ ∃ unique, s.Dangling unique) ∧
        ∀ e, s.toGraph = .error e →
          ∃ unique, s.Dangling unique ∧ e = .fault (.undefinedUnique unique)) := by
  have hnaming : ¬ s.ReadsModule → ∀ e, s.toGraph = .error e →
      ∃ unique, s.Dangling unique ∧ e = .fault (.undefinedUnique unique) := by
    intro hunused e he
    rcases toGraph_eq_error he with ⟨hreads, -⟩ | ⟨-, hdangling⟩
    · exact absurd hreads hunused
    · exact hdangling
  refine ⟨?_, ⟨?_, ?_⟩, ?_⟩
  · intro g hg
    obtain ⟨hstands, hnumbered, hordered, -⟩ := standsFor_of_toGraph hg
    exact ⟨hstands, hnumbered.distinct, checkOrder_of_ordered hordered,
      fun xs settings e => hnumbered.raised_of_ordered hordered⟩
  · rintro ⟨r, hr, -⟩
    rcases toGraph_eq_error hr with ⟨hreads, -⟩ | ⟨-, unique, -, hfault⟩
    · exact hreads
    · cases hfault
  · intro hreads
    cases hgraph : s.toGraph with
    | ok g =>
      obtain ⟨-, -, -, hunused⟩ := standsFor_of_toGraph hgraph
      exact absurd hreads hunused
    | error e =>
      rcases toGraph_eq_error hgraph with ⟨-, name, rfl⟩ | ⟨hunused, -⟩
      · exact ⟨_, rfl, rfl⟩
      · exact absurd hreads hunused
  · intro hunused
    refine ⟨⟨?_, ?_⟩, hnaming hunused⟩
    · rintro ⟨e, he⟩
      obtain ⟨unique, hdangling, -⟩ := hnaming hunused e he
      exact ⟨unique, hdangling⟩
    · rintro ⟨unique, hdangling⟩
      cases hgraph : s.toGraph with
      | ok g =>
        obtain ⟨hstands, -⟩ := standsFor_of_toGraph hgraph
        exact absurd hdangling hstands.not_dangling
      | error e => exact ⟨e, rfl⟩

/-- The number 1 is an input and then the result of an activation: the sum means the latter. -/
example :
    toGraph
        { inputs := [⟨1, "x", .tensor, 1⟩],
          nodes := [{ kind := "aten::relu", inputs := [1], outputs := [⟨1, "y", .tensor, 2⟩] },
            { kind := "aten::add", inputs := [1, 1], outputs := [⟨2, "z", .tensor, 1⟩] }],
          outputs := [2] } =
      .ok
        { values := [⟨0, "x", .tensor⟩, ⟨1, "y", .tensor⟩, ⟨2, "z", .tensor⟩],
          nodes := [{ kind := "aten::relu", inputs := [0], outputs := [1] },
            { kind := "aten::add", inputs := [1, 1], outputs := [2] }],
          inputs := [0], outputs := [2] } := rfl

end ScriptGraph

end ShapeFlow
