import ShapeFlow.Proofs.Graph.Additions
import ShapeFlow.Proofs.Session.WellFormed

/-!
# Graphs that are built call by call

A graph is built by calls that add values, inputs, nodes, constants and outputs (`BuilderCall`). The
ids that calls return for inputs and results may be used by later calls; a list of calls that uses
no others is closed (`Construction.Closed`). What one call keeps (`Construction.Sound.after`) holds
behind every closed list of calls: the values are numbered, the inputs and results are distinct
values, and each is defined before it is used. Such a graph runs on all inputs and under all
settings without a broken precondition (`Session.runnable_of_closed`).
-/

set_option autoImplicit false

namespace ShapeFlow

open ShapeFlow.Graph

/-- A call that adds to a graph. -/
inductive BuilderCall where
  | value (name : Option String) (type : DeclaredType)
  | input (name : Option String) (type : DeclaredType)
  | node (kind : String) (inputs : List ValueId) (count : Int)
      (types : Option (List DeclaredType)) (names : Option (List (Option String)))
      (attributes : Context)
  | constant (content : Datum) (type : DeclaredType) (name : Option String)
  | output (id : ValueId)

namespace BuilderCall

/-- The ids that a call uses. -/
def uses : BuilderCall → List ValueId
  | .node _ inputs _ _ _ _ => inputs
  | .output id => [id]
  | .value _ _ | .input _ _ | .constant _ _ _ => []

/-- Carries out a call; gives the ids of the inputs or results that were added, and the graph that
the call leaves behind, also where it fails. -/
def apply (g : Graph) : BuilderCall → Except Fault (List ValueId) × Graph
  | .value name type => (.ok [], (g.addValue name type).1)
  | .input name type => (.ok [(g.addInput name type).2], (g.addInput name type).1)
  | .node kind inputs count types names attributes =>
    g.addNode kind inputs count types names attributes
  | .constant content type name => g.addConstant content type name
  | .output id => (.ok [], g.markOutput id)

/-- A call fails only for the number of types or names of a node's results, and then it leaves the
graph as it was. -/
theorem apply_eq_error {g h : Graph} {call : BuilderCall} {f : Fault}
    (happly : call.apply g = (.error f, h)) : f = .outputCounts ∧ h = g := by
  cases call with
  | value name type => cases happly
  | input name type => cases happly
  | node kind inputs count types names attributes => exact addNode_eq_error happly
  | constant content type name =>
    rw [apply, addConstant] at happly
    exact addNode_eq_error happly
  | output id => cases happly

theorem grows_of_apply {g h : Graph} {call : BuilderCall} {ids : List ValueId}
    (happly : call.apply g = (.ok ids, h)) : g.Grows h ids := by
  cases call with
  | value name type =>
    cases happly
    exact g.grows_addValue name type
  | input name type =>
    cases happly
    exact g.grows_addInput name type
  | node kind inputs count types names attributes => exact grows_of_addNode happly
  | constant content type name =>
    rw [apply, addConstant] at happly
    exact grows_of_addNode happly
  | output id =>
    cases happly
    exact g.grows_markOutput id

/-- A call that uses what is defined keeps a graph ordered. -/
theorem ordered_of_apply {g h : Graph} {call : BuilderCall} {ids : List ValueId}
    (hg : g.Ordered) (huses : ∀ id ∈ call.uses, id ∈ g.inputs ++ produced g.nodes)
    (happly : call.apply g = (.ok ids, h)) : h.Ordered := by
  cases call with
  | value name type =>
    cases happly
    exact hg
  | input name type =>
    cases happly
    exact hg.addInput name type
  | node kind inputs count types names attributes => exact hg.addNode huses happly
  | constant content type name =>
    -- a constant is a node that uses nothing
    rw [apply, addConstant] at happly
    exact hg.addNode (by simp) happly
  | output id =>
    cases happly
    exact hg.markOutput (huses id (List.mem_singleton_self id))

end BuilderCall

/-- A graph under construction, with the ids that were returned for inputs and results. -/
structure Construction where
  graph : Graph := {}
  returned : List ValueId := []

namespace Construction

/-- The construction behind one more call, with the graph that the call left behind; a call that
fails returns nothing. -/
def after (c : Construction) (call : BuilderCall) : Construction :=
  match call.apply c.graph with
  | (.ok ids, graph) => { graph, returned := c.returned ++ ids }
  | (.error _, graph) => { c with graph }

/-- Each call uses only ids that calls before it returned. -/
def Closed : Construction → List BuilderCall → Prop
  | _, [] => True
  | c, call :: rest => (∀ id ∈ call.uses, id ∈ c.returned) ∧ Closed (c.after call) rest

/-- Whether calls are closed can be seen by carrying them out. -/
instance decidableClosed (c : Construction) :
    (calls : List BuilderCall) → Decidable (c.Closed calls)
  | [] => .isTrue trivial
  | call :: rest =>
    have := decidableClosed (c.after call) rest
    inferInstanceAs (Decidable ((∀ id ∈ call.uses, id ∈ c.returned) ∧ Closed (c.after call) rest))

/-- What holds of a construction behind closed calls. -/
structure Sound (c : Construction) : Prop where
  numbered : c.graph.Numbered
  ordered : c.graph.Ordered
  returned : ∀ id ∈ c.returned, id ∈ c.graph.inputs ++ produced c.graph.nodes

variable {c : Construction} {call : BuilderCall} {calls : List BuilderCall}

/-- A call that fails leaves a construction as it was. -/
theorem after_of_error {g : Graph} {f : Fault} (happly : call.apply c.graph = (.error f, g)) :
    c.after call = c := by
  obtain ⟨-, rfl⟩ := BuilderCall.apply_eq_error happly
  rw [after, happly]

theorem sound_empty : Sound {} where
  numbered := numbered_empty
  ordered := ⟨trivial, by simp⟩
  returned := by simp

/-- One call keeps a construction sound. -/
theorem Sound.after (hc : c.Sound) (huses : ∀ id ∈ call.uses, id ∈ c.returned) :
    (c.after call).Sound := by
  rcases happly : call.apply c.graph with ⟨f | ids, graph⟩
  · rw [after_of_error happly]
    exact hc
  · have hafter : c.after call = { graph, returned := c.returned ++ ids } := by
      rw [Construction.after, happly]
    have hgrow := BuilderCall.grows_of_apply happly
    have hdefined : ∀ id ∈ call.uses, id ∈ c.graph.inputs ++ produced c.graph.nodes := by
      intro id hid
      exact hc.returned id (huses id hid)
    rw [hafter]
    refine ⟨hc.numbered.grow hgrow, BuilderCall.ordered_of_apply hc.ordered hdefined happly, ?_⟩
    -- what a call returns is defined behind it
    intro id hid
    apply hgrow.defined.symm.subset
    rcases List.mem_append.1 hid with hbefore | hnew
    · exact List.mem_append_left _ (hc.returned id hbefore)
    · exact List.mem_append_right _ hnew

/-- **Closed calls keep a construction sound.** -/
theorem Sound.foldl (hc : c.Sound) (hclosed : c.Closed calls) :
    (calls.foldl Construction.after c).Sound := by
  induction calls generalizing c with
  | nil => exact hc
  | cons call rest ih =>
    obtain ⟨huses, hrest⟩ := hclosed
    exact ih (hc.after huses) hrest

end Construction

/-- The graph that calls build from the empty one. -/
def Graph.built (calls : List BuilderCall) : Graph :=
  (calls.foldl Construction.after {}).graph

namespace Graph

variable {g : Graph} {calls : List BuilderCall} {id : ValueId}

theorem Numbered.hasRow (hg : g.Numbered) (hid : id ∈ g.inputs ++ produced g.nodes) :
    g.HasRow id := by
  obtain ⟨hzero, hlt⟩ := hg.bounds hid
  have hbelow : -(g.values.length : Int) ≤ 0 := by omega
  exact ⟨Int.le_trans hbelow hzero, hlt⟩

theorem Numbered.wellFormed (hg : g.Numbered) (hordered : g.Ordered) : g.WellFormed where
  ordered := hordered
  distinct := hg.distinct
  rows := by
    intro id hid
    exact hg.hasRow (List.mem_append_right _ hid)

/-- A session over a graph whose values are numbered and in order raises neither a broken
precondition nor a look outside of the value table. -/
theorem Numbered.raised_of_ordered (hg : g.Numbered) (hordered : g.Ordered) {xs : List Datum}
    {settings : PassSettings} {e : Failure}
    (h : (Session.new g xs settings).run.1 = .raised e) :
    e.isInvariant = false ∧ e ≠ .fault .indexOutOfRange := by
  have hrows : ∀ id ∈ g.inputs, g.HasRow id := by
    intro id hid
    exact hg.hasRow (List.mem_append_left _ hid)
  obtain ⟨f, rfl, hf⟩ := (hg.wellFormed hordered).fault_of_raised hrows h
  refine ⟨rfl, ?_⟩
  intro heq
  cases heq
  exact hf

end Graph

/-- **Graphs that are built call by call can be run.** Behind closed calls each value has its place
as its id, the inputs and results are distinct values, and the order check accepts the graph; a call
that failed left the graph as it was. No session over the graph raises a broken precondition or a
look outside of the value table. -/
theorem Session.runnable_of_closed {calls : List BuilderCall} (h : Construction.Closed {} calls) :
    (∀ (i : Nat) (value : Value), (built calls).values[i]? = some value → value.id = i) ∧
      ((built calls).inputs ++ produced (built calls).nodes).Nodup ∧
      (∀ id ∈ (built calls).inputs ++ produced (built calls).nodes,
        0 ≤ id ∧ id < (built calls).values.length) ∧
      (built calls).checkOrder = .ok () ∧
      (∀ front call back f, calls = front ++ call :: back →
        (call.apply (built front)).1 = .error f →
          f = .outputCounts ∧ (call.apply (built front)).2 = built front ∧
            built (front ++ [call]) = built front) ∧
      ∀ xs settings e, (Session.new (built calls) xs settings).run.1 = .raised e →
        e.isInvariant = false ∧ e ≠ .fault .indexOutOfRange := by
  have hsound := Construction.sound_empty.foldl h
  have hnumbered : (built calls).Numbered := hsound.numbered
  refine ⟨fun i value => hnumbered.id_eq, hnumbered.distinct, fun id => hnumbered.bounds,
    checkOrder_of_ordered hsound.ordered, ?_, ?_⟩
  · intro front call back f _ hfail
    have happly : call.apply (built front) = (.error f, (call.apply (built front)).2) := by
      rw [← hfail]
    obtain ⟨hcounts, hsame⟩ := BuilderCall.apply_eq_error happly
    refine ⟨hcounts, hsame, ?_⟩
    rw [built, List.foldl_append, List.foldl_cons, List.foldl_nil,
      Construction.after_of_error happly, built]
  · intro xs settings e hraised
    exact hnumbered.raised_of_ordered hsound.ordered hraised

/-- A tensor is split into two parts, of which the second is scaled by a text that is no number. The
first call for a node fails, since it gives one type for two results. -/
def BuilderCall.scaledPart : List BuilderCall :=
  [.input (some "x") .tensor, .value none .float,
   .node "prim::ConstantChunk" [0] 2 (some [.tensor]) none [],
   .node "prim::ConstantChunk" [0] 2 none none [("chunks", .int 2), ("dim", .int 0)],
   .constant (.text "three") .int none, .node "aten::mul" [3, 4] 1 none none [], .output 5]

theorem scaledPart_raises_conversion :
    Construction.Closed {} BuilderCall.scaledPart ∧
      (built BuilderCall.scaledPart).checkOrder = .ok () ∧
      ∃ e, (Session.new (built BuilderCall.scaledPart) [.tensor [4, 3]] {}).run.1 = .raised e ∧
        e.isInvariant = false ∧ e ≠ .fault .indexOutOfRange := by
  have hclosed : Construction.Closed {} BuilderCall.scaledPart := by decide
  obtain ⟨-, -, -, hcheck, -, hrunnable⟩ := Session.runnable_of_closed hclosed
  have hrun : (Session.new (built BuilderCall.scaledPart) [.tensor [4, 3]] {}).run.1 =
      .raised (.fault (.badNumeral (Text.quoted "three"))) := rfl
  exact ⟨hclosed, hcheck, _, hrun, hrunnable _ _ _ hrun⟩

end ShapeFlow
