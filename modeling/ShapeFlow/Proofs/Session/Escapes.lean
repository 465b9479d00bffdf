import ShapeFlow.Proofs.Session.WellFormed

/-!
# What escapes a session

A session answers what is recoverable and raises the rest, and what it raises is meant to be the
report of a broken precondition. If all ids of a graph have rows in the value table
(`Graph.Addressed`), no look at the table fails, so nothing else could be raised if all attributes
were judged. Those of two kinds of constants are not: the content of a whole-number constant and of
a truth-value constant is converted without a test (`Datum.Unfit`, `Graph.Unreadable`).
`Session.escapes_iff` says that this is the only way out: a session over such a graph raises a fault
exactly when its pass gets to a constant that does not convert.
-/

set_option autoImplicit false

namespace ShapeFlow

theorem Naming.blame_ne_fault {names : Naming} {id : ValueId} {name : String}
    (h : names id = .ok name) (cause : String → Issue) (f : Fault) :
    names.blame id cause ≠ .fault f := by
  rw [blame_of_name h]
  intro hfault
  cases hfault

theorem Failure.atNode_eq_fault_iff {d : Failure} {k : Nat} {kind : String} {f : Fault} :
    d.atNode k kind = .fault f ↔ d = .fault f := by
  cases d with
  | fault f' => exact Iff.rfl
  | report r =>
    rw [atNode]
    split_ifs
    · simp
    · exact Iff.rfl

theorem reported_ne_fault {α : Type} (r : Except Issue α) (f : Fault) :
    reported r ≠ .error (.fault f) := by
  cases r with
  | ok a => exact fun h => nomatch h
  | error i => exact fun h => nomatch h

/-- A value does not convert to what a constant of a declared type holds: to a whole number, or to a
truth value. For the other types nothing is converted. -/
inductive Datum.Unfit (x : Datum) (f : Fault) : DeclaredType → Prop where
  | number : x.toInteger = .error f → Unfit x f .int
  | truth : x.truth = .error f → Unfit x f .bool

/-- A conversion of a required attribute has a fault exactly if the attribute is there and has this
fault when it is converted. -/
theorem Node.convert_eq_fault_iff {α : Type} {node : Node} {convert : Datum → Except Fault α}
    {content : α → List Int} {f : Fault} :
    (do
        let value ← reported (node.require "value")
        let a ← faulted (convert value)
        return content a : Except Failure (List Int)) = .error (.fault f) ↔
      ∃ x, node.require "value" = .ok x ∧ convert x = .error f := by
  constructor
  · intro h
    rcases except_bind_eq_error_iff.1 h with hvalue | ⟨x, hvalue, h⟩
    · exact absurd hvalue (reported_ne_fault _ f)
    rcases except_bind_eq_error_iff.1 h with hconvert | ⟨a, -, hpure⟩
    · obtain ⟨f', hf', heq⟩ := faulted_eq_error_iff.1 hconvert
      cases heq
      exact ⟨x, reported_eq_ok_iff.1 hvalue, hf'⟩
    · cases hpure
  · rintro ⟨x, hvalue, hconvert⟩
    rw [hvalue, reported_ok, except_ok_bind, hconvert]
    rfl

/-- The content of a constant has a fault exactly if it does not convert to what the declared type
asks for. -/
theorem Rule.constant_eq_fault_iff {policy : ConstantPolicy} {node : Node} {type : DeclaredType}
    {f : Fault} : constant policy node type = .error (.fault f) ↔
      ∃ x, node.require "value" = .ok x ∧ x.Unfit f type := by
  constructor
  · intro h
    cases type with
    | int =>
      obtain ⟨x, hvalue, hf⟩ := Node.convert_eq_fault_iff.1 h
      exact ⟨x, hvalue, .number hf⟩
    | bool =>
      obtain ⟨x, hvalue, hf⟩ := Node.convert_eq_fault_iff.1 h
      exact ⟨x, hvalue, .truth hf⟩
    | tensor => exact absurd h (reported_ne_fault _ f)
    | float | none => cases h
    | intList | other =>
      cases policy with
      | empty => cases h
      | refuse => cases h
  · rintro ⟨x, hvalue, hunfit⟩
    cases hunfit with
    | number hf => exact Node.convert_eq_fault_iff.2 ⟨x, hvalue, hf⟩
    | truth hf => exact Node.convert_eq_fault_iff.2 ⟨x, hvalue, hf⟩

namespace Graph

/-- Every id of a graph has a row in the value table. -/
structure Addressed (g : Graph) : Prop where
  inputs : ∀ id ∈ g.inputs, g.HasRow id
  outputs : ∀ id ∈ g.outputs, g.HasRow id
  operands : ∀ node ∈ g.nodes, ∀ id ∈ node.inputs, g.HasRow id
  results : ∀ node ∈ g.nodes, ∀ id ∈ node.outputs, g.HasRow id

/-- A node is a constant, and its content does not convert to what its output is declared to be. -/
def Unreadable (g : Graph) (node : Node) (f : Fault) : Prop :=
  node.operator = .constant ∧ ∃ output value x, node.outputs = [output] ∧
    g.value output = .ok value ∧ node.require "value" = .ok x ∧ x.Unfit f value.type

/-- The pass gets to node number `k` with all operands of it, and the node is a constant that does
not convert. -/
def StopsAtConstant (g : Graph) (settings : PassSettings) (xs : List Datum) (k : Nat) (f : Fault) :
    Prop :=
  ∃ node q, g.nodes[k]? = some node ∧ (g.passTo settings xs k).runFrom {} = (.ok (), q) ∧
    (∀ id ∈ node.inputs, id ∈ q.store.ids) ∧ g.Unreadable node f

variable {g : Graph} {settings : PassSettings} {policy : ConstantPolicy} {xs : List Datum}
  {k : Nat} {node : Node} {p q r : Progress} {e : Failure} {f : Fault}

/-! ## One node -/

theorem mem_of_firstMissing? {available ids : List ValueId} {id : ValueId}
    (h : firstMissing? available ids = some id) : id ∈ ids :=
  List.mem_of_find?_eq_some h

/-- An id in a pair that was made of a list of ids is one of the list. -/
theorem mem_of_zip_split {β : Type} {ids : List ValueId} {bs : List β}
    {front back : List (ValueId × β)} {id : ValueId} {b : β}
    (h : ids.zip bs = front ++ (id, b) :: back) : id ∈ ids := by
  have hmem : (id, b) ∈ ids.zip bs := by
    rw [h]
    exact List.mem_append_right _ List.mem_cons_self
  exact (List.of_mem_zip hmem).1

/-- A rule has a fault exactly if its node is a constant that does not convert. -/
theorem yield_eq_fault_iff {operands : List Meta} (hrows : ∀ id ∈ node.outputs, g.HasRow id) :
    g.yield policy node operands = .error (.fault f) ↔ g.Unreadable node f := by
  constructor
  · intro h
    unfold yield at h
    by_cases hop : node.operator = .constant
    · rw [if_pos hop, constantYield] at h
      split at h
      · rename_i output hout
        obtain ⟨value, hvalue⟩ := value_of_hasRow (hrows output (hout ▸ List.mem_cons_self))
        rw [hvalue, faulted_ok, except_ok_bind] at h
        rcases except_bind_eq_error_iff.1 h with hcontent | ⟨content, -, hpure⟩
        · obtain ⟨x, hx, hunfit⟩ := Rule.constant_eq_fault_iff.1 hcontent
          exact ⟨hop, output, value, x, hout, hvalue, hx, hunfit⟩
        · cases hpure
      · cases h
    · rw [if_neg hop] at h
      -- all other rules fail by reports only
      cases hmetas : reported (node.tensorResults (operands.map Meta.shape)) with
      | ok metas =>
        rw [hmetas] at h
        cases h
      | error d =>
        rw [hmetas] at h
        cases h
        exact absurd hmetas (reported_ne_fault _ f)
  · rintro ⟨hop, output, value, x, hout, hvalue, hx, hunfit⟩
    have hcontent : Rule.constant policy node value.type = .error (.fault f) :=
      Rule.constant_eq_fault_iff.2 ⟨x, hx, hunfit⟩
    rw [yield, if_pos hop, constantYield, hout]
    simp only [hvalue, faulted_ok, except_ok_bind, hcontent]
    rfl

/-- A step over ids with rows fails by a fault only if its node is a constant that does not convert,
and it has read its operands then. -/
theorem unreadable_of_step (hin : ∀ id ∈ node.inputs, g.HasRow id)
    (hout : ∀ id ∈ node.outputs, g.HasRow id)
    (h : (g.step policy node).runFrom p = (.error (.fault f), q)) :
    (∀ id ∈ node.inputs, id ∈ p.store.ids) ∧ g.Unreadable node f := by
  have hfailure := run_step_eq_error h
  generalize hd : Failure.fault f = d at hfailure
  generalize q.store = t at hfailure
  cases hfailure with
  | operand hmiss =>
    obtain ⟨name, hname⟩ := nameOf_of_hasRow (hin _ (mem_of_firstMissing? hmiss))
    exact absurd hd.symm (Naming.blame_ne_fault hname _ f)
  | rule hoperands hyield =>
    subst hd
    refine ⟨fun id hid => ?_, (yield_eq_fault_iff hout).1 hyield⟩
    have hfound : p.store.find? id ∈ node.inputs.map p.store.find? := List.mem_map_of_mem hid
    rw [hoperands] at hfound
    obtain ⟨m, -, hm⟩ := List.mem_map.1 hfound
    exact (Store.find?_isSome_iff _ _).1 (by rw [← hm]; rfl)
  | result hoperands hobey hlen hwrite =>
    -- the id at fault is one of the outputs, and these have rows
    cases hwrite with
    | duplicate hpairs hid ht =>
      obtain ⟨name, hname⟩ := nameOf_of_hasRow (hout _ (mem_of_zip_split hpairs))
      exact absurd hd.symm (Naming.blame_ne_fault hname _ f)
    | unnamed hpairs hrow ht => exact absurd (hout _ (mem_of_zip_split hpairs)) hrow

/-- A step that has its operands fails as its rule does. -/
theorem run_step_of_yield (havail : ∀ id ∈ node.inputs, id ∈ p.store.ids)
    (hyield : ∀ operands, g.yield policy node operands = .error e) :
    (g.step policy node).runFrom p = (.error e, p) := by
  obtain ⟨operands, -, hread⟩ := Pass.readAll_of_available g.nameOf havail
  have hfirst : (Pass.ofStore (Pass.readAll g.nameOf node.inputs)).runFrom p =
      (.ok operands, p) := congrArg (·, p) hread
  unfold step stepNamed
  rw [Pass.run_bind_ok hfirst]
  exact Pass.run_bind_error (by rw [Pass.run_ofExcept, hyield])

/-! ## The pass -/

/-- Where a node fails behind a front that ran, the whole run fails. -/
theorem run_runNodes_of_error {index : Nat} {front : List Node} (back : List Node)
    (hfront : (g.runNodes policy index front).runFrom p = (.ok (), q))
    (hstep : (g.step policy node).runFrom q = (.error e, r)) :
    (g.runNodes policy index (front ++ node :: back)).runFrom p =
      (.error (e.atNode (index + front.length) node.kind), r) := by
  induction front generalizing index p with
  | nil =>
    cases hfront
    exact Pass.run_bind_error (Pass.run_mapFailure_eq_error_iff.2 ⟨e, hstep, rfl⟩)
  | cons first rest ih =>
    obtain ⟨_, p', hfirst, hrest⟩ := Pass.run_bind_eq_ok_iff.1 hfront
    rw [List.length_cons, Nat.add_comm rest.length, ← Nat.add_assoc]
    exact Pass.run_bind_eq_error_iff.2 (Or.inr ⟨(), p', hfirst, ih hrest⟩)

/-- A pass whose step fails at the node that it got to fails. -/
theorem run_pass_of_step (hnode : g.nodes[k]? = some node)
    (hto : (g.passTo settings xs k).runFrom {} = (.ok (), q))
    (hstep : (g.step settings.unknownConstants node).runFrom q = (.error e, r)) :
    (g.pass settings xs).runFrom {} = (.error (e.atNode k node.kind), r) := by
  obtain ⟨hsplit, hlen⟩ := nodes_split hnode
  obtain ⟨_, p, hopen, hfront⟩ := Pass.run_bind_eq_ok_iff.1 hto
  have hnodes := run_runNodes_of_error (g.nodes.drop (k + 1)) hfront hstep
  rw [← hsplit, hlen, Nat.zero_add] at hnodes
  rw [pass_eq_passTo]
  apply Pass.run_bind_error
  rw [passTo, List.take_length]
  exact Pass.run_bind_eq_error_iff.2 (Or.inr ⟨(), p, hopen, hnodes⟩)

/-- The order check of a graph whose ids have rows fails by reports only. -/
theorem Addressed.checkOrder_ne_fault (hg : g.Addressed) : g.checkOrder ≠ .error (.fault f) := by
  have hblame : ∀ {id : ValueId} {cause : String → Issue}, g.HasRow id →
      g.checkOrder = .error (g.nameOf.blame id cause) → g.checkOrder ≠ .error (.fault f) := by
    intro id cause hrow hcheck hfault
    obtain ⟨name, hname⟩ := nameOf_of_hasRow hrow
    rw [hcheck] at hfault
    exact Naming.blame_ne_fault hname cause f (Except.error.inj hfault)
  rcases orderedFrom_or_exists g.inputs g.nodes with hord | ⟨front, n, back, id, hn, hf, hid⟩
  · cases hmiss : firstMissing? (g.inputs ++ produced g.nodes) g.outputs with
    | none =>
      rw [checkOrder_of_ordered ⟨hord, firstMissing?_eq_none_iff.1 hmiss⟩]
      exact fun h => nomatch h
    | some id =>
      exact hblame (hg.outputs id (mem_of_firstMissing? hmiss)) (checkOrder_of_output hord hmiss)
  · have hmem : n ∈ g.nodes := hn ▸ List.mem_append_right _ List.mem_cons_self
    exact hblame (hg.operands n hmem id (mem_of_firstMissing? hid)) (checkOrder_of_node hn hf hid)

/-- **A pass over ids with rows fails by a fault only at a constant that does not convert.** -/
theorem Addressed.stopsAtConstant (hg : g.Addressed) {t : Store}
    (h : PassFailure g settings xs (.fault f) t) : ∃ k, g.StopsAtConstant settings xs k f := by
  generalize hd : Failure.fault f = d at h
  cases h with
  | count hcount => cases hd
  | order hcount hverify hcheck =>
    subst hd
    exact absurd hcheck hg.checkOrder_ne_fault
  | input hchecks hbind =>
    cases hbind with
    | refused hpairs hfront hx => cases hd
    | duplicate hpairs hfront hx hid =>
      obtain ⟨name, hname⟩ := nameOf_of_hasRow (hg.inputs _ (mem_of_zip_split hpairs))
      exact absurd hd.symm (Naming.blame_ne_fault hname _ f)
  | @node k node q r d hnode hto hstep =>
    rw [Failure.atNode_eq_fault_iff.1 hd.symm] at hstep
    have hmem := List.mem_of_getElem? hnode
    obtain ⟨havail, hunread⟩ :=
      unreadable_of_step (hg.operands node hmem) (hg.results node hmem) hstep
    exact ⟨k, node, q, hnode, hto, havail, hunread⟩
  | output hto hread =>
    obtain ⟨id, hmiss, rfl⟩ := Pass.readAll_eq_error hread
    obtain ⟨name, hname⟩ := nameOf_of_hasRow (hg.outputs id (mem_of_firstMissing? hmiss))
    exact absurd hd.symm (Naming.blame_ne_fault hname _ f)

/-- A pass that gets to a constant that does not convert fails by the fault of converting it. -/
theorem StopsAtConstant.run_pass (h : g.StopsAtConstant settings xs k f)
    (hrows : ∀ node ∈ g.nodes, ∀ id ∈ node.outputs, g.HasRow id) :
    ∃ q, (g.pass settings xs).runFrom {} = (.error (.fault f), q) := by
  obtain ⟨node, q, hnode, hto, havail, hunread⟩ := h
  have hout := hrows node (List.mem_of_getElem? hnode)
  have hyield : ∀ operands, g.yield settings.unknownConstants node operands = .error (.fault f) :=
    fun _ => (yield_eq_fault_iff hout).2 hunread
  exact ⟨q, run_pass_of_step hnode hto (run_step_of_yield havail hyield)⟩

end Graph

open ShapeFlow.Graph

/-- **A session over a graph whose ids have rows raises broken preconditions, and otherwise only the
fault of a constant that does not convert**: it raises a fault exactly when its pass gets to a
constant that is declared a whole number or a truth value and whose content has this fault when it
is converted. All other endings are answers. -/
theorem Session.escapes_iff {g : Graph} {settings : PassSettings} {xs : List Datum}
    (hg : g.Addressed) :
    (∀ r, (Session.new g xs settings).run.1 = .raised (.report r) → r.isInvariant = true) ∧
      ∀ f, (Session.new g xs settings).run.1 = .raised (.fault f) ↔
        ∃ k, g.StopsAtConstant settings xs k f := by
  refine ⟨fun r hraised => ?_, fun f => ⟨fun hraised => ?_, ?_⟩⟩
  · obtain ⟨q, hpass, hr⟩ := error_of_raised hraised
    cases raised_of_pass hpass hr with
    | operand => rfl
    | output => rfl
    | duplicate => rfl
  · rcases failure_of_raised hraised with ⟨q, hpass, -⟩ | ⟨shapes, q, f', hpass, -, hshown⟩
    · exact hg.stopsAtConstant (run_pass_eq_error hpass)
    · -- the pass gave shapes, so all that is in its store can be shown
      obtain ⟨hto, -⟩ := run_pass_eq_ok hpass
      obtain ⟨text, htext⟩ := (reached_of_passTo hto).text hg.inputs
      rw [htext] at hshown
      cases hshown
  · rintro ⟨k, hstops⟩
    obtain ⟨q, hpass⟩ := hstops.run_pass hg.results
    rw [run_new_of_error hpass]
    rfl

/-- A whole-number constant that holds a word. -/
def Graph.spelledNumber : Graph where
  values := [{ id := 0, name := "n", type := .int }]
  nodes :=
    [{ kind := "prim::Constant", outputs := [0], attributes := [("value", .text "three")] }]
  outputs := [0]

/-- The word does not convert, and its fault is raised. -/
theorem spelledNumber_escapes :
    Graph.spelledNumber.Addressed ∧
      (Session.new Graph.spelledNumber [] {}).run.1 =
        .raised (.fault (.badNumeral (Text.quoted "three"))) := by
  have hrow : Graph.spelledNumber.HasRow 0 := ⟨by decide, by decide⟩
  have haddressed : Graph.spelledNumber.Addressed := by
    constructor
    · simp [Graph.spelledNumber]
    · simpa [Graph.spelledNumber] using hrow
    · simp [Graph.spelledNumber]
    · simpa [Graph.spelledNumber] using hrow
  refine ⟨haddressed, ((Session.escapes_iff haddressed).2 _).2 ⟨0, ?_⟩⟩
  refine ⟨_, _, rfl, rfl, by simp, rfl, 0, _, .text "three", rfl, rfl, rfl, .number ?_⟩
  rfl

end ShapeFlow
