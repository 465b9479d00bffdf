import ShapeFlow.Proofs.Session.Twins

/-!
# Other sizes

What a pass finds out for some sizes carries over to others. If the sizes of the tensors among the
inputs and among the constants of a graph are changed, in a way that keeps different sizes apart
and leaves one as it is, then the sizes of the outputs change in the same way, and a failure stays
a failure of its class at its node (`Session.sizes_carry_over`). Chunks and concatenation are
excluded, since they compute with sizes. Tensors of other sizes may convert in another way, which is
seen only by constants that are declared whole numbers or truth values
(`Graph.KeepsConversions`).
-/

set_option autoImplicit false

namespace ShapeFlow

/-! ## Changes of sizes -/

/-- A change of the natural numbers as a change of sizes. No size is negative; where a negative
number stands for one, it stays. -/
def sizeChange (φ : ℕ → ℕ) : Int → Int
  | .ofNat n => .ofNat (φ n)
  | .negSucc n => .negSucc n

theorem resizing_sizeChange {φ : ℕ → ℕ} (hφ : Function.Injective φ) (hone : φ 1 = 1) :
    Resizing (sizeChange φ) where
  injective := by
    intro a b h
    cases a with
    | ofNat m =>
      cases b with
      | ofNat n => exact congrArg Int.ofNat (hφ (Int.ofNat.inj h))
      | negSucc n => cases h
    | negSucc m =>
      cases b with
      | ofNat n => cases h
      | negSucc n => exact h
  one := congrArg Int.ofNat hone

/-- A value with the sizes changed if it is a tensor or an array, with other conversions then. -/
def Datum.resize (φ : Int → Int) (ρ : Datum → Conversions) (x : Datum) : Datum :=
  match x with
  | tensor dims _ => tensor (dims.map φ) (ρ x)
  | parameter dims _ => parameter (dims.map φ) (ρ x)
  | array dims _ => array (dims.map φ) (ρ x)
  | _ => x

/-- A node with the sizes changed of the tensors that it has as attributes. -/
def Node.resize (φ : Int → Int) (ρ : Datum → Conversions) (node : Node) : Node :=
  { node with attributes := node.attributes.map fun entry => (entry.1, entry.2.resize φ ρ) }

/-- A graph with the sizes changed of the tensors that it holds. -/
def Graph.resize (φ : Int → Int) (ρ : Datum → Conversions) (g : Graph) : Graph :=
  { g with nodes := g.nodes.map (Node.resize φ ρ) }

/-- A session that has not run, with the sizes changed of the tensors among its inputs and in its
graph. -/
def Session.resize (φ : Int → Int) (ρ : Datum → Conversions) (s : Session) : Session :=
  new (s.graph.resize φ ρ) (s.inputs.map (Datum.resize φ ρ)) s.settings

/-- A declared type asks for the content of a constant to be converted. -/
def DeclaredType.Converts (type : DeclaredType) : Prop := type = .int ∨ type = .bool

/-- A change of sizes keeps the conversions of what a node holds if the node is a constant whose
declared type asks for them. Such a constant holds a tensor only by mistake, and without one it
keeps them in any case. -/
def Graph.KeepsConversions (g : Graph) (φ : Int → Int) (ρ : Datum → Conversions) (node : Node) :
    Prop :=
  ∀ output value x, node.outputs = [output] → g.value output = .ok value → value.type.Converts →
    node.require "value" = .ok x → (x.resize φ ρ).conversions? = x.conversions?

/-- Tensors, arrays, whole numbers and truth values. -/
inductive Datum.IsTensorOrScalar : Datum → Prop where
  | tensor (dims : List Int) (c : Conversions) : IsTensorOrScalar (.tensor dims c)
  | parameter (dims : List Int) (c : Conversions) : IsTensorOrScalar (.parameter dims c)
  | array (dims : List Int) (c : Conversions) : IsTensorOrScalar (.array dims c)
  | int (n : Int) : IsTensorOrScalar (.int n)
  | bool (b : Bool) : IsTensorOrScalar (.bool b)
  | sizedInt (width : IntWidth) (n : Int) : IsTensorOrScalar (.sizedInt width n)
  | sizedBool (b : Bool) : IsTensorOrScalar (.sizedBool b)

variable {φ : Int → Int} {ρ : Datum → Conversions}

namespace Datum

/-- A value with the same conversions is converted to the same whole number. -/
theorem toInteger_resize {x : Datum} (h : (x.resize φ ρ).conversions? = x.conversions?) :
    (x.resize φ ρ).toInteger = x.toInteger := by
  cases x with
  | tensor dims c | parameter dims c | array dims c =>
    have hsame : ρ _ = c := Option.some.inj h
    rw [resize, hsame]
    rfl
  | _ => rfl

theorem truth_resize {x : Datum} (h : (x.resize φ ρ).conversions? = x.conversions?) :
    (x.resize φ ρ).truth = x.truth := by
  cases x with
  | tensor dims c | parameter dims c | array dims c =>
    have hsame : ρ _ = c := Option.some.inj h
    rw [resize, hsame]
    rfl
  | _ => rfl

/-- Tensors and scalars are accepted, with their sizes as they are and with changed ones. -/
theorem IsTensorOrScalar.resizesTo (h : Resizing φ) {x : Datum} (hx : x.IsTensorOrScalar) :
    x.ResizesTo φ (x.resize φ ρ) := by
  have hscalar : ∀ n : Int, (Meta.scalar [n]).ResizesTo φ (.scalar [n]) := fun n =>
    congrArg (fun d => [d]) h.one.symm
  cases hx with
  | tensor dims c | parameter dims c | array dims c =>
    exact ⟨.tensor dims, .tensor (dims.map φ), rfl, rfl, rfl⟩
  | int n | sizedInt width n => exact ⟨.scalar [n], .scalar [n], rfl, rfl, hscalar n⟩
  | bool b | sizedBool b => exact ⟨.scalar [bit b], .scalar [bit b], rfl, rfl, hscalar _⟩

end Datum

/-! ## Constants -/

theorem Node.operator_resize (φ : Int → Int) (ρ : Datum → Conversions) (node : Node) :
    (node.resize φ ρ).operator = node.operator := rfl

theorem Node.require_resize (φ : Int → Int) (ρ : Datum → Conversions) (node : Node)
    (name : String) :
    (node.resize φ ρ).require name = Rule.resized φ (Datum.resize φ ρ) (node.require name) := by
  have hfound : (node.resize φ ρ).attributes.lookup name =
      (node.attributes.lookup name).map (Datum.resize φ ρ) := by
    unfold resize
    induction node.attributes with
    | nil => rfl
    | cons entry rest ih =>
      rw [List.map_cons, List.lookup_cons, List.lookup_cons]
      cases name == entry.1 with
      | true => rfl
      | false => exact ih
  unfold require
  rw [hfound]
  cases node.attributes.lookup name with
  | some value => rfl
  | none => rfl

/-- Only chunks and concatenation look at the attributes of their nodes. -/
theorem Node.tensorResults_of_resize (φ : Int → Int) (ρ : Datum → Conversions) {node : Node}
    (operands : List Shape) (hconcat : node.operator ≠ .concat) (hchunk : node.operator ≠ .chunk) :
    (node.resize φ ρ).tensorResults operands = node.tensorResults operands := by
  have hshapes : (node.resize φ ρ).resultShapes operands = node.resultShapes operands := by
    unfold resultShapes
    rw [node.operator_resize]
    cases hop : node.operator with
    | concat => exact absurd hop hconcat
    | chunk => exact absurd hop hchunk
    | constant | unary | binary | matrixProduct | batchProduct | biasedProduct | unsupported => rfl
  rw [tensorResults, tensorResults, hshapes]
  rfl

namespace Rule

theorem constantSizes_resize (φ : Int → Int) (ρ : Datum → Conversions) (node : Node) :
    constantSizes (node.resize φ ρ) = resized φ (List.map φ) (constantSizes node) := by
  unfold constantSizes
  rw [node.require_resize φ ρ]
  refine resized_bind fun value => ?_
  -- the message for a value that is no tensor names its type, which stays
  cases value <;> rfl

/-- The record of a constant that is no tensor has one size, and this is one. -/
theorem resizesTo_constantMeta (h : Resizing φ) {type : DeclaredType} (htype : type ≠ .tensor)
    (content : List Int) : (constantMeta type content).ResizesTo φ (constantMeta type content) := by
  rw [constantMeta, if_neg htype]
  exact congrArg (fun d => [d]) h.one.symm

/-- A constant keeps what it holds, with the sizes changed if it is a tensor. -/
theorem alike_constant_resize (h : Resizing φ) (policy : ConstantPolicy) (node : Node)
    {type : DeclaredType} (hkeeps : type.Converts → ∀ x, node.require "value" = .ok x →
      (x.resize φ ρ).conversions? = x.conversions?) :
    Alike (Failure.ResizesTo φ)
      (fun content content' =>
        (constantMeta type content).ResizesTo φ (constantMeta type content'))
      (constant policy node type) (constant policy (node.resize φ ρ) type) := by
  have hrequire : Alike (Failure.ResizesTo φ)
      (fun x y => x.resize φ ρ = y ∧ node.require "value" = .ok x)
      (reported (node.require "value")) (reported ((node.resize φ ρ).require "value")) := by
    rw [node.require_resize φ ρ]
    cases node.require "value" with
    | ok x => exact .ok ⟨rfl, rfl⟩
    | error i => exact .error (i.resizesTo φ)
  -- only the declared type says which of the two kinds of records there is
  cases type with
  | float | none => exact .ok (resizesTo_constantMeta h (by decide) _)
  | int =>
    refine hrequire.bind fun x y hxy => ?_
    rw [← hxy.1, Datum.toInteger_resize (hkeeps (.inl rfl) x hxy.2)]
    cases x.toInteger with
    | ok n => exact .ok (resizesTo_constantMeta h (by decide) _)
    | error f => exact .error (.fault f)
  | bool =>
    refine hrequire.bind fun x y hxy => ?_
    rw [← hxy.1, Datum.truth_resize (hkeeps (.inr rfl) x hxy.2)]
    cases x.truth with
    | ok b => exact .ok (resizesTo_constantMeta h (by decide) _)
    | error f => exact .error (.fault f)
  | tensor =>
    change Alike _ _ (reported (constantSizes node)) (reported (constantSizes (node.resize φ ρ)))
    rw [constantSizes_resize]
    refine alike_resized ?_ _
    exact fun dims => rfl
  | intList | other =>
    cases policy with
    | empty => exact .ok (resizesTo_constantMeta h (by decide) _)
    | refuse => exact .error (Issue.resizesTo φ _)

end Rule

namespace Graph

variable {g : Graph} {policy : ConstantPolicy} {node : Node}

theorem value_resize (φ : Int → Int) (ρ : Datum → Conversions) (g : Graph) (id : ValueId) :
    (g.resize φ ρ).value id = g.value id := rfl

theorem alike_constantYield_resize (h : Resizing φ) (hkeeps : g.KeepsConversions φ ρ node) :
    Alike (Failure.ResizesTo φ) (fun y y' => List.Forall₂ (Meta.ResizesTo φ) y.metas y'.metas)
      (g.constantYield policy node) ((g.resize φ ρ).constantYield policy (node.resize φ ρ)) := by
  unfold constantYield
  have houtputs : (node.resize φ ρ).outputs = node.outputs := rfl
  rw [houtputs]
  split
  · rename_i output hout
    rw [value_resize]
    cases hvalue : g.value output with
    | error f => exact .error (.fault f)
    | ok value =>
      have hcontent := Rule.alike_constant_resize h policy node fun htype x hx =>
        hkeeps output value x hout hvalue htype hx
      exact hcontent.bind fun content content' hm => .ok (.cons hm .nil)
  · exact .error (Issue.resizesTo φ _)

/-- A node that does not compute with sizes and the same node with its sizes changed are twins. -/
theorem nodeTwins_resize (h : Resizing φ) (hconcat : node.operator ≠ .concat)
    (hchunk : node.operator ≠ .chunk) (hkeeps : g.KeepsConversions φ ρ node) :
    NodeTwins φ policy g (g.resize φ ρ) node (node.resize φ ρ) where
  kind := rfl
  inputs := rfl
  outputs := rfl
  yields := by
    intro operands operands' hoperands
    unfold yield
    rw [node.operator_resize]
    split_ifs
    · exact alike_constantYield_resize h hkeeps
    · -- the attributes have no part in it, and the operands are changed already
      rw [Node.tensorResults_of_resize φ ρ _ hconcat hchunk, map_shape_of_resizesTo hoperands,
        node.tensorResults_resize h _ hconcat hchunk]
      have hresults : ∀ metas : List Meta,
          List.Forall₂ (Meta.ResizesTo φ) metas (metas.map (Meta.resize φ)) := fun metas =>
        List.forall₂_map_right_iff.2 (List.forall₂_same.2 fun m _ => rfl)
      exact (alike_resized hresults _).map fun _ _ hmetas => hmetas

theorem twins_resize (h : Resizing φ)
    (hg : ∀ node ∈ g.nodes, node.operator ≠ .concat ∧ node.operator ≠ .chunk)
    (hkeeps : ∀ node ∈ g.nodes, g.KeepsConversions φ ρ node) :
    Twins φ policy g (g.resize φ ρ) where
  count := rfl
  inputs := rfl
  outputs := rfl
  nodes := List.forall₂_map_right_iff.2 <| List.forall₂_same.2 fun node hnode =>
    nodeTwins_resize h (hg node hnode).1 (hg node hnode).2 (hkeeps node hnode)

end Graph

/-- **Results carry over to other sizes.** Let the sizes of all tensors among the inputs and in the
graph be changed, so that different sizes stay different and one stays one; their conversions may
change as well, unless a constant asks for them. Then a session over a graph without chunks and
concatenation answers the changed shapes of the outputs, or it fails by a failure of the same class
at the same node. In each case its store holds the changed shapes of the same ids. -/
theorem Session.sizes_carry_over {φ : ℕ → ℕ} (hφ : Function.Injective φ) (hone : φ 1 = 1)
    {ρ : Datum → Conversions} {g : Graph}
    (hg : ∀ node ∈ g.nodes, node.operator ≠ .concat ∧ node.operator ≠ .chunk)
    (hkeeps : ∀ node ∈ g.nodes, g.KeepsConversions (sizeChange φ) ρ node)
    {xs : List Datum} (hxs : ∀ x ∈ xs, x.IsTensorOrScalar) (settings : PassSettings) :
    (∀ shapes, (new g xs settings).run.1 = .answered (.ok shapes) →
        ((new g xs settings).resize (sizeChange φ) ρ).run.1 =
          .answered (.ok (shapes.map (Shape.resize (sizeChange φ))))) ∧
      (∀ e, (new g xs settings).run.1 = .answered (.err e) →
        ∃ d, ((new g xs settings).resize (sizeChange φ) ρ).run.1 = .answered (.err d) ∧
          e.SameClass d ∧ d.nodeIndex? = e.nodeIndex?) ∧
      (∀ e, (new g xs settings).run.1 = .raised e →
        ∃ d, ((new g xs settings).resize (sizeChange φ) ρ).run.1 = .raised d ∧
          e.SameClass d ∧ d.nodeIndex? = e.nodeIndex?) ∧
      ((new g xs settings).resize (sizeChange φ) ρ).storeAfter.shapes =
        (new g xs settings).storeAfter.shapes.map fun entry =>
          (entry.1, entry.2.resize (sizeChange φ)) := by
  have hresizing := resizing_sizeChange hφ hone
  have hinputs : List.Forall₂ (Datum.ResizesTo (sizeChange φ)) xs
      (xs.map (Datum.resize (sizeChange φ) ρ)) :=
    List.forall₂_map_right_iff.2 (List.forall₂_same.2 fun x hx => (hxs x hx).resizesTo hresizing)
  obtain ⟨hends, hstore⟩ :
      (new g xs settings).run.1.ResizesTo (sizeChange φ)
          ((new g xs settings).resize (sizeChange φ) ρ).run.1 ∧
        (new g xs settings).storeAfter.ResizesTo (sizeChange φ)
          ((new g xs settings).resize (sizeChange φ) ρ).storeAfter :=
    ends_alike (Graph.twins_resize hresizing hg hkeeps) hinputs
  refine ⟨fun shapes h => hends.answers_shapes h, fun e h => ?_, fun e h => ?_, hstore.shapes⟩
  · obtain ⟨d, hd, he⟩ := hends.answers_failure h
    exact ⟨d, hd, he.sameClass, he.nodeIndex?_eq⟩
  · obtain ⟨d, hd, he⟩ := hends.raises_failure h
    exact ⟨d, hd, he.sameClass, he.nodeIndex?_eq⟩

/-- A matrix is multiplied by the weights of a layer, with a bias for each column. -/
def Graph.layer : Graph where
  values :=
    [{ id := 0, name := "x" }, { id := 1, name := "bias" }, { id := 2, name := "factor" },
     { id := 3, name := "weights" }, { id := 4, name := "y" }, { id := 5, name := "scaled" }]
  nodes :=
    [{ kind := "prim::Constant", outputs := [3], attributes := [("value", .array [3, 4])] },
     { kind := "aten::addmm", inputs := [1, 0, 3], outputs := [4] },
     { kind := "aten::mul", inputs := [4, 2], outputs := [5] }]
  inputs := [0, 1, 2]
  outputs := [5]

/-- All sizes but one are made larger by ten. -/
def enlarged (n : ℕ) : ℕ := if n = 1 then 1 else n + 10

/-- A layer from three columns to four becomes one from thirteen to fourteen, whose tensors count as
false. -/
theorem scaledLayer_of_enlarged :
    Function.Injective enlarged ∧
      (Session.resize (sizeChange enlarged) (fun _ => { truth := .ok false })
        (.new .layer [.tensor [2, 3], .parameter [1, 4], .int 5] {})).run.1 =
          .answered (.ok [[12, 14]]) := by
  have hinjective : Function.Injective enlarged := by
    intro m n h
    unfold enlarged at h
    split_ifs at h
    · omega
    · omega
    · omega
    · omega
  have hlayer : ∀ node ∈ Graph.layer.nodes, node.operator ≠ .concat ∧ node.operator ≠ .chunk := by
    decide
  have hinputs : ∀ x ∈ [Datum.tensor [2, 3], .parameter [1, 4], .int 5], x.IsTensorOrScalar := by
    intro x hx
    simp only [List.mem_cons, List.not_mem_nil, or_false] at hx
    rcases hx with rfl | rfl | rfl
    · exact .tensor _ _
    · exact .parameter _ _
    · exact .int _
  have hkeeps : ∀ node ∈ Graph.layer.nodes, Graph.layer.KeepsConversions (sizeChange enlarged)
      (fun _ => { truth := .ok false }) node := by
    -- the one constant is a tensor
    intro node hnode output value x hout hvalue htype hx
    simp only [Graph.layer, List.mem_cons, List.not_mem_nil, or_false] at hnode
    rcases hnode with rfl | rfl | rfl
    · cases hout
      cases hvalue
      exact absurd htype (by simp [DeclaredType.Converts])
    · cases hx
    · cases hx
  have hrun : (Session.new .layer [.tensor [2, 3], .parameter [1, 4], .int 5] {}).run.1 =
      .answered (.ok [[2, 4]]) := by
    decide +kernel
  exact ⟨hinjective, (Session.sizes_carry_over hinjective rfl hlayer hkeeps hinputs {}).1 _ hrun⟩

end ShapeFlow
