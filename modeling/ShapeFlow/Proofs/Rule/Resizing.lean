import ShapeFlow.Pass.Step
import ShapeFlow.Proofs.Failure.Results
import Mathlib.Logic.Function.Basic
import Mathlib.Tactic.SplitIfs

/-!
# Rules and a change of sizes

The rules that do not compute with sizes only compare them, with one another and with one. They
cannot tell a shape from the one that a change of sizes makes of it, provided that different sizes
stay different and one stays one (`Resizing`): what such a rule gives for changed operands is what
it gave before with its sizes changed, and where it fails it fails by the same cause about changed
sizes (`Node.tensorResults_resize`). Chunks and concatenation are left aside, since these divide and
add sizes.
-/

set_option autoImplicit false

namespace ShapeFlow

/-- A change of sizes that keeps different sizes apart and leaves one as it is. -/
structure Resizing (φ : Int → Int) : Prop where
  injective : Function.Injective φ
  one : φ 1 = 1

theorem Resizing.eq_one_iff {φ : Int → Int} (h : Resizing φ) {d : Int} : φ d = 1 ↔ d = 1 :=
  h.injective.eq_iff' h.one

/-- A shape with its sizes changed. -/
def Shape.resize (φ : Int → Int) (s : Shape) : Shape := s.map φ

/-- A record with the sizes of its shape changed. -/
def Meta.resize (φ : Int → Int) (m : Meta) : Meta := { m with shape := m.shape.resize φ }

/-- A category with the sizes changed that it is about. -/
def Category.resize (φ : Int → Int) : Category → Category
  | sizes a b => sizes (φ a) (φ b)
  | c => c

/-- A cause of failure with the sizes changed that disagree in it. -/
def Issue.resize (φ : Int → Int) : Issue → Issue
  | broadcastSizes dim a b => broadcastSizes dim (φ a) (φ b)
  | innerSizes axisA axisB a b => innerSizes axisA axisB (φ a) (φ b)
  | batchSizes a b => batchSizes (φ a) (φ b)
  | concatSize input along dim a b => concatSize input along dim (φ a) (φ b)
  | i => i

variable {φ : Int → Int}

@[simp] theorem Shape.length_resize (φ : Int → Int) (s : Shape) :
    (s.resize φ).length = s.length := List.length_map φ

@[simp] theorem Shape.resize_id (s : Shape) : s.resize id = s := List.map_id s

@[simp] theorem Category.resize_id (c : Category) : c.resize id = c := by cases c <;> rfl

@[simp] theorem Category.label_resize (φ : Int → Int) (c : Category) :
    (c.resize φ).label = c.label := by cases c <;> rfl

theorem Category.isRecoverable_resize (φ : Int → Int) (c : Category) :
    (c.resize φ).isRecoverable = c.isRecoverable := by cases c <;> rfl

theorem Issue.category_resize (φ : Int → Int) (i : Issue) :
    (i.resize φ).category = i.category.resize φ := by cases i <;> rfl

namespace Rule

variable {α β : Type}

/-- What a rule gave, changed by `change`, or the cause of its failure about changed sizes. -/
def resized (φ : Int → Int) (change : α → α) : Except Issue α → Except Issue α
  | .ok a => .ok (change a)
  | .error i => .error (i.resize φ)

theorem resized_bind {r : Except Issue α} {f f' : α → Except Issue β} {change : α → α}
    {change' : β → β} (h : ∀ a, f' (change a) = resized φ change' (f a)) :
    (resized φ change r >>= f') = resized φ change' (r >>= f) := by
  cases r with
  | ok a => exact h a
  | error i => rfl

theorem resized_map {r : Except Issue α} {f : α → β} {change : α → α} {change' : β → β}
    (h : ∀ a, f (change a) = change' (f a)) :
    (resized φ change r).map f = resized φ change' (r.map f) := by
  cases r with
  | ok a => exact congrArg Except.ok (h a)
  | error i => rfl

end Rule

/-! ## Broadcasting -/

namespace Shape

theorem meet_resize (h : Resizing φ) (dim : Nat) (a b : Int) :
    meet dim (φ a) (φ b) = Rule.resized φ φ (meet dim a b) := by
  unfold meet
  simp only [h.eq_one_iff, h.injective.eq_iff]
  split_ifs
  · rfl
  · rfl
  · rfl
  · rfl

theorem broadcastReversed_resize (h : Resizing φ) (rank : Nat) (a b : List Int) :
    broadcastReversed rank (a.map φ) (b.map φ) =
      Rule.resized φ (List.map φ) (broadcastReversed rank a b) := by
  induction a generalizing rank b with
  | nil => rfl
  | cons x xs ih =>
    cases b with
    | nil => rfl
    | cons y ys =>
      simp only [List.map_cons, broadcastReversed]
      rw [meet_resize h, ih]
      exact Rule.resized_bind fun size => Rule.resized_bind fun sizes => rfl

theorem broadcast_resize (h : Resizing φ) (a b : Shape) :
    broadcast (a.resize φ) (b.resize φ) = Rule.resized φ (resize φ) (broadcast a b) := by
  unfold broadcast
  rw [length_resize, length_resize, resize, resize, ← List.map_reverse, ← List.map_reverse,
    broadcastReversed_resize h]
  exact Rule.resized_map fun sizes => List.map_reverse.symm

end Shape

namespace Rule

theorem combine_resize (h : Resizing φ) (a b : Shape) :
    combine (a.resize φ) (b.resize φ) = resized φ (Shape.resize φ) (combine a b) := by
  unfold combine
  rw [Shape.length_resize]
  split_ifs
  · rfl
  · exact Shape.broadcast_resize h a b

theorem unary_resize (φ : Int → Int) (shapes : List Shape) :
    unary (shapes.map (Shape.resize φ)) = resized φ (Shape.resize φ) (unary shapes) := by
  cases shapes with
  | nil => rfl
  | cons a rest =>
    cases rest with
    | nil => rfl
    | cons b rest => simp [unary, resized, Issue.resize]

theorem binary_resize (h : Resizing φ) (shapes : List Shape) :
    binary (shapes.map (Shape.resize φ)) = resized φ (Shape.resize φ) (binary shapes) := by
  rcases shapes with _ | ⟨a, _ | ⟨b, _ | ⟨c, _ | ⟨d, rest⟩⟩⟩⟩
  · rfl
  · rfl
  · exact combine_resize h a b
  · exact combine_resize h a b
  · simp [binary, resized, Issue.resize]

/-! ## Products -/

/-- Operands that are not both matrices have no product. -/
theorem matrixProduct_of_ranks {a b : Shape} (h : ¬ (a.length = 2 ∧ b.length = 2)) :
    matrixProduct [a, b] = .error (.productRanks "aten::mm" 2 a.length b.length) := by
  unfold matrixProduct
  split
  · rename_i hshapes
    cases hshapes
    exact absurd ⟨rfl, rfl⟩ h
  · rename_i hshapes
    cases hshapes
    rfl
  · rename_i hne
    exact absurd rfl (hne a b)

/-- Operands that are not both batches of matrices have no product. -/
theorem batchProduct_of_ranks {a b : Shape} (h : ¬ (a.length = 3 ∧ b.length = 3)) :
    batchProduct [a, b] = .error (.productRanks "aten::bmm" 3 a.length b.length) := by
  unfold batchProduct
  split
  · rename_i hshapes
    cases hshapes
    exact absurd ⟨rfl, rfl⟩ h
  · rename_i hshapes
    cases hshapes
    rfl
  · rename_i hne
    exact absurd rfl (hne a b)

theorem matrixProduct_resize (h : Resizing φ) (shapes : List Shape) :
    matrixProduct (shapes.map (Shape.resize φ)) =
      resized φ (Shape.resize φ) (matrixProduct shapes) := by
  rcases shapes with _ | ⟨a, _ | ⟨b, _ | ⟨c, rest⟩⟩⟩
  · rfl
  · simp [matrixProduct, resized, Issue.resize]
  · by_cases hranks : a.length = 2 ∧ b.length = 2
    · obtain ⟨rows, inner, rfl⟩ := List.length_eq_two.1 hranks.1
      obtain ⟨inner', columns, rfl⟩ := List.length_eq_two.1 hranks.2
      simp only [List.map_cons, List.map_nil, Shape.resize, matrixProduct, h.injective.eq_iff]
      split_ifs
      · rfl
      · rfl
    · have hranks' : ¬ ((a.resize φ).length = 2 ∧ (b.resize φ).length = 2) := by
        simpa using hranks
      rw [matrixProduct_of_ranks hranks, List.map_cons, List.map_cons, List.map_nil,
        matrixProduct_of_ranks hranks', Shape.length_resize, Shape.length_resize]
      rfl
  · simp [matrixProduct, resized, Issue.resize]

theorem batchProduct_resize (h : Resizing φ) (shapes : List Shape) :
    batchProduct (shapes.map (Shape.resize φ)) =
      resized φ (Shape.resize φ) (batchProduct shapes) := by
  rcases shapes with _ | ⟨a, _ | ⟨b, _ | ⟨c, rest⟩⟩⟩
  · rfl
  · simp [batchProduct, resized, Issue.resize]
  · by_cases hranks : a.length = 3 ∧ b.length = 3
    · obtain ⟨batch, rows, inner, rfl⟩ := List.length_eq_three.1 hranks.1
      obtain ⟨batch', inner', columns, rfl⟩ := List.length_eq_three.1 hranks.2
      simp only [List.map_cons, List.map_nil, Shape.resize, batchProduct, ne_eq,
        h.injective.eq_iff]
      split_ifs
      · rfl
      · rfl
      · rfl
    · have hranks' : ¬ ((a.resize φ).length = 3 ∧ (b.resize φ).length = 3) := by
        simpa using hranks
      rw [batchProduct_of_ranks hranks, List.map_cons, List.map_cons, List.map_nil,
        batchProduct_of_ranks hranks', Shape.length_resize, Shape.length_resize]
      rfl
  · simp [batchProduct, resized, Issue.resize]

theorem biasedProduct_resize (h : Resizing φ) (shapes : List Shape) :
    biasedProduct (shapes.map (Shape.resize φ)) =
      resized φ (Shape.resize φ) (biasedProduct shapes) := by
  rcases shapes with _ | ⟨bias, _ | ⟨a, _ | ⟨b, rest⟩⟩⟩
  · rfl
  · rfl
  · rfl
  · simp only [List.map_cons, biasedProduct, Shape.length_resize]
    -- the first factor stands for the product if the second one is a number
    split_ifs
    · exact combine_resize h bias a
    · have hproduct := matrixProduct_resize h [a, b]
      simp only [List.map_cons, List.map_nil] at hproduct
      rw [hproduct]
      exact resized_bind fun product => combine_resize h bias product

end Rule

/-! ## Nodes -/

namespace Node

theorem resultShapes_resize (h : Resizing φ) (node : Node) (operands : List Shape)
    (hconcat : node.operator ≠ .concat) (hchunk : node.operator ≠ .chunk) :
    node.resultShapes (operands.map (Shape.resize φ)) =
      Rule.resized φ (List.map (Shape.resize φ)) (node.resultShapes operands) := by
  unfold resultShapes
  cases hop : node.operator with
  | constant => rfl
  | unary =>
    rw [Rule.unary_resize]
    exact Rule.resized_map fun shape => rfl
  | binary =>
    rw [Rule.binary_resize h]
    exact Rule.resized_map fun shape => rfl
  | matrixProduct =>
    rw [Rule.matrixProduct_resize h]
    exact Rule.resized_map fun shape => rfl
  | batchProduct =>
    rw [Rule.batchProduct_resize h]
    exact Rule.resized_map fun shape => rfl
  | biasedProduct =>
    rw [Rule.biasedProduct_resize h]
    exact Rule.resized_map fun shape => rfl
  | concat => exact absurd hop hconcat
  | chunk => exact absurd hop hchunk
  | unsupported => rfl

/-- **Operators that do not compute with sizes give changed results for changed operands.** -/
theorem tensorResults_resize (h : Resizing φ) (node : Node) (operands : List Shape)
    (hconcat : node.operator ≠ .concat) (hchunk : node.operator ≠ .chunk) :
    node.tensorResults (operands.map (Shape.resize φ)) =
      Rule.resized φ (List.map (Meta.resize φ)) (node.tensorResults operands) := by
  unfold tensorResults
  rw [node.resultShapes_resize h operands hconcat hchunk]
  refine Rule.resized_bind fun shapes => ?_
  rw [List.length_map]
  split_ifs
  · have hmetas : (shapes.map (Shape.resize φ)).map Meta.tensor =
        (shapes.map Meta.tensor).map (Meta.resize φ) := by
      rw [List.map_map, List.map_map]
      rfl
    rw [hmetas]
    rfl
  · rfl

end Node

end ShapeFlow
