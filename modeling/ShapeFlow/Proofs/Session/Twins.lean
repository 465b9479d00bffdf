import ShapeFlow.Proofs.Session.Ending
import ShapeFlow.Proofs.Pass.Twins

/-!
# Sessions over twin graphs

Sessions over twin graphs, with inputs that are twins as well, end alike: both answer shapes, both
answer a failure, or both raise one, and in each case their stores hold the same ids
(`Session.ends_alike`). What is said of the failures is that they have one class
(`Failure.SameClass`) and name one node.
-/

set_option autoImplicit false

namespace ShapeFlow

/-- Two failures of one class: reports under one heading, or the same fault. -/
def Failure.SameClass : Failure → Failure → Prop
  | report r, report r' => r'.category.label = r.category.label
  | fault f, fault f' => f' = f
  | _, _ => False

/-- The number of the node that a failure names. -/
def Failure.nodeIndex? : Failure → Option Datum
  | report r => r.context.lookup "node_index"
  | fault _ => none

/-- Two runs end alike, with changed sizes in the second. -/
inductive Ending.ResizesTo (φ : Int → Int) : Ending → Ending → Prop where
  | shapes (shapes : List Shape) : ResizesTo φ (.answered (.ok shapes))
      (.answered (.ok (shapes.map (Shape.resize φ))))
  | refused {e d : Failure} : e.ResizesTo φ d →
      ResizesTo φ (.answered (.err e)) (.answered (.err d))
  | raised {e d : Failure} : e.ResizesTo φ d → ResizesTo φ (.raised e) (.raised d)

variable {φ : Int → Int} {e d : Failure} {names twin : Naming}

theorem Failure.ResizesTo.sameClass (h : e.ResizesTo φ d) : e.SameClass d := by
  cases h with
  | report hcategory _ =>
    rw [SameClass, hcategory]
    exact Category.label_resize φ _
  | fault f => exact rfl

theorem Failure.ResizesTo.nodeIndex?_eq (h : e.ResizesTo φ d) : d.nodeIndex? = e.nodeIndex? := by
  cases h with
  | report _ hindex => exact hindex
  | fault f => rfl

namespace Ending.ResizesTo

variable {a b : Ending}

theorem answers_shapes (h : a.ResizesTo φ b) {shapes : List Shape}
    (ha : a = .answered (.ok shapes)) : b = .answered (.ok (shapes.map (Shape.resize φ))) := by
  subst ha
  cases h with
  | shapes => rfl

theorem answers_failure (h : a.ResizesTo φ b) (ha : a = .answered (.err e)) :
    ∃ d, b = .answered (.err d) ∧ e.ResizesTo φ d := by
  subst ha
  cases h with
  | refused he => exact ⟨_, rfl, he⟩

theorem raises_failure (h : a.ResizesTo φ b) (ha : a = .raised e) :
    ∃ d, b = .raised d ∧ e.ResizesTo φ d := by
  subst ha
  cases h with
  | raised he => exact ⟨_, rfl, he⟩

end Ending.ResizesTo

/-! ## Ends of a pass -/

/-- Two stores are both shown, or neither is, for the same fault. -/
theorem Store.ResizesTo.text {s t : Store} (h : s.ResizesTo φ t) (hnames : names.Covers twin) :
    Alike (fun f f' => f' = f) (fun _ _ => True) (s.text names) (t.text twin) := by
  have hlines : Alike (fun f f' => f' = f) (fun _ _ => True) (lines names s.entries)
      (lines twin t.entries) := by
    unfold Store.ResizesTo at h
    generalize s.entries = old, t.entries = new at h ⊢
    induction h with
    | nil => exact .ok trivial
    | @cons a b _ _ hab _ ih =>
      obtain ⟨id, m⟩ := a
      obtain ⟨id', n⟩ := b
      obtain ⟨rfl, -⟩ := hab
      rw [lines, lines]
      exact (hnames _).bind fun _ _ _ => ih.bind fun _ _ _ => .ok trivial
  exact hlines.map fun _ _ _ => trivial

namespace Session

/-- Where the store is to be logged and cannot be shown, the fault is raised. -/
theorem finish_of_unshown (s : Session) (shapes : List Shape) {f : Fault}
    (hlog : s.settings.logShapeMap = true) (h : s.storeText = .error f) :
    (s.finish shapes).1 = .raised (.fault f) := by
  rcases s.finish_cases shapes with ⟨-, hshown⟩ | ⟨f', hraised, hshown⟩
  · obtain ⟨text, htext⟩ := hshown hlog
    rw [h] at htext
    cases htext
  · rw [h] at hshown
    cases hshown
    exact hraised

theorem finish_alike {s t : Session} (shapes : List Shape) (hsettings : t.settings = s.settings)
    (hstore : s.store.ResizesTo φ t.store) (hnames : s.graph.nameOf.Covers t.graph.nameOf) :
    (s.finish shapes).1.ResizesTo φ (t.finish (shapes.map (Shape.resize φ))).1 := by
  have htext : Alike (fun f f' => f' = f) (fun _ _ => True) s.storeText t.storeText :=
    hstore.text hnames
  cases hlog : s.settings.logShapeMap with
  | false =>
    rw [s.finish_of_storeText shapes (by simp [hlog]),
      t.finish_of_storeText _ (by simp [hsettings, hlog])]
    exact .shapes shapes
  | true =>
    generalize hs : s.storeText = shown, ht : t.storeText = shown' at htext
    cases htext with
    | ok _ =>
      rw [s.finish_of_storeText shapes fun _ => ⟨_, hs⟩, t.finish_of_storeText _ fun _ => ⟨_, ht⟩]
      exact .shapes shapes
    | @error f _ hf =>
      subst hf
      rw [s.finish_of_unshown shapes hlog hs, t.finish_of_unshown _ (hsettings ▸ hlog) ht]
      exact .raised (.fault _)

theorem abort_leaves (s : Session) (e : Failure) : (s.abort e).2.store = s.store := by
  unfold abort
  cases e.recoverable? with
  | some r => rfl
  | none => rfl

theorem abort_alike (s t : Session) (h : e.ResizesTo φ d) :
    (s.abort e).1.ResizesTo φ (t.abort d).1 := by
  have hd := h
  cases h with
  | fault f => exact .raised hd
  | @report r r' hcategory _ =>
    have hrec : r'.isRecoverable = r.isRecoverable := by
      rw [Report.isRecoverable, hcategory, Category.isRecoverable_resize]
      rfl
    unfold abort
    rw [Failure.recoverable?, Failure.recoverable?, hrec]
    cases r.isRecoverable with
    | true => exact .refused hd
    | false => exact .raised hd

/-! ## Runs -/

open ShapeFlow.Graph

/-- **Sessions over twin graphs end alike and leave the same shapes behind, up to the change of
sizes.** -/
theorem ends_alike {g h : Graph} {settings : PassSettings} {xs ys : List Datum}
    (ht : Twins φ settings.unknownConstants g h) (hxs : List.Forall₂ (Datum.ResizesTo φ) xs ys) :
    (new g xs settings).run.1.ResizesTo φ (new h ys settings).run.1 ∧
      (new g xs settings).storeAfter.ResizesTo φ (new h ys settings).storeAfter := by
  have hpasses := ht.parallel_pass hxs {} {} (Store.resizesTo_empty φ)
  rcases hg : (g.pass settings xs).runFrom {} with ⟨result, q⟩
  rcases hh : (h.pass settings ys).runFrom {} with ⟨result', q'⟩
  rw [hg, hh] at hpasses
  obtain ⟨hends, hstore⟩ := hpasses
  cases hends with
  | ok hshapes =>
    subst hshapes
    -- showing the store may still fail, and does so for both
    rw [storeAfter, storeAfter, run_new_of_ok hg, run_new_of_ok hh, (finish_leaves _ _).1,
      (finish_leaves _ _).1]
    exact ⟨finish_alike _ rfl hstore ht.covers, hstore⟩
  | error he =>
    rw [storeAfter, storeAfter, run_new_of_error hg, run_new_of_error hh, abort_leaves,
      abort_leaves]
    exact ⟨abort_alike _ _ he, hstore⟩

end Session

end ShapeFlow
