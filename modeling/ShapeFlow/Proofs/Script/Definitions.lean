import ShapeFlow.Script.Graph
import ShapeFlow.Proofs.Graph.Additions
import Mathlib.Data.List.Induction

/-!
# Definitions of a scripted graph

A scripted graph defines its numbers one after another: by the inputs that are kept, and then by the
results of its nodes (`ScriptGraph.definedBefore`, `ScriptGraph.definitions`). A number may be
defined again, and a use means the latest definition before it (`Latest`).

The handles behind a list of definitions give each of them its place as its id (`Handles.upTo`). So
a number is found with the place of its latest definition (`Handles.find_upTo_eq_ok_iff`), and it is
not found if it has none (`Handles.find_upTo_eq_error_iff`).
-/

set_option autoImplicit false

namespace ShapeFlow

namespace ScriptGraph

/-- The inputs that are kept: all but those for the module itself. -/
def kept (s : ScriptGraph) : List ScriptValue := s.inputs.filter fun v => v.type ≠ .module

/-- The definitions before node number `k`, in order. -/
def definedBefore (s : ScriptGraph) (k : Nat) : List ScriptValue :=
  s.kept ++ (s.nodes.take k).flatMap ScriptNode.outputs

/-- All definitions, in order. -/
def definitions (s : ScriptGraph) : List ScriptValue :=
  s.kept ++ s.nodes.flatMap ScriptNode.outputs

end ScriptGraph

/-- The latest definition of a number stands at a place among definitions. -/
structure Latest (definitions : List ScriptValue) (unique : Int) (i : Nat) : Prop where
  here : ∃ value, definitions[i]? = some value ∧ value.unique = unique
  last : ∀ j value, i < j → definitions[j]? = some value → value.unique ≠ unique

variable {definitions : List ScriptValue} {value : ScriptValue} {unique : Int} {i : Nat}
  {id : ValueId} {f : Fault}

theorem Latest.lt (h : Latest definitions unique i) : i < definitions.length := by
  obtain ⟨value, hvalue, -⟩ := h.here
  exact (List.getElem?_eq_some_iff.1 hvalue).1

/-- What stands at a place when one more definition is added. -/
theorem getElem?_concat_iff {found : ScriptValue} :
    (definitions ++ [value])[i]? = some found ↔
      definitions[i]? = some found ∨ (i = definitions.length ∧ value = found) := by
  rcases Nat.lt_trichotomy i definitions.length with hlt | rfl | hgt
  · rw [List.getElem?_append_left hlt]
    constructor
    · exact Or.inl
    · rintro (h | ⟨heq, -⟩)
      · exact h
      · omega
  · simp
  · have hnone : definitions[i]? = none := List.getElem?_eq_none (Nat.le_of_lt hgt)
    have hbeyond : (definitions ++ [value])[i]? = none := by
      apply List.getElem?_eq_none
      rw [List.length_append, List.length_singleton]
      omega
    rw [hnone, hbeyond]
    constructor
    · intro h
      cases h
    · rintro (h | ⟨heq, -⟩)
      · cases h
      · omega

/-- One more definition is the latest one of its number, and it stands behind all of the others. -/
theorem latest_concat_iff : Latest (definitions ++ [value]) unique i ↔
    (value.unique = unique ∧ i = definitions.length) ∨
      (value.unique ≠ unique ∧ Latest definitions unique i) := by
  constructor
  · rintro ⟨⟨found, hfound, hunique⟩, hlast⟩
    rcases getElem?_concat_iff.1 hfound with hold | ⟨rfl, rfl⟩
    · -- the new definition stands behind the latest one, so it is of another number
      have hlt := (List.getElem?_eq_some_iff.1 hold).1
      refine Or.inr ⟨hlast _ value hlt (getElem?_concat_iff.2 (Or.inr ⟨rfl, rfl⟩)), ?_⟩
      refine ⟨⟨found, hold, hunique⟩, ?_⟩
      intro j other hij hother
      exact hlast j other hij (getElem?_concat_iff.2 (Or.inl hother))
    · exact Or.inl ⟨hunique, rfl⟩
  · rintro (⟨hunique, rfl⟩ | ⟨hunique, h⟩)
    · refine ⟨⟨value, getElem?_concat_iff.2 (Or.inr ⟨rfl, rfl⟩), hunique⟩, ?_⟩
      intro j other hj hother
      rcases getElem?_concat_iff.1 hother with hold | ⟨rfl, -⟩
      · exact absurd (List.getElem?_eq_some_iff.1 hold).1 (Nat.lt_asymm hj)
      · exact absurd hj (Nat.lt_irrefl _)
    · obtain ⟨found, hfound, hfoundUnique⟩ := h.here
      refine ⟨⟨found, getElem?_concat_iff.2 (Or.inl hfound), hfoundUnique⟩, ?_⟩
      intro j other hij hother
      rcases getElem?_concat_iff.1 hother with hold | ⟨-, rfl⟩
      · exact h.last j other hij hold
      · exact hunique

theorem not_latest_nil : ¬ Latest [] unique i := by
  intro h
  exact absurd h.lt (Nat.not_lt_zero i)

namespace Handles

/-- The handles behind definitions: each definition has its place as its id. -/
def upTo (definitions : List ScriptValue) : Handles :=
  (definitions.zipIdx.map fun d => (d.1.unique, (d.2 : ValueId))).reverse

theorem upTo_concat (definitions : List ScriptValue) (value : ScriptValue) :
    upTo (definitions ++ [value]) =
      (value.unique, (definitions.length : ValueId)) :: upTo definitions := by
  simp [upTo, List.zipIdx_append]

/-- Values that are defined with the next ids are the next definitions. -/
theorem define_upTo (definitions values : List ScriptValue) :
    (upTo definitions).define values (Graph.freshIds definitions.length values.length) =
      upTo (definitions ++ values) := by
  induction values generalizing definitions with
  | nil => simp [define]
  | cons value rest ih =>
    have hrest := ih (definitions ++ [value])
    rw [List.length_append, List.length_singleton, List.append_assoc] at hrest
    rw [List.length_cons, Graph.freshIds_succ, define, ← upTo_concat, hrest]
    rfl

theorem find_cons (value : ScriptValue) (handles : Handles) :
    find ((value.unique, id) :: handles) unique =
      if value.unique = unique then .ok id else handles.find unique := by
  unfold find
  rw [List.lookup_cons]
  by_cases h : value.unique = unique
  · simp [h]
  · have hne : (unique == value.unique) = false := by simpa using Ne.symm h
    simp [h, hne]

/-- **A number is found with the place of its latest definition.** -/
theorem find_upTo_eq_ok_iff :
    (upTo definitions).find unique = .ok id ↔ ∃ i : Nat, Latest definitions unique i ∧ id = i := by
  induction definitions using List.reverseRecOn with
  | nil =>
    constructor
    · intro h
      cases h
    · rintro ⟨i, h, -⟩
      exact absurd h not_latest_nil
  | append_singleton definitions value ih =>
    rw [upTo_concat, find_cons]
    simp only [latest_concat_iff]
    by_cases h : value.unique = unique
    · simp [h, eq_comm]
    · simp only [h, if_false, ih, false_and, false_or, ne_eq, not_false_eq_true, true_and]

/-- A number is not found exactly if nothing defines it. -/
theorem find_upTo_eq_error_iff : (upTo definitions).find unique = .error f ↔
    unique ∉ definitions.map ScriptValue.unique ∧ f = .undefinedUnique unique := by
  induction definitions using List.reverseRecOn with
  | nil =>
    constructor
    · intro h
      cases h
      simp
    · rintro ⟨-, rfl⟩
      rfl
  | append_singleton definitions value ih =>
    rw [upTo_concat, find_cons]
    by_cases h : value.unique = unique
    · simp [h]
    · simp [h, ih, Ne.symm h]

end Handles

theorem Latest.mem (h : Latest definitions unique i) :
    unique ∈ definitions.map ScriptValue.unique := by
  obtain ⟨value, hvalue, rfl⟩ := h.here
  exact List.mem_map_of_mem (List.mem_of_getElem? hvalue)

end ShapeFlow
