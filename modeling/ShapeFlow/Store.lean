import ShapeFlow.Meta
import ShapeFlow.Issue

/-!
# The store of a pass

The store holds one record per value, in the order in which they were written (`Store`). A value is
written at most once: the type keeps the ids free of repetition, and writing a second time or
reading what was never written fails (`Store.write`, `Store.read`). Failures name the value, so both
take a `Naming`, which may itself fail for an id outside of the value table.
-/

set_option autoImplicit false

namespace ShapeFlow

/-- The id of a value: its index in the value table. -/
abbrev ValueId := Int

/-- The names of values in messages. -/
abbrev Naming := ValueId → Except Fault String

/-- Every id named by its number. -/
def Naming.numbers : Naming := fun id => .ok (toString id)

/-- Records by id, in the order of writing, one for each id. -/
structure Store where
  entries : List (ValueId × Meta) := []
  nodup : (entries.map Prod.fst).Nodup := by simp

namespace Store

/-- The store without a record. -/
def empty : Store := {}

instance : Inhabited Store := ⟨empty⟩

/-- The ids with a record, in the order of writing. -/
def ids (s : Store) : List ValueId := s.entries.map Prod.fst

/-- The record of an id. -/
def find? (s : Store) (id : ValueId) : Option Meta := s.entries.lookup id

/-- The count of records. -/
def size (s : Store) : Nat := s.entries.length

/-- Every id with its shape. -/
def shapes (s : Store) : List (ValueId × Shape) := s.entries.map fun e => (e.1, e.2.shape)

/-- Adds the record of an id that has none. -/
def insert (s : Store) (id : ValueId) (m : Meta) (h : id ∉ s.ids) : Store where
  entries := s.entries ++ [(id, m)]
  nodup := by
    rw [List.map_append, List.map_singleton, List.nodup_append]
    refine ⟨s.nodup, by simp, ?_⟩
    intro a ha b hb hab
    rw [List.mem_singleton] at hb
    subst hb hab
    exact h ha

/-- Writes the record of an id, which must not have one. -/
def write (s : Store) (names : Naming) (id : ValueId) (m : Meta) : Except Failure Store :=
  if h : id ∈ s.ids then do
    let name ← faulted (names id)
    .error (Issue.duplicateValue name).failure
  else .ok (s.insert id m h)

/-- Reads the record of an id, which must have one. -/
def read (s : Store) (names : Naming) (id : ValueId) : Except Failure Meta :=
  match s.find? id with
  | some m => .ok m
  | none => do
    let name ← faulted (names id)
    .error (Issue.missingValue name).failure

/-- The line that shows a record. -/
def line (name : String) (m : Meta) : String :=
  let sizes := " ".intercalate (m.shape.map toString)
  let base := name ++ ":[ " ++ sizes ++ " ]"
  match m.payload with
  | some ns => base ++ " values=" ++ intList ns
  | none => base

/-- The lines that show records. -/
def lines (names : Naming) : List (ValueId × Meta) → Except Fault (List String)
  | [] => .ok []
  | (id, m) :: rest => do
    let name ← names id
    let more ← lines names rest
    return line name m :: more

/-- The whole store as text, one line for each record. -/
def text (s : Store) (names : Naming) : Except Fault String :=
  (lines names s.entries).map ("\n".intercalate ·)

@[ext] theorem ext {s t : Store} (h : s.entries = t.entries) : s = t := by
  cases s
  cases t
  cases h
  rfl

@[simp] theorem entries_empty : empty.entries = [] := rfl

@[simp] theorem entries_insert (s : Store) (id : ValueId) (m : Meta) (h : id ∉ s.ids) :
    (s.insert id m h).entries = s.entries ++ [(id, m)] := rfl

@[simp] theorem ids_insert (s : Store) (id : ValueId) (m : Meta) (h : id ∉ s.ids) :
    (s.insert id m h).ids = s.ids ++ [id] := by
  simp [ids]

theorem find?_isSome_iff (s : Store) (id : ValueId) : (s.find? id).isSome ↔ id ∈ s.ids := by
  unfold find? ids
  induction s.entries with
  | nil => simp
  | cons e rest ih =>
    obtain ⟨k, m⟩ := e
    by_cases hk : id = k
    · simp [hk]
    · have hb : (id == k) = false := by simpa using hk
      simp [List.lookup_cons, hb, hk, ih]

/-- A new record is found under its id, and the others stay as they were. -/
theorem find?_insert (s : Store) (id k : ValueId) (m : Meta) (h : id ∉ s.ids) :
    (s.insert id m h).find? k = if k = id then some m else s.find? k := by
  have hs : s.entries.lookup id = none := by
    rw [← Option.not_isSome_iff_eq_none]
    exact fun hf => h ((find?_isSome_iff s id).1 hf)
  unfold find?
  rw [entries_insert]
  by_cases hk : k = id
  · rw [hk, List.lookup_append, hs]
    simp
  · have hb : (k == id) = false := by simpa using hk
    simp [List.lookup_append, List.lookup_cons, hb, hk]

end Store

end ShapeFlow
