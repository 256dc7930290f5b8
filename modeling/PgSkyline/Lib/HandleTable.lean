import Mathlib.Data.List.Basic

/-!
# Handle tables

Objects with an explicit life cycle: a handle is live from the call that opens
it to the call that releases it, and the handle of a released object is never
given out again.
-/

/-- The objects behind the handles `0, 1, …`; the entry of a released handle is
`none`. -/
structure HandleTable (α : Type*) where
  cells : List (Option α)

namespace HandleTable

universe u

variable {α : Type u}

/-- No object was opened yet. -/
def empty : HandleTable α :=
  ⟨[]⟩

/-- The object behind a live handle. -/
def read (table : HandleTable α) (handle : Nat) : Option α :=
  table.cells[handle]?.join

/-- Open an object behind a handle that was never used before. -/
def alloc (table : HandleTable α) (object : α) : Nat × HandleTable α :=
  (table.cells.length, ⟨table.cells ++ [some object]⟩)

/-- Replace the object behind a handle. -/
def write (table : HandleTable α) (handle : Nat) (object : α) : HandleTable α :=
  ⟨table.cells.set handle (some object)⟩

/-- Release the object behind a handle. -/
def release (table : HandleTable α) (handle : Nat) : HandleTable α :=
  ⟨table.cells.set handle none⟩

/-- A handle is live while an object stands behind it. -/
def Live (table : HandleTable α) (handle : Nat) : Prop :=
  table.read handle ≠ none

theorem live_of_read {table : HandleTable α} {handle : Nat} {object : α}
    (found : table.read handle = some object) : table.Live handle := by
  simp [Live, found]

theorem lt_length_of_live {table : HandleTable α} {handle : Nat}
    (live : table.Live handle) : handle < table.cells.length := by
  by_contra beyond
  apply live
  simp [read, List.getElem?_eq_none (Nat.le_of_not_lt beyond)]

@[simp]
theorem read_empty (handle : Nat) : (empty : HandleTable α).read handle = none := by
  simp [read, empty]

theorem ne_alloc_of_live {table : HandleTable α} {handle : Nat} (live : table.Live handle)
    (object : α) : handle ≠ (table.alloc object).1 :=
  Nat.ne_of_lt (lt_length_of_live live)

theorem read_alloc (table : HandleTable α) (object : α) (handle : Nat) :
    (table.alloc object).2.read handle =
      if handle = (table.alloc object).1 then some object else table.read handle := by
  simp only [read, alloc]
  rcases Nat.lt_trichotomy handle table.cells.length with below | same | above
  · simp [List.getElem?_append_left below, Nat.ne_of_lt below]
  · simp [same]
  · have outside : (table.cells ++ [some object]).length ≤ handle := by
      rw [List.length_append, List.length_singleton]
      exact above
    simp only [List.getElem?_eq_none outside, List.getElem?_eq_none (Nat.le_of_lt above),
      Nat.ne_of_gt above, if_false]

theorem read_write {table : HandleTable α} {handle : Nat} (live : table.Live handle)
    (object : α) (other : Nat) :
    (table.write handle object).read other =
      if other = handle then some object else table.read other := by
  simp only [read, write]
  by_cases same : other = handle
  · subst other
    simp [lt_length_of_live live]
  · simp [same, List.getElem?_set_ne (Ne.symm same)]

theorem read_release (table : HandleTable α) (handle other : Nat) :
    (table.release handle).read other =
      if other = handle then none else table.read other := by
  simp only [read, release]
  by_cases same : other = handle
  · subst other
    by_cases inside : handle < table.cells.length
    · simp [inside]
    · simp [Nat.le_of_not_lt inside]
  · simp [same, List.getElem?_set_ne (Ne.symm same)]

end HandleTable
