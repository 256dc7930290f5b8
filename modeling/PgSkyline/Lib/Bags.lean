import Mathlib.Data.Multiset.Basic
import Mathlib.Data.Multiset.Dedup
import Mathlib.Data.Multiset.Filter
import Mathlib.Data.Multiset.UnionInter

/-!
# Bags of rows

A condition on the members of a bag may be applied before or after the operations of
this module: the union, intersection and difference of two bags, with or without
duplicates, and the choice of one member of every group.
-/

namespace Bags

universe u

variable {α : Type u}

/-! ## Set operations -/

/-- An operation on two bags. -/
inductive Operation where
  | union
  | intersection
  | difference
  deriving DecidableEq, Repr

section Operations

variable [DecidableEq α]

/-- The operation on bags, which keeps duplicates. -/
def Operation.all : Operation → Multiset α → Multiset α → Multiset α
  | .union, left, right => left + right
  | .intersection, left, right => left ∩ right
  | .difference, left, right => left - right

/-- The operation on sets, which returns no member twice. -/
def Operation.distinct (operation : Operation) (left right : Multiset α) : Multiset α :=
  (operation.all left.dedup right.dedup).dedup

variable (p : α → Prop) [DecidablePred p]

theorem filter_dedup (rows : Multiset α) : (rows.filter p).dedup = rows.dedup.filter p := by
  ext row
  simp only [Multiset.count_dedup, Multiset.count_filter, Multiset.mem_filter]
  by_cases kept : p row <;> simp [kept]

theorem filter_all (operation : Operation) (left right : Multiset α) :
    operation.all (left.filter p) (right.filter p) = (operation.all left right).filter p := by
  cases operation with
  | union => exact (Multiset.filter_add p left right).symm
  | intersection =>
      ext row
      simp only [Operation.all, Multiset.count_inter, Multiset.count_filter]
      by_cases kept : p row <;> simp [kept]
  | difference =>
      ext row
      simp only [Operation.all, Multiset.count_sub, Multiset.count_filter]
      by_cases kept : p row <;> simp [kept]

theorem filter_distinct (operation : Operation) (left right : Multiset α) :
    operation.distinct (left.filter p) (right.filter p) =
      (operation.distinct left right).filter p := by
  rw [Operation.distinct, Operation.distinct, filter_dedup, filter_dedup, filter_all, filter_dedup]

end Operations

/-! ## Representatives -/

section Representatives

variable {same before : α → α → Prop} [DecidableRel same]

/-- `out` has one of the rows of every group of `same` rows, and none that comes after
another row of its group. -/
structure Representatives (same before : α → α → Prop) [DecidableRel same]
    (rows out : Multiset α) : Prop where
  mem : ∀ x ∈ out, x ∈ rows
  first : ∀ x ∈ out, ∀ y ∈ rows, same x y → ¬ before y x
  one : ∀ x ∈ rows, out.countP (same x) = 1

variable {rows kept dropped out : Multiset α} {p : α → Prop} [DecidablePred p]

/-- A condition on groups keeps the representatives of the groups it keeps. -/
theorem Representatives.filter (respects : ∀ x y, same x y → (p x ↔ p y))
    (reps : Representatives same before rows out) :
    Representatives same before (rows.filter p) (out.filter p) := by
  constructor
  · intro x mem
    rcases Multiset.mem_filter.mp mem with ⟨outMem, holds⟩
    exact Multiset.mem_filter.mpr ⟨reps.mem x outMem, holds⟩
  · intro x mem y rowMem
    exact reps.first x (Multiset.mem_filter.mp mem).1 y (Multiset.mem_filter.mp rowMem).1
  · intro x mem
    rcases Multiset.mem_filter.mp mem with ⟨rowMem, holds⟩
    rw [Multiset.countP_filter, ← reps.one x rowMem]
    refine Multiset.countP_congr rfl fun y _ => propext ?_
    exact and_iff_left_of_imp fun sameRow => (respects x y sameRow).mp holds

/-- Representatives of the groups with the condition and of those without it. -/
theorem Representatives.add (respects : ∀ x y, same x y → (p x ↔ p y))
    (keptReps : Representatives same before (rows.filter p) kept)
    (droppedReps : Representatives same before (rows.filter fun x => ¬ p x) dropped) :
    Representatives same before rows (kept + dropped) := by
  have keptHold : ∀ x ∈ kept, p x := fun x mem => (Multiset.mem_filter.mp (keptReps.mem x mem)).2
  have droppedFail : ∀ x ∈ dropped, ¬ p x :=
    fun x mem => (Multiset.mem_filter.mp (droppedReps.mem x mem)).2
  constructor
  · intro x mem
    rcases Multiset.mem_add.mp mem with mem | mem
    · exact (Multiset.mem_filter.mp (keptReps.mem x mem)).1
    · exact (Multiset.mem_filter.mp (droppedReps.mem x mem)).1
  · intro x mem y rowMem sameRow
    rcases Multiset.mem_add.mp mem with mem | mem
    · have holds := (respects x y sameRow).mp (keptHold x mem)
      exact keptReps.first x mem y (Multiset.mem_filter.mpr ⟨rowMem, holds⟩) sameRow
    · have fails := fun holds => droppedFail x mem ((respects x y sameRow).mpr holds)
      exact droppedReps.first x mem y (Multiset.mem_filter.mpr ⟨rowMem, fails⟩) sameRow
  · intro x rowMem
    rw [Multiset.countP_add]
    by_cases holds : p x
    · have others : dropped.countP (same x) = 0 := Multiset.countP_eq_zero.mpr
        fun y mem sameRow => droppedFail y mem ((respects x y sameRow).mp holds)
      rw [others, keptReps.one x (Multiset.mem_filter.mpr ⟨rowMem, holds⟩)]
    · have others : kept.countP (same x) = 0 := Multiset.countP_eq_zero.mpr
        fun y mem sameRow => holds ((respects x y sameRow).mpr (keptHold y mem))
      rw [others, droppedReps.one x (Multiset.mem_filter.mpr ⟨rowMem, holds⟩)]

omit [DecidableRel same] in
/-- A row that comes after no other. -/
theorem exists_first (irrefl : ∀ x, ¬ before x x)
    (trans : ∀ x y z, before x y → before y z → before x z) (nonempty : rows ≠ 0) :
    ∃ x ∈ rows, ∀ y ∈ rows, ¬ before y x := by
  induction rows using Multiset.induction_on with
  | empty => exact absurd rfl nonempty
  | cons row rest ih =>
      by_cases last : rest = 0
      · subst last
        exact ⟨row, by simp, by simpa using irrefl row⟩
      · rcases ih last with ⟨x, mem, first⟩
        by_cases earlier : before row x
        · refine ⟨row, Multiset.mem_cons_self row rest, fun y yMem before => ?_⟩
          rcases Multiset.mem_cons.mp yMem with rfl | yMem
          · exact irrefl y before
          · exact first y yMem (trans y row x before earlier)
        · refine ⟨x, Multiset.mem_cons_of_mem mem, fun y yMem => ?_⟩
          rcases Multiset.mem_cons.mp yMem with rfl | yMem
          · exact earlier
          · exact first y yMem

/-- Every bag has representatives. -/
theorem exists_representatives (equiv : Equivalence same) (irrefl : ∀ x, ¬ before x x)
    (trans : ∀ x y z, before x y → before y z → before x z) (rows : Multiset α) :
    ∃ out, Representatives same before rows out := by
  induction rows using Multiset.strongInductionOn with
  | ih rows ih =>
      by_cases last : rows = 0
      · exact ⟨0, by simp, by simp, by simp [last]⟩
      · rcases Multiset.exists_mem_of_ne_zero last with ⟨row, rowMem⟩
        have nonempty : rows.filter (same row) ≠ 0 := fun none_ =>
          Multiset.eq_zero_iff_forall_notMem.mp none_ row
            (Multiset.mem_filter.mpr ⟨rowMem, equiv.refl row⟩)
        rcases exists_first irrefl trans nonempty with ⟨x, mem, first⟩
        have sameX := (Multiset.mem_filter.mp mem).2
        have respects : ∀ y z, same y z → (same row y ↔ same row z) := fun y z sameRow =>
          ⟨fun left => equiv.trans left sameRow,
            fun right => equiv.trans right (equiv.symm sameRow)⟩
        have ofGroup : Representatives same before (rows.filter (same row)) {x} := by
          refine ⟨by simpa using mem, ?_, ?_⟩
          · intro z zMem y yMem _
            cases Multiset.mem_singleton.mp zMem
            exact first y yMem
          · intro y yMem
            have sameY := (Multiset.mem_filter.mp yMem).2
            exact Multiset.countP_cons_of_pos 0 (equiv.trans (equiv.symm sameY) sameX)
        have fewer : (rows.filter fun y => ¬ same row y) < rows := by
          refine lt_of_le_of_ne (Multiset.filter_le _ _) fun whole => ?_
          exact Multiset.filter_eq_self.mp whole row rowMem (equiv.refl row)
        rcases ih _ fewer with ⟨others, reps⟩
        exact ⟨{x} + others, ofGroup.add respects reps⟩

/-- Representatives of the rows with a condition on groups are those representatives of all
rows that have the condition. -/
theorem representatives_filter_iff (equiv : Equivalence same) (irrefl : ∀ x, ¬ before x x)
    (trans : ∀ x y z, before x y → before y z → before x z)
    (respects : ∀ x y, same x y → (p x ↔ p y)) :
    Representatives same before (rows.filter p) out ↔
      ∃ all, Representatives same before rows all ∧ all.filter p = out := by
  constructor
  · intro reps
    rcases exists_representatives equiv irrefl trans (rows.filter fun x => ¬ p x) with
      ⟨others, otherReps⟩
    refine ⟨out + others, reps.add respects otherReps, ?_⟩
    have hold : out.filter p = out := Multiset.filter_eq_self.mpr
      fun x mem => (Multiset.mem_filter.mp (reps.mem x mem)).2
    have fail : others.filter p = 0 := Multiset.filter_eq_nil.mpr
      fun x mem => (Multiset.mem_filter.mp (otherReps.mem x mem)).2
    rw [Multiset.filter_add, hold, fail, Multiset.add_zero]
  · rintro ⟨all, reps, rfl⟩
    exact reps.filter respects

end Representatives

end Bags
