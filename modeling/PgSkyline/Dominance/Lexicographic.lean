import PgSkyline.Dominance.Order

/-!
# Sorted inputs

The order in which a sort on the skyline columns delivers tuples: the comparison
on the first column that tells two tuples apart decides.  It extends dominance,
so in a sorted list no tuple dominates an earlier one.
-/

namespace PgSkyline

open Comparison

variable {T D : Type} (slotGetattr : T → Nat → Option D)

/-- The comparison of a sort on several columns. -/
def lexCompare (cols : List (SkylineCol D)) : T → T → Int :=
  lexicographic (cols.map fun col => col.compare slotGetattr)

/-- The input is sorted on the columns, in their order. -/
def SortedOn (cols : List (SkylineCol D)) (input : List T) : Prop :=
  input.Pairwise fun x y => lexCompare slotGetattr cols x y ≤ 0

/-- No tuple of the input dominates an earlier one. -/
def NoLaterDominates (cols : List (SkylineCol D)) (input : List T) : Prop :=
  input.Pairwise fun x y => ¬ Dominates slotGetattr cols y x

instance (cols : List (SkylineCol D)) (input : List T) :
    Decidable (SortedOn slotGetattr cols input) :=
  inferInstanceAs (Decidable (List.Pairwise _ _))

instance (cols : List (SkylineCol D)) (input : List T) :
    Decidable (NoLaterDominates slotGetattr cols input) :=
  inferInstanceAs (Decidable (List.Pairwise _ _))

variable {slotGetattr} {cols : List (SkylineCol D)}

theorem lexCompare_pair_nonpos_iff (col1 col2 : SkylineCol D) (x y : T) :
    lexCompare slotGetattr [col1, col2] x y ≤ 0 ↔ col1.compare slotGetattr x y < 0 ∨
      (col1.compare slotGetattr x y = 0 ∧ col2.compare slotGetattr x y ≤ 0) :=
  lexicographic_pair_nonpos_iff _ _

theorem lexCompare_singleton (col : SkylineCol D) (x y : T) :
    lexCompare slotGetattr [col] x y = col.compare slotGetattr x y :=
  lexicographic_singleton _

private theorem threeWay_lexCompare (lawful : LawfulCols cols) :
    ThreeWay (lexCompare slotGetattr cols) := by
  apply threeWay_lexicographic
  intro f fMem
  rcases List.mem_map.mp fMem with ⟨col, colMem, rfl⟩
  exact SkylineCol.compare_threeWay slotGetattr (lawful col colMem)

/-- If no column is worse and one is better, the first difference is better. -/
theorem lexCompare_neg {x y : T} (noWorse : NoWorse slotGetattr cols x y)
    (better : ∃ col ∈ cols, col.compare slotGetattr x y < 0) :
    lexCompare slotGetattr cols x y < 0 := by
  apply lexicographic_neg
  · intro f fMem
    rcases List.mem_map.mp fMem with ⟨col, colMem, rfl⟩
    exact (noWorse col colMem).2
  · rcases better with ⟨col, colMem, less⟩
    exact ⟨_, List.mem_map_of_mem colMem, less⟩

theorem Dominates.lexCompare_neg {x y : T} (dominates : Dominates slotGetattr cols x y) :
    lexCompare slotGetattr cols x y < 0 := by
  rcases (dominates_iff_noWorse_and_exists slotGetattr cols x y).mp dominates with
    ⟨noWorse, better⟩
  exact PgSkyline.lexCompare_neg noWorse better

/-- In a sorted input no tuple dominates an earlier one. -/
theorem SortedOn.noLaterDominates (lawful : LawfulCols cols) {input : List T}
    (sorted : SortedOn slotGetattr cols input) : NoLaterDominates slotGetattr cols input := by
  apply sorted.imp
  intro x y inOrder dominates
  have less := dominates.lexCompare_neg
  have swapped := (@threeWay_lexCompare T D slotGetattr cols lawful).swap x y
  omega

end PgSkyline
