import PgSkyline.Dominance.Order

/-!
# Clauses with the same verdicts

The verdict depends only on which columns a clause has, and a column adds nothing
to a clause if another one already decides it.
-/

namespace PgSkyline

variable {T D : Type} {slotGetattr : T → Nat → Option D} {cols others : List (SkylineCol D)}

/-- The verdicts are equal if the three decided codes are answered together. -/
theorem verdict_eq_of_iff {x y : T}
    (dominates : Dominates slotGetattr cols x y ↔ Dominates slotGetattr others x y)
    (allEq : AllEq slotGetattr cols x y ↔ AllEq slotGetattr others x y)
    (secondDominates : execSkylineIsDominating slotGetattr cols x y = .secondDominates ↔
      execSkylineIsDominating slotGetattr others x y = .secondDominates) :
    execSkylineIsDominating slotGetattr cols x y =
      execSkylineIsDominating slotGetattr others x y := by
  unfold Dominates at dominates
  unfold AllEq at allEq
  have never := execSkylineIsDominating_ne_diffGrpDiff slotGetattr cols x y
  have neverOther := execSkylineIsDominating_ne_diffGrpDiff slotGetattr others x y
  cases verdict : execSkylineIsDominating slotGetattr cols x y with
  | firstDominates => exact (dominates.mp verdict).symm
  | allEq => exact (allEq.mp verdict).symm
  | secondDominates => exact (secondDominates.mp verdict).symm
  | diffGrpDiff => exact absurd verdict never
  | incomparable =>
      cases other : execSkylineIsDominating slotGetattr others x y with
      | incomparable => rfl
      | diffGrpDiff => exact absurd other neverOther
      | firstDominates => simp [verdict, other] at dominates
      | allEq => simp [verdict, other] at allEq
      | secondDominates => simp [verdict, other] at secondDominates

/-- On `x` and `y` the column `decider` decides what `col` would: under a DIFF column
only equal tuples go on to `col`, else `col` compares as `decider` does. -/
structure DecidedBy (slotGetattr : T → Nat → Option D) (x y : T) (decider col : SkylineCol D) :
    Prop where
  equal : decider.compare slotGetattr x y = 0 → col.compare slotGetattr x y = 0
  agree : decider.skylineOfDir ≠ .diff → col.skylineOfDir ≠ .diff ∧
    col.compare slotGetattr x y = decider.compare slotGetattr x y

section Decided

variable {x y : T}
  (decided : ∀ col ∈ others, ∃ decider ∈ cols, DecidedBy slotGetattr x y decider col)

include decided

theorem NoWorse.of_decided (noWorse : NoWorse slotGetattr cols x y) :
    NoWorse slotGetattr others x y := by
  intro col colMem
  rcases decided col colMem with ⟨decider, deciderMem, decidedBy⟩
  have deciderNoWorse := noWorse decider deciderMem
  by_cases diff : decider.skylineOfDir = .diff
  · have equal := decidedBy.equal (deciderNoWorse.1 diff)
    exact ⟨fun _ => equal, by omega⟩
  · rcases decidedBy.agree diff with ⟨ordinary, same⟩
    exact ⟨fun isDiff => absurd isDiff ordinary, by omega⟩

theorem NoBetter.of_decided (noBetter : NoBetter slotGetattr cols x y) :
    NoBetter slotGetattr others x y := by
  intro col colMem
  rcases decided col colMem with ⟨decider, deciderMem, decidedBy⟩
  have deciderNoBetter := noBetter decider deciderMem
  by_cases diff : decider.skylineOfDir = .diff
  · have equal := decidedBy.equal (deciderNoBetter.1 diff)
    exact ⟨fun _ => equal, by omega⟩
  · rcases decidedBy.agree diff with ⟨ordinary, same⟩
    exact ⟨fun isDiff => absurd isDiff ordinary, by omega⟩

/-- A column on which tuples differ that no DIFF column tells apart has a decider
with the same comparison. -/
theorem exists_decider {col : SkylineCol D} (colMem : col ∈ others)
    (differs : col.compare slotGetattr x y ≠ 0)
    (diffEqual : ∀ decider ∈ cols, decider.skylineOfDir = .diff →
      decider.compare slotGetattr x y = 0) :
    ∃ decider ∈ cols, decider.compare slotGetattr x y = col.compare slotGetattr x y := by
  rcases decided col colMem with ⟨decider, deciderMem, decidedBy⟩
  by_cases diff : decider.skylineOfDir = .diff
  · exact absurd (decidedBy.equal (diffEqual decider deciderMem diff)) differs
  · exact ⟨decider, deciderMem, (decidedBy.agree diff).2.symm⟩

/-- Columns that others decide do not change the verdict. -/
theorem verdict_eq_of_decided (subset : cols ⊆ others) :
    execSkylineIsDominating slotGetattr cols x y =
      execSkylineIsDominating slotGetattr others x y := by
  apply verdict_eq_of_iff
  · rw [dominates_iff_noWorse_and_exists, dominates_iff_noWorse_and_exists]
    constructor
    · rintro ⟨noWorse, col, colMem, less⟩
      exact ⟨noWorse.of_decided decided, col, subset colMem, less⟩
    · rintro ⟨noWorse, col, colMem, less⟩
      have kept : NoWorse slotGetattr cols x y := fun col colMem => noWorse col (subset colMem)
      rcases exists_decider decided colMem (by omega) fun decider deciderMem =>
        (kept decider deciderMem).1 with ⟨decider, deciderMem, same⟩
      exact ⟨kept, decider, deciderMem, by omega⟩
  · rw [allEq_iff_forall, allEq_iff_forall]
    constructor
    · intro allEq col colMem
      rcases decided col colMem with ⟨decider, deciderMem, decidedBy⟩
      exact decidedBy.equal (allEq decider deciderMem)
    · exact fun allEq col colMem => allEq col (subset colMem)
  · rw [secondDominates_iff_noBetter_and_exists, secondDominates_iff_noBetter_and_exists]
    constructor
    · rintro ⟨noBetter, col, colMem, greater⟩
      exact ⟨noBetter.of_decided decided, col, subset colMem, greater⟩
    · rintro ⟨noBetter, col, colMem, greater⟩
      have kept : NoBetter slotGetattr cols x y := fun col colMem => noBetter col (subset colMem)
      rcases exists_decider decided colMem (by omega) fun decider deciderMem =>
        (kept decider deciderMem).1 with ⟨decider, deciderMem, same⟩
      exact ⟨kept, decider, deciderMem, by omega⟩

end Decided

/-- Order and repetition of the columns do not change the verdict. -/
theorem verdict_eq_of_subset (subset : cols ⊆ others) (superset : others ⊆ cols) (x y : T) :
    execSkylineIsDominating slotGetattr cols x y =
      execSkylineIsDominating slotGetattr others x y := by
  apply verdict_eq_of_decided _ subset
  intro col colMem
  exact ⟨col, superset colMem, id, fun ordinary => ⟨ordinary, rfl⟩⟩

theorem beats_congr_of_subset (subset : cols ⊆ others) (superset : others ⊆ cols)
    (distinct : Bool) (x y : T) :
    Beats slotGetattr cols distinct x y ↔ Beats slotGetattr others distinct x y := by
  unfold Beats Dominates AllEq
  rw [verdict_eq_of_subset subset superset]

/-! ## Tuples that differ in one attribute -/

/-- A tuple of NULLs with one value. -/
def rowWith (attno : Nat) (value : Option D) : Nat → Option D :=
  fun other => if other = attno then value else none

theorem compare_rowWith (col : SkylineCol D) (attno : Nat) (a b : Option D) :
    col.compare (fun row : Nat → Option D => row) (rowWith attno a) (rowWith attno b) =
      if col.skylineColIdx = attno then
        inlineApplyCompareFunction col.compareOpFn col.compareFlags a b
      else 0 := by
  unfold SkylineCol.compare rowWith
  by_cases same : col.skylineColIdx = attno <;> simp [same, inlineApplyCompareFunction]

section OneAttribute

variable {decider col : SkylineCol D} (deciderMem : decider ∈ cols)
  (single : ∀ other ∈ cols, other.skylineColIdx = decider.skylineColIdx → other = decider)
  (ordinary : decider.skylineOfDir ≠ .diff)
  (same : ∀ x y : Nat → Option D,
    execSkylineIsDominating (fun row => row) cols x y =
      execSkylineIsDominating (fun row => row) others x y)
  (colMem : col ∈ others) (sameIdx : col.skylineColIdx = decider.skylineColIdx)

include deciderMem single ordinary same colMem sameIdx

/-- If equal verdicts are given, a value that the only column on its attribute
prefers is no worse on every other column there. -/
theorem noWorse_of_verdict_eq {a b : Option D}
    (less : inlineApplyCompareFunction decider.compareOpFn decider.compareFlags a b < 0) :
    (col.skylineOfDir = .diff →
        inlineApplyCompareFunction col.compareOpFn col.compareFlags a b = 0) ∧
      inlineApplyCompareFunction col.compareOpFn col.compareFlags a b ≤ 0 := by
  have dominates : Dominates (fun row => row) cols (rowWith decider.skylineColIdx a)
      (rowWith decider.skylineColIdx b) := by
    rw [dominates_iff_noWorse_and_exists]
    constructor
    · intro other otherMem
      rw [compare_rowWith]
      by_cases atSame : other.skylineColIdx = decider.skylineColIdx
      · rw [if_pos atSame, single other otherMem atSame]
        exact ⟨fun diff => absurd diff ordinary, Int.le_of_lt less⟩
      · rw [if_neg atSame]
        exact ⟨fun _ => rfl, Int.le_refl 0⟩
    · refine ⟨decider, deciderMem, ?_⟩
      rwa [compare_rowWith, if_pos rfl]
  have others := (same _ _).symm.trans dominates
  have noWorse := ((dominates_iff_noWorse_and_exists _ _ _ _).mp others).1 col colMem
  rwa [compare_rowWith, if_pos sameIdx] at noWorse

theorem noBetter_of_verdict_eq {a b : Option D}
    (greater : 0 < inlineApplyCompareFunction decider.compareOpFn decider.compareFlags a b) :
    0 ≤ inlineApplyCompareFunction col.compareOpFn col.compareFlags a b := by
  have secondDominates : execSkylineIsDominating (fun row => row) cols
      (rowWith decider.skylineColIdx a) (rowWith decider.skylineColIdx b) = .secondDominates := by
    rw [secondDominates_iff_noBetter_and_exists]
    constructor
    · intro other otherMem
      rw [compare_rowWith]
      by_cases atSame : other.skylineColIdx = decider.skylineColIdx
      · rw [if_pos atSame, single other otherMem atSame]
        exact ⟨fun diff => absurd diff ordinary, Int.le_of_lt greater⟩
      · rw [if_neg atSame]
        exact ⟨fun _ => rfl, Int.le_refl 0⟩
    · refine ⟨decider, deciderMem, ?_⟩
      rwa [compare_rowWith, if_pos rfl]
  have others := (same _ _).symm.trans secondDominates
  have noBetter := ((secondDominates_iff_noBetter_and_exists _ _ _ _).mp others).1 col colMem
  rw [compare_rowWith, if_pos sameIdx] at noBetter
  exact noBetter.2

end OneAttribute

end PgSkyline
