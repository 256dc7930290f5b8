import PgSkyline.Dominance.Order
import PgSkyline.Nodes.Plan
import Mathlib.Algebra.BigOperators.Group.List.Basic
import Mathlib.Algebra.Order.Field.Basic

/-!
# The entropy rank

Translation of `ExecSkylineRank` (`executor/nodeSkyline.c`).  Every column with range
statistics puts a value between 0 and 1 on a tuple, and the rank is the larger the
smaller these values are.

`float8` is any ordered field and `log` any function; a datum is `none` when it is
NULL.
-/

namespace PgSkyline

open Comparison

variable {T D F : Type}

/-- A skyline column with what `make_skyline` and `ExecSkylineCacheCoerceFunctionInfo`
know of its conversion to `float8`. -/
structure CoercedCol (D : Type) extends SkylineCol D where
  colFlags : Nat
  colCoerceFunc : Oid
  /-- The function `colCoerceFunc`; its result may be NULL. -/
  coerceFn : D → Option D

/-- A column with its recorded range. -/
structure RankCol (D F : Type) extends CoercedCol D where
  colMin : F
  colScale : F

/-- What `ExecSkylineRank` takes from the rest of the server. -/
structure RankEnv (T D F : Type) where
  slotGetattr : T → Nat → Option D
  datumGetFloat8 : D → F
  log : F → F

/-- The columns that count: DIFF does not, and without statistics a column can not be
scaled. -/
def CoercedCol.isRanked (col : CoercedCol D) : Bool :=
  decide (col.skylineOfDir ≠ .diff) && col.colFlags &&& skylineFlagsHaveStats != 0

/-- Coerce the datum into `FLOAT8OID` if needed. -/
def CoercedCol.coerce (col : CoercedCol D) (datum : D) : Except Fault D :=
  if col.colFlags &&& skylineFlagsCoerceFunc != 0 then
    match col.coerceFn datum with
    | some datum => .ok datum
    | none => .error (.elog s!"function {col.colCoerceFunc} returned NULL")
  else .ok datum

section Rank

variable [Zero F] [One F] [Add F] [Sub F] [Mul F] [LE F] [DecidableLE F]

/-- `SKYLINE_RANK_BOUND_MAX`. -/
def skylineRankBoundMax : F := 1 - skylineRankEpsilon

/-- Make sure that the value is within the bounds. -/
def clampRank (value : F) : F :=
  if value ≤ skylineRankBoundMin then skylineRankBoundMin
  else if skylineRankBoundMax ≤ value then skylineRankBoundMax
  else value

/-- The value of a column between `SKYLINE_RANK_BOUND_MIN` and `SKYLINE_RANK_BOUND_MAX`. -/
def RankCol.rankValue (datumGetFloat8 : D → F) (col : RankCol D F) (datum : Option D) :
    Except Fault F := do
  let value ←
    match datum with
    | none =>
        pure (if col.compareFlags.nullsFirst then skylineRankBoundMin else skylineRankBoundMax)
    | some datum => do
        let datum ← col.coerce datum
        pure (clampRank ((datumGetFloat8 datum - col.colMin) * col.colScale))
  -- the value that stands for NULL is reversed as well
  return if col.compareFlags.desc then skylineRankBoundMax - value else value

/-- The loop of `ExecSkylineRank` with the sum so far. -/
def rankLoop (env : RankEnv T D F) (slot : T) : List (RankCol D F) → F → Except Fault F
  | [], res => .ok res
  | col :: cols, res =>
      if col.skylineOfDir = .diff then rankLoop env slot cols res
      else if col.colFlags &&& skylineFlagsHaveStats == 0 then rankLoop env slot cols res
      else do
        let value ← col.rankValue env.datumGetFloat8 (env.slotGetattr slot col.skylineColIdx)
        rankLoop env slot cols (res - env.log (value + 1))

/-- `ExecSkylineRank`. -/
def execSkylineRank (env : RankEnv T D F) (cols : List (RankCol D F)) (slot : T) :
    Except Fault F :=
  rankLoop env slot cols 0

end Rank

/-! ## The value of a column -/

section Value

variable [Field F] [LinearOrder F]

/-- The datums of a column convert to numbers in the order of its compare function. -/
structure CoercedCol.OrderedBy (datumGetFloat8 : D → F) (col : CoercedCol D) (key : D → F) :
    Prop where
  converts : ∀ datum, ∃ coerced, col.coerce datum = .ok coerced ∧ datumGetFloat8 coerced = key datum
  preserves : Preserves col.compareOpFn key

/-- Where a column puts a datum before a descending order is reversed. -/
def RankCol.scaled (col : RankCol D F) (key : D → F) : Option D → F
  | none => if col.compareFlags.nullsFirst then 0 else 1
  | some datum => max 0 (min 1 ((key datum - col.colMin) * col.colScale))

/-- Where a column puts a datum between 0 and 1. -/
def RankCol.position (col : RankCol D F) (key : D → F) (datum : Option D) : F :=
  if col.compareFlags.desc then 1 - col.scaled key datum else col.scaled key datum

variable [IsStrictOrderedRing F]

private theorem clampRank_eq (value : F) : clampRank value = max 0 (min 1 value) := by
  simp only [clampRank, skylineRankBoundMin, skylineRankBoundMax, skylineRankEpsilon, add_zero,
    sub_zero]
  split
  next low => rw [min_eq_right (low.trans zero_le_one), max_eq_left low]
  next above =>
    split
    next high => rw [min_eq_left high, max_eq_right zero_le_one]
    next below => rw [min_eq_right (not_le.mp below).le, max_eq_right (not_le.mp above).le]

theorem RankCol.rankValue_eq {datumGetFloat8 : D → F} {col : RankCol D F} {key : D → F}
    (ordered : col.OrderedBy datumGetFloat8 key) (datum : Option D) :
    col.rankValue datumGetFloat8 datum = .ok (col.position key datum) := by
  have bounds : (skylineRankBoundMin : F) = 0 ∧ (skylineRankBoundMax : F) = 1 := by
    simp [skylineRankBoundMin, skylineRankBoundMax, skylineRankEpsilon]
  unfold RankCol.rankValue RankCol.position
  cases datum with
  | none => simp only [bounds, pure_eq_ok, ok_bind, RankCol.scaled]
  | some datum =>
      rcases ordered.converts datum with ⟨coerced, converted, number⟩
      simp only [converted, number, bounds, pure_eq_ok, ok_bind, RankCol.scaled, clampRank_eq]

theorem RankCol.scaled_mem_unit (col : RankCol D F) (key : D → F) (datum : Option D) :
    0 ≤ col.scaled key datum ∧ col.scaled key datum ≤ 1 := by
  cases datum with
  | none => cases first : col.compareFlags.nullsFirst <;> simp [RankCol.scaled, first]
  | some datum => exact ⟨le_max_left _ _, max_le zero_le_one (min_le_left _ _)⟩

theorem RankCol.position_nonneg (col : RankCol D F) (key : D → F) (datum : Option D) :
    0 ≤ col.position key datum := by
  have inUnit := col.scaled_mem_unit key datum
  unfold RankCol.position
  split
  · exact sub_nonneg.mpr inUnit.2
  · exact inUnit.1

/-- A positive scale keeps the order of the numbers. -/
theorem RankCol.scaled_mono {col : RankCol D F} (scalePos : 0 < col.colScale) {key : D → F}
    {x y : D} (inOrder : key x ≤ key y) : col.scaled key (some x) ≤ col.scaled key (some y) := by
  have shifted := sub_le_sub_right inOrder col.colMin
  have scaled := mul_le_mul_of_nonneg_right shifted scalePos.le
  exact max_le_max le_rfl (min_le_min le_rfl scaled)

end Value

/-! ## The rank as a sum -/

section Sum

variable [Field F] [LinearOrder F]

/-- If every ranked column has a value, the rank is the sum of their contributions. -/
theorem rankLoop_eq {env : RankEnv T D F} {slot : T} {cols : List (RankCol D F)}
    {value : RankCol D F → F}
    (valued : ∀ col ∈ cols, col.isRanked = true →
      col.rankValue env.datumGetFloat8 (env.slotGetattr slot col.skylineColIdx) = .ok (value col))
    (res : F) :
    rankLoop env slot cols res =
      .ok (res - ((cols.filter fun col => col.isRanked).map fun col =>
        env.log (value col + 1)).sum) := by
  induction cols generalizing res with
  | nil => simp [rankLoop]
  | cons col cols ih =>
      have later := ih fun other mem => valued other (List.mem_cons_of_mem _ mem)
      unfold rankLoop
      by_cases isDiff : col.skylineOfDir = .diff
      · have notRanked : col.isRanked = false := by simp [CoercedCol.isRanked, isDiff]
        simp [isDiff, notRanked, later]
      · by_cases noStats : col.colFlags &&& skylineFlagsHaveStats = 0
        · have notRanked : col.isRanked = false := by simp [CoercedCol.isRanked, noStats]
          simp [isDiff, noStats, notRanked, later]
        · have ranked : col.isRanked = true := by simp [CoercedCol.isRanked, isDiff, noStats]
          have here := valued col List.mem_cons_self ranked
          simp [isDiff, noStats, ranked, here, later, sub_sub]

end Sum

end PgSkyline
