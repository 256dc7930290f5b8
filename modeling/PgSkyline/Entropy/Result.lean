import PgSkyline.Entropy.Rank
import Mathlib.Algebra.Order.BigOperators.Group.List
import Mathlib.Algebra.Order.Field.Rat
import Mathlib.Analysis.SpecialFunctions.Log.Basic
import Mathlib.Order.Interval.Set.Defs
import Mathlib.Tactic.Linarith

/-!
# Dominance and the entropy rank

A tuple that dominates another one has at least its rank, as long as no ranked
descending column holds NULL in one of the two tuples only: `ExecSkylineRank` reverses
the value that stands for NULL, where the comparison does not reverse NULL.
-/

namespace PgSkyline

open Comparison

variable {T D F : Type} [Field F] [LinearOrder F] [IsStrictOrderedRing F]

/-- A descending column that holds NULL in one of two tuples only. -/
def CoercedCol.NullMisplaced (col : CoercedCol D) (x y : Option D) : Prop :=
  col.compareFlags.desc = true ∧ x.isNone ≠ y.isNone

/-! ## One column -/

section Column

variable {datumGetFloat8 : D → F} {col : RankCol D F} {key : D → F} {x y : Option D}

/-- The case split is the one of the comparison, NULL in both tuples, in one or in none. -/
theorem RankCol.position_mono (scalePos : 0 < col.colScale)
    (ordered : col.OrderedBy datumGetFloat8 key)
    (noWorse : inlineApplyCompareFunction col.compareOpFn col.compareFlags x y ≤ 0)
    (placed : ¬ col.NullMisplaced x y) : col.position key x ≤ col.position key y := by
  cases x with
  | none =>
      cases y with
      | none => exact le_rfl
      | some y =>
          have ascends : col.compareFlags.desc = false := by
            simpa [CoercedCol.NullMisplaced] using placed
          cases first : col.compareFlags.nullsFirst with
          | false => simp [inlineApplyCompareFunction, first] at noWorse
          | true =>
              have inUnit := col.scaled_mem_unit key (some y)
              have inFront : col.scaled key none = 0 := by simp [RankCol.scaled, first]
              simp only [RankCol.position, ascends, Bool.false_eq_true, if_false, inFront]
              exact inUnit.1
  | some x =>
      cases y with
      | none =>
          have ascends : col.compareFlags.desc = false := by
            simpa [CoercedCol.NullMisplaced] using placed
          cases first : col.compareFlags.nullsFirst with
          | true => simp [inlineApplyCompareFunction, first] at noWorse
          | false =>
              have inUnit := col.scaled_mem_unit key (some x)
              have behind : col.scaled key none = 1 := by simp [RankCol.scaled, first]
              simp only [RankCol.position, ascends, Bool.false_eq_true, if_false, behind]
              exact inUnit.2
      | some y =>
          cases descends : col.compareFlags.desc with
          | false =>
              simp only [inlineApplyCompareFunction, descends, Bool.false_eq_true,
                if_false] at noWorse
              have inOrder := RankCol.scaled_mono scalePos (ordered.preserves.le x y noWorse)
              simpa [RankCol.position, descends] using inOrder
          | true =>
              simp only [inlineApplyCompareFunction, descends, if_true] at noWorse
              have inOrder := RankCol.scaled_mono scalePos (ordered.preserves.ge x y (by omega))
              simp only [RankCol.position, descends, if_true]
              exact sub_le_sub_left inOrder 1

omit [IsStrictOrderedRing F] in
theorem RankCol.position_eq (ordered : col.OrderedBy datumGetFloat8 key)
    (equal : inlineApplyCompareFunction col.compareOpFn col.compareFlags x y = 0) :
    col.position key x = col.position key y := by
  cases x with
  | none =>
      cases y with
      | none => rfl
      | some y =>
          simp only [inlineApplyCompareFunction] at equal
          split at equal <;> cases equal
  | some x =>
      cases y with
      | none =>
          simp only [inlineApplyCompareFunction] at equal
          split at equal <;> cases equal
      | some y =>
          have same : col.compareOpFn x y = 0 := by
            simp only [inlineApplyCompareFunction] at equal
            split at equal <;> omega
          have number := ordered.preserves.eq same
          simp only [RankCol.position, RankCol.scaled, number]

end Column

/-! ## A range for which the rank goes wrong -/

/-- For two datums of which the first is no worse there is a range that puts the first
one behind if NULL is misplaced, and both in one place otherwise. -/
theorem CoercedCol.exists_colMin (col : CoercedCol D) (key : D → F) {x y : Option D}
    (noWorse : inlineApplyCompareFunction col.compareOpFn col.compareFlags x y ≤ 0) :
    ∃ colMin : F, let ranged : RankCol D F := { col with colMin, colScale := 1 }
      ranged.position key y ≤ ranged.position key x ∧
        (col.NullMisplaced x y → ranged.position key y < ranged.position key x) := by
  cases x with
  | none =>
      cases y with
      | none => exact ⟨0, le_rfl, fun misplaced => absurd rfl misplaced.2⟩
      | some y =>
          cases first : col.compareFlags.nullsFirst with
          | false => simp [inlineApplyCompareFunction, first] at noWorse
          | true =>
              cases descends : col.compareFlags.desc with
              | false =>
                  refine ⟨key y, ?_⟩
                  simp [RankCol.position, RankCol.scaled, first, descends,
                    CoercedCol.NullMisplaced]
              | true =>
                  refine ⟨key y - 1, ?_⟩
                  simp [RankCol.position, RankCol.scaled, first, descends]
  | some x =>
      cases y with
      | none =>
          cases first : col.compareFlags.nullsFirst with
          | true => simp [inlineApplyCompareFunction, first] at noWorse
          | false =>
              cases descends : col.compareFlags.desc with
              | false =>
                  refine ⟨key x - 1, ?_⟩
                  simp [RankCol.position, RankCol.scaled, first, descends,
                    CoercedCol.NullMisplaced]
              | true =>
                  refine ⟨key x, ?_⟩
                  simp [RankCol.position, RankCol.scaled, first, descends]
      | some y =>
          -- both below the range
          refine ⟨max (key x) (key y), le_of_eq ?_, fun misplaced => absurd rfl misplaced.2⟩
          simp [RankCol.position, RankCol.scaled]

/-! ## All columns -/

section Columns

variable {env : RankEnv T D F} {cols : List (RankCol D F)}

/-- What a ranked column takes off the rank of a tuple. -/
def RankCol.contribution (env : RankEnv T D F) (key : CoercedCol D → D → F) (slot : T)
    (col : RankCol D F) : F :=
  env.log (col.position (key col.toCoercedCol) (env.slotGetattr slot col.skylineColIdx) + 1)

theorem execSkylineRank_eq (key : CoercedCol D → D → F)
    (ordered : ∀ col ∈ cols, col.isRanked = true →
      col.OrderedBy env.datumGetFloat8 (key col.toCoercedCol)) (slot : T) :
    execSkylineRank env cols slot =
      .ok (-((cols.filter fun col => col.isRanked).map
        (RankCol.contribution env key slot)).sum) := by
  have valued : ∀ col ∈ cols, col.isRanked = true →
      col.rankValue env.datumGetFloat8 (env.slotGetattr slot col.skylineColIdx) =
        .ok (col.position (key col.toCoercedCol) (env.slotGetattr slot col.skylineColIdx)) := by
    intro col mem ranked
    exact RankCol.rankValue_eq (ordered col mem ranked) _
  rw [execSkylineRank, rankLoop_eq valued, zero_sub]
  rfl

variable {key : CoercedCol D → D → F} {a b : T}

/-- A smaller position takes less off the rank. -/
theorem RankCol.contribution_le (increasing : StrictMonoOn env.log (Set.Ioi 0))
    {col : RankCol D F}
    (inOrder : col.position (key col.toCoercedCol) (env.slotGetattr a col.skylineColIdx) ≤
      col.position (key col.toCoercedCol) (env.slotGetattr b col.skylineColIdx)) :
    col.contribution env key a ≤ col.contribution env key b := by
  have aPos := col.position_nonneg (key col.toCoercedCol) (env.slotGetattr a col.skylineColIdx)
  have bPos := col.position_nonneg (key col.toCoercedCol) (env.slotGetattr b col.skylineColIdx)
  refine (increasing.le_iff_le ?_ ?_).mpr (by linarith)
  · exact Set.mem_Ioi.mpr (by linarith)
  · exact Set.mem_Ioi.mpr (by linarith)

theorem RankCol.contribution_lt (increasing : StrictMonoOn env.log (Set.Ioi 0))
    {col : RankCol D F}
    (less : col.position (key col.toCoercedCol) (env.slotGetattr a col.skylineColIdx) <
      col.position (key col.toCoercedCol) (env.slotGetattr b col.skylineColIdx)) :
    col.contribution env key a < col.contribution env key b := by
  have aPos := col.position_nonneg (key col.toCoercedCol) (env.slotGetattr a col.skylineColIdx)
  refine increasing ?_ ?_ (by linarith)
  · exact Set.mem_Ioi.mpr (by linarith)
  · exact Set.mem_Ioi.mpr (by linarith)

/-- If NULL is misplaced in a ranked column there are ranges with which the tuple that is
no worse loses more of its rank. -/
theorem exists_ranges_misranked (increasing : StrictMonoOn env.log (Set.Ioi 0))
    (key : CoercedCol D → D → F) {columns : List (CoercedCol D)}
    (noWorse : ∀ col ∈ columns, col.compare env.slotGetattr a b ≤ 0) {failing : CoercedCol D}
    (failingMem : failing ∈ columns) (ranked : failing.isRanked = true)
    (misplaced : failing.NullMisplaced (env.slotGetattr a failing.skylineColIdx)
      (env.slotGetattr b failing.skylineColIdx)) :
    ∃ cols : List (RankCol D F), cols.map RankCol.toCoercedCol = columns ∧
      (∀ col ∈ cols, 0 < col.colScale) ∧
      ((cols.filter fun col => col.isRanked).map (RankCol.contribution env key b)).sum <
        ((cols.filter fun col => col.isRanked).map (RankCol.contribution env key a)).sum := by
  have ranges : ∀ col : CoercedCol D, ∃ colMin : F, col ∈ columns →
      let ranged : RankCol D F := { col with colMin, colScale := 1 }
      ranged.position (key col) (env.slotGetattr b col.skylineColIdx) ≤
          ranged.position (key col) (env.slotGetattr a col.skylineColIdx) ∧
        (col.NullMisplaced (env.slotGetattr a col.skylineColIdx)
            (env.slotGetattr b col.skylineColIdx) →
          ranged.position (key col) (env.slotGetattr b col.skylineColIdx) <
            ranged.position (key col) (env.slotGetattr a col.skylineColIdx)) := by
    intro col
    by_cases mem : col ∈ columns
    · rcases col.exists_colMin (key col) (noWorse col mem) with ⟨colMin, placed⟩
      exact ⟨colMin, fun _ => placed⟩
    · exact ⟨0, fun mem' => absurd mem' mem⟩
  choose colMin placed using ranges
  let ranged : CoercedCol D → RankCol D F := fun col =>
    { col with colMin := colMin col, colScale := 1 }
  refine ⟨columns.map ranged, ?_, ?_, ?_⟩
  · rw [List.map_map]
    exact List.map_id columns
  · intro col mem
    rcases List.mem_map.mp mem with ⟨_, _, rfl⟩
    exact zero_lt_one
  · apply List.sum_lt_sum
    · intro col mem
      rcases List.mem_map.mp (List.mem_filter.mp mem).1 with ⟨base, baseMem, rfl⟩
      exact RankCol.contribution_le increasing (placed base baseMem).1
    · refine ⟨ranged failing, ?_, ?_⟩
      · exact List.mem_filter.mpr ⟨List.mem_map_of_mem failingMem, ranked⟩
      · exact RankCol.contribution_lt increasing ((placed failing failingMem).2 misplaced)

end Columns

/-- Whatever the recorded ranges are, a tuple that dominates another one has at least its
rank, and equal tuples have equal ranks. -/
def RankFollowsDominance (env : RankEnv T D F) (columns : List (CoercedCol D)) (a b : T) : Prop :=
  ∀ cols : List (RankCol D F), cols.map RankCol.toCoercedCol = columns →
    (∀ col ∈ cols, 0 < col.colScale) →
      ∃ rankA rankB, execSkylineRank env cols a = .ok rankA ∧
        execSkylineRank env cols b = .ok rankB ∧
        (execSkylineIsDominating env.slotGetattr (columns.map CoercedCol.toSkylineCol) a b =
          .firstDominates → rankB ≤ rankA) ∧
        (execSkylineIsDominating env.slotGetattr (columns.map CoercedCol.toSkylineCol) a b =
          .allEq → rankA = rankB)

/-- The rank follows dominance exactly if no ranked descending column holds NULL in one of
the two tuples only. -/
theorem execSkylineRank_monotone_iff (env : RankEnv T D F)
    (increasing : StrictMonoOn env.log (Set.Ioi 0)) (columns : List (CoercedCol D))
    (ordered : ∀ col ∈ columns, col.isRanked = true →
      ∃ key : D → F, col.OrderedBy env.datumGetFloat8 key) (a b : T) :
    RankFollowsDominance env columns a b ↔
      (execSkylineIsDominating env.slotGetattr (columns.map CoercedCol.toSkylineCol) a b =
        .firstDominates →
          ∀ col ∈ columns, col.isRanked = true →
            ¬ col.NullMisplaced (env.slotGetattr a col.skylineColIdx)
              (env.slotGetattr b col.skylineColIdx)) := by
  choose! key ordered using ordered
  have noWorse : execSkylineIsDominating env.slotGetattr (columns.map CoercedCol.toSkylineCol) a b =
      .firstDominates → ∀ col ∈ columns, col.compare env.slotGetattr a b ≤ 0 := by
    intro dominates col mem
    have verdict := (dominates_iff_noWorse_and_exists _ _ a b).mp dominates
    exact (verdict.1 col.toSkylineCol (List.mem_map_of_mem mem)).2
  have colMem : ∀ cols : List (RankCol D F), cols.map RankCol.toCoercedCol = columns →
      ∀ col ∈ cols, col.toCoercedCol ∈ columns := by
    rintro cols rfl col mem
    exact List.mem_map_of_mem mem
  have keyedCols : ∀ cols : List (RankCol D F), cols.map RankCol.toCoercedCol = columns →
      ∀ col ∈ cols, col.isRanked = true →
        col.OrderedBy env.datumGetFloat8 (key col.toCoercedCol) := by
    intro cols colsEq col mem ranked
    exact ordered col.toCoercedCol (colMem cols colsEq col mem) ranked
  constructor
  · intro follows dominates failing failingMem failingRanked misplaced
    rcases exists_ranges_misranked increasing key (noWorse dominates) failingMem failingRanked
      misplaced with ⟨cols, colsEq, scalePos, more⟩
    have keyed := keyedCols cols colsEq
    rcases follows cols colsEq scalePos with ⟨rankA, rankB, rankAEq, rankBEq, inOrder, _⟩
    rw [execSkylineRank_eq key keyed] at rankAEq rankBEq
    cases rankAEq
    cases rankBEq
    exact (neg_le_neg_iff.mp (inOrder dominates)).not_gt more
  · intro placed cols colsEq scalePos
    have keyed := keyedCols cols colsEq
    refine ⟨_, _, execSkylineRank_eq key keyed a, execSkylineRank_eq key keyed b, ?_, ?_⟩
    · intro dominates
      apply neg_le_neg
      apply List.sum_le_sum
      intro col mem
      rcases List.mem_filter.mp mem with ⟨colIn, ranked⟩
      apply RankCol.contribution_le increasing
      exact RankCol.position_mono (scalePos col colIn) (keyed col colIn ranked)
        (noWorse dominates col.toCoercedCol (colMem cols colsEq col colIn))
        (placed dominates col.toCoercedCol (colMem cols colsEq col colIn) ranked)
    · intro allEq
      have equal := (allEq_iff_forall _ _ a b).mp allEq
      congr 2
      apply List.map_congr_left
      intro col mem
      rcases List.mem_filter.mp mem with ⟨colIn, ranked⟩
      have same := RankCol.position_eq (keyed col colIn ranked)
        (equal _ (List.mem_map_of_mem (colMem cols colsEq col colIn)))
      exact congrArg (fun position => env.log (position + 1)) same

/-! ## Integer columns -/

/-- An integer column with range statistics. -/
def integerColumn (attnum : Nat) (skFlags : SkFlags) (dir : SkylineOfDir) : CoercedCol Int where
  skylineColIdx := attnum
  compareOpFn := intCompare
  compareFlags := skFlags
  skylineOfDir := dir
  colFlags := skylineFlagsCoerce ||| skylineFlagsHaveStats ||| skylineFlagsCoerceFunc
  colCoerceFunc := 316
  coerceFn := some

theorem integerColumn_orderedBy (attnum : Nat) (skFlags : SkFlags) (dir : SkylineOfDir) :
    (integerColumn attnum skFlags dir).OrderedBy (fun datum : Int => (datum : F))
      fun datum => (datum : F) where
  converts datum := by
    refine ⟨datum, ?_, rfl⟩
    simp [CoercedCol.coerce, integerColumn, skylineFlagsCoerce, skylineFlagsHaveStats,
      skylineFlagsCoerceFunc]
  preserves := by
    constructor
    · intro x y inOrder
      simp only [integerColumn, intCompare, Int.sign_nonpos_iff] at inOrder
      exact Int.cast_le.mpr (by omega)
    · intro x y inOrder
      simp only [integerColumn, intCompare, Int.sign_nonneg_iff] at inOrder
      exact Int.cast_le.mpr (by omega)

/-- Rational ranks with the identity for the logarithm. -/
def rationalRank : RankEnv (Nat → Option Int) Int ℚ where
  slotGetattr row := row
  datumGetFloat8 datum := (datum : ℚ)
  log value := value

/-- `SKYLINE OF x MIN, y MAX`, where `y` is NULL in both tuples. -/
theorem execSkylineRank_monotone_iff_minMax :
    RankFollowsDominance rationalRank
      [integerColumn 1 ⟨false, false⟩ .min, integerColumn 2 ⟨true, true⟩ .max]
      (fun attnum => if attnum = 1 then some 3 else none)
      fun attnum => if attnum = 1 then some 8 else none := by
  refine (execSkylineRank_monotone_iff rationalRank ?_ _ ?_ _ _).mpr ?_
  · intro x _ y _ less
    exact less
  · intro col mem _
    rcases List.mem_pair.mp mem with rfl | rfl
    · exact ⟨_, integerColumn_orderedBy _ _ _⟩
    · exact ⟨_, integerColumn_orderedBy _ _ _⟩
  · intro _ col mem _ misplaced
    rcases List.mem_pair.mp mem with rfl | rfl
    · exact absurd misplaced.1 (by decide)
    · exact absurd rfl misplaced.2

/-- `SKYLINE OF x MAX` puts NULL first, so NULL dominates 10; but the rank of NULL is
`-log 2`, and that of 10, the largest recorded value, is 0. -/
theorem execSkylineRank_nullMax_fails :
    let env : RankEnv (Nat → Option Int) Int ℝ :=
      ⟨fun row => row, fun datum => (datum : ℝ), Real.log⟩
    let col : RankCol Int ℝ :=
      { integerColumn 1 ⟨true, true⟩ .max with colMin := 0, colScale := 1 / 10 }
    StrictMonoOn env.log (Set.Ioi 0) ∧ 0 < col.colScale ∧
      col.OrderedBy env.datumGetFloat8 (fun datum => (datum : ℝ)) ∧
      execSkylineIsDominating env.slotGetattr [col.toSkylineCol] (fun _ => none)
        (fun _ => some 10) = .firstDominates ∧
      ∃ rankA rankB, execSkylineRank env [col] (fun _ => none) = .ok rankA ∧
        execSkylineRank env [col] (fun _ => some 10) = .ok rankB ∧ rankA < rankB := by
  intro env col
  let number : CoercedCol Int → Int → ℝ := fun _ datum => (datum : ℝ)
  have ordered : col.OrderedBy env.datumGetFloat8 (fun datum => (datum : ℝ)) :=
    integerColumn_orderedBy 1 _ _
  have keyed : ∀ other ∈ [col], other.isRanked = true →
      other.OrderedBy env.datumGetFloat8 (fun datum => (datum : ℝ)) := by
    intro other mem _
    rw [List.mem_singleton.mp mem]
    exact ordered
  have ranked : col.isRanked = true := by decide
  refine ⟨Real.strictMonoOn_log, by norm_num [col], ordered, by decide, _, _,
    execSkylineRank_eq number keyed _, execSkylineRank_eq number keyed _, ?_⟩
  have ofNull : col.contribution env number (fun _ => none) = Real.log 2 := by
    norm_num [RankCol.contribution, RankCol.position, RankCol.scaled, number, env, col,
      integerColumn]
  have ofTen : col.contribution env number (fun _ => some 10) = 0 := by
    norm_num [RankCol.contribution, RankCol.position, RankCol.scaled, number, env, col,
      integerColumn]
  simp only [List.filter_cons, ranked, if_true, List.filter_nil, List.map_cons, List.map_nil,
    List.sum_cons, List.sum_nil, add_zero, ofNull, ofTen, neg_zero]
  exact neg_lt_zero.mpr (Real.log_pos one_lt_two)

end PgSkyline
