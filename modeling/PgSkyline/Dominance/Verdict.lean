import PgSkyline.Dominance.Order

/-!
# The exact verdict and its laws

The verdict of `ExecSkylineIsDominating` in terms of how two tuples stand to each
other on each column, and the laws of the verdict under 3-way compare functions.
-/

namespace PgSkyline

variable {T D : Type}

/-! ## Columns -/

/-- What the sign of a comparison says of the first argument; `lt` is better. -/
def standingOf (cmp : Int) : Ordering :=
  if cmp < 0 then .lt else if cmp = 0 then .eq else .gt

theorem standingOf_eq_lt_iff (cmp : Int) : standingOf cmp = .lt ↔ cmp < 0 := by
  unfold standingOf
  split_ifs <;> simp_all

theorem standingOf_eq_eq_iff (cmp : Int) : standingOf cmp = .eq ↔ cmp = 0 := by
  unfold standingOf
  split_ifs <;> simp_all
  omega

theorem standingOf_eq_gt_iff (cmp : Int) : standingOf cmp = .gt ↔ 0 < cmp := by
  unfold standingOf
  split_ifs <;> simp_all <;> omega

private theorem standingOf_neg (cmp : Int) : standingOf (-cmp) = (standingOf cmp).swap := by
  rcases Int.lt_trichotomy cmp 0 with less | rfl | greater
  · rw [(standingOf_eq_lt_iff cmp).mpr less]
    exact (standingOf_eq_gt_iff _).mpr (by omega)
  · rfl
  · rw [(standingOf_eq_gt_iff cmp).mpr greater]
    exact (standingOf_eq_lt_iff _).mpr (by omega)

/-- How the first value stands to the second on a column.  NULL stands in front or
behind, whatever the direction of the comparison is. -/
def SkylineCol.standing (col : SkylineCol D) : Option D → Option D → Ordering
  | none, none => .eq
  | none, some _ => if col.compareFlags.nullsFirst then .lt else .gt
  | some _, none => if col.compareFlags.nullsFirst then .gt else .lt
  | some datum1, some datum2 =>
      if col.compareFlags.desc then (standingOf (col.compareOpFn datum1 datum2)).swap
      else standingOf (col.compareOpFn datum1 datum2)

/-- `inlineApplyCompareFunction` answers with the sign of the standing. -/
theorem standingOf_inlineApply (col : SkylineCol D) (a b : Option D) :
    standingOf (inlineApplyCompareFunction col.compareOpFn col.compareFlags a b) =
      col.standing a b := by
  cases a with
  | none =>
      cases b with
      | none => rfl
      | some b =>
          rw [inlineApplyCompareFunction, SkylineCol.standing]
          split_ifs <;> rfl
  | some a =>
      cases b with
      | none =>
          rw [inlineApplyCompareFunction, SkylineCol.standing]
          split_ifs <;> rfl
      | some b =>
          rw [inlineApplyCompareFunction, SkylineCol.standing]
          split_ifs
          · exact standingOf_neg _
          · rfl

section Verdict

variable (slotGetattr : T → Nat → Option D)

/-- How the first tuple stands to the second on a column. -/
def SkylineCol.tupleStanding (col : SkylineCol D) (x y : T) : Ordering :=
  col.standing (slotGetattr x col.skylineColIdx) (slotGetattr y col.skylineColIdx)

theorem standingOf_compare (col : SkylineCol D) (x y : T) :
    standingOf (col.compare slotGetattr x y) = col.tupleStanding slotGetattr x y :=
  standingOf_inlineApply col _ _

/-! ## The four verdicts -/

/-- The tuples are equal on the DIFF columns, the first one is worse on no other column
and better on some. -/
structure FirstBetter (cols : List (SkylineCol D)) (x y : T) : Prop where
  diff : ∀ col ∈ cols, col.skylineOfDir = .diff → col.tupleStanding slotGetattr x y = .eq
  notWorse : ∀ col ∈ cols, col.skylineOfDir ≠ .diff → col.tupleStanding slotGetattr x y ≠ .gt
  better : ∃ col ∈ cols, col.skylineOfDir ≠ .diff ∧ col.tupleStanding slotGetattr x y = .lt

/-- The mirrored condition. -/
structure SecondBetter (cols : List (SkylineCol D)) (x y : T) : Prop where
  diff : ∀ col ∈ cols, col.skylineOfDir = .diff → col.tupleStanding slotGetattr x y = .eq
  notBetter : ∀ col ∈ cols, col.skylineOfDir ≠ .diff → col.tupleStanding slotGetattr x y ≠ .lt
  worse : ∃ col ∈ cols, col.skylineOfDir ≠ .diff ∧ col.tupleStanding slotGetattr x y = .gt

/-- The tuples are equal on every column. -/
def EveryColumnEqual (cols : List (SkylineCol D)) (x y : T) : Prop :=
  ∀ col ∈ cols, col.tupleStanding slotGetattr x y = .eq

variable (cols : List (SkylineCol D)) (x y : T)

private theorem noWorse_iff_standing :
    NoWorse slotGetattr cols x y ↔
      (∀ col ∈ cols, col.skylineOfDir = .diff → col.tupleStanding slotGetattr x y = .eq) ∧
        ∀ col ∈ cols, col.skylineOfDir ≠ .diff → col.tupleStanding slotGetattr x y ≠ .gt := by
  simp only [← standingOf_compare, standingOf_eq_eq_iff, ne_eq, standingOf_eq_gt_iff]
  constructor
  · intro noWorse
    exact ⟨fun col mem => (noWorse col mem).1, fun col mem _ => by
      have le := (noWorse col mem).2
      omega⟩
  · rintro ⟨diff, notWorse⟩ col mem
    refine ⟨diff col mem, ?_⟩
    by_cases isDiff : col.skylineOfDir = .diff
    · exact Int.le_of_eq (diff col mem isDiff)
    · exact Int.not_lt.mp (notWorse col mem isDiff)

private theorem noBetter_iff_standing :
    NoBetter slotGetattr cols x y ↔
      (∀ col ∈ cols, col.skylineOfDir = .diff → col.tupleStanding slotGetattr x y = .eq) ∧
        ∀ col ∈ cols, col.skylineOfDir ≠ .diff → col.tupleStanding slotGetattr x y ≠ .lt := by
  simp only [← standingOf_compare, standingOf_eq_eq_iff, ne_eq, standingOf_eq_lt_iff]
  constructor
  · intro noBetter
    exact ⟨fun col mem => (noBetter col mem).1, fun col mem _ => by
      have le := (noBetter col mem).2
      omega⟩
  · rintro ⟨diff, notBetter⟩ col mem
    refine ⟨diff col mem, ?_⟩
    by_cases isDiff : col.skylineOfDir = .diff
    · exact Int.le_of_eq (diff col mem isDiff).symm
    · exact Int.not_lt.mp (notBetter col mem isDiff)

theorem firstDominates_iff_firstBetter :
    execSkylineIsDominating slotGetattr cols x y = .firstDominates ↔
      FirstBetter slotGetattr cols x y := by
  have verdict := dominates_iff_noWorse_and_exists slotGetattr cols x y
  rw [Dominates, noWorse_iff_standing] at verdict
  rw [verdict]
  constructor
  · rintro ⟨⟨diff, notWorse⟩, col, mem, less⟩
    have standing := (standingOf_eq_lt_iff _).mpr less
    rw [standingOf_compare] at standing
    refine ⟨diff, notWorse, col, mem, ?_, standing⟩
    intro isDiff
    rw [diff col mem isDiff] at standing
    cases standing
  · rintro ⟨diff, notWorse, col, mem, _, standing⟩
    rw [← standingOf_compare, standingOf_eq_lt_iff] at standing
    exact ⟨⟨diff, notWorse⟩, col, mem, standing⟩

theorem secondDominates_iff_secondBetter :
    execSkylineIsDominating slotGetattr cols x y = .secondDominates ↔
      SecondBetter slotGetattr cols x y := by
  rw [secondDominates_iff_noBetter_and_exists, noBetter_iff_standing]
  constructor
  · rintro ⟨⟨diff, notBetter⟩, col, mem, greater⟩
    have standing := (standingOf_eq_gt_iff _).mpr greater
    rw [standingOf_compare] at standing
    refine ⟨diff, notBetter, col, mem, ?_, standing⟩
    intro isDiff
    rw [diff col mem isDiff] at standing
    cases standing
  · rintro ⟨diff, notBetter, col, mem, _, standing⟩
    rw [← standingOf_compare, standingOf_eq_gt_iff] at standing
    exact ⟨⟨diff, notBetter⟩, col, mem, standing⟩

theorem allEq_iff_everyColumnEqual :
    execSkylineIsDominating slotGetattr cols x y = .allEq ↔
      EveryColumnEqual slotGetattr cols x y := by
  have verdict := allEq_iff_forall slotGetattr cols x y
  rw [AllEq] at verdict
  simp only [verdict, EveryColumnEqual, ← standingOf_compare, standingOf_eq_eq_iff]

private theorem incomparable_iff_none :
    execSkylineIsDominating slotGetattr cols x y = .incomparable ↔
      ¬ FirstBetter slotGetattr cols x y ∧ ¬ SecondBetter slotGetattr cols x y ∧
        ¬ EveryColumnEqual slotGetattr cols x y := by
  rw [← firstDominates_iff_firstBetter, ← secondDominates_iff_secondBetter,
    ← allEq_iff_everyColumnEqual]
  have never := execSkylineIsDominating_ne_diffGrpDiff slotGetattr cols x y
  cases verdict : execSkylineIsDominating slotGetattr cols x y with
  | diffGrpDiff => exact absurd verdict never
  | incomparable => simp
  | firstDominates => simp
  | allEq => simp
  | secondDominates => simp

end Verdict

/-! ## The laws -/

/-- The verdict with the arguments swapped. -/
def SkylineCmp.mirror : SkylineCmp → SkylineCmp
  | .firstDominates => .secondDominates
  | .secondDominates => .firstDominates
  | .incomparable => .incomparable
  | .allEq => .allEq
  | .diffGrpDiff => .diffGrpDiff

/-- A verdict function that is the four-way comparison of a strict partial order and an
equivalence that respects it. -/
structure VerdictLaws (verdict : T → T → SkylineCmp) : Prop where
  mirror : ∀ x y, verdict y x = (verdict x y).mirror
  irrefl : ∀ x, verdict x x ≠ .firstDominates
  trans : ∀ x y z, verdict x y = .firstDominates → verdict y z = .firstDominates →
    verdict x z = .firstDominates
  allEq : Equivalence fun x y => verdict x y = .allEq
  trans_allEq : ∀ x y z, verdict x y = .firstDominates → verdict y z = .allEq →
    verdict x z = .firstDominates
  allEq_trans : ∀ x y z, verdict x y = .allEq → verdict y z = .firstDominates →
    verdict x z = .firstDominates

section Laws

variable {slotGetattr : T → Nat → Option D} {cols : List (SkylineCol D)}

private theorem execSkylineIsDominating_mirror (lawful : LawfulCols cols) (x y : T) :
    execSkylineIsDominating slotGetattr cols y x =
      (execSkylineIsDominating slotGetattr cols x y).mirror := by
  have never := execSkylineIsDominating_ne_diffGrpDiff slotGetattr cols x y
  have neverBack := execSkylineIsDominating_ne_diffGrpDiff slotGetattr cols y x
  have second := @secondDominates_iff T D slotGetattr cols lawful x y
  have secondBack := @secondDominates_iff T D slotGetattr cols lawful y x
  have allEq : AllEq slotGetattr cols x y ↔ AllEq slotGetattr cols y x :=
    ⟨fun equal => equal.symm lawful, fun equal => equal.symm lawful⟩
  rw [Dominates] at second secondBack
  rw [AllEq, AllEq] at allEq
  cases verdict : execSkylineIsDominating slotGetattr cols x y with
  | firstDominates => exact secondBack.mpr verdict
  | secondDominates => exact second.mp verdict
  | allEq => exact allEq.mp verdict
  | diffGrpDiff => exact absurd verdict never
  | incomparable =>
      rw [verdict] at second secondBack allEq
      cases back : execSkylineIsDominating slotGetattr cols y x with
      | incomparable => rfl
      | diffGrpDiff => exact absurd back neverBack
      | firstDominates => cases second.mpr back
      | secondDominates => cases secondBack.mp back
      | allEq => cases allEq.mpr back

private theorem verdictLaws (lawful : LawfulCols cols) :
    VerdictLaws (execSkylineIsDominating slotGetattr cols) where
  mirror := execSkylineIsDominating_mirror lawful
  irrefl := not_dominates_self lawful
  trans _ _ _ first second := Dominates.trans lawful first second
  allEq := {
    refl := AllEq.refl lawful
    symm := AllEq.symm lawful
    trans := AllEq.trans lawful }
  trans_allEq _ _ _ first second :=
    Dominates.trans_noWorse lawful first (AllEq.noWorse lawful second)
  allEq_trans _ _ _ first second :=
    NoWorse.trans_dominates lawful (AllEq.noWorse lawful first) second

end Laws

/-- The verdict is exact for every clause, and under 3-way compare functions domination
is a strict partial order. -/
theorem execSkylineIsDominating_exact (slotGetattr : T → Nat → Option D)
    (cols : List (SkylineCol D)) :
    (∀ x y,
      (execSkylineIsDominating slotGetattr cols x y = .firstDominates ↔
        FirstBetter slotGetattr cols x y) ∧
      (execSkylineIsDominating slotGetattr cols x y = .secondDominates ↔
        SecondBetter slotGetattr cols x y) ∧
      (execSkylineIsDominating slotGetattr cols x y = .allEq ↔
        EveryColumnEqual slotGetattr cols x y) ∧
      (execSkylineIsDominating slotGetattr cols x y = .incomparable ↔
        ¬ FirstBetter slotGetattr cols x y ∧ ¬ SecondBetter slotGetattr cols x y ∧
          ¬ EveryColumnEqual slotGetattr cols x y)) ∧
    (LawfulCols cols → VerdictLaws (execSkylineIsDominating slotGetattr cols)) := by
  constructor
  · intro x y
    exact ⟨firstDominates_iff_firstBetter slotGetattr cols x y,
      secondDominates_iff_secondBetter slotGetattr cols x y,
      allEq_iff_everyColumnEqual slotGetattr cols x y, incomparable_iff_none slotGetattr cols x y⟩
  · exact verdictLaws

/-- `SKYLINE OF a MIN, b MAX NULLS FIRST, c DIFF` for integers. -/
theorem execSkylineIsDominating_exact_minMaxDiff :
    let cols : List (SkylineCol Int) :=
      [⟨1, Comparison.intCompare, ⟨false, false⟩, .min⟩,
        ⟨2, Comparison.intCompare, ⟨true, true⟩, .max⟩,
        ⟨3, Comparison.intCompare, ⟨false, false⟩, .diff⟩]
    VerdictLaws (execSkylineIsDominating (fun (row : Nat → Option Int) => row) cols) := by
  apply (execSkylineIsDominating_exact _ _).2
  intro col mem
  simp only [List.mem_cons, List.not_mem_nil, or_false] at mem
  rcases mem with rfl | rfl | rfl <;> exact Comparison.threeWay_intCompare

end PgSkyline
