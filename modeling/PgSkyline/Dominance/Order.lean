import PgSkyline.Dominance.Core
import PgSkyline.Lib.Comparison
import PgSkyline.Lib.Covering
import Mathlib.Order.Defs.Unbundled

/-!
# The order behind the dominance test

The verdict of `ExecSkylineIsDominating` is read off one relation on tuples:
`NoWorse cols x y` says that `x` agrees with `y` on every DIFF column and is at
least as good on every other column.  When the compare functions are 3-way total
preorders, `NoWorse` is a preorder and the verdict is its four-way comparison.
-/

namespace PgSkyline

open Comparison

variable {T D : Type}

/-! ## Three-way compare functions -/

/-- Reversal and NULLs placement keep a compare function three-way. -/
theorem threeWay_inlineApply {compFunction : D → D → Int} (threeWay : ThreeWay compFunction)
    (skFlags : SkFlags) : ThreeWay (inlineApplyCompareFunction compFunction skFlags) where
  neg_iff_pos x y := by
    obtain ⟨desc, nullsFirst⟩ := skFlags
    cases x with
    | none => cases y <;> cases nullsFirst <;> simp [inlineApplyCompareFunction]
    | some datum1 =>
        cases y with
        | none => cases nullsFirst <;> simp [inlineApplyCompareFunction]
        | some datum2 =>
            have swapped := threeWay.swap datum1 datum2
            simp only [inlineApplyCompareFunction]
            split <;> omega
  trans x y z := by
    obtain ⟨desc, nullsFirst⟩ := skFlags
    cases x with
    | none =>
        cases y <;> cases z <;> cases nullsFirst <;> simp [inlineApplyCompareFunction]
    | some datum1 =>
        cases y with
        | none => cases z <;> cases nullsFirst <;> simp [inlineApplyCompareFunction]
        | some datum2 =>
            cases z with
            | none => cases nullsFirst <;> simp [inlineApplyCompareFunction]
            | some datum3 =>
                cases desc with
                | false => exact threeWay.trans datum1 datum2 datum3
                | true =>
                    simp only [inlineApplyCompareFunction, if_true]
                    intro first second
                    have composed := threeWay.trans_ge (x := datum1) (y := datum2)
                      (z := datum3) (by omega) (by omega)
                    omega

/-- Reversal and NULLs placement do not matter for what is equal. -/
theorem inlineApply_eq_zero_of_imp {first second : D → D → Int}
    (imp : ∀ a b, first a b = 0 → second a b = 0) {flags : SkFlags} {a b : Option D}
    (equal : inlineApplyCompareFunction first flags a b = 0) (flags' : SkFlags) :
    inlineApplyCompareFunction second flags' a b = 0 := by
  rcases flags with ⟨desc, nullsFirst⟩
  cases a with
  | none =>
      cases b with
      | none => rfl
      | some b => cases nullsFirst <;> simp [inlineApplyCompareFunction] at equal
  | some a =>
      cases b with
      | none => cases nullsFirst <;> simp [inlineApplyCompareFunction] at equal
      | some b =>
          have same : first a b = 0 := by
            simp only [inlineApplyCompareFunction] at equal
            split at equal <;> omega
          simp [inlineApplyCompareFunction, imp a b same]

/-- Every compare function of the clause is a 3-way total preorder. -/
def LawfulCols (cols : List (SkylineCol D)) : Prop :=
  ∀ col ∈ cols, ThreeWay col.compareOpFn

theorem SkylineCol.compare_threeWay (slotGetattr : T → Nat → Option D) {col : SkylineCol D}
    (threeWay : ThreeWay col.compareOpFn) : ThreeWay (col.compare slotGetattr) where
  neg_iff_pos _ _ := (threeWay_inlineApply threeWay col.compareFlags).neg_iff_pos _ _
  trans _ _ _ := (threeWay_inlineApply threeWay col.compareFlags).trans _ _ _

/-! ## The verdict without any law -/

section Verdict

variable (slotGetattr : T → Nat → Option D)

/-- `x` equals `y` on the DIFF columns and is no worse on the others. -/
def NoWorse (cols : List (SkylineCol D)) (x y : T) : Prop :=
  ∀ col ∈ cols, (col.skylineOfDir = .diff → col.compare slotGetattr x y = 0) ∧
    col.compare slotGetattr x y ≤ 0

/-- `x` equals `y` on the DIFF columns and is no better on the others. -/
def NoBetter (cols : List (SkylineCol D)) (x y : T) : Prop :=
  ∀ col ∈ cols, (col.skylineOfDir = .diff → col.compare slotGetattr x y = 0) ∧
    0 ≤ col.compare slotGetattr x y

private theorem noWorse_cons (col : SkylineCol D) (cols : List (SkylineCol D)) (x y : T) :
    NoWorse slotGetattr (col :: cols) x y ↔
      ((col.skylineOfDir = .diff → col.compare slotGetattr x y = 0) ∧
        col.compare slotGetattr x y ≤ 0) ∧ NoWorse slotGetattr cols x y := by
  simp [NoWorse]

private theorem noBetter_cons (col : SkylineCol D) (cols : List (SkylineCol D)) (x y : T) :
    NoBetter slotGetattr (col :: cols) x y ↔
      ((col.skylineOfDir = .diff → col.compare slotGetattr x y = 0) ∧
        0 ≤ col.compare slotGetattr x y) ∧ NoBetter slotGetattr cols x y := by
  simp [NoBetter]

/-- One column of the loop, with the four ordinary directions taken together.
The flag `cmp_all_eq` is set exactly while neither of the other two is. -/
theorem isDominatingLoop_cons (x y : T) (col : SkylineCol D) (cols : List (SkylineCol D))
    (cmpLt cmpGt : Bool) :
    isDominatingLoop slotGetattr x y (col :: cols) (!cmpLt && !cmpGt) cmpLt cmpGt =
      if col.compare slotGetattr x y = 0 then
        isDominatingLoop slotGetattr x y cols (!cmpLt && !cmpGt) cmpLt cmpGt
      else if col.skylineOfDir = .diff then .incomparable
      else if col.compare slotGetattr x y < 0 then
        if cmpGt then .incomparable
        else isDominatingLoop slotGetattr x y cols false true cmpGt
      else
        if cmpLt then .incomparable
        else isDominatingLoop slotGetattr x y cols false cmpLt true := by
  by_cases equal : col.compare slotGetattr x y = 0
  · cases direction : col.skylineOfDir <;> simp [isDominatingLoop, direction, equal]
  · have notEqual : (col.compare slotGetattr x y == 0) = false := beq_false_of_ne equal
    by_cases less : col.compare slotGetattr x y < 0
    · cases direction : col.skylineOfDir <;>
        simp [isDominatingLoop, direction, less, equal, notEqual]
    · have greater : 0 < col.compare slotGetattr x y := by omega
      cases direction : col.skylineOfDir <;>
        simp [isDominatingLoop, direction, less, greater, equal, notEqual]

private theorem isDominatingLoop_eq_allEq_iff (x y : T) (cols : List (SkylineCol D))
    (cmpLt cmpGt : Bool) :
    isDominatingLoop slotGetattr x y cols (!cmpLt && !cmpGt) cmpLt cmpGt = .allEq ↔
      (cmpLt = false ∧ cmpGt = false) ∧ ∀ col ∈ cols, col.compare slotGetattr x y = 0 := by
  induction cols generalizing cmpLt cmpGt with
  | nil => cases cmpLt <;> cases cmpGt <;> simp [isDominatingLoop]
  | cons col cols ih =>
      have afterLess := ih true cmpGt
      have afterGreater := ih cmpLt true
      simp only [Bool.not_true, Bool.false_and, Bool.and_false] at afterLess afterGreater
      rw [isDominatingLoop_cons]
      by_cases equal : col.compare slotGetattr x y = 0
      · simp [equal, ih]
      · simp only [equal, if_false, List.forall_mem_cons, false_and, and_false, iff_false]
        split_ifs <;> simp [afterLess, afterGreater]

private theorem isDominatingLoop_eq_firstDominates_iff (x y : T) (cols : List (SkylineCol D))
    (cmpLt cmpGt : Bool) (consistent : ¬ (cmpLt = true ∧ cmpGt = true)) :
    isDominatingLoop slotGetattr x y cols (!cmpLt && !cmpGt) cmpLt cmpGt = .firstDominates ↔
      cmpGt = false ∧ NoWorse slotGetattr cols x y ∧
        (cmpLt = true ∨ ∃ col ∈ cols, col.compare slotGetattr x y < 0) := by
  induction cols generalizing cmpLt cmpGt with
  | nil => cases cmpLt <;> cases cmpGt <;> simp_all [isDominatingLoop, NoWorse]
  | cons col cols ih =>
      rw [isDominatingLoop_cons, noWorse_cons]
      rcases Int.lt_trichotomy (col.compare slotGetattr x y) 0 with less | equal | greater
      · have notEqual : col.compare slotGetattr x y ≠ 0 := by omega
        rw [if_neg notEqual, if_pos less]
        by_cases diff : col.skylineOfDir = .diff
        · simp [notEqual, diff]
        · cases cmpGt with
          | true => simp [diff]
          | false =>
              have afterLess := ih true false (by simp)
              simp only [Bool.not_true, Bool.false_and, true_or, and_true] at afterLess
              simp [diff, afterLess, less, Int.le_of_lt less]
      · simp [equal, ih cmpLt cmpGt consistent]
      · have notEqual : col.compare slotGetattr x y ≠ 0 := by omega
        have notLess : ¬ col.compare slotGetattr x y < 0 := by omega
        have notLe : ¬ col.compare slotGetattr x y ≤ 0 := by omega
        rw [if_neg notEqual, if_neg notLess]
        by_cases diff : col.skylineOfDir = .diff
        · simp [notEqual, diff]
        · cases cmpLt with
          | true => simp [diff, notLe]
          | false =>
              have afterGreater := ih false true (by simp)
              simp only [Bool.not_true, Bool.and_false] at afterGreater
              simp [diff, afterGreater, notLe]

private theorem isDominatingLoop_eq_secondDominates_iff (x y : T) (cols : List (SkylineCol D))
    (cmpLt cmpGt : Bool) (consistent : ¬ (cmpLt = true ∧ cmpGt = true)) :
    isDominatingLoop slotGetattr x y cols (!cmpLt && !cmpGt) cmpLt cmpGt = .secondDominates ↔
      cmpLt = false ∧ NoBetter slotGetattr cols x y ∧
        (cmpGt = true ∨ ∃ col ∈ cols, 0 < col.compare slotGetattr x y) := by
  induction cols generalizing cmpLt cmpGt with
  | nil => cases cmpLt <;> cases cmpGt <;> simp_all [isDominatingLoop, NoBetter]
  | cons col cols ih =>
      rw [isDominatingLoop_cons, noBetter_cons]
      rcases Int.lt_trichotomy (col.compare slotGetattr x y) 0 with less | equal | greater
      · have notEqual : col.compare slotGetattr x y ≠ 0 := by omega
        have notGe : ¬ 0 ≤ col.compare slotGetattr x y := by omega
        rw [if_neg notEqual, if_pos less]
        by_cases diff : col.skylineOfDir = .diff
        · simp [notEqual, diff]
        · cases cmpGt with
          | true => simp [diff, notGe]
          | false =>
              have afterLess := ih true false (by simp)
              simp only [Bool.not_true, Bool.false_and] at afterLess
              simp [diff, afterLess, notGe]
      · simp [equal, ih cmpLt cmpGt consistent]
      · have notEqual : col.compare slotGetattr x y ≠ 0 := by omega
        have notLess : ¬ col.compare slotGetattr x y < 0 := by omega
        rw [if_neg notEqual, if_neg notLess]
        by_cases diff : col.skylineOfDir = .diff
        · simp [notEqual, diff]
        · cases cmpLt with
          | true => simp [diff]
          | false =>
              have afterGreater := ih false true (by simp)
              simp only [Bool.not_true, Bool.and_false, true_or, and_true] at afterGreater
              simp [diff, afterGreater, greater, Int.le_of_lt greater]

variable (cols : List (SkylineCol D))

/-- `x` dominates `y` under the clause. -/
def Dominates (x y : T) : Prop :=
  execSkylineIsDominating slotGetattr cols x y = .firstDominates

/-- `x` and `y` are equal on every column of the clause. -/
def AllEq (x y : T) : Prop :=
  execSkylineIsDominating slotGetattr cols x y = .allEq

instance (x y : T) : Decidable (Dominates slotGetattr cols x y) :=
  inferInstanceAs (Decidable (_ = _))

instance (x y : T) : Decidable (AllEq slotGetattr cols x y) :=
  inferInstanceAs (Decidable (_ = _))

/-- The test by which every skyline method drops the second tuple. -/
def Beats (distinct : Bool) (x y : T) : Prop :=
  Dominates slotGetattr cols x y ∨ (AllEq slotGetattr cols x y ∧ distinct = true)

instance (distinct : Bool) (x y : T) : Decidable (Beats slotGetattr cols distinct x y) :=
  inferInstanceAs (Decidable (_ ∨ _))

theorem dominates_iff_noWorse_and_exists (x y : T) :
    Dominates slotGetattr cols x y ↔
      NoWorse slotGetattr cols x y ∧ ∃ col ∈ cols, col.compare slotGetattr x y < 0 := by
  have verdict := isDominatingLoop_eq_firstDominates_iff slotGetattr x y cols false false (by simp)
  simpa [Dominates, execSkylineIsDominating] using verdict

theorem allEq_iff_forall (x y : T) :
    AllEq slotGetattr cols x y ↔ ∀ col ∈ cols, col.compare slotGetattr x y = 0 := by
  have verdict := isDominatingLoop_eq_allEq_iff slotGetattr x y cols false false
  simpa [AllEq, execSkylineIsDominating] using verdict

theorem secondDominates_iff_noBetter_and_exists (x y : T) :
    execSkylineIsDominating slotGetattr cols x y = .secondDominates ↔
      NoBetter slotGetattr cols x y ∧ ∃ col ∈ cols, 0 < col.compare slotGetattr x y := by
  have verdict := isDominatingLoop_eq_secondDominates_iff slotGetattr x y cols false false (by simp)
  simpa [execSkylineIsDominating] using verdict

/-- `SKYLINE_CMP_DIFF_GRP_DIFF` is never answered. -/
theorem isDominatingLoop_ne_diffGrpDiff (x y : T) (cmpLt cmpGt : Bool) :
    isDominatingLoop slotGetattr x y cols (!cmpLt && !cmpGt) cmpLt cmpGt ≠ .diffGrpDiff := by
  induction cols generalizing cmpLt cmpGt with
  | nil => cases cmpLt <;> cases cmpGt <;> simp [isDominatingLoop]
  | cons col cols ih =>
      rw [isDominatingLoop_cons]
      have afterLess := ih true cmpGt
      have afterGreater := ih cmpLt true
      simp only [Bool.not_true, Bool.false_and, Bool.and_false] at afterLess afterGreater
      split_ifs
      · exact ih cmpLt cmpGt
      · simp
      · simp
      · exact afterLess
      · simp
      · exact afterGreater

theorem execSkylineIsDominating_ne_diffGrpDiff (x y : T) :
    execSkylineIsDominating slotGetattr cols x y ≠ .diffGrpDiff :=
  isDominatingLoop_ne_diffGrpDiff slotGetattr cols x y false false

end Verdict

/-! ## The order laws -/

section Laws

variable {slotGetattr : T → Nat → Option D} {cols : List (SkylineCol D)}

theorem noBetter_iff_noWorse_swap (lawful : LawfulCols cols) (x y : T) :
    NoBetter slotGetattr cols x y ↔ NoWorse slotGetattr cols y x := by
  refine forall₂_congr fun col colMem => ?_
  have swapped := (SkylineCol.compare_threeWay slotGetattr (lawful col colMem)).swap x y
  constructor
  · rintro ⟨diffEq, noBetter⟩
    exact ⟨fun diff => by have equal := diffEq diff; omega, by omega⟩
  · rintro ⟨diffEq, noWorse⟩
    exact ⟨fun diff => by have equal := diffEq diff; omega, by omega⟩

theorem NoWorse.refl (lawful : LawfulCols cols) (x : T) : NoWorse slotGetattr cols x x := by
  intro col colMem
  have equal := (SkylineCol.compare_threeWay slotGetattr (lawful col colMem)).self x
  exact ⟨fun _ => equal, Int.le_of_eq equal⟩

theorem NoWorse.trans (lawful : LawfulCols cols) {x y z : T}
    (first : NoWorse slotGetattr cols x y) (second : NoWorse slotGetattr cols y z) :
    NoWorse slotGetattr cols x z := by
  intro col colMem
  have threeWay := SkylineCol.compare_threeWay slotGetattr (lawful col colMem)
  obtain ⟨firstDiff, firstLe⟩ := first col colMem
  obtain ⟨secondDiff, secondLe⟩ := second col colMem
  have composed := threeWay.trans x y z firstLe secondLe
  refine ⟨fun diff => ?_, composed⟩
  have xy := firstDiff diff
  have yz := secondDiff diff
  have composedGe := threeWay.trans_ge (x := x) (y := y) (z := z) (by omega) (by omega)
  omega

/-- Domination is the strict part of `NoWorse`. -/
theorem dominates_iff (lawful : LawfulCols cols) (x y : T) :
    Dominates slotGetattr cols x y ↔
      NoWorse slotGetattr cols x y ∧ ¬ NoWorse slotGetattr cols y x := by
  rw [dominates_iff_noWorse_and_exists, ← noBetter_iff_noWorse_swap lawful x y]
  refine and_congr_right fun noWorse => ?_
  constructor
  · rintro ⟨col, colMem, less⟩ noBetter
    have notLess := (noBetter col colMem).2
    omega
  · intro notNoBetter
    by_contra noneLess
    refine notNoBetter fun col colMem => ⟨(noWorse col colMem).1, ?_⟩
    by_contra less
    exact noneLess ⟨col, colMem, by omega⟩

/-- `ALL_EQ` is the symmetric part of `NoWorse`. -/
theorem allEq_iff (lawful : LawfulCols cols) (x y : T) :
    AllEq slotGetattr cols x y ↔
      NoWorse slotGetattr cols x y ∧ NoWorse slotGetattr cols y x := by
  rw [allEq_iff_forall, ← noBetter_iff_noWorse_swap lawful x y]
  constructor
  · intro equal
    exact ⟨fun col colMem => ⟨fun _ => equal col colMem, Int.le_of_eq (equal col colMem)⟩,
      fun col colMem => ⟨fun _ => equal col colMem, Int.le_of_eq (equal col colMem).symm⟩⟩
  · rintro ⟨noWorse, noBetter⟩ col colMem
    have le := (noWorse col colMem).2
    have ge := (noBetter col colMem).2
    omega

theorem secondDominates_iff (lawful : LawfulCols cols) (x y : T) :
    execSkylineIsDominating slotGetattr cols x y = .secondDominates ↔
      Dominates slotGetattr cols y x := by
  rw [secondDominates_iff_noBetter_and_exists, dominates_iff_noWorse_and_exists,
    noBetter_iff_noWorse_swap lawful]
  refine and_congr_right fun _ => exists_congr fun col => and_congr_right fun colMem => ?_
  have swapped := (SkylineCol.compare_threeWay slotGetattr (lawful col colMem)).swap x y
  omega

theorem beats_true_iff (lawful : LawfulCols cols) (x y : T) :
    Beats slotGetattr cols true x y ↔ NoWorse slotGetattr cols x y := by
  simp only [Beats, dominates_iff lawful, allEq_iff lawful, and_true]
  by_cases reverse : NoWorse slotGetattr cols y x <;> simp [reverse]

theorem beats_false_iff (x y : T) :
    Beats slotGetattr cols false x y ↔ Dominates slotGetattr cols x y := by
  simp [Beats]

theorem not_dominates_self (lawful : LawfulCols cols) (x : T) :
    ¬ Dominates slotGetattr cols x x := by
  rw [dominates_iff lawful]
  exact fun dominates => dominates.2 dominates.1

theorem Dominates.noWorse (lawful : LawfulCols cols) {x y : T}
    (dominates : Dominates slotGetattr cols x y) : NoWorse slotGetattr cols x y :=
  ((dominates_iff lawful x y).mp dominates).1

/-- What dominates a tuple dominates what is no better. -/
theorem Dominates.trans_noWorse (lawful : LawfulCols cols) {x y z : T}
    (first : Dominates slotGetattr cols x y) (second : NoWorse slotGetattr cols y z) :
    Dominates slotGetattr cols x z := by
  rw [dominates_iff lawful] at first ⊢
  exact ⟨first.1.trans lawful second, fun reverse => first.2 (second.trans lawful reverse)⟩

theorem NoWorse.trans_dominates (lawful : LawfulCols cols) {x y z : T}
    (first : NoWorse slotGetattr cols x y) (second : Dominates slotGetattr cols y z) :
    Dominates slotGetattr cols x z := by
  rw [dominates_iff lawful] at second ⊢
  exact ⟨first.trans lawful second.1, fun reverse => second.2 (reverse.trans lawful first)⟩

theorem Dominates.trans (lawful : LawfulCols cols) {x y z : T}
    (first : Dominates slotGetattr cols x y) (second : Dominates slotGetattr cols y z) :
    Dominates slotGetattr cols x z :=
  first.trans_noWorse lawful (second.noWorse lawful)

theorem AllEq.noWorse (lawful : LawfulCols cols) {x y : T} (allEq : AllEq slotGetattr cols x y) :
    NoWorse slotGetattr cols x y :=
  ((allEq_iff lawful x y).mp allEq).1

theorem AllEq.refl (lawful : LawfulCols cols) (x : T) : AllEq slotGetattr cols x x :=
  (allEq_iff lawful x x).mpr ⟨NoWorse.refl lawful x, NoWorse.refl lawful x⟩

theorem AllEq.symm (lawful : LawfulCols cols) {x y : T} (allEq : AllEq slotGetattr cols x y) :
    AllEq slotGetattr cols y x :=
  (allEq_iff lawful y x).mpr ((allEq_iff lawful x y).mp allEq).symm

theorem AllEq.trans (lawful : LawfulCols cols) {x y z : T}
    (first : AllEq slotGetattr cols x y) (second : AllEq slotGetattr cols y z) :
    AllEq slotGetattr cols x z := by
  rw [allEq_iff lawful] at first second ⊢
  exact ⟨first.1.trans lawful second.1, second.2.trans lawful first.2⟩

/-- Both readings of the drop test are transitive. -/
theorem Beats.isTrans (lawful : LawfulCols cols) (distinct : Bool) :
    IsTrans T (Beats slotGetattr cols distinct) where
  trans x y z first second := by
    cases distinct with
    | true =>
        rw [beats_true_iff lawful] at first second ⊢
        exact first.trans lawful second
    | false =>
        rw [beats_false_iff] at first second ⊢
        exact first.trans lawful second

theorem Beats.of_dominates (distinct : Bool) {x y : T}
    (dominates : Dominates slotGetattr cols x y) : Beats slotGetattr cols distinct x y :=
  Or.inl dominates

theorem Beats.noWorse (lawful : LawfulCols cols) {distinct : Bool} {x y : T}
    (beats : Beats slotGetattr cols distinct x y) : NoWorse slotGetattr cols x y := by
  rcases beats with dominates | ⟨allEq, _⟩
  · exact dominates.noWorse lawful
  · exact allEq.noWorse lawful

/-- Who beats a tuple but not one that is no worse than it, is replaced by that. -/
theorem Beats.of_noWorse (lawful : LawfulCols cols) {distinct : Bool} {x y z : T}
    (beats : Beats slotGetattr cols distinct x z) (notBeats : ¬ Beats slotGetattr cols distinct x y)
    (noWorse : NoWorse slotGetattr cols y z) : Beats slotGetattr cols distinct y z := by
  cases distinct with
  | true => exact (beats_true_iff lawful y z).mpr noWorse
  | false =>
      rw [beats_false_iff] at beats notBeats ⊢
      rw [dominates_iff lawful]
      exact ⟨noWorse, fun reverse => notBeats (beats.trans_noWorse lawful reverse)⟩

/-- Two tuples neither of which drops the other when the first is compared with
the second are apart. -/
theorem apart_of_not_beats (lawful : LawfulCols cols) {distinct : Bool} {x y : T}
    (notBeats : ¬ Beats slotGetattr cols distinct x y)
    (notSecond : ¬ Dominates slotGetattr cols y x) :
    Covering.Apart (Beats slotGetattr cols distinct) x y := by
  refine ⟨notBeats, fun reverse => ?_⟩
  rcases reverse with dominates | ⟨allEq, isDistinct⟩
  · exact notSecond dominates
  · exact notBeats (Or.inr ⟨allEq.symm lawful, isDistinct⟩)

end Laws

end PgSkyline
