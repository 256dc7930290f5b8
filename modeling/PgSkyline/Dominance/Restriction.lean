import PgSkyline.Dominance.Reference

/-!
# Skylines of restricted inputs

A qual on the rows may be applied before the skyline instead of behind it exactly if it
holds of every row that beats one of which it holds.  The DIFF columns give such a qual
for every group of rows.
-/

namespace PgSkyline

variable {T D : Type} (slotGetattr : T → Nat → Option D) (cols : List (SkylineCol D))

/-- The qual holds of what beats a tuple of which it holds. -/
def ClosedUnderBeaters (distinct : Bool) (qual : T → Bool) : Prop :=
  ∀ x y, Beats slotGetattr cols distinct x y → qual y = true → qual x = true

/-- The tuple is no worse than the bound in any of the columns. -/
def boundedBy (bound x : T) : Bool :=
  cols.all fun col => decide (col.compare slotGetattr x bound ≤ 0)

variable {slotGetattr} {cols} {distinct : Bool} {qual : T → Bool} {input out : List T}

/-- What beats a tuple keeps to the bounds of that tuple. -/
theorem closedUnderBeaters_boundedBy (lawful : LawfulCols cols) {bounds : List (SkylineCol D)}
    (sub : bounds ⊆ cols) (distinct : Bool) (bound : T) :
    ClosedUnderBeaters slotGetattr cols distinct (boundedBy slotGetattr bounds bound) := by
  intro x y beats bounded
  simp only [boundedBy, List.all_eq_true, decide_eq_true_eq] at bounded ⊢
  intro col colMem
  have noWorse := (beats.noWorse lawful col (sub colMem)).2
  have threeWay := SkylineCol.compare_threeWay slotGetattr (lawful col (sub colMem))
  exact threeWay.trans x y bound noWorse (bounded col colMem)

/-- Whoever dominates a tuple that is kept is kept as well. -/
theorem undominated_filter_iff (closed : ClosedUnderBeaters slotGetattr cols distinct qual) {x : T}
    (kept : qual x = true) :
    Undominated slotGetattr cols (input.filter qual) x ↔ Undominated slotGetattr cols input x := by
  constructor
  · intro undominated y inputMem dominates
    have yKept := closed y x (Beats.of_dominates distinct dominates) kept
    exact undominated y (List.mem_filter.mpr ⟨inputMem, yKept⟩) dominates
  · intro undominated y filterMem
    exact undominated y (List.mem_filter.mp filterMem).1

/-- The skyline of the kept tuples is what is kept of the skyline. -/
theorem IsSkyline.filter (lawful : LawfulCols cols)
    (closed : ClosedUnderBeaters slotGetattr cols distinct qual)
    (skyline : IsSkyline slotGetattr cols distinct input out) :
    IsSkyline slotGetattr cols distinct (input.filter qual) (out.filter qual) := by
  cases distinct with
  | false =>
      have filtered := List.Perm.filter qual skyline
      refine filtered.trans (List.Perm.of_eq ?_)
      rw [List.filter_filter, List.filter_filter]
      refine List.filter_congr fun x _ => ?_
      cases kept : qual x with
      | false => simp
      | true => simp [undominated_filter_iff closed kept]
  | true =>
      rcases skyline with ⟨sound, complete⟩
      constructor
      · intro y outMem
        rcases List.mem_filter.mp outMem with ⟨outMem, kept⟩
        rcases sound y outMem with ⟨inputMem, undominated⟩
        exact ⟨List.mem_filter.mpr ⟨inputMem, kept⟩,
          (undominated_filter_iff closed kept).mpr undominated⟩
      · intro x filterMem undominated
        rcases List.mem_filter.mp filterMem with ⟨inputMem, kept⟩
        rw [← complete x inputMem ((undominated_filter_iff closed kept).mp undominated),
          List.countP_filter]
        refine List.countP_congr fun y _ => ?_
        simp only [Bool.and_eq_true, decide_eq_true_eq, and_iff_left_iff_imp]
        exact fun allEq => closed y x (Or.inr ⟨allEq.symm lawful, rfl⟩) kept

/-- Of a tuple and one that it beats, the first alone is a skyline. -/
theorem isSkyline_pair (lawful : LawfulCols cols) {x y : T}
    (beats : Beats slotGetattr cols distinct x y) :
    IsSkyline slotGetattr cols distinct [x, y] [x] :=
  Sieved.isSkyline lawful ⟨⟨[y], List.Perm.refl _, by simpa using beats⟩,
    List.pairwise_singleton _ _⟩

private theorem isSkyline_singleton (lawful : LawfulCols cols) (x : T) :
    IsSkyline slotGetattr cols distinct [x] [x] :=
  Sieved.isSkyline lawful ⟨Covering.Covers.refl _ _, List.pairwise_singleton _ _⟩

/-- A skyline of one tuple is not empty. -/
theorem IsSkyline.not_sameResult_nil (lawful : LawfulCols cols) {x : T}
    (skyline : IsSkyline slotGetattr cols distinct [x] out) :
    ¬ SameResult slotGetattr cols distinct [] out := by
  intro sameNil
  have same := (isSkyline_singleton lawful x).sameResult lawful skyline
  cases distinct with
  | false =>
      have empty := List.Perm.trans same (List.Perm.symm sameNil)
      exact List.cons_ne_nil x [] (List.perm_nil.mp empty)
  | true =>
      have none_ := (same x).trans (sameNil x).symm
      simp [AllEq.refl lawful x] at none_

end PgSkyline
