import PgSkyline.Dominance.Restriction

/-!
# DIFF columns as groups

A tuple only dominates tuples with which it agrees on the DIFF columns.  So the skyline
consists of the skylines of the groups of tuples that agree there, and within a group
the other columns decide.
-/

namespace PgSkyline

variable {T D : Type}

/-- The columns that are not DIFF columns. -/
def withoutDiff (cols : List (SkylineCol D)) : List (SkylineCol D) :=
  cols.filter fun col => col.skylineOfDir != .diff

/-- The two tuples agree on the DIFF columns. -/
def sameGroup (slotGetattr : T → Nat → Option D) (cols : List (SkylineCol D)) (x y : T) : Bool :=
  cols.all fun col => col.skylineOfDir != .diff || col.compare slotGetattr x y == 0

variable {slotGetattr : T → Nat → Option D} {cols : List (SkylineCol D)} {distinct : Bool}
  {input out : List T} {x y z : T}

theorem sameGroup_iff : sameGroup slotGetattr cols x y = true ↔
    ∀ col ∈ cols, col.skylineOfDir = .diff → col.compare slotGetattr x y = 0 := by
  simp only [sameGroup, List.all_eq_true, Bool.or_eq_true, bne_iff_ne, beq_iff_eq]
  exact forall₂_congr fun col _ => imp_iff_not_or.symm

theorem sameGroup_symm (lawful : LawfulCols cols) (same : sameGroup slotGetattr cols x y = true) :
    sameGroup slotGetattr cols y x = true := by
  rw [sameGroup_iff] at same ⊢
  intro col colMem diff
  have swapped := (SkylineCol.compare_threeWay slotGetattr (lawful col colMem)).swap x y
  have equal := same col colMem diff
  omega

theorem sameGroup_trans (lawful : LawfulCols cols)
    (first : sameGroup slotGetattr cols x y = true)
    (second : sameGroup slotGetattr cols y z = true) : sameGroup slotGetattr cols x z = true := by
  rw [sameGroup_iff] at first second ⊢
  intro col colMem diff
  exact (SkylineCol.compare_threeWay slotGetattr (lawful col colMem)).eq_zero_trans
    (first col colMem diff) (second col colMem diff)

theorem NoWorse.sameGroup (noWorse : NoWorse slotGetattr cols x y) :
    sameGroup slotGetattr cols x y = true :=
  sameGroup_iff.mpr fun col colMem => (noWorse col colMem).1

/-- A group holds whatever beats one of its tuples. -/
theorem closedUnderBeaters_sameGroup (lawful : LawfulCols cols) (distinct : Bool) (group : T) :
    ClosedUnderBeaters slotGetattr cols distinct (sameGroup slotGetattr cols group) := by
  intro x y beats inGroup
  have same := (beats.noWorse lawful).sameGroup
  exact sameGroup_trans lawful inGroup (sameGroup_symm lawful same)

theorem lawfulCols_withoutDiff (lawful : LawfulCols cols) : LawfulCols (withoutDiff cols) :=
  fun col colMem => lawful col (List.mem_filter.mp colMem).1

/-! ## Within a group -/

theorem noWorse_withoutDiff_iff (same : sameGroup slotGetattr cols x y = true) :
    NoWorse slotGetattr (withoutDiff cols) x y ↔ NoWorse slotGetattr cols x y := by
  constructor
  · intro noWorse col colMem
    by_cases diff : col.skylineOfDir = .diff
    · have equal := sameGroup_iff.mp same col colMem diff
      exact ⟨fun _ => equal, Int.le_of_eq equal⟩
    · exact noWorse col (List.mem_filter.mpr ⟨colMem, by simpa using diff⟩)
  · exact fun noWorse col colMem => noWorse col (List.mem_filter.mp colMem).1

theorem dominates_withoutDiff_iff (lawful : LawfulCols cols)
    (same : sameGroup slotGetattr cols x y = true) :
    Dominates slotGetattr (withoutDiff cols) x y ↔ Dominates slotGetattr cols x y := by
  rw [dominates_iff (lawfulCols_withoutDiff lawful), dominates_iff lawful,
    noWorse_withoutDiff_iff same, noWorse_withoutDiff_iff (sameGroup_symm lawful same)]

theorem allEq_withoutDiff_iff (lawful : LawfulCols cols)
    (same : sameGroup slotGetattr cols x y = true) :
    AllEq slotGetattr (withoutDiff cols) x y ↔ AllEq slotGetattr cols x y := by
  rw [allEq_iff (lawfulCols_withoutDiff lawful), allEq_iff lawful,
    noWorse_withoutDiff_iff same, noWorse_withoutDiff_iff (sameGroup_symm lawful same)]

/-- Within one group the DIFF columns do not matter. -/
theorem IsSkyline.withoutDiff (lawful : LawfulCols cols)
    (oneGroup : ∀ x ∈ input, ∀ y ∈ input, sameGroup slotGetattr cols x y = true)
    (skyline : IsSkyline slotGetattr cols distinct input out) :
    IsSkyline slotGetattr (withoutDiff cols) distinct input out := by
  have undominatedIff : ∀ x ∈ input, (Undominated slotGetattr (PgSkyline.withoutDiff cols) input x ↔
      Undominated slotGetattr cols input x) := fun x xMem =>
    forall₂_congr fun y yMem =>
      not_congr (dominates_withoutDiff_iff lawful (oneGroup y yMem x xMem))
  cases distinct with
  | false =>
      refine List.Perm.trans skyline (List.Perm.of_eq ?_)
      exact List.filter_congr fun x xMem => decide_eq_decide.mpr (undominatedIff x xMem).symm
  | true =>
      rcases skyline with ⟨sound, complete⟩
      constructor
      · intro y outMem
        rcases sound y outMem with ⟨inputMem, undominated⟩
        exact ⟨inputMem, (undominatedIff y inputMem).mpr undominated⟩
      · intro x inputMem undominated
        rw [← complete x inputMem ((undominatedIff x inputMem).mp undominated)]
        refine List.countP_congr fun y outMem => ?_
        simp only [decide_eq_true_eq]
        exact allEq_withoutDiff_iff lawful (oneGroup x inputMem y (sound y outMem).1)

/-- Skylines of all groups under the other columns make up a skyline. -/
theorem isSkyline_of_groups (lawful : LawfulCols cols)
    (skylines : ∀ group, IsSkyline slotGetattr (withoutDiff cols) distinct
      (input.filter (sameGroup slotGetattr cols group))
      (out.filter (sameGroup slotGetattr cols group))) :
    IsSkyline slotGetattr cols distinct input out := by
  have self : ∀ x, sameGroup slotGetattr cols x x = true :=
    fun x => (NoWorse.refl lawful x).sameGroup
  have undominatedIff : ∀ x, (Undominated slotGetattr (withoutDiff cols)
      (input.filter (sameGroup slotGetattr cols x)) x ↔ Undominated slotGetattr cols input x) := by
    intro x
    rw [← undominated_filter_iff (closedUnderBeaters_sameGroup lawful distinct x) (self x)]
    refine forall₂_congr fun y yMem => not_congr ?_
    exact dominates_withoutDiff_iff lawful (sameGroup_symm lawful (List.mem_filter.mp yMem).2)
  cases distinct with
  | false =>
      classical
      refine List.perm_iff_count.mpr fun x => ?_
      have ofGroup := List.perm_iff_count.mp (skylines x) x
      rw [List.count_filter (self x)] at ofGroup
      rw [ofGroup]
      by_cases undominated : Undominated slotGetattr cols input x
      · rw [List.count_filter (by simpa using (undominatedIff x).mpr undominated),
          List.count_filter (self x), List.count_filter (by simpa using undominated)]
      · have goneGroup : x ∉ (input.filter (sameGroup slotGetattr cols x)).filter fun y =>
            decide (Undominated slotGetattr (withoutDiff cols)
              (input.filter (sameGroup slotGetattr cols x)) y) := by
          intro mem
          exact undominated
            ((undominatedIff x).mp (of_decide_eq_true (List.mem_filter.mp mem).2))
        have gone : x ∉ input.filter fun y => decide (Undominated slotGetattr cols input y) :=
          fun mem => undominated (of_decide_eq_true (List.mem_filter.mp mem).2)
        rw [List.count_eq_zero_of_not_mem goneGroup, List.count_eq_zero_of_not_mem gone]
  | true =>
      constructor
      · intro y outMem
        rcases (skylines y).1 y (List.mem_filter.mpr ⟨outMem, self y⟩) with ⟨mem, undominated⟩
        exact ⟨(List.mem_filter.mp mem).1, (undominatedIff y).mp undominated⟩
      · intro x inputMem undominated
        have ofGroup := (skylines x).2 x (List.mem_filter.mpr ⟨inputMem, self x⟩)
          ((undominatedIff x).mpr undominated)
        rw [← ofGroup, List.countP_filter]
        refine List.countP_congr fun y _ => ?_
        simp only [Bool.and_eq_true, decide_eq_true_eq]
        constructor
        · intro allEq
          have same := (allEq.noWorse lawful).sameGroup
          exact ⟨(allEq_withoutDiff_iff lawful same).mpr allEq, same⟩
        · rintro ⟨allEq, same⟩
          exact (allEq_withoutDiff_iff lawful same).mp allEq

/-- A result is a skyline exactly if it has the skyline of every group of tuples that agree
on the DIFF columns, under the other columns. -/
theorem isSkyline_iff_groups (lawful : LawfulCols cols) :
    IsSkyline slotGetattr cols distinct input out ↔
      ∀ group, IsSkyline slotGetattr (withoutDiff cols) distinct
        (input.filter (sameGroup slotGetattr cols group))
        (out.filter (sameGroup slotGetattr cols group)) := by
  constructor
  · intro skyline group
    have filtered := skyline.filter lawful (closedUnderBeaters_sameGroup lawful distinct group)
    refine filtered.withoutDiff lawful fun x xMem y yMem => ?_
    exact sameGroup_trans lawful (sameGroup_symm lawful (List.mem_filter.mp xMem).2)
      (List.mem_filter.mp yMem).2
  · exact isSkyline_of_groups lawful

end PgSkyline
