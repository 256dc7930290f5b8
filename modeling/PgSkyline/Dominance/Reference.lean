import PgSkyline.Dominance.Order

/-!
# The reference skyline

What a skyline method has to return, stated over the input as a multiset: all
undominated tuples with their multiplicity, or, for `SKYLINE OF DISTINCT`, one
tuple of each `ALL_EQ` class of undominated tuples.

Every method reaches the reference by elimination, so the results it returns
only have to cover the input and to be apart from each other.
-/

namespace PgSkyline

variable {T D : Type} (slotGetattr : T → Nat → Option D) (cols : List (SkylineCol D))

/-- No tuple of the input dominates `x`. -/
def Undominated (input : List T) (x : T) : Prop :=
  ∀ y ∈ input, ¬ Dominates slotGetattr cols y x

instance (input : List T) (x : T) : Decidable (Undominated slotGetattr cols input x) :=
  inferInstanceAs (Decidable (∀ y ∈ input, ¬ Dominates slotGetattr cols y x))

/-- `out` is a permutation of the undominated input tuples. -/
def IsSkylineAll (input out : List T) : Prop :=
  out.Perm (input.filter fun x => decide (Undominated slotGetattr cols input x))

/-- `out` consists of undominated input tuples and has exactly one tuple of each
of their `ALL_EQ` classes. -/
def IsSkylineDistinct (input out : List T) : Prop :=
  (∀ y ∈ out, y ∈ input ∧ Undominated slotGetattr cols input y) ∧
    ∀ x ∈ input, Undominated slotGetattr cols input x →
      out.countP (fun y => decide (AllEq slotGetattr cols x y)) = 1

/-- `out` is a correct result of the skyline clause on `input`. -/
def IsSkyline (distinct : Bool) (input out : List T) : Prop :=
  match distinct with
  | false => IsSkylineAll slotGetattr cols input out
  | true => IsSkylineDistinct slotGetattr cols input out

/-- The results cover the input and are apart from each other. -/
structure Sieved (distinct : Bool) (input out : List T) : Prop where
  covers : Covering.Covers (Beats slotGetattr cols distinct) out input
  apart : out.Pairwise (Covering.Apart (Beats slotGetattr cols distinct))

variable {slotGetattr} {cols}

theorem Undominated.of_allEq (lawful : LawfulCols cols) {input : List T} {x y : T}
    (undominated : Undominated slotGetattr cols input x) (allEq : AllEq slotGetattr cols x y) :
    Undominated slotGetattr cols input y :=
  fun z inputMem dominates => undominated z inputMem
    (dominates.trans_noWorse lawful ((allEq.symm lawful).noWorse lawful))

/-- Only undominated tuples belong to a skyline. -/
theorem IsSkyline.undominated {distinct : Bool} {input out : List T}
    (skyline : IsSkyline slotGetattr cols distinct input out) {x : T} (outMem : x ∈ out) :
    Undominated slotGetattr cols input x := by
  cases distinct with
  | false =>
      have filtered := (List.Perm.mem_iff skyline).mp outMem
      exact of_decide_eq_true (List.mem_filter.mp filtered).2
  | true => exact (skyline.1 x outMem).2

/-- Elimination without a rest reaches the reference. -/
theorem Sieved.isSkyline (lawful : LawfulCols cols) {distinct : Bool} {input out : List T}
    (sieved : Sieved slotGetattr cols distinct input out) :
    IsSkyline slotGetattr cols distinct input out := by
  rcases sieved with ⟨covers, apart⟩
  have trans : IsTrans T (Beats slotGetattr cols distinct) := Beats.isTrans lawful distinct
  cases distinct with
  | false =>
      refine covers.perm_filter_unbeaten (fun x beats => ?_) apart _ fun x => ?_
      · exact not_dominates_self lawful x ((beats_false_iff x x).mp beats)
      · simp only [decide_eq_true_eq, beats_false_iff]
        exact Iff.rfl
  | true =>
      have refl : ∀ x, Beats slotGetattr cols true x x :=
        fun x => (beats_true_iff lawful x x).mpr (NoWorse.refl lawful x)
      constructor
      · intro y outMem
        refine ⟨covers.mem_of_kept outMem, fun z inputMem dominates => ?_⟩
        have minimal := covers.minimal_of_kept refl apart outMem inputMem
          (Beats.of_dominates true dominates)
        exact ((dominates_iff lawful z y).mp dominates).2 (minimal.noWorse lawful)
      · intro x inputMem undominated
        refine covers.countP_equivalent_eq_one refl apart inputMem ?_ _ fun y => ?_
        · intro y inputMem' beats
          rw [beats_true_iff lawful] at beats ⊢
          by_contra notNoWorse
          exact undominated y inputMem' ((dominates_iff lawful y x).mpr ⟨beats, notNoWorse⟩)
        · simp only [decide_eq_true_eq, beats_true_iff lawful]
          exact allEq_iff lawful x y

/-- A skyline may come in any order. -/
theorem IsSkyline.perm {distinct : Bool} {input out out' : List T}
    (skyline : IsSkyline slotGetattr cols distinct input out) (same : out'.Perm out) :
    IsSkyline slotGetattr cols distinct input out' := by
  cases distinct with
  | false => exact List.Perm.trans same skyline
  | true =>
      constructor
      · exact fun y outMem => skyline.1 y (same.mem_iff.mp outMem)
      · intro x inputMem undominated
        rw [same.countP_eq]
        exact skyline.2 x inputMem undominated

/-! ## Results that agree -/

section SameResult

variable (slotGetattr) (cols)

/-- Two results are the same multiset, or they have the same number of tuples of
every `ALL_EQ` class. -/
def SameResult (distinct : Bool) (first second : List T) : Prop :=
  match distinct with
  | false => first.Perm second
  | true => ∀ x, first.countP (fun y => decide (AllEq slotGetattr cols x y)) =
      second.countP (fun y => decide (AllEq slotGetattr cols x y))

variable {slotGetattr} {cols}

theorem countP_allEq_congr (lawful : LawfulCols cols) {x y : T}
    (allEq : AllEq slotGetattr cols x y) (out : List T) :
    out.countP (fun z => decide (AllEq slotGetattr cols x z)) =
      out.countP (fun z => decide (AllEq slotGetattr cols y z)) := by
  apply List.countP_congr
  intro z _
  simp only [decide_eq_true_eq]
  constructor
  · exact fun fromX => (allEq.symm lawful).trans lawful fromX
  · exact fun fromY => allEq.trans lawful fromY

/-- A class of which one skyline has a tuple has one in the other. -/
theorem IsSkylineDistinct.countP_eq_one_of_mem (lawful : LawfulCols cols)
    {input first second : List T}
    (ofFirst : IsSkylineDistinct slotGetattr cols input first)
    (ofSecond : IsSkylineDistinct slotGetattr cols input second) {x y : T} (firstMem : y ∈ first)
    (allEq : AllEq slotGetattr cols x y) :
    second.countP (fun z => decide (AllEq slotGetattr cols x z)) = 1 := by
  rcases ofFirst.1 y firstMem with ⟨inputMem, undominated⟩
  rw [countP_allEq_congr lawful allEq]
  exact ofSecond.2 y inputMem undominated

/-- Two skylines of one input agree. -/
theorem IsSkyline.sameResult (lawful : LawfulCols cols) {distinct : Bool}
    {input first second : List T} (ofFirst : IsSkyline slotGetattr cols distinct input first)
    (ofSecond : IsSkyline slotGetattr cols distinct input second) :
    SameResult slotGetattr cols distinct first second := by
  cases distinct with
  | false => exact List.Perm.trans ofFirst (List.Perm.symm ofSecond)
  | true =>
      intro x
      by_cases inFirst : ∃ y ∈ first, AllEq slotGetattr cols x y
      · rcases inFirst with ⟨y, firstMem, allEq⟩
        rw [ofFirst.countP_eq_one_of_mem lawful ofFirst firstMem allEq,
          ofFirst.countP_eq_one_of_mem lawful ofSecond firstMem allEq]
      · by_cases inSecond : ∃ y ∈ second, AllEq slotGetattr cols x y
        · rcases inSecond with ⟨y, secondMem, allEq⟩
          rw [ofSecond.countP_eq_one_of_mem lawful ofFirst secondMem allEq,
            ofSecond.countP_eq_one_of_mem lawful ofSecond secondMem allEq]
        · have noneFirst : first.countP (fun z => decide (AllEq slotGetattr cols x z)) = 0 :=
            List.countP_eq_zero.mpr fun y mem equal => inFirst ⟨y, mem, of_decide_eq_true equal⟩
          have noneSecond : second.countP (fun z => decide (AllEq slotGetattr cols x z)) = 0 :=
            List.countP_eq_zero.mpr fun y mem equal => inSecond ⟨y, mem, of_decide_eq_true equal⟩
          rw [noneFirst, noneSecond]

end SameResult

/-! ## Inputs with the same skyline -/

section SameSkyline

variable (slotGetattr) (cols)

/-- Two inputs have the same reference skyline: the same undominated tuples with
the same multiplicity, or the same `ALL_EQ` classes of undominated tuples. -/
def SameSkyline (distinct : Bool) (first second : List T) : Prop :=
  match distinct with
  | false => (first.filter fun x => decide (Undominated slotGetattr cols first x)).Perm
      (second.filter fun x => decide (Undominated slotGetattr cols second x))
  | true =>
      (∀ x ∈ first, Undominated slotGetattr cols first x →
        ∃ y ∈ second, Undominated slotGetattr cols second y ∧ AllEq slotGetattr cols x y) ∧
      ∀ y ∈ second, Undominated slotGetattr cols second y →
        ∃ x ∈ first, Undominated slotGetattr cols first x ∧ AllEq slotGetattr cols y x

variable {slotGetattr} {cols} {distinct : Bool} {input kept : List T}

theorem undominated_of_covers (lawful : LawfulCols cols)
    (covers : Covering.Covers (Beats slotGetattr cols distinct) kept input) {x : T}
    (undominated : Undominated slotGetattr cols kept x) :
    Undominated slotGetattr cols input x := by
  intro y inputMem dominates
  rcases covers.mem_or_beaten inputMem with yKept | ⟨k, keptMem, beats⟩
  · exact undominated y yKept dominates
  · exact undominated k keptMem ((beats.noWorse lawful).trans_dominates lawful dominates)

/-- What covers the input has its skyline. -/
theorem sameSkyline_of_covers (lawful : LawfulCols cols)
    (covers : Covering.Covers (Beats slotGetattr cols distinct) kept input) :
    SameSkyline slotGetattr cols distinct input kept := by
  have ofInput : ∀ x, Undominated slotGetattr cols input x → Undominated slotGetattr cols kept x :=
    fun x undominated y keptMem => undominated y (covers.mem_of_kept keptMem)
  cases distinct with
  | false =>
      have sameTest : ∀ x, decide (Undominated slotGetattr cols kept x) =
          decide (Undominated slotGetattr cols input x) :=
        fun x => decide_eq_decide.mpr ⟨undominated_of_covers lawful covers, ofInput x⟩
      have filtered := covers.perm_filter
        (fun x => decide (Undominated slotGetattr cols input x)) fun x => by
          simp only [decide_eq_true_eq, beats_false_iff]
          exact Iff.rfl
      simp only [SameSkyline, sameTest]
      exact filtered.symm
  | true =>
      constructor
      · intro x inputMem undominated
        rcases covers.mem_or_beaten inputMem with xKept | ⟨k, keptMem, beats⟩
        · exact ⟨x, xKept, ofInput x undominated, AllEq.refl lawful x⟩
        · have noWorse := beats.noWorse lawful
          have reverse : NoWorse slotGetattr cols x k := by
            by_contra notNoWorse
            exact undominated k (covers.mem_of_kept keptMem)
              ((dominates_iff lawful k x).mpr ⟨noWorse, notNoWorse⟩)
          refine ⟨k, keptMem, ?_, (allEq_iff lawful x k).mpr ⟨reverse, noWorse⟩⟩
          intro y yMem dominates
          exact undominated y (covers.mem_of_kept yMem) (dominates.trans_noWorse lawful noWorse)
      · intro y keptMem undominated
        exact ⟨y, covers.mem_of_kept keptMem, undominated_of_covers lawful covers undominated,
          AllEq.refl lawful y⟩

/-- A skyline of what covers the input is a skyline of the input. -/
theorem IsSkyline.of_covers (lawful : LawfulCols cols)
    (covers : Covering.Covers (Beats slotGetattr cols distinct) kept input) {out : List T}
    (skyline : IsSkyline slotGetattr cols distinct kept out) :
    IsSkyline slotGetattr cols distinct input out := by
  have same := sameSkyline_of_covers lawful covers
  cases distinct with
  | false => exact List.Perm.trans skyline same.symm
  | true =>
      rcases skyline with ⟨sound, complete⟩
      constructor
      · intro y outMem
        rcases sound y outMem with ⟨keptMem, undominated⟩
        exact ⟨covers.mem_of_kept keptMem, undominated_of_covers lawful covers undominated⟩
      · intro x inputMem undominated
        rcases same.1 x inputMem undominated with ⟨k, keptMem, keptUndominated, allEq⟩
        rw [countP_allEq_congr lawful allEq]
        exact complete k keptMem keptUndominated

end SameSkyline

end PgSkyline
