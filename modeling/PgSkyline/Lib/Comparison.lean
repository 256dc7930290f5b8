import Mathlib.Data.List.Basic
import Mathlib.Order.Lattice

/-!
# Three-way comparison functions

A comparison function answers with the sign of an integer.  It is three-way if it
orders its arguments by a total preorder.  Several comparisons are combined
lexicographically: the first one that tells two arguments apart decides.
-/

namespace Comparison

universe u

variable {A : Type u}

/-- A comparison that orders its arguments by a total preorder.  Only the sign of an
answer counts: the answer with the arguments exchanged has the opposite sign. -/
structure ThreeWay (f : A → A → Int) : Prop where
  neg_iff_pos : ∀ x y, f y x < 0 ↔ 0 < f x y
  trans : ∀ x y z, f x y ≤ 0 → f y z ≤ 0 → f x z ≤ 0

namespace ThreeWay

variable {f : A → A → Int}

/-- The sign of the exchanged answer. -/
theorem swap (threeWay : ThreeWay f) (x y : A) :
    (f y x < 0 ↔ 0 < f x y) ∧ (0 < f y x ↔ f x y < 0) :=
  ⟨threeWay.neg_iff_pos x y, (threeWay.neg_iff_pos y x).symm⟩

theorem self (threeWay : ThreeWay f) (x : A) : f x x = 0 := by
  have swapped := threeWay.swap x x
  omega

theorem trans_ge (threeWay : ThreeWay f) {x y z : A} (first : 0 ≤ f x y)
    (second : 0 ≤ f y z) : 0 ≤ f x z := by
  have xy := threeWay.swap x y
  have yz := threeWay.swap y z
  have xz := threeWay.swap x z
  have composed := threeWay.trans z y x (by omega) (by omega)
  omega

/-- A strict step on either side makes the composition strict. -/
theorem trans_lt_of_lt_of_le (threeWay : ThreeWay f) {x y z : A} (first : f x y < 0)
    (second : f y z ≤ 0) : f x z < 0 := by
  by_contra notLess
  have yz := threeWay.swap y z
  have reversed := threeWay.trans_ge (x := x) (y := z) (z := y) (by omega) (by omega)
  omega

theorem trans_lt_of_le_of_lt (threeWay : ThreeWay f) {x y z : A} (first : f x y ≤ 0)
    (second : f y z < 0) : f x z < 0 := by
  by_contra notLess
  have xy := threeWay.swap x y
  have reversed := threeWay.trans_ge (x := y) (y := x) (z := z) (by omega) (by omega)
  omega

/-- Between two equal arguments all are equal. -/
theorem eq_zero_of_between (threeWay : ThreeWay f) {x y z : A} (first : f x y ≤ 0)
    (second : f y z ≤ 0) (equal : f x z = 0) : f x y = 0 ∧ f y z = 0 := by
  constructor
  · by_contra notEqual
    have less := threeWay.trans_lt_of_lt_of_le (x := x) (y := y) (z := z) (by omega) second
    omega
  · by_contra notEqual
    have less := threeWay.trans_lt_of_le_of_lt (x := x) (y := y) (z := z) first (by omega)
    omega

theorem le_zero_of_ge (threeWay : ThreeWay f) {x y z : A} (first : 0 ≤ f x y)
    (whole : f x z ≤ 0) : f y z ≤ 0 := by
  have xy := threeWay.swap x y
  exact threeWay.trans y x z (by omega) whole

theorem eq_zero_trans (threeWay : ThreeWay f) {x y z : A} (first : f x y = 0)
    (second : f y z = 0) : f x z = 0 := by
  have le := threeWay.trans x y z (by omega) (by omega)
  have ge := threeWay.trans_ge (x := x) (y := y) (z := z) (by omega) (by omega)
  omega

/-- The sign of a comparison compares as the comparison does. -/
theorem sign (threeWay : ThreeWay f) : ThreeWay fun x y => (f x y).sign where
  neg_iff_pos x y := by
    rw [Int.sign_neg_iff, Int.sign_pos_iff]
    exact threeWay.neg_iff_pos x y
  trans x y z first second := by
    rw [Int.sign_nonpos_iff] at first second ⊢
    exact threeWay.trans x y z first second

end ThreeWay

/-! ## Integers -/

/-- The three-way comparison of integers. -/
def intCompare (x y : Int) : Int :=
  (x - y).sign

/-- A difference is a comparison. -/
theorem threeWay_sub : ThreeWay fun x y : Int => x - y where
  neg_iff_pos x y := by omega
  trans x y z first second := by omega

theorem threeWay_intCompare : ThreeWay intCompare :=
  threeWay_sub.sign

/-! ## Keys -/

section Key

variable {K : Type u} [LinearOrder K]

/-- The comparison of arguments by their keys in a linear order. -/
def keyCompare (key : A → K) (x y : A) : Int :=
  if key x < key y then -1 else if key y < key x then 1 else 0

variable {key : A → K} {x y : A}

theorem keyCompare_nonpos_iff : keyCompare key x y ≤ 0 ↔ key x ≤ key y := by
  unfold keyCompare
  rcases lt_trichotomy (key x) (key y) with less | equal | greater
  · simp [less, less.le]
  · simp [equal]
  · simp [greater, greater.not_gt]

theorem threeWay_keyCompare (key : A → K) : ThreeWay (keyCompare key) where
  neg_iff_pos x y := by
    unfold keyCompare
    rcases lt_trichotomy (key x) (key y) with less | equal | greater
    · simp [less, less.not_gt]
    · simp [equal]
    · simp [greater, greater.not_gt]
  trans x y z first second := by
    rw [keyCompare_nonpos_iff] at first second ⊢
    exact le_trans first second

/-- The keys are weakly in the order of the comparison. -/
structure Preserves (f : A → A → Int) (key : A → K) : Prop where
  le : ∀ x y, f x y ≤ 0 → key x ≤ key y
  ge : ∀ x y, 0 ≤ f x y → key y ≤ key x

theorem Preserves.eq {f : A → A → Int} (preserves : Preserves f key) (equal : f x y = 0) :
    key x = key y :=
  le_antisymm (preserves.le x y equal.le) (preserves.ge x y equal.ge)

end Key

/-! ## Lexicographic combination -/

/-- The first comparison that tells the arguments apart decides. -/
def lexicographic : List (A → A → Int) → A → A → Int
  | [], _, _ => 0
  | f :: fs, x, y => if f x y = 0 then lexicographic fs x y else f x y

variable {fs : List (A → A → Int)} {x y : A}

theorem lexicographic_neg_iff_pos (threeWay : ∀ f ∈ fs, ThreeWay f) :
    lexicographic fs y x < 0 ↔ 0 < lexicographic fs x y := by
  induction fs with
  | nil => simp [lexicographic]
  | cons f fs ih =>
      have swapped := (threeWay f List.mem_cons_self).swap x y
      have later := ih fun f mem => threeWay f (List.mem_cons_of_mem _ mem)
      unfold lexicographic
      by_cases equal : f x y = 0
      · have equal' : f y x = 0 := by omega
        rwa [if_pos equal, if_pos equal']
      · have apart : f y x ≠ 0 := by omega
        rw [if_neg equal, if_neg apart]
        exact swapped.1

/-- Behind comparisons that answer 0 the next one that does not decides. -/
theorem lexicographic_append_cons {before after : List (A → A → Int)} {f : A → A → Int}
    (equal : ∀ g ∈ before, g x y = 0) (apart : f x y ≠ 0) :
    lexicographic (before ++ f :: after) x y = f x y := by
  induction before with
  | nil => exact if_neg apart
  | cons g before ih =>
      rw [List.cons_append, lexicographic, if_pos (equal g List.mem_cons_self)]
      exact ih fun g mem => equal g (List.mem_cons_of_mem _ mem)

/-- Arguments told apart have a first difference. -/
theorem exists_first_difference (apart : ∃ f ∈ fs, f x y ≠ 0) :
    ∃ before f after, fs = before ++ f :: after ∧ (∀ g ∈ before, g x y = 0) ∧ f x y ≠ 0 ∧
      lexicographic fs x y = f x y := by
  induction fs with
  | nil => simp at apart
  | cons f fs ih =>
      by_cases equal : f x y = 0
      · rcases apart with ⟨other, otherMem, otherApart⟩
        rcases List.mem_cons.mp otherMem with rfl | laterMem
        · exact absurd equal otherApart
        · rcases ih ⟨other, laterMem, otherApart⟩ with
            ⟨before, g, after, rfl, beforeEqual, gApart, decides⟩
          refine ⟨f :: before, g, after, rfl, ?_, gApart, ?_⟩
          · intro h mem
            rcases List.mem_cons.mp mem with rfl | beforeMem
            · exact equal
            · exact beforeEqual h beforeMem
          · rw [lexicographic, if_pos equal, decides]
      · exact ⟨[], f, fs, rfl, by simp, equal, if_neg equal⟩

/-- If no comparison is positive and one is negative, so is the first difference. -/
theorem lexicographic_neg (noneGreater : ∀ f ∈ fs, f x y ≤ 0) (less : ∃ f ∈ fs, f x y < 0) :
    lexicographic fs x y < 0 := by
  rcases less with ⟨f, fMem, fLess⟩
  rcases exists_first_difference ⟨f, fMem, Int.ne_of_lt fLess⟩ with
    ⟨before, g, after, rfl, _, gApart, decides⟩
  have gLe := noneGreater g (by simp)
  omega

/-- What is in order on a list of comparisons is in order on its first ones. -/
theorem lexicographic_nonpos_of_prefix {shorter : List (A → A → Int)} (isPrefix : shorter <+: fs)
    (inOrder : lexicographic fs x y ≤ 0) : lexicographic shorter x y ≤ 0 := by
  rcases isPrefix with ⟨rest, rfl⟩
  induction shorter with
  | nil => simp [lexicographic]
  | cons f shorter ih =>
      rw [List.cons_append, lexicographic] at inOrder
      rw [lexicographic]
      split
      · rename_i equal
        rw [if_pos equal] at inOrder
        exact ih inOrder
      · rename_i different
        rwa [if_neg different] at inOrder

theorem lexicographic_eq_zero (equal : ∀ f ∈ fs, f x y = 0) : lexicographic fs x y = 0 := by
  induction fs with
  | nil => rfl
  | cons f fs ih =>
      rw [lexicographic, if_pos (equal f List.mem_cons_self)]
      exact ih fun g mem => equal g (List.mem_cons_of_mem _ mem)

/-- Comparisons that answer 0 where all in front do, never decide. -/
theorem lexicographic_append_of_follows {rest : List (A → A → Int)}
    (follows : (∀ f ∈ fs, f x y = 0) → ∀ g ∈ rest, g x y = 0) :
    lexicographic (fs ++ rest) x y = lexicographic fs x y := by
  induction fs with
  | nil => exact lexicographic_eq_zero (follows (List.forall_mem_nil _))
  | cons f fs ih =>
      rw [List.cons_append, lexicographic, lexicographic]
      split
      · rename_i equal
        exact ih fun equals => follows (List.forall_mem_cons.mpr ⟨equal, equals⟩)
      · rfl

theorem lexicographic_pair_nonpos_iff (f g : A → A → Int) :
    lexicographic [f, g] x y ≤ 0 ↔ f x y < 0 ∨ (f x y = 0 ∧ g x y ≤ 0) := by
  by_cases first : f x y = 0
  · by_cases second : g x y = 0 <;> simp [lexicographic, first, second]
  · simp only [lexicographic, first, if_false, false_and, or_false]
    omega

theorem lexicographic_singleton (f : A → A → Int) : lexicographic [f] x y = f x y := by
  by_cases equal : f x y = 0 <;> simp [lexicographic, equal]

/-- A lexicographic combination of three-way comparisons is one. -/
theorem threeWay_lexicographic (threeWay : ∀ f ∈ fs, ThreeWay f) : ThreeWay (lexicographic fs) := by
  induction fs with
  | nil => exact ⟨fun _ _ => Iff.rfl, fun _ _ _ _ _ => Int.le_refl 0⟩
  | cons f fs ih =>
      have head := threeWay f List.mem_cons_self
      have tail := ih fun g mem => threeWay g (List.mem_cons_of_mem _ mem)
      refine ⟨fun x y => lexicographic_neg_iff_pos threeWay, fun x y z first second => ?_⟩
      have below : ∀ {u v : A}, lexicographic (f :: fs) u v ≤ 0 → f u v ≤ 0 := by
        intro u v inOrder
        rw [lexicographic] at inOrder
        split at inOrder <;> omega
      have whole := head.trans x y z (below first) (below second)
      rw [lexicographic]
      split
      · rename_i equal
        rcases head.eq_zero_of_between (below first) (below second) equal with ⟨firstEq, secondEq⟩
        rw [lexicographic, if_pos firstEq] at first
        rw [lexicographic, if_pos secondEq] at second
        exact tail.trans x y z first second
      · exact whole

end Comparison
