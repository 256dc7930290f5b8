import PgSkyline.NestedLoop.Result

/-!
# The results of the one-dimensional methods

Both methods return the minimum of the column, with or without its duplicates,
and never look at the direction of the column.  That is the skyline for every
direction except DIFF, under which no tuple dominates another.  Over an empty
input `ExecSkyline_1Dim` moreover looks at a flag that it has not assigned,
unless the type of the column is passed by value.
-/

namespace PgSkyline

open Comparison Resumable

variable {T D R : Type} {env : ExecEnv T D R} {node : Skyline D} {col : SkylineCol D}

namespace OneDim

/-! ## The running minimum -/

/-- A least tuple of the list on a column. -/
structure IsLeast (env : ExecEnv T D R) (col : SkylineCol D) (least : T) (tuples : List T) :
    Prop where
  mem : least ∈ tuples
  le : ∀ x ∈ tuples, col.compare env.slotGetattr least x ≤ 0

/-- The tuples of the list that compare equal to a least one. -/
def leastTuples (env : ExecEnv T D R) (col : SkylineCol D) (least : T) (tuples : List T) : List T :=
  tuples.filter fun x => decide (col.compare env.slotGetattr least x = 0)

variable {least slot : T} {seen : List T}

/-- A tuple that is not better leaves the minimum. -/
theorem IsLeast.keep (isLeast : IsLeast env col least seen)
    (notBetter : col.compare env.slotGetattr least slot ≤ 0) :
    IsLeast env col least (seen ++ [slot]) where
  mem := List.mem_append_left _ isLeast.mem
  le x mem := by
    rcases List.mem_append.mp mem with old | new
    · exact isLeast.le x old
    · rw [List.mem_singleton.mp new]
      exact notBetter

/-- A better tuple is strictly better than everything seen before. -/
theorem IsLeast.better (threeWay : ThreeWay (col.compare env.slotGetattr))
    (isLeast : IsLeast env col least seen) (better : 0 < col.compare env.slotGetattr least slot) :
    ∀ x ∈ seen, col.compare env.slotGetattr slot x < 0 := by
  intro x mem
  have swapped := threeWay.swap least slot
  exact threeWay.trans_lt_of_lt_of_le (y := least) (by omega) (isLeast.le x mem)

theorem IsLeast.replace (threeWay : ThreeWay (col.compare env.slotGetattr))
    (isLeast : IsLeast env col least seen) (better : 0 < col.compare env.slotGetattr least slot) :
    IsLeast env col slot (seen ++ [slot]) where
  mem := List.mem_append_right _ (List.mem_singleton_self slot)
  le x mem := by
    rcases List.mem_append.mp mem with old | new
    · exact Int.le_of_lt (isLeast.better threeWay better x old)
    · rw [List.mem_singleton.mp new]
      exact Int.le_of_eq (threeWay.self slot)

/-- The tuplestore of `ExecSkyline_1Dim` holds the least tuples. -/
theorem minimaLoop_eq (threeWay : ThreeWay (col.compare env.slotGetattr)) (tuples : List T)
    (isLeast : IsLeast env col least seen) :
    ∃ least', IsLeast env col least' (seen ++ tuples) ∧
      Scan.minimaLoop env col tuples (some (getDatum env col least))
        (leastTuples env col least seen) =
          (some (getDatum env col least'), leastTuples env col least' (seen ++ tuples)) := by
  induction tuples generalizing seen least with
  | nil => exact ⟨least, by simpa using isLeast, by simp [Scan.minimaLoop]⟩
  | cons slot rest ih =>
      have compared : compareDatums col (getDatum env col least) (getDatum env col slot) =
          col.compare env.slotGetattr least slot := rfl
      have split : seen ++ slot :: rest = (seen ++ [slot]) ++ rest := by simp
      simp only [Scan.minimaLoop, compared, split]
      rcases Int.lt_trichotomy (col.compare env.slotGetattr least slot) 0 with
        less | equal | greater
      · have notEqual : ¬ col.compare env.slotGetattr least slot = 0 := by omega
        have notGreater : ¬ col.compare env.slotGetattr least slot > 0 := by omega
        have stored : leastTuples env col least seen =
            leastTuples env col least (seen ++ [slot]) := by
          simp [leastTuples, notEqual]
        rw [if_neg notEqual, if_neg notGreater, stored]
        exact ih (isLeast.keep (Int.le_of_lt less))
      · have stored : leastTuples env col least seen ++ [slot] =
            leastTuples env col least (seen ++ [slot]) := by
          simp [leastTuples, equal]
        rw [if_pos equal, stored]
        exact ih (isLeast.keep (Int.le_of_eq equal))
      · have notEqual : ¬ col.compare env.slotGetattr least slot = 0 := by omega
        have stored : leastTuples env col slot (seen ++ [slot]) = [slot] := by
          have noneSeen : seen.filter (fun x => decide (col.compare env.slotGetattr slot x = 0)) =
              [] := by
            apply List.filter_eq_nil_iff.mpr
            intro x mem equal
            have strict := isLeast.better threeWay greater x mem
            have zero := of_decide_eq_true equal
            omega
          simp [leastTuples, noneSeen, threeWay.self slot]
        have continued := ih (isLeast.replace threeWay greater)
        rw [stored] at continued
        rw [if_neg notEqual, if_pos greater]
        exact continued

/-- `ExecSkyline_1DimDistinct` keeps a least tuple. -/
theorem oneDimDistinctLoop_eq (threeWay : ThreeWay (col.compare env.slotGetattr))
    (tuples : List T) (isLeast : IsLeast env col least seen) :
    ∃ least', IsLeast env col least' (seen ++ tuples) ∧
      oneDimDistinctLoop env col tuples (some least) (some (getDatum env col least)) =
        .ok (some least') := by
  induction tuples generalizing seen least with
  | nil => exact ⟨least, by simpa using isLeast, rfl⟩
  | cons slot rest ih =>
      have compared : compareDatums col (getDatum env col least) (getDatum env col slot) =
          col.compare env.slotGetattr least slot := rfl
      have split : seen ++ slot :: rest = (seen ++ [slot]) ++ rest := by simp
      simp only [oneDimDistinctLoop, compared, split]
      by_cases greater : col.compare env.slotGetattr least slot > 0
      · rw [if_pos greater]
        exact ih (isLeast.replace threeWay greater)
      · rw [if_neg greater]
        exact ih (isLeast.keep (Int.not_lt.mp greater))

/-! ## The skyline of one column -/

section Column

variable {slotGetattr : T → Nat → Option D} {distinct : Bool} {input : List T}

theorem dominates_singleton_iff (x y : T) :
    Dominates slotGetattr [col] x y ↔
      col.skylineOfDir ≠ .diff ∧ col.compare slotGetattr x y < 0 := by
  rw [dominates_iff_noWorse_and_exists]
  simp only [NoWorse, List.mem_singleton, forall_eq, exists_eq_left]
  constructor
  · rintro ⟨⟨diff, _⟩, less⟩
    exact ⟨fun isDiff => Int.ne_of_lt less (diff isDiff), less⟩
  · rintro ⟨ordinary, less⟩
    exact ⟨⟨fun isDiff => absurd isDiff ordinary, Int.le_of_lt less⟩, less⟩

theorem allEq_singleton_iff (x y : T) :
    AllEq slotGetattr [col] x y ↔ col.compare slotGetattr x y = 0 := by
  simp [allEq_iff_forall]

/-- The least tuples are the undominated ones: the column is not a DIFF column, or
all tuples are equal on it. -/
def LeastUndominated (slotGetattr : T → Nat → Option D) (col : SkylineCol D) (input : List T) :
    Prop :=
  col.skylineOfDir ≠ .diff ∨ ∀ x ∈ input, ∀ y ∈ input, col.compare slotGetattr x y = 0

variable {least : T}

theorem undominated_iff (threeWay : ThreeWay (col.compare env.slotGetattr))
    (isLeast : IsLeast env col least input)
    (leastUndominated : LeastUndominated env.slotGetattr col input) {x : T} (mem : x ∈ input) :
    Undominated env.slotGetattr [col] input x ↔ col.compare env.slotGetattr least x = 0 := by
  simp only [Undominated, dominates_singleton_iff, not_and]
  rcases leastUndominated with ordinary | allEqual
  · constructor
    · intro undominated
      have notLess := undominated least isLeast.mem ordinary
      have le := isLeast.le x mem
      omega
    · intro equal y yMem _ less
      have reached := threeWay.trans_lt_of_le_of_lt (isLeast.le y yMem) less
      omega
  · constructor
    · exact fun _ => allEqual least isLeast.mem x mem
    · intro _ y yMem _ less
      have equal := allEqual y yMem x mem
      omega

/-- All tuples are undominated under a DIFF column, so they have to be equal. -/
theorem leastUndominated_of_forall (threeWay : ThreeWay (col.compare env.slotGetattr))
    (returned : col.skylineOfDir = .diff → ∀ x ∈ input, col.compare env.slotGetattr least x = 0) :
    LeastUndominated env.slotGetattr col input := by
  by_cases isDiff : col.skylineOfDir = .diff
  · apply Or.inr
    intro x xMem y yMem
    have swapped := threeWay.swap least x
    have toX := returned isDiff x xMem
    exact threeWay.eq_zero_trans (by omega) (returned isDiff y yMem)
  · exact Or.inl isDiff

/-- Without DISTINCT the skyline consists of the least tuples. -/
theorem isSkylineAll_leastTuples_iff (threeWay : ThreeWay (col.compare env.slotGetattr))
    (isLeast : IsLeast env col least input) :
    IsSkylineAll env.slotGetattr [col] input (leastTuples env col least input) ↔
      LeastUndominated env.slotGetattr col input := by
  constructor
  · intro skyline
    apply leastUndominated_of_forall threeWay
    intro isDiff x mem
    have undominated : Undominated env.slotGetattr [col] input x := by
      simp [Undominated, dominates_singleton_iff, isDiff]
    have returned : x ∈ leastTuples env col least input :=
      (List.Perm.mem_iff skyline).mpr (List.mem_filter.mpr ⟨mem, by simpa using undominated⟩)
    exact of_decide_eq_true (List.mem_filter.mp returned).2
  · intro leastUndominated
    have same : leastTuples env col least input =
        input.filter fun x => decide (Undominated env.slotGetattr [col] input x) := by
      apply List.filter_congr
      intro x mem
      exact decide_eq_decide.mpr (undominated_iff threeWay isLeast leastUndominated mem).symm
    rw [IsSkylineAll, same]

/-- With DISTINCT a least tuple is a skyline. -/
theorem isSkylineDistinct_singleton_iff (threeWay : ThreeWay (col.compare env.slotGetattr))
    (isLeast : IsLeast env col least input) :
    IsSkylineDistinct env.slotGetattr [col] input [least] ↔
      LeastUndominated env.slotGetattr col input := by
  have swapped : ∀ x, col.compare env.slotGetattr x least = 0 ↔
      col.compare env.slotGetattr least x = 0 := by
    intro x
    have swap := threeWay.swap x least
    omega
  constructor
  · rintro ⟨_, complete⟩
    apply leastUndominated_of_forall threeWay
    intro isDiff x mem
    have undominated : Undominated env.slotGetattr [col] input x := by
      simp [Undominated, dominates_singleton_iff, isDiff]
    have counted := complete x mem undominated
    by_contra notEqual
    rw [← swapped] at notEqual
    simp [allEq_singleton_iff, notEqual] at counted
  · intro leastUndominated
    constructor
    · intro y mem
      rw [List.mem_singleton.mp mem]
      exact ⟨isLeast.mem, (undominated_iff threeWay isLeast leastUndominated isLeast.mem).mpr
        (threeWay.self least)⟩
    · intro x mem undominated
      have equal := (undominated_iff threeWay isLeast leastUndominated mem).mp undominated
      rw [← swapped] at equal
      simp [allEq_singleton_iff, equal]

end Column

/-! ## The drains of the methods -/

/-- What the methods return, by the reading of the clause. -/
def results (env : ExecEnv T D R) (col : SkylineCol D) (distinct : Bool) (least : T)
    (input : List T) : List T :=
  if distinct then [least] else leastTuples env col least input

theorem isSkyline_results_iff (threeWay : ThreeWay (col.compare env.slotGetattr)) {input : List T}
    (isLeast : IsLeast env col least input) (distinct : Bool) :
    IsSkyline env.slotGetattr [col] distinct input (results env col distinct least input) ↔
      LeastUndominated env.slotGetattr col input := by
  cases distinct with
  | false => exact isSkylineAll_leastTuples_iff threeWay isLeast
  | true => exact isSkylineDistinct_singleton_iff threeWay isLeast

theorem isLeast_singleton (threeWay : ThreeWay (col.compare env.slotGetattr)) (tuple : T) :
    IsLeast env col tuple [tuple] := by
  constructor
  · exact List.mem_singleton_self tuple
  · intro x mem
    rw [List.mem_singleton.mp mem]
    exact Int.le_of_eq (threeWay.self tuple)

private theorem stored_drains (queue : List T) :
    Drains (Scan.oneDimPass env node) (.stored queue) queue .done := by
  induction queue with
  | nil => exact .finished rfl
  | cons tuple rest ih => exact .emit rfl ih

/-- `ExecSkyline_1Dim` over an input with a first tuple. -/
theorem oneDimPass_drains (cols : node.cols = [col])
    (threeWay : ThreeWay (col.compare env.slotGetattr)) (tuple : T) (rest : List T) :
    ∃ least, IsLeast env col least (tuple :: rest) ∧
      Drains (Scan.oneDimPass env node) (.start (tuple :: rest))
        (leastTuples env col least (tuple :: rest)) .done := by
  have begun : leastTuples env col tuple [tuple] = [tuple] := by
    simp [leastTuples, threeWay.self tuple]
  rcases minimaLoop_eq threeWay rest (isLeast_singleton threeWay tuple) with
    ⟨least, isLeast, looped⟩
  refine ⟨least, isLeast, ?_⟩
  have released : releaseDatum env col (some (getDatum env col least)) = .ok () := by
    simp [releaseDatum]
  have step : Scan.oneDimPass env node (.start (tuple :: rest)) =
      Scan.pipeoutFrom (leastTuples env col least (tuple :: rest)) := by
    rw [begun] at looped
    simp only [Scan.oneDimPass, firstCol, cols, Scan.minimaLoop, List.nil_append, looped, ok_bind,
      released, List.cons_append]
  cases queue : leastTuples env col least (tuple :: rest) with
  | nil =>
      rw [queue] at step
      exact .finished step
  | cons first others =>
      rw [queue] at step
      exact .emit step (stored_drains others)

private theorem oneDimPass_drains_nil (cols : node.cols = [col])
    (byValue : env.typbyval col.skylineColIdx = true) :
    Drains (Scan.oneDimPass env node) (.start []) [] .done := by
  apply Drains.finished
  simp [Scan.oneDimPass, firstCol, cols, Scan.minimaLoop, releaseDatum, byValue, Scan.pipeoutFrom]

/-- Over an empty input the flag `isnull1` is read before it was assigned. -/
theorem oneDimPass_nil (cols : node.cols = [col])
    (byReference : env.typbyval col.skylineColIdx = false) :
    Scan.oneDimPass env node (.start []) = .error .uninitialized := by
  simp [Scan.oneDimPass, firstCol, cols, Scan.minimaLoop, releaseDatum, byReference]

private theorem oneDimDistinctPass_drains (cols : node.cols = [col])
    (threeWay : ThreeWay (col.compare env.slotGetattr)) (tuple : T) (rest : List T) :
    ∃ least, IsLeast env col least (tuple :: rest) ∧
      Drains (Scan.oneDimDistinctPass env node) (.start (tuple :: rest)) [least] .done := by
  rcases oneDimDistinctLoop_eq threeWay rest (isLeast_singleton threeWay tuple) with
    ⟨least, isLeast, looped⟩
  have step : Scan.oneDimDistinctPass env node (.start (tuple :: rest)) =
      .ok (.done, .emit least) := by
    simp only [Scan.oneDimDistinctPass, firstCol, cols, oneDimDistinctLoop, looped, ok_bind,
      pure_eq_ok]
  have ended : Scan.oneDimDistinctPass env node .done = .ok (.done, .finished) := rfl
  exact ⟨least, isLeast, .emit step (.finished ended)⟩

private theorem oneDimDistinctPass_drains_nil (cols : node.cols = [col]) :
    Drains (Scan.oneDimDistinctPass env node) (.start []) [] .done := by
  apply Drains.finished
  simp [Scan.oneDimDistinctPass, firstCol, cols, oneDimDistinctLoop]

end OneDim

/-! ## The exact condition -/

variable [LE R] [DecidableLE R] [LT R] [DecidableLT R]

section Methods

open OneDim

/-- Either method over a nonempty input. -/
theorem oneDim_drains (cols : node.cols = [col])
    (threeWay : ThreeWay (col.compare env.slotGetattr))
    (method : node.skylineMethod = if node.skylineDistinct then .oneDimDistinct else .oneDim)
    (tuple : T) (rest : List T) {state : SkylineState T R}
    (start : AtStart state (tuple :: rest)) (empty : state.resultSlot = none) :
    ∃ least last, IsLeast env col least (tuple :: rest) ∧
      Drains (execSkyline env node) state
        (results env col node.skylineDistinct least (tuple :: rest)) last ∧
      last.status = .done := by
  cases distinct : node.skylineDistinct with
  | false =>
      have isOneDim : node.skylineMethod = .oneDim := by simpa [distinct] using method
      have view : OneDimView state (.start (tuple :: rest)) := start
      rcases @oneDimPass_drains T D R env node col cols threeWay tuple rest with
        ⟨least, isLeast, scanDrains⟩
      rcases oneDim_simulates.drains view scanDrains with ⟨last, drains, done⟩
      refine ⟨least, last, isLeast, ?_, done⟩
      simpa only [execSkyline, isOneDim, results, Bool.false_eq_true, if_false] using drains
  | true =>
      have isDistinct : node.skylineMethod = .oneDimDistinct := by simpa [distinct] using method
      have view : OneDimDistinctView state (.start (tuple :: rest)) := ⟨start, empty⟩
      rcases @oneDimDistinctPass_drains T D R env node col cols threeWay tuple rest with
        ⟨least, isLeast, scanDrains⟩
      rcases oneDimDistinct_simulates.drains view scanDrains with ⟨last, drains, done⟩
      refine ⟨least, last, isLeast, ?_, done⟩
      simpa only [execSkyline, isDistinct, results, if_true] using drains

/-- Either method over an empty input. -/
theorem oneDim_drains_nil (cols : node.cols = [col])
    (method : node.skylineMethod = if node.skylineDistinct then .oneDimDistinct else .oneDim)
    (assigned : node.skylineMethod = .oneDim → env.typbyval col.skylineColIdx = true)
    {state : SkylineState T R} (start : AtStart state []) (empty : state.resultSlot = none) :
    ∃ last, Drains (execSkyline env node) state [] last ∧ last.status = .done := by
  cases distinct : node.skylineDistinct with
  | false =>
      have isOneDim : node.skylineMethod = .oneDim := by simpa [distinct] using method
      have view : OneDimView state (.start []) := start
      rcases oneDim_simulates.drains view (oneDimPass_drains_nil cols (assigned isOneDim)) with
        ⟨last, drains, done⟩
      exact ⟨last, by simpa only [execSkyline, isOneDim] using drains, done⟩
  | true =>
      have isDistinct : node.skylineMethod = .oneDimDistinct := by simpa [distinct] using method
      have view : OneDimDistinctView state (.start []) := ⟨start, empty⟩
      rcases oneDimDistinct_simulates.drains view (oneDimDistinctPass_drains_nil cols) with
        ⟨last, drains, done⟩
      exact ⟨last, by simpa only [execSkyline, isDistinct] using drains, done⟩

end Methods

/-- The materialized nested loop has the same result on the same clause and
input. -/
def AgreesWithNestedLoop (env : ExecEnv T D R) (node : Skyline D) (input : List T) (drawn : Nat)
    (out : List T) : Prop :=
  let other := { node with skylineMethod := .materializedNestedLoop }
  ∃ state out' last, execInitSkyline env other (OuterPlan.init input) drawn = .ok state ∧
    Drains (execSkyline env other) state out' last ∧
    SameResult env.slotGetattr node.cols node.skylineDistinct out out'

theorem agreesWithNestedLoop_of_isSkyline (lawful : LawfulCols node.cols)
    (unwindowed : ¬ node.skylineMethod.IsWindowed) {input out : List T} {drawn : Nat}
    {state : SkylineState T R}
    (init : execInitSkyline env node (OuterPlan.init input) drawn = .ok state)
    (skyline : IsSkyline env.slotGetattr node.cols node.skylineDistinct input out) :
    AgreesWithNestedLoop env node input drawn out := by
  rcases execInitSkyline_of_unwindowed unwindowed init with ⟨policy, policyEq, _⟩
  have otherInit : execInitSkyline env { node with skylineMethod := .materializedNestedLoop }
      (OuterPlan.init input) drawn =
        .ok { makeSkylineState policy (OuterPlan.init input) drawn with
          windowsize := -1, windowslots := -1 } := by
    have otherPolicy : initWindowPolicy { node with skylineMethod := .materializedNestedLoop } =
        .ok policy := policyEq
    rw [execInitSkyline, otherPolicy, ok_bind]
    exact execSkylineInitTupleWindow_of_unwindowed (by simp [SkylineMethod.IsWindowed]) _
  have start := (atStart_of_init (by simp [SkylineMethod.IsWindowed]) otherInit).1
  rcases @nestedLoop_drains T D R env { node with skylineMethod := .materializedNestedLoop }
    _ _ _ _ lawful rfl input _ start with
    ⟨out', last, drains, _, skyline'⟩
  exact ⟨_, out', last, otherInit, drains, skyline.sameResult lawful skyline'⟩

/-- The one-dimensional methods return the skyline, as the nested loop does,
exactly if a DIFF column holds one value only and no unassigned flag is read. -/
theorem execSkyline1Dim_correct_iff (env : ExecEnv T D R) (node : Skyline D) (col : SkylineCol D)
    (cols : node.cols = [col]) (lawful : LawfulCols node.cols) (hasMatchingPath : Bool)
    (chosen : skylineChooseMethod node.cols.length node.skylineDistinct node.skylineOfOptions
      hasMatchingPath = .ok node.skylineMethod)
    (method : node.skylineMethod = .oneDim ∨ node.skylineMethod = .oneDimDistinct)
    (input : List T) (drawn : Nat) (state : SkylineState T R)
    (init : execInitSkyline env node (OuterPlan.init input) drawn = .ok state) :
    (∃ out last, Drains (execSkyline env node) state out last ∧ last.status = .done ∧
        IsSkyline env.slotGetattr node.cols node.skylineDistinct input out ∧
        AgreesWithNestedLoop env node input drawn out) ↔
      (col.skylineOfDir ≠ .diff ∨
        ∀ x ∈ input, ∀ y ∈ input, col.compare env.slotGetattr x y = 0) ∧
      (node.skylineMethod = .oneDim → env.typbyval col.skylineColIdx = true ∨ input ≠ []) := by
  have methodEq := (skylineChooseMethod_oneDim chosen method).2
  have unwindowed : ¬ node.skylineMethod.IsWindowed := by
    rintro (windowed | windowed) <;> simp [windowed] at method
  have threeWay : ThreeWay (col.compare env.slotGetattr) :=
    SkylineCol.compare_threeWay env.slotGetattr (lawful col (by simp [cols]))
  rcases atStart_of_init unwindowed init with ⟨start, empty⟩
  cases input with
  | nil =>
      simp only [List.not_mem_nil, false_imp_iff, implies_true, or_true, true_and, ne_eq,
        not_true_eq_false, or_false]
      constructor
      · rintro ⟨out, last, drains, _⟩ isOneDim
        by_contra byReference
        have byReference : env.typbyval col.skylineColIdx = false := by simpa using byReference
        have failed := oneDim_simulates.error (show OneDimView state (.start []) from start)
          (@OneDim.oneDimPass_nil T D R env node col cols byReference)
        have dispatch : execSkyline env node state = .error .uninitialized := by
          simpa only [execSkyline, isOneDim] using failed
        cases drains with
        | again step _ => rw [dispatch] at step; cases step
        | emit step _ => rw [dispatch] at step; cases step
        | finished step => rw [dispatch] at step; cases step
      · intro assigned
        rcases oneDim_drains_nil cols methodEq assigned start empty with ⟨last, drains, done⟩
        have skyline : IsSkyline env.slotGetattr node.cols node.skylineDistinct [] [] := by
          apply Sieved.isSkyline lawful
          exact ⟨Covering.Covers.refl _ _, List.Pairwise.nil⟩
        exact ⟨[], last, drains, done, skyline,
          agreesWithNestedLoop_of_isSkyline lawful unwindowed init skyline⟩
  | cons tuple rest =>
      rcases oneDim_drains cols threeWay methodEq tuple rest start empty with
        ⟨least, last, isLeast, drains, done⟩
      have skylineIff := OneDim.isSkyline_results_iff threeWay isLeast node.skylineDistinct
      rw [← cols] at skylineIff
      simp only [ne_eq, reduceCtorEq, not_false_eq_true, or_true, implies_true, and_true]
      constructor
      · rintro ⟨out, last', drains', _, skyline, _⟩
        rw [(drains'.unique drains).1] at skyline
        exact skylineIff.mp skyline
      · intro leastUndominated
        have skyline := skylineIff.mpr leastUndominated
        exact ⟨_, last, drains, done, skyline,
          agreesWithNestedLoop_of_isSkyline lawful unwindowed init skyline⟩

/-- NULLs first and two tuples with the maximum. -/
theorem execSkyline1Dim_correct_iff_max :
    let col := integerCol 1 .max
    let node : Skyline Int := ⟨[col], false, [], .oneDim, false⟩
    let input : List IntegerRow := [[some 1], [none], [some 3], [none]]
    ∃ state, execInitSkyline integerEnv node (OuterPlan.init input) 0 = .ok state ∧
      ((∃ out last, Drains (execSkyline integerEnv node) state out last ∧ last.status = .done ∧
          IsSkyline integerEnv.slotGetattr node.cols node.skylineDistinct input out ∧
          AgreesWithNestedLoop integerEnv node input 0 out) ↔
        (col.skylineOfDir ≠ .diff ∨
          ∀ x ∈ input, ∀ y ∈ input, col.compare integerEnv.slotGetattr x y = 0) ∧
        (node.skylineMethod = .oneDim →
          integerEnv.typbyval col.skylineColIdx = true ∨ input ≠ [])) :=
  ⟨_, rfl, execSkyline1Dim_correct_iff integerEnv _ _ rfl
    (lawfulCols_integerCol [(1, SkylineOfDir.max)]) false rfl (Or.inl rfl) _ 0 _ rfl⟩

/-- Under `SKYLINE OF a DIFF` the second tuple is lost, and over no tuples of a type
that is passed by reference the flag is read before it was assigned. -/
theorem execSkyline1Dim_diffOrEmpty_fails :
    let diff : Skyline Int := ⟨[integerCol 1 .diff], false, [], .oneDim, false⟩
    let min : Skyline Int := ⟨[integerCol 1 .min], false, [], .oneDim, false⟩
    let input : List IntegerRow := [[some 1], [some 2]]
    let byReference := { integerEnv with typbyval := fun _ => false }
    skylineChooseMethod 1 false [] false = .ok .oneDim ∧
    (∃ state, execInitSkyline integerEnv diff (OuterPlan.init input) 0 = .ok state ∧
      (∃ last, Drains (execSkyline integerEnv diff) state [[some 1]] last) ∧
      ¬ ∃ out last, Drains (execSkyline integerEnv diff) state out last ∧
        IsSkyline integerEnv.slotGetattr diff.cols diff.skylineDistinct input out) ∧
    ∃ state, execInitSkyline byReference min (OuterPlan.init []) 0 = .ok state ∧
      run (execSkyline byReference min) 1 state = ([], .failed .uninitialized) := by
  intro diff min input byReference
  have drains : ∃ last, Drains (execSkyline integerEnv diff)
      { makeSkylineState .append (OuterPlan.init input) 0 with windowsize := -1, windowslots := -1 }
      [[some 1]] last :=
    ⟨_, .emit rfl (.finished rfl)⟩
  refine ⟨rfl, ⟨_, rfl, drains, ?_⟩, _, rfl, rfl⟩
  rintro ⟨out, last, drains', skyline⟩
  rcases drains with ⟨_, drains⟩
  rw [(drains'.unique drains).1] at skyline
  exact absurd (List.Perm.length_eq skyline) (by decide)

end PgSkyline
