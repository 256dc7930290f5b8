import PgSkyline.Lifecycle.Core

/-!
# Rescans

A rescanned node has to behave like a freshly initialized node of the same plan
over the tuples that the outer plan now delivers.  Two leftovers break this: the
dangling pointer to the window that block nested loop has ended, and the result
slot of `ExecSkyline_1DimDistinct`, which the method takes for its first tuple.
-/

namespace PgSkyline

open Resumable

variable {T D R : Type} [LE R] [DecidableLE R] [LT R] [DecidableLT R]
variable {env : ExecEnv T D R} {node : Skyline D} {state : SkylineState T R}

/-- The node can be rescanned, and then its runs are those of a fresh node that
draws the same random numbers. -/
def RescanIsFresh (env : ExecEnv T D R) (node : Skyline D) (tuples : List T)
    (paramsChanged : Bool) (state : SkylineState T R) : Prop :=
  ∃ rescanned fresh, rescanWith env node tuples paramsChanged state = .ok rescanned ∧
    execInitSkyline env node (OuterPlan.init tuples) state.drawn = .ok fresh ∧
    ∀ n, run (execSkyline env node) n rescanned = run (execSkyline env node) n fresh

/-- The result slot still holds the tuple of an earlier scan. -/
def ResultSlotStale (node : Skyline D) (state : SkylineState T R) : Prop :=
  node.skylineMethod = .oneDimDistinct ∧ state.resultSlot ≠ none

/-! ## Window methods -/

omit [LE R] [DecidableLE R] [LT R] [DecidableLT R] in
/-- The options that were accepted once are accepted again. -/
theorem WindowTracked.init (windowed : node.skylineMethod.IsWindowed)
    {policy : TupleWindowPolicy} {windowSize windowSlots : Int}
    (tracked : WindowTracked env node policy windowSize windowSlots state) (tuples : List T)
    (drawn : Nat) :
    ∃ fresh, execInitSkyline env node (OuterPlan.init tuples) drawn = .ok fresh ∧
      WindowMethodStart policy
        (TupleWindowState.begin env.negDblMax windowSize windowSlots policy) tuples drawn
        (fresh : SkylineState T R) := by
  have noWindow : endWindow (makeSkylineState policy (OuterPlan.init tuples) drawn) =
      .ok (HandleTable.empty : HandleTable (TupleWindowState T R)) := rfl
  have begun : execInitSkyline env node (OuterPlan.init tuples) drawn =
      execSkylineInitTupleWindow env node
        (makeSkylineState policy (OuterPlan.init tuples) drawn) := by
    rw [execInitSkyline, tracked.policyEq, ok_bind]
  have inited := begun.trans
    (execSkylineInitTupleWindow_of_options windowed noWindow tracked.options)
  rcases windowMethodStart_of_init windowed inited with ⟨policy', policyEq', options', start⟩
  rcases tracked.options.unique options' with ⟨size, slots⟩
  cases tracked.policyEq.symm.trans policyEq'
  rw [size, slots] at start
  exact ⟨_, inited, start⟩

/-- Two window methods that have not begun run alike. -/
theorem run_eq_of_windowMethodStart (windowed : node.skylineMethod.IsWindowed)
    {policy : TupleWindowPolicy} {window : TupleWindowState T R} {input : List T} {drawn : Nat}
    {first second : SkylineState T R} (ofFirst : WindowMethodStart policy window input drawn first)
    (ofSecond : WindowMethodStart policy window input drawn second) (n : Nat) :
    run (execSkyline env node) n first = run (execSkyline env node) n second := by
  rcases windowed with method | method
  · rw [execSkyline_eq_blockNestedLoop method,
      blockNestedLoop_simulates.run_eq n ofFirst.blockNestedLoop,
      blockNestedLoop_simulates.run_eq n ofSecond.blockNestedLoop]
  · rw [execSkyline_eq_sfs method, sortFilter_simulates.run_eq n ofFirst.sortFilter,
      sortFilter_simulates.run_eq n ofSecond.sortFilter]

private theorem rescanIsFresh_of_windowTracked (windowed : node.skylineMethod.IsWindowed)
    {policy : TupleWindowPolicy} {windowSize windowSlots : Int}
    (tracked : WindowTracked env node policy windowSize windowSlots state)
    (notEnded : ¬ WindowEnded node state) (tuples : List T) (paramsChanged : Bool) :
    RescanIsFresh env node tuples paramsChanged state := by
  rcases tracked.rescan windowed notEnded tuples paramsChanged with
    ⟨rescanned, rescannedEq, ofRescanned⟩
  rcases tracked.init windowed tuples state.drawn with ⟨fresh, freshEq, ofFresh⟩
  exact ⟨rescanned, fresh, rescannedEq, freshEq,
    run_eq_of_windowMethodStart windowed ofRescanned ofFresh⟩

/-! ## Methods without a window -/

/-- Two methods without a window that have not begun run alike, if
`ExecSkyline_1DimDistinct` finds its result slot empty. -/
theorem run_eq_of_atStart (unwindowed : ¬ node.skylineMethod.IsWindowed) {tuples : List T}
    {first second : SkylineState T R} (ofFirst : AtStart first tuples)
    (ofSecond : AtStart second tuples) (firstEmpty : ¬ ResultSlotStale node first)
    (secondEmpty : ¬ ResultSlotStale node second) (n : Nat) :
    run (execSkyline env node) n first = run (execSkyline env node) n second := by
  unfold execSkyline
  cases method : node.skylineMethod with
  | blockNestedLoop => exact absurd (Or.inl method) unwindowed
  | sfs => exact absurd (Or.inr method) unwindowed
  | oneDim =>
      have firstView : OneDimView first (.start tuples) := ofFirst
      have secondView : OneDimView second (.start tuples) := ofSecond
      exact (oneDim_simulates.run_eq n firstView).trans (oneDim_simulates.run_eq n secondView).symm
  | twoDimPresort =>
      have firstView : PresortView first (.start tuples) := ofFirst
      have secondView : PresortView second (.start tuples) := ofSecond
      exact (presort_simulates.run_eq n firstView).trans
        (presort_simulates.run_eq n secondView).symm
  | materializedNestedLoop =>
      have firstView : NestedLoopView first (.start tuples) := ofFirst
      have secondView : NestedLoopView second (.start tuples) := ofSecond
      exact (nestedLoop_simulates.run_eq n firstView).trans
        (nestedLoop_simulates.run_eq n secondView).symm
  | oneDimDistinct =>
      have emptySlot : ∀ {slot : Option T},
          ¬ (node.skylineMethod = .oneDimDistinct ∧ slot ≠ none) → slot = none :=
        fun notStale => by_contra fun held => notStale ⟨method, held⟩
      have firstView : OneDimDistinctView first (.start tuples) := ⟨ofFirst, emptySlot firstEmpty⟩
      have secondView : OneDimDistinctView second (.start tuples) :=
        ⟨ofSecond, emptySlot secondEmpty⟩
      exact (oneDimDistinct_simulates.run_eq n firstView).trans
        (oneDimDistinct_simulates.run_eq n secondView).symm
  | unknown | elimFilter =>
      cases n with
      | zero => rfl
      | succ n => rfl

/-- A stale result slot is returned again, or it stands for a first tuple whose
datum was never read. -/
theorem run_ne_of_resultSlotStale (nonempty : node.cols ≠ []) {tuples : List T}
    {stale fresh : SkylineState T R} (ofStale : AtStart stale tuples)
    (staleSlot : ResultSlotStale node stale) (ofFresh : AtStart fresh tuples)
    (empty : fresh.resultSlot = none) :
    run (execSkyline env node) 1 stale ≠ run (execSkyline env node) 1 fresh := by
  rcases staleSlot with ⟨method, held⟩
  rcases List.exists_cons_of_ne_nil nonempty with ⟨col, cols, colsEq⟩
  rcases Option.ne_none_iff_exists'.mp held with ⟨old, slotEq⟩
  have first : firstCol node = .ok col := by simp only [firstCol, colsEq]
  cases tuples with
  | nil =>
      simp [run, execSkyline, method, execSkyline1DimDistinct, ofStale.1, ofFresh.1, first,
        ofStale.2.upcoming, ofFresh.2.upcoming, slotEq, empty, oneDimDistinctLoop]
  | cons tuple rest =>
      have returned : ∀ rest result datum1, ∃ least,
          oneDimDistinctLoop env col rest (some result) (some datum1) = .ok (some least) := by
        intro rest
        induction rest with
        | nil => exact fun result _ => ⟨result, rfl⟩
        | cons slot rest ih =>
            intro result datum1
            simp only [oneDimDistinctLoop]
            split
            · exact ih _ _
            · exact ih _ _
      rcases returned rest tuple (getDatum env col tuple) with ⟨least, looped⟩
      simp [run, execSkyline, method, execSkyline1DimDistinct, ofStale.1, ofFresh.1, first,
        ofStale.2.upcoming, ofFresh.2.upcoming, slotEq, empty, oneDimDistinctLoop, looped]

omit [LE R] [DecidableLE R] [LT R] [DecidableLT R] in
/-- A rescan keeps the result slot. -/
theorem rescanned_atStart (unwindowed : ¬ node.skylineMethod.IsWindowed)
    (tempIn : state.tempIn = none) (tempOut : state.tempOut = none) (tuples : List T)
    (paramsChanged : Bool) :
    ∃ rescanned, rescanWith env node tuples paramsChanged state = .ok rescanned ∧
      AtStart rescanned tuples ∧ rescanned.resultSlot = state.resultSlot :=
  ⟨_, rescanWith_of_unwindowed unwindowed tempIn tempOut tuples paramsChanged,
    ⟨rfl, state.outerPlanState.delivers_prepare tuples paramsChanged⟩, rfl⟩

omit [LE R] [DecidableLE R] [LT R] [DecidableLT R] in
private theorem fresh_atStart (unwindowed : ¬ node.skylineMethod.IsWindowed)
    {policy : TupleWindowPolicy}
    (policyEq : initWindowPolicy node = .ok policy) (tuples : List T) (drawn : Nat) :
    ∃ fresh : SkylineState T R, execInitSkyline env node (OuterPlan.init tuples) drawn = .ok fresh ∧
      AtStart fresh tuples ∧ fresh.resultSlot = none := by
  have freshEq : execInitSkyline env node (OuterPlan.init tuples) drawn =
      .ok { makeSkylineState policy (OuterPlan.init tuples) drawn with
        windowsize := -1, windowslots := -1 } := by
    rw [execInitSkyline, policyEq, ok_bind]
    exact execSkylineInitTupleWindow_of_unwindowed unwindowed _
  exact ⟨_, freshEq, atStart_of_init unwindowed freshEq⟩

/-! ## The exact condition -/

/-- In every state of every run, a rescan behaves like a fresh node unless block
nested loop has ended its window or the result slot of the distinct
one-dimensional method is filled. -/
theorem execReScanSkyline_fresh_iff (env : ExecEnv T D R) (node : Skyline D)
    (nonempty : node.cols ≠ []) (state : SkylineState T R)
    (reachable : Reachable env node (fun _ => True) state) (tuples : List T)
    (paramsChanged : Bool) :
    RescanIsFresh env node tuples paramsChanged state ↔
      ¬ (node.skylineMethod = .blockNestedLoop ∧ state.status = .done) ∧
      ¬ (node.skylineMethod = .oneDimDistinct ∧ state.resultSlot ≠ none) := by
  by_cases windowed : node.skylineMethod.IsWindowed
  · rcases reachable.windowTracked windowed with ⟨policy, windowSize, windowSlots, tracked⟩
    have notDistinct : ¬ (node.skylineMethod = .oneDimDistinct ∧ state.resultSlot ≠ none) := by
      rintro ⟨method, _⟩
      simp [SkylineMethod.IsWindowed, method] at windowed
    constructor
    · rintro ⟨rescanned, _, rescannedEq, _⟩
      exact ⟨not_windowEnded_of_rescanWith tracked rescannedEq, notDistinct⟩
    · rintro ⟨notEnded, _⟩
      exact rescanIsFresh_of_windowTracked windowed tracked notEnded tuples paramsChanged
  · rcases reachable.noTemp windowed with ⟨⟨policy, policyEq⟩, tempIn, tempOut⟩
    rcases @rescanned_atStart T D R env node state windowed tempIn tempOut tuples paramsChanged with
      ⟨rescanned, rescannedEq, ofRescanned, slotEq⟩
    rcases @fresh_atStart T D R env node windowed policy policyEq tuples state.drawn with
      ⟨fresh, freshEq, ofFresh, empty⟩
    rw [← slotEq]
    constructor
    · rintro ⟨rescanned', fresh', rescannedEq', freshEq', same⟩
      refine ⟨fun ended => windowed (Or.inl ended.1), fun stale => ?_⟩
      cases rescannedEq.symm.trans rescannedEq'
      cases freshEq.symm.trans freshEq'
      exact run_ne_of_resultSlotStale nonempty ofRescanned stale ofFresh empty (same 1)
    · rintro ⟨_, notStale⟩
      exact ⟨rescanned, fresh, rescannedEq, freshEq, run_eq_of_atStart windowed ofRescanned ofFresh
        notStale fun stale => stale.2 empty⟩

/-- Sort filter skyline is rescanned in the middle of its second pass. -/
theorem execReScanSkyline_fresh_iff_midScan :
    let node : Skyline Int :=
      ⟨[integerCol 1 .min, integerCol 2 .min], false, [⟨"slots", .integer 1⟩], .sfs, false⟩
    ∃ state, Reachable integerEnv node (fun _ => True) state ∧ state.source = .temp ∧
      (RescanIsFresh integerEnv node [] false state ↔
        ¬ (node.skylineMethod = .blockNestedLoop ∧ state.status = .done) ∧
        ¬ (node.skylineMethod = .oneDimDistinct ∧ state.resultSlot ≠ none)) := by
  intro node
  have reached : ∃ state, Reachable integerEnv node (fun _ => True) state ∧
      state.source = .temp :=
    @exists_reachable IntegerRow Int Int integerEnv node _ _ _ _ _ 6
      [[some 1, some 3], [some 2, some 2], [some 3, some 1]] 0 _ SkylineState.source _ rfl
  rcases reached with ⟨state, reachable, midScan⟩
  exact ⟨state, reachable, midScan,
    execReScanSkyline_fresh_iff integerEnv node (by simp [node]) state reachable [] false⟩

/-- Block nested loop ends its window twice if it is rescanned after its end, and
the distinct one-dimensional method returns the result of its first scan again. -/
theorem execReScanSkyline_leftovers :
    let bnl : Skyline Int :=
      ⟨[integerCol 1 .min, integerCol 2 .min], false, [], .blockNestedLoop, false⟩
    let distinct : Skyline Int := ⟨[integerCol 1 .min], true, [], .oneDimDistinct, false⟩
    (∃ state, Reachable integerEnv bnl (fun _ => True) state ∧
      rescanWith integerEnv bnl [] false state = .error .endedTwice) ∧
    (do
      let start ← execInitSkyline integerEnv distinct (OuterPlan.init [[some 5]]) 0
      let exhausted ← afterPasses integerEnv distinct 2 start
      let rescanned ← rescanWith integerEnv distinct [] false exhausted
      return run (execSkyline integerEnv distinct) 2 rescanned) = .ok ([[some 5]], .finished) ∧
    (do
      let fresh ← execInitSkyline integerEnv distinct (OuterPlan.init []) 0
      return run (execSkyline integerEnv distinct) 2 fresh) = .ok ([], .finished) := by
  intro bnl distinct
  refine ⟨?_, rfl, rfl⟩
  have reached : ∃ state, Reachable integerEnv bnl (fun _ => True) state ∧ state.status = .done :=
    @exists_reachable IntegerRow Int Int integerEnv bnl _ _ _ _ _ 3 [] 0 _ SkylineState.status _ rfl
  rcases reached with ⟨state, reachable, done⟩
  rcases reachable.windowTracked (Or.inl rfl) with ⟨_, _, _, tracked⟩
  exact ⟨state, reachable, tracked.rescan_ended ⟨rfl, done⟩ [] false⟩

end PgSkyline
