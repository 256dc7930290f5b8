import PgSkyline.Lib.Ensures
import PgSkyline.Passes.Scans
import PgSkyline.Passes.Start

/-!
# Runs of a node

A node is initialized, called and rescanned in any order.  Calls are cut into
passes of the loop of the method, so a run reaches every state a node can have
between two calls, and more.
-/

namespace PgSkyline

open Fallible Resumable Tuplestorestate

/-- A fault of the life cycle of windows and tuplestores. -/
def Fault.OfHandle (fault : Fault) : Prop :=
  fault = .nullPointer ∨ fault = .usedAfterEnd ∨ fault = .endedTwice

instance (fault : Fault) : Decidable fault.OfHandle :=
  inferInstanceAs (Decidable (_ ∨ _))

variable {T D R : Type}

/-! ## Untouched handles -/

/-- The windows and temporary files are the same in both states. -/
structure SameFiles (state state' : SkylineState T R) : Prop where
  windows : state'.windows = state.windows
  window : state'.window = state.window
  tempIn : state'.tempIn = state.tempIn
  tempOut : state'.tempOut = state.tempOut

/-- Besides, the tuplestores are the same. -/
structure SameHandles (state state' : SkylineState T R) : Prop extends SameFiles state state' where
  stores : state'.stores = state.stores
  tuplestorestate : state'.tuplestorestate = state.tuplestorestate

/-- A pass that touches no handle. -/
abbrev TouchesNothing (state : SkylineState T R)
    (pass : Except Fault (SkylineState T R × Outcome T)) :
    Prop :=
  Ensures pass (fun result => SameHandles state result.1) fun fault => ¬ fault.OfHandle

variable (env : ExecEnv T D R) (node : Skyline D)

theorem execSkyline2DimPreSort_touchesNothing (state : SkylineState T R) :
    TouchesNothing state (execSkyline2DimPreSort env node state) := by
  unfold execSkyline2DimPreSort
  cases state.status with
  | init =>
      simp only
      split
      · exact ⟨⟨rfl, rfl, rfl, rfl⟩, rfl, rfl⟩
      · exact ⟨⟨rfl, rfl, rfl, rfl⟩, rfl, rfl⟩
  | process =>
      cases state.resultSlot with
      | none => simp [Fault.OfHandle]
      | some result =>
          simp only
          split
          · exact ⟨⟨rfl, rfl, rfl, rfl⟩, rfl, rfl⟩
          · split
            · exact ⟨⟨rfl, rfl, rfl, rfl⟩, rfl, rfl⟩
            · exact ⟨⟨rfl, rfl, rfl, rfl⟩, rfl, rfl⟩
  | done => exact ⟨⟨rfl, rfl, rfl, rfl⟩, rfl, rfl⟩
  | _ => simp [Fault.OfHandle]

theorem nestedLoopProcess_touchesNothing (state : SkylineState T R) :
    TouchesNothing state (nestedLoopProcess env node state) := by
  unfold nestedLoopProcess
  simp only
  split
  · exact ⟨⟨rfl, rfl, rfl, rfl⟩, rfl, rfl⟩
  · split
    · exact ⟨⟨rfl, rfl, rfl, rfl⟩, rfl, rfl⟩
    · exact ⟨⟨rfl, rfl, rfl, rfl⟩, rfl, rfl⟩

theorem execSkylineMaterializedNestedLoop_touchesNothing (state : SkylineState T R) :
    TouchesNothing state (execSkylineMaterializedNestedLoop env node state) := by
  unfold execSkylineMaterializedNestedLoop
  cases state.status with
  | init =>
      apply (nestedLoopProcess_touchesNothing env node _).mono
      intro result same
      exact ⟨⟨same.windows, same.window, same.tempIn, same.tempOut⟩, same.stores,
        same.tuplestorestate⟩
  | process => exact nestedLoopProcess_touchesNothing env node state
  | done => exact ⟨⟨rfl, rfl, rfl, rfl⟩, rfl, rfl⟩
  | _ => simp [Fault.OfHandle]

theorem firstCol_ensures :
    Ensures (firstCol node) (fun _ => True) fun fault => ¬ fault.OfHandle := by
  unfold firstCol
  cases node.cols with
  | nil => simp [Fault.OfHandle]
  | cons col cols => trivial

private theorem oneDimDistinctLoop_ensures (col : SkylineCol D) (tuples : List T)
    (resultSlot : Option T) (datum1 : Option (Option D)) :
    Ensures (oneDimDistinctLoop env col tuples resultSlot datum1) (fun _ => True) fun fault =>
      ¬ fault.OfHandle := by
  induction tuples generalizing resultSlot datum1 with
  | nil => trivial
  | cons slot rest ih =>
      cases resultSlot with
      | none => exact ih _ _
      | some result =>
          cases datum1 with
          | none => simp [oneDimDistinctLoop, Fault.OfHandle]
          | some datum1 =>
              simp only [oneDimDistinctLoop]
              split
              · exact ih _ _
              · exact ih _ _

theorem execSkyline1DimDistinct_touchesNothing (state : SkylineState T R) :
    TouchesNothing state (execSkyline1DimDistinct env node state) := by
  unfold execSkyline1DimDistinct
  cases state.status with
  | init =>
      apply (firstCol_ensures node).bind
      intro col _
      apply (oneDimDistinctLoop_ensures env col _ _ _).bind
      intro resultSlot _
      cases resultSlot with
      | none => exact ⟨⟨rfl, rfl, rfl, rfl⟩, rfl, rfl⟩
      | some result => exact ⟨⟨rfl, rfl, rfl, rfl⟩, rfl, rfl⟩
  | done => exact ⟨⟨rfl, rfl, rfl, rfl⟩, rfl, rfl⟩
  | _ => simp [Fault.OfHandle]

/-! ## `ExecSkyline_1Dim` and its tuplestore -/

theorem releaseDatum_ensures (col : SkylineCol D) (datum1 : Option (Option D)) :
    Ensures (releaseDatum env col datum1) (fun _ => True) fun fault => ¬ fault.OfHandle := by
  unfold releaseDatum
  split
  · trivial
  · cases datum1 with
    | none => simp [Fault.OfHandle]
    | some datum1 => trivial

/-- `SS_INIT` begins a tuplestore and forgets the one before. -/
theorem oneDimInit_ensures (state : SkylineState T R) :
    Ensures (oneDimInit env node state)
      (fun state' => ∃ store queue, Holds store queue ∧ state' = { state with
        tuplestorestate := some (state.stores.alloc store).1
        stores := (state.stores.alloc store).2
        outerPlanState := state.outerPlanState.exhaust
        status := .pipeout })
      fun fault => ¬ fault.OfHandle := by
  unfold oneDimInit
  apply (firstCol_ensures node).bind
  intro col _
  have begun := @holds_beginHeap T env.space false env.workMem
  have empty : Holds { beginHeap env.space false env.workMem with
      eflags := ⟨false, false, true⟩ } [] := ⟨begun.unread, begun.empty_of_eof⟩
  rcases @oneDimLoop_eq T D R env col state.outerPlanState.upcoming none _ _ empty rfl rfl with
    ⟨store, looped, holds⟩
  have flagged : (beginHeap env.space false env.workMem).setEflags ⟨false, false, true⟩ =
      .ok { beginHeap env.space false env.workMem with eflags := ⟨false, false, true⟩ } := rfl
  simp only [flagged, looped, ok_bind]
  apply (releaseDatum_ensures env col _).bind
  intro _ _
  exact ⟨store, _, holds, rfl⟩

/-- The only live tuplestore is the one that `SS_PIPEOUT` reads. -/
structure StoreOwned (state : SkylineState T R) : Prop where
  owned : ∀ handle, state.stores.Live handle → state.tuplestorestate = some handle
  opened : state.status = .pipeout →
    ∃ store queue, PointsTo state.stores state.tuplestorestate store ∧ Holds store queue
  closed : state.status ≠ .pipeout → ∀ handle, ¬ state.stores.Live handle

theorem oneDimPipeout_sameFiles (state : SkylineState T R) :
    Ensures (oneDimPipeout env state) (fun result => SameFiles state result.1) fun _ => True := by
  unfold oneDimPipeout
  apply (Ensures.trivial _).bind
  intro _ _
  apply (Ensures.trivial _).bind
  intro store _
  apply (Ensures.trivial _).bind
  rintro ⟨resultSlot, store⟩ _
  cases resultSlot with
  | some result => exact ⟨rfl, rfl, rfl, rfl⟩
  | none =>
      apply (Ensures.trivial _).bind
      intro stores _
      exact ⟨rfl, rfl, rfl, rfl⟩

private theorem execSkyline1Dim_sameFiles (state : SkylineState T R) :
    Ensures (execSkyline1Dim env node state) (fun result => SameFiles state result.1)
      fun _ => True := by
  unfold execSkyline1Dim
  cases state.status with
  | init =>
      apply ((oneDimInit_ensures env node state).weaken fun _ _ => trivial).bind
      rintro _ ⟨store, queue, _, rfl⟩
      apply (oneDimPipeout_sameFiles env _).mono
      intro result same
      exact ⟨same.windows, same.window, same.tempIn, same.tempOut⟩
  | pipeout => exact oneDimPipeout_sameFiles env state
  | done => exact ⟨rfl, rfl, rfl, rfl⟩
  | _ => trivial

/-- `SS_PIPEOUT` keeps its tuplestore until that is exhausted. -/
theorem oneDimPipeout_owned {state : SkylineState T R} (owned : StoreOwned state)
    (pipeout : state.status = .pipeout) :
    Ensures (oneDimPipeout env state) (fun result => SameFiles state result.1 ∧ StoreOwned result.1)
      fun fault => ¬ fault.OfHandle := by
  rcases owned.opened pipeout with ⟨store, queue, found, holds⟩
  simp only [oneDimPipeout, found.isSome, assertThat_true, found.deref, ok_bind]
  cases queue with
  | nil =>
      rcases holds.gettupleslot_nil env.space with ⟨store', fetched, _⟩
      rcases (found.assign store').endObject with ⟨stores, ended, live, _⟩
      simp only [fetched, ok_bind, ended]
      have noneLive : ∀ handle, ¬ stores.Live handle := by
        intro handle stillLive
        rcases live handle stillLive with ⟨wasLive, different⟩
        exact different (owned.owned handle (found.live_of_assign wasLive))
      refine ⟨⟨rfl, rfl, rfl, rfl⟩, ?_, ?_, fun _ => noneLive⟩
      · exact fun handle stillLive => absurd stillLive (noneLive handle)
      · exact fun impossible => by cases impossible
  | cons tuple rest =>
      rcases holds.gettupleslot_cons env.space with ⟨store', fetched, holds', _⟩
      simp only [fetched, ok_bind]
      refine ⟨⟨rfl, rfl, rfl, rfl⟩, ?_, ?_, fun other => absurd pipeout other⟩
      · exact fun handle live => owned.owned handle (found.live_of_assign live)
      · exact fun _ => ⟨store', rest, found.assign store', holds'⟩

theorem execSkyline1Dim_owned {state : SkylineState T R} (owned : StoreOwned state) :
    Ensures (execSkyline1Dim env node state)
      (fun result => SameFiles state result.1 ∧ StoreOwned result.1)
      fun fault => ¬ fault.OfHandle := by
  unfold execSkyline1Dim
  cases status : state.status with
  | init =>
      have noneLive := owned.closed (by simp [status])
      apply (oneDimInit_ensures env node state).bind
      rintro _ ⟨store, queue, holds, rfl⟩
      have begun : StoreOwned { state with
          tuplestorestate := some (state.stores.alloc store).1
          stores := (state.stores.alloc store).2
          outerPlanState := state.outerPlanState.exhaust
          status := .pipeout } := by
        refine ⟨?_, fun _ => ⟨store, queue, pointsTo_alloc _ _, holds⟩, by simp⟩
        exact fun handle live => (live_of_alloc live).resolve_right (noneLive handle)
      apply (oneDimPipeout_owned env begun rfl).mono
      rintro result ⟨same, owned'⟩
      exact ⟨⟨same.windows, same.window, same.tempIn, same.tempOut⟩, owned'⟩
  | pipeout => exact oneDimPipeout_owned env owned status
  | done => exact ⟨⟨rfl, rfl, rfl, rfl⟩, owned⟩
  | _ => simp [Fault.OfHandle]

/-! ## Runs -/

variable [LE R] [DecidableLE R] [LT R] [DecidableLT R]

/-- The states of a node over its runs, in which it is rescanned only in states
that satisfy `mayRescan`.  A call consists of one or more passes. -/
inductive Reachable (env : ExecEnv T D R) (node : Skyline D)
    (mayRescan : SkylineState T R → Prop) : SkylineState T R → Prop
  | init {tuples : List T} {drawn : Nat} {state : SkylineState T R} :
      execInitSkyline env node (OuterPlan.init tuples) drawn = .ok state →
      Reachable env node mayRescan state
  | call {state state' : SkylineState T R} {outcome : Outcome T} :
      Reachable env node mayRescan state → execSkyline env node state = .ok (state', outcome) →
      Reachable env node mayRescan state'
  | rescan {state state' : SkylineState T R} {tuples : List T} {paramsChanged : Bool} :
      Reachable env node mayRescan state → mayRescan state →
      rescanWith env node tuples paramsChanged state = .ok state' →
      Reachable env node mayRescan state'

/-- The state after a number of passes. -/
def afterPasses (env : ExecEnv T D R) (node : Skyline D) :
    Nat → SkylineState T R → Except Fault (SkylineState T R)
  | 0, state => .ok state
  | n + 1, state => do
      let (state, _) ← execSkyline env node state
      afterPasses env node n state

variable {env} {node} {mayRescan : SkylineState T R → Prop} {state : SkylineState T R}

theorem Reachable.passes (n : Nat) (reachable : Reachable env node mayRescan state)
    {state' : SkylineState T R} (passed : afterPasses env node n state = .ok state') :
    Reachable env node mayRescan state' := by
  induction n generalizing state with
  | zero =>
      cases passed
      exact reachable
  | succ n ih =>
      rcases (bind_eq_ok_iff _ _ _).mp passed with ⟨⟨next, outcome⟩, step, rest⟩
      exact ih (.call reachable step) rest

/-- A run of some passes from the initialization reaches a state with the observed
property. -/
theorem exists_reachable (n : Nat) {tuples : List T} {drawn : Nat} {α : Type}
    (observe : SkylineState T R → α) {a : α}
    (observed : (do
      let start ← execInitSkyline env node (OuterPlan.init tuples) drawn
      let state ← afterPasses env node n start
      return observe state) = .ok a) :
    ∃ state, Reachable env node mayRescan state ∧ observe state = a := by
  rcases (bind_eq_ok_iff _ _ _).mp observed with ⟨start, inited, rest⟩
  rcases (bind_eq_ok_iff _ _ _).mp rest with ⟨state, passed, same⟩
  exact ⟨state, Reachable.passes n (.init inited) passed, Except.ok.inj same⟩

/-! ### Window methods -/

/-- A window method stands for a pass in every state of its runs. -/
structure WindowTracked (env : ExecEnv T D R) (node : Skyline D) (policy : TupleWindowPolicy)
    (windowSize windowSlots : Int) (state : SkylineState T R) : Prop where
  policyEq : initWindowPolicy node = .ok policy
  options : WindowOptions env node windowSize windowSlots
  blockNestedLoop : node.skylineMethod = .blockNestedLoop →
    ∃ pass, BlockNestedLoopView policy state pass
  sortFilter : node.skylineMethod = .sfs → ∃ pass, SortFilterView policy state pass

/-- The window of a node has been ended and not begun anew. -/
def WindowEnded (node : Skyline D) (state : SkylineState T R) : Prop :=
  node.skylineMethod = .blockNestedLoop ∧ state.status = .done

namespace WindowTracked

variable {policy : TupleWindowPolicy} {windowSize windowSlots : Int}

omit [LE R] [DecidableLE R] [LT R] [DecidableLT R] in
theorem of_start (policyEq : initWindowPolicy node = .ok policy)
    (options : WindowOptions env node windowSize windowSlots) {window : TupleWindowState T R}
    {input : List T} {drawn : Nat} (start : WindowMethodStart policy window input drawn state) :
    WindowTracked env node policy windowSize windowSlots state where
  policyEq := policyEq
  options := options
  blockNestedLoop _ := ⟨_, start.blockNestedLoop⟩
  sortFilter _ := ⟨_, start.sortFilter⟩

theorem call (tracked : WindowTracked env node policy windowSize windowSlots state)
    {state' : SkylineState T R} {outcome : Outcome T}
    (step : execSkyline env node state = .ok (state', outcome)) :
    WindowTracked env node policy windowSize windowSlots state' where
  policyEq := tracked.policyEq
  options := tracked.options
  blockNestedLoop method := by
    rcases tracked.blockNestedLoop method with ⟨pass, view⟩
    rw [execSkyline_eq_blockNestedLoop method] at step
    rcases blockNestedLoop_simulates.exists_ok view step with ⟨pass', _, view'⟩
    exact ⟨pass', view'⟩
  sortFilter method := by
    rcases tracked.sortFilter method with ⟨pass, view⟩
    rw [execSkyline_eq_sfs method] at step
    rcases sortFilter_simulates.exists_ok view step with ⟨pass', _, view'⟩
    exact ⟨pass', view'⟩

omit [LE R] [DecidableLE R] [LT R] [DecidableLT R] in
/-- Unless it was ended, the node holds its window and knows its files. -/
theorem holds (tracked : WindowTracked env node policy windowSize windowSlots state)
    (windowed : node.skylineMethod.IsWindowed) (notEnded : ¬ WindowEnded node state) :
    (∃ window, HoldsWindow state.windows state.window window) ∧ state.files.Open ∧
      state.windowPolicy = policy ∧ state.flags = slFlagsOf policy ∧
      state.tuplestorestate = none := by
  rcases windowed with method | method
  · rcases tracked.blockNestedLoop method with ⟨pass, common, contents⟩
    have running : pass.status ≠ .done := fun done => notEnded ⟨method, common.status.trans done⟩
    cases status : pass.status with
    | done => exact absurd status running
    | init =>
        rw [status] at contents
        exact ⟨⟨_, contents.1⟩, Or.inl contents.2.1, common.windowPolicy, common.flags,
          common.tuplestorestate⟩
    | finalPipeout =>
        rw [status] at contents
        exact ⟨⟨_, contents.1⟩, Or.inl contents.2, common.windowPolicy, common.flags,
          common.tuplestorestate⟩
    | process | pipeout =>
        rw [status] at contents
        exact ⟨⟨_, contents.1⟩, Or.inr ⟨_, _, contents.2.1⟩, common.windowPolicy, common.flags,
          common.tuplestorestate⟩
  · rcases tracked.sortFilter method with ⟨pass, common, window, contents⟩
    refine ⟨⟨_, window⟩, ?_, common.windowPolicy, common.flags, common.tuplestorestate⟩
    cases status : pass.status with
    | init =>
        rw [status] at contents
        exact Or.inl contents.1
    | process =>
        rw [status] at contents
        exact Or.inr ⟨_, _, contents.1⟩
    | done =>
        rw [status] at contents
        exact Or.inl contents
    | pipeout | finalPipeout =>
        rw [status] at contents
        exact contents.elim

omit [LE R] [DecidableLE R] [LT R] [DecidableLT R] in
/-- Unless its window was ended, the node can be rescanned. -/
theorem rescan (tracked : WindowTracked env node policy windowSize windowSlots state)
    (windowed : node.skylineMethod.IsWindowed) (notEnded : ¬ WindowEnded node state)
    (tuples : List T) (paramsChanged : Bool) :
    ∃ state', rescanWith env node tuples paramsChanged state = .ok state' ∧
      WindowMethodStart policy
        (TupleWindowState.begin env.negDblMax windowSize windowSlots policy) tuples state.drawn
        state' := by
  rcases tracked.holds windowed notEnded with
    ⟨⟨window, holds⟩, isOpen, windowPolicy, flags, tuplestorestate⟩
  rcases windowMethodStart_of_rescan windowed tracked.options windowPolicy flags tuplestorestate
    holds isOpen tuples paramsChanged with ⟨state', rescanned, _, _, start⟩
  exact ⟨state', rescanned, start⟩

omit [LE R] [DecidableLE R] [LT R] [DecidableLT R] in
/-- A rescan after the end of a block nested loop ends the window once more. -/
theorem rescan_ended (tracked : WindowTracked env node policy windowSize windowSlots state)
    (ended : WindowEnded node state) (tuples : List T) (paramsChanged : Bool) :
    rescanWith env node tuples paramsChanged state = .error .endedTwice := by
  rcases ended with ⟨method, done⟩
  rcases tracked.blockNestedLoop method with ⟨pass, common, contents⟩
  rw [← common.status, done] at contents
  rcases contents with ⟨noneLive, pointer, _⟩
  cases window : state.window with
  | none => exact absurd window pointer
  | some handle =>
      have dead : state.windows.read handle = none := by
        by_contra live
        exact noneLive handle live
      simp only [rescanWith, execReScanSkyline, execSkylineInitTupleWindow, method, endWindow,
        window, endObject, dead, error_bind]

end WindowTracked

omit [LE R] [DecidableLE R] [LT R] [DecidableLT R] in
/-- A rescan succeeds only while the window of a node is live. -/
theorem not_windowEnded_of_rescanWith {policy : TupleWindowPolicy} {windowSize windowSlots : Int}
    (tracked : WindowTracked env node policy windowSize windowSlots state) {tuples : List T}
    {paramsChanged : Bool} {state' : SkylineState T R}
    (rescanned : rescanWith env node tuples paramsChanged state = .ok state') :
    ¬ WindowEnded node state := by
  intro ended
  rw [tracked.rescan_ended ended] at rescanned
  cases rescanned

theorem Reachable.windowTracked (windowed : node.skylineMethod.IsWindowed)
    (reachable : Reachable env node mayRescan state) :
    ∃ policy windowSize windowSlots,
      WindowTracked env node policy windowSize windowSlots state := by
  induction reachable with
  | init initialized =>
      rcases windowMethodStart_of_init windowed initialized with ⟨policy, policyEq, options, start⟩
      exact ⟨policy, _, _, .of_start policyEq options start⟩
  | call _ step ih =>
      rcases ih with ⟨policy, windowSize, windowSlots, tracked⟩
      exact ⟨policy, windowSize, windowSlots, tracked.call step⟩
  | @rescan state state' tuples paramsChanged _ _ rescanned ih =>
      rcases ih with ⟨policy, windowSize, windowSlots, tracked⟩
      have notEnded := not_windowEnded_of_rescanWith tracked rescanned
      rcases tracked.rescan windowed notEnded tuples paramsChanged with ⟨state'', same, start⟩
      cases same.symm.trans rescanned
      exact ⟨policy, windowSize, windowSlots, .of_start tracked.policyEq tracked.options start⟩

/-! ### Methods without a window -/

omit [LE R] [DecidableLE R] [LT R] [DecidableLT R] in
/-- Without a window and temporary files a rescan only restarts the scan. -/
theorem rescanWith_of_unwindowed (unwindowed : ¬ node.skylineMethod.IsWindowed)
    (tempIn : state.tempIn = none) (tempOut : state.tempOut = none) (tuples : List T)
    (paramsChanged : Bool) :
    rescanWith env node tuples paramsChanged state = .ok { state with
      status := .init
      scanSlot := none
      outerPlanState := reScanUnlessChanged (state.outerPlanState.prepare tuples paramsChanged)
      windowsize := -1
      windowslots := -1 } := by
  simp only [rescanWith, execReScanSkyline, execSkylineInitTupleWindow_of_unwindowed unwindowed,
    ok_bind, tempIn, tempOut, closeTemp, pure_eq_ok, SkylineStatus.ofSource]

private theorem execSkyline_sameFiles (unwindowed : ¬ node.skylineMethod.IsWindowed)
    (state : SkylineState T R) :
    Ensures (execSkyline env node state) (fun result => SameFiles state result.1)
      fun _ => True := by
  have forget : ∀ {pass : Except Fault (SkylineState T R × Outcome T)},
      TouchesNothing state pass →
        Ensures pass (fun result => SameFiles state result.1) fun _ => True :=
    fun untouched => (untouched.mono fun _ same => same.toSameFiles).weaken fun _ _ => trivial
  unfold execSkyline
  cases method : node.skylineMethod with
  | blockNestedLoop => exact absurd (Or.inl method) unwindowed
  | sfs => exact absurd (Or.inr method) unwindowed
  | oneDim => exact execSkyline1Dim_sameFiles env node state
  | oneDimDistinct => exact forget (execSkyline1DimDistinct_touchesNothing env node state)
  | twoDimPresort => exact forget (execSkyline2DimPreSort_touchesNothing env node state)
  | materializedNestedLoop =>
      exact forget (execSkylineMaterializedNestedLoop_touchesNothing env node state)
  | unknown | elimFilter => trivial

/-- A method without a window never opens a temporary file. -/
theorem Reachable.noTemp (unwindowed : ¬ node.skylineMethod.IsWindowed)
    (reachable : Reachable env node mayRescan state) :
    (∃ policy, initWindowPolicy node = .ok policy) ∧ state.tempIn = none ∧
      state.tempOut = none := by
  induction reachable with
  | init initialized =>
      rcases execInitSkyline_of_unwindowed unwindowed initialized with ⟨policy, policyEq, rfl⟩
      exact ⟨⟨policy, policyEq⟩, rfl, rfl⟩
  | @call state _ _ _ step ih =>
      have same := (execSkyline_sameFiles unwindowed state).ok step
      exact ⟨ih.1, same.tempIn.trans ih.2.1, same.tempOut.trans ih.2.2⟩
  | rescan _ _ rescanned ih =>
      rw [rescanWith_of_unwindowed unwindowed ih.2.1 ih.2.2] at rescanned
      cases rescanned
      exact ih

end PgSkyline
