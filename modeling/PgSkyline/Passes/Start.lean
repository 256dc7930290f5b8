import PgSkyline.Passes.Simulation
import PgSkyline.Window.Invariant

/-!
# Initialized and rescanned window methods

`ExecInitSkyline` and `ExecReScanSkyline` both leave a window method in the state
of a pass that has not begun: one empty window, no temporary file, and an outer
plan that delivers the input.
-/

namespace PgSkyline

open Resumable TupleWindowState

variable {T D R : Type}

/-- A window method that has not begun its scan of `input`. -/
structure WindowMethodStart (policy : TupleWindowPolicy) (window : TupleWindowState T R)
    (input : List T) (drawn : Nat) (state : SkylineState T R) : Prop where
  status : state.status = .init
  drawn : state.drawn = drawn
  windowPolicy : state.windowPolicy = policy
  flags : state.flags = slFlagsOf policy
  tuplestorestate : state.tuplestorestate = none
  window : HoldsWindow state.windows state.window window
  closed : state.files.Closed
  upcoming : state.outerPlanState.upcoming = input

namespace WindowMethodStart

variable {policy : TupleWindowPolicy} {window : TupleWindowState T R} {input : List T}
variable {drawn : Nat} {state : SkylineState T R}

theorem blockNestedLoop (start : WindowMethodStart policy window input drawn state) :
    BlockNestedLoopView policy state (Pass.init window input drawn) :=
  ⟨⟨start.status, start.drawn, start.windowPolicy, start.flags, start.tuplestorestate⟩,
    start.window, start.closed, start.upcoming⟩

theorem sortFilter (start : WindowMethodStart policy window input drawn state) :
    SortFilterView policy state (Pass.init window input drawn) :=
  ⟨⟨start.status, start.drawn, start.windowPolicy, start.flags, start.tuplestorestate⟩,
    start.window, start.closed, start.upcoming⟩

end WindowMethodStart

/-- The options of a node yield an acceptable window. -/
structure WindowOptions (env : ExecEnv T D R) (node : Skyline D) (windowSize windowSlots : Int) :
    Prop where
  size : windowSizeOption env node = .ok windowSize
  slots : windowSlotsOption node = .ok windowSlots
  positive : windowSlots ≠ 0

variable {env : ExecEnv T D R} {node : Skyline D}

theorem WindowOptions.unique {size size' slots slots' : Int}
    (first : WindowOptions env node size slots) (second : WindowOptions env node size' slots') :
    size' = size ∧ slots' = slots :=
  ⟨Except.ok.inj (second.size.symm.trans first.size),
    Except.ok.inj (second.slots.symm.trans first.slots)⟩

/-- The window of a node is replaced by a new one.  `windows` is the table after
the old window, if any, was ended. -/
theorem execSkylineInitTupleWindow_eq (windowed : node.skylineMethod.IsWindowed)
    {state : SkylineState T R} {windows : HandleTable (TupleWindowState T R)}
    (ended : endWindow state = .ok windows) :
    execSkylineInitTupleWindow env node state =
      (do
        let windowSize ← windowSizeOption env node
        let windowSlots ← windowSlotsOption node
        if windowSlots = 0 then throw (.elog "tuple window must have at least one slot")
        else
          let (window, windows) := windows.alloc
            (TupleWindowState.begin env.negDblMax windowSize windowSlots state.windowPolicy)
          return { state with
            window := some window, windows
            windowsize := windowSize, windowslots := windowSlots }) := by
  rcases windowed with method | method <;>
    simp only [execSkylineInitTupleWindow, method, ended, ok_bind]

theorem execSkylineInitTupleWindow_of_options (windowed : node.skylineMethod.IsWindowed)
    {state : SkylineState T R} {windows : HandleTable (TupleWindowState T R)}
    (ended : endWindow state = .ok windows)
    {windowSize windowSlots : Int} (options : WindowOptions env node windowSize windowSlots) :
    execSkylineInitTupleWindow env node state = .ok { state with
      window := some (windows.alloc
        (begin env.negDblMax windowSize windowSlots state.windowPolicy)).1
      windows := (windows.alloc
        (begin env.negDblMax windowSize windowSlots state.windowPolicy)).2
      windowsize := windowSize, windowslots := windowSlots } := by
  rw [execSkylineInitTupleWindow_eq windowed ended]
  simp only [options.size, options.slots, options.positive, ok_bind, if_false, pure_eq_ok]

/-- What a successful initialization says about the options. -/
theorem windowOptions_of_execSkylineInitTupleWindow (windowed : node.skylineMethod.IsWindowed)
    {state state' : SkylineState T R} {windows : HandleTable (TupleWindowState T R)}
    (ended : endWindow state = .ok windows)
    (success : execSkylineInitTupleWindow env node state = .ok state') :
    ∃ windowSize windowSlots, WindowOptions env node windowSize windowSlots := by
  rw [execSkylineInitTupleWindow_eq windowed ended] at success
  obtain ⟨windowSize, size, success⟩ := (bind_eq_ok_iff _ _ _).mp success
  obtain ⟨windowSlots, slots, success⟩ := (bind_eq_ok_iff _ _ _).mp success
  refine ⟨windowSize, windowSlots, size, slots, ?_⟩
  rintro rfl
  simp at success

/-! ## Initialization -/

/-- An initialized window method has not begun. -/
theorem windowMethodStart_of_init (windowed : node.skylineMethod.IsWindowed)
    {input : List T} {drawn : Nat} {state : SkylineState T R}
    (init : execInitSkyline env node (OuterPlan.init input) drawn = .ok state) :
    ∃ policy, initWindowPolicy node = .ok policy ∧
      WindowOptions env node state.windowsize state.windowslots ∧
      WindowMethodStart policy (begin env.negDblMax state.windowsize state.windowslots policy)
        input drawn state := by
  obtain ⟨policy, policyEq, initWindow⟩ := (bind_eq_ok_iff _ _ _).mp init
  obtain ⟨windowSize, windowSlots, options⟩ :=
    windowOptions_of_execSkylineInitTupleWindow windowed rfl initWindow
  rw [execSkylineInitTupleWindow_of_options windowed rfl options, Except.ok.injEq] at initWindow
  subst initWindow
  have noWindow :
      ∀ handle, ¬ (HandleTable.empty : HandleTable (TupleWindowState T R)).Live handle :=
    fun handle => by simp [HandleTable.Live]
  have noStore : ∀ handle, ¬ (HandleTable.empty : HandleTable (Tuplestorestate T)).Live handle :=
    fun handle => by simp [HandleTable.Live]
  exact ⟨policy, policyEq, options, rfl, rfl, rfl, rfl, rfl, holdsWindow_alloc noWindow _,
    ⟨rfl, rfl, noStore⟩, rfl⟩

/-- An initialized node has read nothing. -/
theorem counters_of_init {outer : OuterPlan T} {drawn : Nat} {state : SkylineState T R}
    (init : execInitSkyline env node outer drawn = .ok state) :
    state.source = .outer ∧ state.timestampIn = 0 := by
  rcases (bind_eq_ok_iff _ _ _).mp init with ⟨policy, _, initWindow⟩
  by_cases windowed : node.skylineMethod.IsWindowed
  · rw [execSkylineInitTupleWindow_eq windowed rfl] at initWindow
    simp only [bind_eq_ok_iff] at initWindow
    rcases initWindow with ⟨windowSize, _, windowSlots, _, begun⟩
    split at begun
    · cases begun
    · cases begun
      exact ⟨rfl, rfl⟩
  · rw [execSkylineInitTupleWindow_of_unwindowed windowed] at initWindow
    cases initWindow
    exact ⟨rfl, rfl⟩

/-! ## Rescans -/

/-- The temporary files that a rescan closes. -/
def Files.Open (files : Files T) : Prop :=
  files.Closed ∨ ∃ pending overflow, files.Reading pending overflow

/-- Closing both temporary files leaves none open. -/
theorem Files.Open.close {files : Files T} (isOpen : files.Open) :
    ∃ stores stores', closeTemp files.stores files.tempIn = .ok stores ∧
      closeTemp stores files.tempOut = .ok stores' ∧ ∀ handle, ¬ stores'.Live handle := by
  rcases isOpen with closed | ⟨pending, overflow, source, ⟨out, found, _⟩, apart, owned⟩
  · exact ⟨files.stores, files.stores, by rw [closed.tempIn]; rfl, by rw [closed.tempOut]; rfl,
      closed.owned⟩
  · have endsOut : ∀ stores, PointsTo stores files.tempOut out →
        (∀ handle, stores.Live handle → files.tempOut = some handle) →
        ∃ stores', closeTemp stores files.tempOut = .ok stores' ∧
          ∀ handle, ¬ stores'.Live handle := by
      intro stores foundOut ownedOut
      obtain ⟨stores', ended, live, _⟩ := foundOut.endObject
      obtain ⟨handle, tempOut, _⟩ := foundOut
      refine ⟨stores', by rw [tempOut] at ended ⊢; exact ended, fun other stillLive => ?_⟩
      exact (live other stillLive).2 (ownedOut other (live other stillLive).1)
    unfold Files.SourceHolds at source
    cases tempIn : files.tempIn with
    | none =>
        obtain ⟨stores', closed, noneLive⟩ := endsOut files.stores found fun handle live =>
          (owned handle live).resolve_left (by simp [tempIn])
        exact ⟨files.stores, stores', rfl, closed, noneLive⟩
    | some handleIn =>
        cases sourceEq : files.source with
        | outer =>
            rw [sourceEq] at source
            exact absurd (tempIn.symm.trans source.1) (by simp)
        | temp =>
            rw [sourceEq] at source
            obtain ⟨store, foundIn, _⟩ := source
            obtain ⟨stores, ended, live, kept⟩ := foundIn.endObject
            obtain ⟨stores', closed, noneLive⟩ := endsOut stores (kept _ _ apart found)
              fun handle stillLive =>
                (owned handle (live handle stillLive).1).resolve_left (live handle stillLive).2
            rw [tempIn] at ended
            exact ⟨stores, stores', ended, closed, noneLive⟩

/-- A window method that still has its window can be rescanned. -/
theorem windowMethodStart_of_rescan (windowed : node.skylineMethod.IsWindowed)
    {policy : TupleWindowPolicy} {state : SkylineState T R} {window : TupleWindowState T R}
    {windowSize windowSlots : Int} (options : WindowOptions env node windowSize windowSlots)
    (windowPolicy : state.windowPolicy = policy) (flags : state.flags = slFlagsOf policy)
    (tuplestorestate : state.tuplestorestate = none)
    (holds : HoldsWindow state.windows state.window window) (isOpen : state.files.Open)
    (tuples : List T) (paramsChanged : Bool) :
    ∃ state', rescanWith env node tuples paramsChanged state = .ok state' ∧
      state'.windowsize = windowSize ∧ state'.windowslots = windowSlots ∧
      WindowMethodStart policy (begin env.negDblMax windowSize windowSlots policy) tuples
        state.drawn state' := by
  obtain ⟨windows, ended, noneLive⟩ := holds.endObject
  obtain ⟨stores, stores', closedIn, closedOut, noStore⟩ := isOpen.close
  obtain ⟨handle, pointer, _⟩ := holds.found
  simp only [SkylineState.files] at closedIn closedOut
  have endedWindow : endWindow { state with
      status := SkylineStatus.ofSource .outer
      scanSlot := none
      outerPlanState := reScanUnlessChanged (state.outerPlanState.prepare tuples paramsChanged) } =
      .ok windows := by
    rw [pointer] at ended
    simpa only [endWindow, pointer] using ended
  have initialized := execSkylineInitTupleWindow_of_options windowed endedWindow options
  simp only [rescanWith, execReScanSkyline, initialized, ok_bind, closedIn, closedOut, pure_eq_ok]
  refine ⟨_, rfl, rfl, rfl, rfl, rfl, windowPolicy, flags, tuplestorestate, ?_,
    ⟨rfl, rfl, noStore⟩, ?_⟩
  · rw [← windowPolicy]
    exact holdsWindow_alloc noneLive _
  · exact (state.outerPlanState.delivers_prepare tuples paramsChanged).upcoming

end PgSkyline
