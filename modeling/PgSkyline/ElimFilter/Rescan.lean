import PgSkyline.ElimFilter.Result
import PgSkyline.Lifecycle.Handles

/-!
# Rescans of the elimination filter

The filter owns one window and nothing else, and it never ends the window before a
rescan does.  So a rescan succeeds in every state, and it leaves a filter that cannot be
told from a fresh one.
-/

namespace PgSkyline

open Fallible Resumable TupleWindowState

variable {T D R : Type} [LE R] [DecidableLE R] [LT R] [DecidableLT R]

/-! ## The filter without handles -/

section Machine

variable (env : ExecEnv T D R) (node : Skyline D) (flags : SlFlags)

/-- The next tuple of the filter. -/
def elimFilterStep (pass : Pass T R) (slot : T) (rest : List T) :
    Except Fault (Pass T R × Outcome T) := do
  let (atEnd, window, drawn, _) ← compareWithWindow env node (removeCurrent env.space) flags slot
    pass.window pass.drawn none
  if atEnd then do
    let window ← putTupleSlot env.space env.negDblMax window slot 0 true
    return ({ pass with window, pending := rest, drawn }, .emit slot)
  else return ({ pass with window, pending := rest, drawn }, .again)

/-- The filter on a list of tuples. -/
def elimFilterPass : Body Fault (Pass T R) T := fun pass =>
  match pass.status with
  | .init => return ({ pass with status := .process }, .again)
  | .process =>
      match pass.pending with
      | [] => return ({ pass with status := .done }, .finished)
      | slot :: rest => elimFilterStep env node flags pass slot rest
  | .done => return (pass, .finished)
  | .pipeout | .finalPipeout => throw (.assertion "0")

omit [LT R] [DecidableLT R] in
/-- What `compareWithWindow` finds does not depend on the inner slot. -/
theorem compareWithWindow_innerSlot
    (secondDominates : TupleWindowState T R → Except Fault (TupleWindowState T R)) (slot : T)
    (window : TupleWindowState T R) (drawn : Nat) (innerSlot : Option T) :
    match compareWithWindow env node secondDominates flags slot window drawn none with
    | .error fault =>
        compareWithWindow env node secondDominates flags slot window drawn innerSlot =
          .error fault
    | .ok (atEnd, window', drawn', _) => ∃ innerSlot',
        compareWithWindow env node secondDominates flags slot window drawn innerSlot =
          .ok (atEnd, window', drawn', innerSlot') := by
  unfold compareWithWindow
  cases ranked : setRank env node flags slot (rewind window) drawn with
  | error fault => rfl
  | ok ranking =>
      rcases ranking with ⟨window, drawn⟩
      simp only [ok_bind, probe]
      have independent := probeLoop_innerSlot env (fun inner => isDominating env node inner slot)
        node.skylineDistinct secondDominates (window.slots.length + 1) window innerSlot
      revert independent
      cases probeLoop env.space (fun inner => isDominating env node inner slot)
          node.skylineDistinct secondDominates (window.slots.length + 1) window none with
      | error fault =>
          intro independent
          simp only [independent, error_bind]
      | ok result =>
          rcases result with ⟨atEnd, window', inner⟩
          rintro ⟨innerSlot', independent⟩
          simp only [independent, ok_bind, pure_eq_ok]
          exact ⟨innerSlot', rfl⟩

omit [LT R] [DecidableLT R] in
private theorem noHandleFault_compareWithWindow
    {secondDominates : TupleWindowState T R → Except Fault (TupleWindowState T R)}
    (safe : ∀ window, NoHandleFault (secondDominates window)) (slot : T)
    (window : TupleWindowState T R) (drawn : Nat) (innerSlot : Option T) :
    NoHandleFault
      (compareWithWindow env node secondDominates flags slot window drawn innerSlot) := by
  have ranked : NoHandleFault (setRank env node flags slot (rewind window) drawn) := by
    unfold setRank
    split
    · split
      · exact (noHandleFault_setInsertRank _ _).bind fun _ _ => trivial
      · split
        · exact (noHandleFault_setInsertRank _ _).bind fun _ _ => trivial
        · simp [Fault.OfHandle]
    · trivial
  apply ranked.bind
  rintro ⟨window, drawn⟩ _
  exact (noHandleFault_probeLoop env _ node.skylineDistinct safe _ window innerSlot).bind
    fun _ _ => trivial

private theorem noHandleFault_elimFilterPass (pass : Pass T R) :
    NoHandleFault (elimFilterPass env node flags pass) := by
  unfold elimFilterPass
  cases pass.status with
  | init | done => trivial
  | process =>
      cases pass.pending with
      | nil => trivial
      | cons slot rest =>
          apply (noHandleFault_compareWithWindow env node flags
            (noHandleFault_removeCurrent env.space) slot pass.window pass.drawn none).bind
          rintro ⟨atEnd, window, drawn, innerSlot⟩ _
          cases atEnd with
          | false => trivial
          | true =>
              exact (noHandleFault_putTupleSlot env.space env.negDblMax window slot 0 true).bind
                fun _ _ => trivial
  | pipeout | finalPipeout => simp [Fault.OfHandle]

end Machine

/-! ## The filter simulates the machine -/

/-- A filter stands for a pass. -/
structure FilterView (policy : TupleWindowPolicy) (state : SkylineState T R) (pass : Pass T R) :
    Prop extends WindowMethodView policy state pass where
  window : HoldsWindow state.windows state.window pass.window
  pending : state.outerPlanState.upcoming = pass.pending

variable {env : ExecEnv T D R} {node : Skyline D} {policy : TupleWindowPolicy}

theorem elimFilter_simulates : Simulates (execElimFilter env node)
    (elimFilterPass env node (slFlagsOf policy)) (FilterView policy) := by
  intro state pass view
  unfold execElimFilter elimFilterPass
  rw [view.status]
  cases status : pass.status with
  | init =>
      exact follows_ok ⟨⟨rfl, view.drawn, view.windowPolicy, view.flags, view.tuplestorestate⟩,
        view.window, view.pending⟩ _
  | done => exact follows_ok view _
  | pipeout | finalPipeout => exact follows_error _ _
  | process =>
      cases pending : pass.pending with
      | nil =>
          have fetched := OuterPlan.procNode_of_upcoming_nil (view.pending.trans pending)
          simp only [fetched]
          have settled : state.outerPlanState.refresh.upcoming = state.outerPlanState.upcoming := by
            rw [OuterPlan.upcoming, OuterPlan.refresh_refresh, OuterPlan.upcoming]
          exact follows_ok ⟨⟨rfl, view.drawn, view.windowPolicy, view.flags,
            view.tuplestorestate⟩, view.window, settled.trans (view.pending.trans pending)⟩ _
      | cons slot rest =>
          rcases OuterPlan.procNode_of_upcoming_cons (view.pending.trans pending) with
            ⟨fetched, advanced⟩
          rw [fetched] at advanced
          have independent := compareWithWindow_innerSlot env node (slFlagsOf policy)
            (removeCurrent env.space) slot pass.window pass.drawn state.resultSlot
          simp only [fetched, elimFilterTuple, elimFilterStep, view.window.found.deref, ok_bind,
            view.flags, view.drawn]
          revert independent
          cases compareWithWindow env node (removeCurrent env.space) (slFlagsOf policy) slot
              pass.window pass.drawn none with
          | error fault =>
              intro independent
              simp only [independent, error_bind, follows_error]
          | ok compared =>
              rcases compared with ⟨atEnd, window, drawn, inner⟩
              rintro ⟨innerSlot, independent⟩
              simp only [independent, ok_bind]
              cases atEnd with
              | false =>
                  exact follows_ok ⟨⟨status.symm, rfl, view.windowPolicy, rfl,
                    view.tuplestorestate⟩, view.window.assign _, advanced⟩ _
              | true =>
                  simp only [if_true]
                  cases putTupleSlot env.space env.negDblMax window slot 0 true with
                  | error fault => exact follows_error _ fault
                  | ok stored =>
                      exact follows_ok ⟨⟨status.symm, rfl, view.windowPolicy, rfl,
                        view.tuplestorestate⟩, view.window.assign _, advanced⟩ _

/-! ## Start of a scan -/

/-- What the options of the filter say about the window. -/
structure FilterOptions (node : Skyline D) (policy : TupleWindowPolicy)
    (windowSize windowSlots : Int) : Prop where
  policy : windowPolicyOption node "efwindowpolicy" = .ok policy
  size : elimFilterWindowSizeOption node = .ok windowSize
  slots : elimFilterWindowSlotsOption node = .ok windowSlots
  positive : windowSlots ≠ 0

omit [LE R] [DecidableLE R] [LT R] [DecidableLT R]

/-- The window of a filter is replaced by a new one.  `windows` is the table after the old
window, if any, was ended. -/
theorem execElimFilterInitTupleWindow_eq {windowSize windowSlots : Int}
    (options : FilterOptions node policy windowSize windowSlots) {state : SkylineState T R}
    {windows : HandleTable (TupleWindowState T R)} (ended : endWindow state = .ok windows) :
    execElimFilterInitTupleWindow env node state = .ok { state with
      window := some (windows.alloc
        (begin env.negDblMax windowSize windowSlots state.windowPolicy)).1
      windows := (windows.alloc
        (begin env.negDblMax windowSize windowSlots state.windowPolicy)).2
      windowsize := windowSize, windowslots := windowSlots } := by
  simp only [execElimFilterInitTupleWindow, ended, options.size, options.slots, options.positive,
    ok_bind, if_false, pure_eq_ok]

/-- A filter that was initialized has valid options. -/
theorem exists_filterOptions {outer : OuterPlan T} {drawn : Nat} {state : SkylineState T R}
    (init : execInitElimFilter env node outer drawn = .ok state) :
    ∃ policy windowSize windowSlots, FilterOptions node policy windowSize windowSlots := by
  rcases (bind_eq_ok_iff _ _ _).mp init with ⟨policy, policyEq, initWindow⟩
  rcases (bind_eq_ok_iff _ _ _).mp initWindow with ⟨windows, _, sized⟩
  rcases (bind_eq_ok_iff _ _ _).mp sized with ⟨windowSize, size, slotted⟩
  rcases (bind_eq_ok_iff _ _ _).mp slotted with ⟨windowSlots, slots, begun⟩
  refine ⟨policy, windowSize, windowSlots, policyEq, size, slots, ?_⟩
  rintro rfl
  simp at begun

/-- With valid options a filter is initialized, and it stands at the start. -/
theorem exists_fresh {windowSize windowSlots : Int}
    (options : FilterOptions node policy windowSize windowSlots) (tuples : List T) (drawn : Nat) :
    ∃ fresh, execInitElimFilter env node (OuterPlan.init tuples) drawn = .ok fresh ∧
      FilterView policy fresh
        (Pass.init (begin env.negDblMax windowSize windowSlots policy) tuples drawn) := by
  have noWindow : endWindow (makeSkylineState policy (OuterPlan.init tuples) drawn) =
      .ok (HandleTable.empty : HandleTable (TupleWindowState T R)) := rfl
  have noneLive :
      ∀ handle, ¬ (HandleTable.empty : HandleTable (TupleWindowState T R)).Live handle :=
    fun handle => by simp [HandleTable.Live]
  rw [execInitElimFilter, options.policy, ok_bind,
    execElimFilterInitTupleWindow_eq options noWindow]
  exact ⟨_, rfl, ⟨rfl, rfl, rfl, rfl, rfl⟩, holdsWindow_alloc noneLive _, rfl⟩

/-- In any state a rescan replaces the window and starts over. -/
theorem exists_rescanned {windowSize windowSlots : Int}
    (options : FilterOptions node policy windowSize windowSlots) {state : SkylineState T R}
    {pass : Pass T R} (view : FilterView policy state pass) (tuples : List T)
    (paramsChanged : Bool) :
    ∃ rescanned, rescanElimFilterWith env node tuples paramsChanged state = .ok rescanned ∧
      FilterView policy rescanned
        (Pass.init (begin env.negDblMax windowSize windowSlots policy) tuples state.drawn) := by
  rcases view.window.endObject with ⟨windows, ended, noneLive⟩
  rcases view.window.found with ⟨handle, pointer, _⟩
  have endedWindow : endWindow { state with
      status := .init
      scanSlot := none
      outerPlanState := reScanUnlessChanged (state.outerPlanState.prepare tuples paramsChanged) } =
      .ok windows := by
    rw [pointer] at ended
    simpa only [endWindow, pointer] using ended
  refine ⟨_, execElimFilterInitTupleWindow_eq options endedWindow,
    ⟨rfl, rfl, view.windowPolicy, view.flags, view.tuplestorestate⟩, ?_, ?_⟩
  · rw [← view.windowPolicy]
    exact holdsWindow_alloc noneLive _
  · exact (state.outerPlanState.delivers_prepare tuples paramsChanged).upcoming

/-! ## Runs -/

variable [LE R] [DecidableLE R] [LT R] [DecidableLT R]

/-- The states of a filter over its runs: it is initialized, called and rescanned in any
order.  A call consists of one or more passes. -/
inductive FilterLife (env : ExecEnv T D R) (node : Skyline D) : SkylineState T R → Prop
  | init {tuples : List T} {drawn : Nat} {state : SkylineState T R} :
      execInitElimFilter env node (OuterPlan.init tuples) drawn = .ok state →
      FilterLife env node state
  | call {state state' : SkylineState T R} {outcome : Outcome T} :
      FilterLife env node state → execElimFilter env node state = .ok (state', outcome) →
      FilterLife env node state'
  | rescan {state state' : SkylineState T R} {tuples : List T} {paramsChanged : Bool} :
      FilterLife env node state →
      rescanElimFilterWith env node tuples paramsChanged state = .ok state' →
      FilterLife env node state'

/-- Over all runs a filter has valid options and stands for a pass. -/
theorem FilterLife.exists_view {state : SkylineState T R}
    (reachable : FilterLife env node state) :
    ∃ policy windowSize windowSlots pass,
      FilterOptions node policy windowSize windowSlots ∧ FilterView policy state pass := by
  induction reachable with
  | @init tuples drawn state initialized =>
      rcases exists_filterOptions initialized with ⟨policy, windowSize, windowSlots, options⟩
      rcases exists_fresh options tuples drawn with ⟨fresh, freshEq, view⟩
      cases freshEq.symm.trans initialized
      exact ⟨policy, windowSize, windowSlots, _, options, view⟩
  | call _ step ih =>
      rcases ih with ⟨policy, windowSize, windowSlots, pass, options, view⟩
      rcases elimFilter_simulates.exists_ok view step with ⟨pass', _, view'⟩
      exact ⟨policy, windowSize, windowSlots, pass', options, view'⟩
  | @rescan state state' tuples paramsChanged _ rescanned ih =>
      rcases ih with ⟨policy, windowSize, windowSlots, pass, options, view⟩
      rcases exists_rescanned options view tuples paramsChanged with ⟨again, againEq, view'⟩
      cases againEq.symm.trans rescanned
      exact ⟨policy, windowSize, windowSlots, _, options, view'⟩

/-- In every state of every run the filter holds the one live window and leaves it to its
memory context if it is ended there, a pass uses no ended window, and a rescan succeeds and
behaves like a fresh filter that draws the same random numbers. -/
theorem execReScanElimFilter_fresh (env : ExecEnv T D R) (node : Skyline D)
    (state : SkylineState T R) (reachable : FilterLife env node state) :
    (∃ window, HoldsWindow state.windows state.window window ∧
      HoldsWindow (execEndElimFilter state).windows (execEndElimFilter state).window window) ∧
    NoHandleFault (execElimFilter env node state) ∧
    ∀ (tuples : List T) (paramsChanged : Bool), ∃ rescanned fresh,
      rescanElimFilterWith env node tuples paramsChanged state = .ok rescanned ∧
      execInitElimFilter env node (OuterPlan.init tuples) state.drawn = .ok fresh ∧
      ∀ n, run (execElimFilter env node) n rescanned = run (execElimFilter env node) n fresh := by
  rcases reachable.exists_view with ⟨policy, windowSize, windowSlots, pass, options, view⟩
  refine ⟨⟨pass.window, view.window, view.window⟩, ?_, ?_⟩
  · cases step : execElimFilter env node state with
    | ok result => trivial
    | error fault =>
        have failed := elimFilter_simulates.exists_error view step
        exact (noHandleFault_elimFilterPass env node (slFlagsOf policy) pass).error failed
  · intro tuples paramsChanged
    rcases exists_rescanned options view tuples paramsChanged with
      ⟨rescanned, rescannedEq, ofRescanned⟩
    rcases exists_fresh options tuples state.drawn with ⟨fresh, freshEq, ofFresh⟩
    refine ⟨rescanned, fresh, rescannedEq, freshEq, fun n => ?_⟩
    exact (elimFilter_simulates.run_eq n ofRescanned).trans
      (elimFilter_simulates.run_eq n ofFresh).symm

/-- A filter with one slot and random ranks is rescanned in the middle of its second scan. -/
theorem execReScanElimFilter_fresh_midScan :
    let node : Skyline Int :=
      ⟨[integerCol 1 .min, integerCol 2 .max], true,
        [⟨"efslots", .integer 1⟩, ⟨"efwindowpolicy", .string "random"⟩], .elimFilter, true⟩
    ∃ state, FilterLife integerEnv node state ∧ state.status = .process ∧ state.drawn = 3 ∧
      ∀ (tuples : List IntegerRow) (paramsChanged : Bool), ∃ rescanned fresh,
        rescanElimFilterWith integerEnv node tuples paramsChanged state = .ok rescanned ∧
        execInitElimFilter integerEnv node (OuterPlan.init tuples) state.drawn = .ok fresh ∧
        ∀ n, run (execElimFilter integerEnv node) n rescanned =
          run (execElimFilter integerEnv node) n fresh := by
  intro node
  have started : FilterLife integerEnv node _ :=
    @FilterLife.init IntegerRow Int Int _ _ _ _ integerEnv node
      [[some 1, some 1], [some 2, some 2]] 0 _ rfl
  have called : FilterLife integerEnv node _ := .call (.call (.call started rfl) rfl) rfl
  have again : FilterLife integerEnv node _ :=
    @FilterLife.rescan IntegerRow Int Int _ _ _ _ integerEnv node _ _
      [[some 3, none], [some 3, some 3]] true called rfl
  have midScan : FilterLife integerEnv node _ := .call (.call again rfl) rfl
  exact ⟨_, midScan, rfl, rfl, (execReScanElimFilter_fresh integerEnv node _ midScan).2.2⟩

end PgSkyline
