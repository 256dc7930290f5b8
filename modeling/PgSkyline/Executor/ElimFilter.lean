import PgSkyline.Executor.Node

/-!
# The elimination filter

Translation of `nodeElimFilter.c`.  The plan node and the executor state are those
of a skyline node under other names; the options have names of their own.
-/

namespace PgSkyline

open Resumable TupleWindowState

/-- `BLCKSZ` of a default build. -/
def blcksz : Nat :=
  8192

variable {T D R : Type} (env : ExecEnv T D R) (node : Skyline D)

/-! ## Initialization -/

/-- The budget of the window, by default one page, with its two overriding
options. -/
def elimFilterWindowSizeOption : Except Fault Int :=
  skylineOptionGetIntOr node.skylineOfOptions "efwindow" "efwindowsize"
    ((blcksz / 1024 : Nat) : Int)

/-- The slot limit of the window with its two names. -/
def elimFilterWindowSlotsOption : Except Fault Int :=
  skylineOptionGetIntOr node.skylineOfOptions "efslots" "efwindowslots" (-1)

/-- `ExecElimFilterInitTupleWindow`. -/
def execElimFilterInitTupleWindow (state : SkylineState T R) :
    Except Fault (SkylineState T R) := do
  let windows ← endWindow state
  let windowSize ← elimFilterWindowSizeOption node
  let windowSlots ← elimFilterWindowSlotsOption node
  if windowSlots = 0 then throw (.elog "tuple window must have at least one slot")
  else
    let (window, windows) := windows.alloc
      (TupleWindowState.begin env.negDblMax windowSize windowSlots state.windowPolicy)
    return { state with
      window := some window, windows
      windowsize := windowSize, windowslots := windowSlots }

/-- `ExecInitElimFilter` over an outer plan. -/
def execInitElimFilter (outer : OuterPlan T) (drawn : Nat) : Except Fault (SkylineState T R) := do
  let windowPolicy ← windowPolicyOption node "efwindowpolicy"
  execElimFilterInitTupleWindow env node (makeSkylineState windowPolicy outer drawn)

/-! ## Rescan and end -/

/-- `ExecReScanElimFilter`. -/
def execReScanElimFilter (state : SkylineState T R) : Except Fault (SkylineState T R) :=
  let state := { state with status := .init, scanSlot := none }
  let state := { state with outerPlanState := reScanUnlessChanged state.outerPlanState }
  execElimFilterInitTupleWindow env node state

/-- Rescan the filter while its outer plan gets ready to deliver `tuples`. -/
def rescanElimFilterWith (tuples : List T) (paramsChanged : Bool) (state : SkylineState T R) :
    Except Fault (SkylineState T R) :=
  execReScanElimFilter env node { state with
    outerPlanState := state.outerPlanState.prepare tuples paramsChanged }

/-- `ExecEndElimFilter`; the window is left to its memory context. -/
def execEndElimFilter (state : SkylineState T R) : SkylineState T R :=
  { state with scanSlot := none, resultSlot := none }

/-! ## Execution -/

variable [LE R] [DecidableLE R] [LT R] [DecidableLT R]

/-- Compare one tuple with the window.  If it is not dropped, it is returned, and
put in the window by force. -/
def elimFilterTuple (state : SkylineState T R) (slot : T) :
    Except Fault (SkylineState T R × Outcome T) := do
  let window ← deref state.windows state.window
  let (atEnd, window, drawn, innerSlot) ← compareWithWindow env node (removeCurrent env.space)
    state.flags slot window state.drawn state.resultSlot
  if atEnd then do
    let window ← putTupleSlot env.space env.negDblMax window slot 0 true
    return ({ state with
      windows := assign state.windows state.window window, drawn
      resultSlot := innerSlot }, .emit slot)
  else
    return ({ state with
      windows := assign state.windows state.window window, drawn
      resultSlot := innerSlot }, .again)

/-- `ExecElimFilter`. -/
def execElimFilter : Body Fault (SkylineState T R) T := fun state =>
  match state.status with
  | .init => return ({ state with status := .process }, .again)
  | .process => do
      let (slot, outer) := state.outerPlanState.procNode
      let state := { state with outerPlanState := outer }
      match slot with
      | none => return ({ state with status := .done }, .finished)
      | some tuple => elimFilterTuple env node state tuple
  | .done => return (state, .finished)
  | _ => throw (.assertion "0")

end PgSkyline
