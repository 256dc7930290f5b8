import PgSkyline.Executor.Scans
import PgSkyline.Window.Probe

/-!
# The window methods

Translation of `ExecSkyline_BlockNestedLoop` and `ExecSkyline_SortFilterSkyline`.
One pass of the body is one iteration of the outer `for`; the inner loop of
`SS_PIPEOUT` is unrolled into passes as well, since it leaves the status as it
is until it ends.

What both methods do with one tuple and the window is `offerToWindow`; it touches
nothing but the window and the random numbers.
-/

namespace PgSkyline

open Resumable TupleWindowState

variable {T D R : Type} [LE R] [DecidableLE R] [LT R] [DecidableLT R]
variable (env : ExecEnv T D R) (node : Skyline D)

/-! ## One tuple against the window -/

/-- Set the rank at which the tuple in `slot` will be inserted, for the ranked
window policies. -/
def setRank (flags : SlFlags) (slot : T) (window : TupleWindowState T R) (drawn : Nat) :
    Except Fault (TupleWindowState T R × Nat) :=
  if flags.ranked then
    if flags.entropy then do
      let window ← setInsertRank window (env.rank node slot)
      return (window, drawn)
    else if flags.random then do
      let window ← setInsertRank window (env.random drawn)
      return (window, drawn + 1)
    else throw (.assertion "0")
  else return (window, drawn)

/-- Rewind the window, set the insert rank and compare the window tuples with
the tuple in `slot`. -/
def compareWithWindow
    (secondDominates : TupleWindowState T R → Except Fault (TupleWindowState T R))
    (flags : SlFlags) (slot : T) (window : TupleWindowState T R) (drawn : Nat)
    (innerSlot : Option T) : Except Fault (Bool × TupleWindowState T R × Nat × Option T) := do
  let (window, drawn) ← setRank env node flags slot (rewind window) drawn
  let (atEnd, window, innerSlot) ← probe env.space (fun inner => isDominating env node inner slot)
    node.skylineDistinct secondDominates window innerSlot
  return (atEnd, window, drawn, innerSlot)

/-- What becomes of the tuple in `slot`. -/
inductive Disposition where
  | dropped
  | stored
  | overflows
  deriving DecidableEq, Repr

/-- The result of comparing a tuple with the window. -/
structure Admission (T R : Type) where
  disposition : Disposition
  window : TupleWindowState T R
  drawn : Nat
  innerSlot : Option T

/-- Compare the tuple in `slot` with the window.  If it is not dropped, put it in
the window if there is free space; otherwise it has to go to `tempOut`. -/
def offerToWindow (secondDominates : TupleWindowState T R → Except Fault (TupleWindowState T R))
    (timestamp : Nat) (flags : SlFlags) (slot : T) (window : TupleWindowState T R) (drawn : Nat)
    (innerSlot : Option T) : Except Fault (Admission T R) := do
  let (atEnd, window, drawn, innerSlot) ←
    compareWithWindow env node secondDominates flags slot window drawn innerSlot
  if atEnd then
    if hasFreespace window then do
      let window ← putTupleSlot env.space env.negDblMax window slot timestamp false
      return ⟨.stored, window, drawn, innerSlot⟩
    else return ⟨.overflows, window, drawn, innerSlot⟩
  else return ⟨.dropped, window, drawn, innerSlot⟩

/-! ## Temporary files -/

/-- The next tuple of the current source. -/
def fetchSlot (state : SkylineState T R) : Except Fault (Option T × SkylineState T R) :=
  match state.source with
  | .outer =>
      let (slot, outer) := state.outerPlanState.procNode
      return (slot, { state with outerPlanState := outer })
  | .temp => do
      let store ← deref state.stores state.tempIn
      let (slot, store) ← store.gettupleslot env.space
      return (slot, { state with
        stores := assign state.stores state.tempIn store, extraSlot := slot })

/-- `tempOut` should go directly to a temporary file, therefore `work_mem` is 0. -/
def beginTempOut (state : SkylineState T R) : SkylineState T R :=
  let (tempOut, stores) := state.stores.alloc (Tuplestorestate.beginHeap env.space false 0)
  { state with tempOut := some tempOut, stores }

/-- Close `tempIn` if the tuples came from there. -/
def endTempIn (state : SkylineState T R) : Except Fault (SkylineState T R) :=
  match state.source with
  | .outer => return state
  | .temp => do
      let stores ← endObject state.stores state.tempIn
      return { state with stores, tempIn := none }

/-- Close `tempOut`, to which nothing was written. -/
def endTempOut (state : SkylineState T R) : Except Fault (SkylineState T R) := do
  let stores ← endObject state.stores state.tempOut
  return { state with stores, tempOut := none }

/-- Start the next pass: read what was written to `tempOut`. -/
def switchTemp (state : SkylineState T R) : SkylineState T R :=
  beginTempOut env { state with source := .temp, tempIn := state.tempOut, timestampOut := 0 }

/-- Append a tuple to `tempOut`. -/
def writeTempOut (state : SkylineState T R) (slot : T) : Except Fault (SkylineState T R) := do
  let store ← deref state.stores state.tempOut
  return { state with
    stores := assign state.stores state.tempOut (store.puttupleslot env.space slot)
    timestampOut := state.timestampOut + 1 }

/-- Apply a window operation to the window of the node. -/
def onWindow (state : SkylineState T R) (operation : TupleWindowState T R → TupleWindowState T R) :
    Except Fault (SkylineState T R) := do
  let window ← deref state.windows state.window
  return { state with windows := assign state.windows state.window (operation window) }

/-- The `SS_INIT` part of both methods. -/
def beginScan (state : SkylineState T R) : SkylineState T R :=
  { beginTempOut env { state with source := .outer, tempIn := none } with
    timestampOut := 0, status := .process }

/-! ## `ExecSkyline_BlockNestedLoop` -/

/-- The source is exhausted: pipe out the window, or start the next pass. -/
def blockNestedLoopEndOfSource (state : SkylineState T R) :
    Except Fault (SkylineState T R × Outcome T) := do
  let state ← endTempIn state
  if state.timestampOut = 0 then do
    let state ← endTempOut state
    let state ← onWindow state rewind
    return ({ state with status := .finalPipeout }, .again)
  else do
    let state ← onWindow { switchTemp env state with timestampIn := 0 } rewind
    return ({ state with status := .pipeout }, .again)

/-- Process one tuple of the source. -/
def blockNestedLoopTuple (state : SkylineState T R) (slot : T) :
    Except Fault (SkylineState T R × Outcome T) := do
  let state := { state with timestampIn := state.timestampIn + 1 }
  let window ← deref state.windows state.window
  let admission ←
    offerToWindow env node (removeCurrent env.space) state.timestampOut state.flags slot
      window state.drawn state.resultSlot
  let state := { state with
    windows := assign state.windows state.window (rewind admission.window)
    drawn := admission.drawn
    resultSlot := admission.innerSlot }
  let state ←
    if admission.disposition = .overflows then writeTempOut env state slot else pure state
  return ({ state with status := .pipeout }, .again)

/-- Fetch and remove the current window tuple and return it. -/
def pipeOutCurrent (state : SkylineState T R) (window : TupleWindowState T R) :
    Except Fault (SkylineState T R × Outcome T) := do
  let (resultSlot, window) ← getTupleSlot env.space window true
  let state := { state with
    windows := assign state.windows state.window window, resultSlot }
  match resultSlot with
  | none => return (state, .finished)
  | some result => return (state, .emit result)

/-- One iteration of the `SS_PIPEOUT` loop: a window tuple that was stored when
the current position of the source was written has met all tuples. -/
def blockNestedLoopPipeout (state : SkylineState T R) :
    Except Fault (SkylineState T R × Outcome T) := do
  let window ← deref state.windows state.window
  if atEof window then return ({ state with status := .process }, .again)
  else do
    let timestamp ← timestampCurrent window
    if timestamp = state.timestampIn then pipeOutCurrent env state window
    else do
      let state ← onWindow state moveNext
      return (state, .again)

/-- The `SS_FINALPIPEOUT` part.  The window is ended, its pointer is kept. -/
def blockNestedLoopFinalPipeout (state : SkylineState T R) :
    Except Fault (SkylineState T R × Outcome T) := do
  let window ← deref state.windows state.window
  if atEof window then do
    let windows ← endObject state.windows state.window
    return ({ state with windows, status := .done }, .finished)
  else pipeOutCurrent env state window

/-- `ExecSkyline_BlockNestedLoop`. -/
def execSkylineBlockNestedLoop : Body Fault (SkylineState T R) T := fun state =>
  match state.status with
  | .init => return ({ beginScan env state with timestampIn := 0 }, .again)
  | .process => do
      let (slot, state) ← fetchSlot env state
      match slot with
      | none => blockNestedLoopEndOfSource env state
      | some tuple => blockNestedLoopTuple env node state tuple
  | .pipeout => blockNestedLoopPipeout env state
  | .finalPipeout => blockNestedLoopFinalPipeout env state
  | .done => return (state, .finished)

/-! ## `ExecSkyline_SortFilterSkyline` -/

/-- The source is exhausted: finish, or start the next pass with a clean window. -/
def sortFilterEndOfSource (state : SkylineState T R) :
    Except Fault (SkylineState T R × Outcome T) := do
  let state ← endTempIn state
  if state.timestampOut = 0 then do
    let state ← endTempOut state
    return ({ state with status := .done }, .finished)
  else do
    let state ← onWindow (switchTemp env state) clean
    return (state, .again)

/-- Process one tuple of the source: a tuple put into the window is returned. -/
def sortFilterTuple (state : SkylineState T R) (slot : T) :
    Except Fault (SkylineState T R × Outcome T) := do
  let state := { state with timestampIn := state.timestampIn + 1 }
  let window ← deref state.windows state.window
  let admission ←
    offerToWindow env node (assertNotSecondDominates env.assertChecking) 0 state.flags slot
      window state.drawn state.resultSlot
  let state := { state with
    windows := assign state.windows state.window admission.window
    drawn := admission.drawn
    resultSlot := admission.innerSlot }
  match admission.disposition with
  | .stored => return (state, .emit slot)
  | .overflows => do
      let state ← writeTempOut env state slot
      return (state, .again)
  | .dropped => return (state, .again)

/-- `ExecSkyline_SortFilterSkyline`. -/
def execSkylineSortFilterSkyline : Body Fault (SkylineState T R) T := fun state =>
  match state.status with
  | .init => return (beginScan env state, .again)
  | .process => do
      let (slot, state) ← fetchSlot env state
      match slot with
      | none => sortFilterEndOfSource env state
      | some tuple => sortFilterTuple env node state tuple
  | .done => return (state, .finished)
  | _ => throw (.assertion "0")

end PgSkyline
