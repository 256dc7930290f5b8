import PgSkyline.Executor.State

/-!
# The one-dimensional methods

Translation of `ExecSkyline_1DimDistinct` and `ExecSkyline_1Dim`.  Both compare
the tuples of the outer plan with a running minimum and never call the dominance
test.  The loop over the outer plan runs over its upcoming tuples.

A local variable that was not assigned yet is `none`.
-/

namespace PgSkyline

open Resumable TupleWindowState

variable {T D R : Type} (env : ExecEnv T D R) (node : Skyline D)

/-- The column the one-dimensional methods look at. -/
def firstCol : Except Fault (SkylineCol D) :=
  match node.cols with
  | [] => .error .invalidRead
  | col :: _ => .ok col

/-- `slot_getattr` on the attribute of a column. -/
def getDatum (col : SkylineCol D) (slot : T) : Option D :=
  env.slotGetattr slot col.skylineColIdx

/-- The sort comparison of two datums on a column. -/
def compareDatums (col : SkylineCol D) (datum1 datum2 : Option D) : Int :=
  inlineApplyCompareFunction col.compareOpFn col.compareFlags datum1 datum2

/-! ## `ExecSkyline_1DimDistinct` -/

/-- The loop over the outer plan, with the result slot and `datum1`. -/
def oneDimDistinctLoop (col : SkylineCol D) :
    List T → Option T → Option (Option D) → Except Fault (Option T)
  | [], resultSlot, _ => .ok resultSlot
  | slot :: rest, none, _ => oneDimDistinctLoop col rest (some slot) (some (getDatum env col slot))
  | _ :: _, some _, none => .error .uninitialized
  | slot :: rest, some result, some datum1 =>
      if compareDatums col datum1 (getDatum env col slot) > 0 then
        oneDimDistinctLoop col rest (some slot) (some (getDatum env col slot))
      else oneDimDistinctLoop col rest (some result) (some datum1)

/-- `ExecSkyline_1DimDistinct`. -/
def execSkyline1DimDistinct : Body Fault (SkylineState T R) T := fun state =>
  match state.status with
  | .init => do
      let col ← firstCol node
      let resultSlot ←
        oneDimDistinctLoop env col state.outerPlanState.upcoming state.resultSlot none
      let state := { state with
        outerPlanState := state.outerPlanState.exhaust
        resultSlot
        status := .done }
      match resultSlot with
      | none => return (state, .finished)
      | some result => return (state, .emit result)
  | .done => return (state, .finished)
  | _ => throw (.assertion "0")

/-! ## `ExecSkyline_1Dim` -/

/-- The loop over the outer plan, with `datum1` and `isnull1` and the
tuplestore.  `first` holds exactly while `datum1` is unassigned. -/
def oneDimLoop (col : SkylineCol D) :
    List T → Option (Option D) → Tuplestorestate T →
      Except Fault (Option (Option D) × Tuplestorestate T)
  | [], datum1, store => .ok (datum1, store)
  | slot :: rest, none, store =>
      oneDimLoop col rest (some (getDatum env col slot)) (store.puttupleslot env.space slot)
  | slot :: rest, some datum1, store =>
      let datum2 := getDatum env col slot
      let cmp := compareDatums col datum1 datum2
      if cmp = 0 then oneDimLoop col rest (some datum1) (store.puttupleslot env.space slot)
      else if cmp > 0 then do
        let store ← store.catchup env.space
        oneDimLoop col rest (some datum2) (store.puttupleslot env.space slot)
      else oneDimLoop col rest (some datum1) store

/-- `if (!typbyval && !isnull1 && …) pfree(…)` behind the loop reads `isnull1`
unless the type is passed by value. -/
def releaseDatum (col : SkylineCol D) (datum1 : Option (Option D)) : Except Fault Unit :=
  if env.typbyval col.skylineColIdx then .ok ()
  else
    match datum1 with
    | none => .error .uninitialized
    | some _ => .ok ()

/-- The `SS_INIT` part of `ExecSkyline_1Dim`. -/
def oneDimInit (state : SkylineState T R) : Except Fault (SkylineState T R) := do
  let col ← firstCol node
  let store ← (Tuplestorestate.beginHeap env.space false env.workMem).setEflags ⟨false, false, true⟩
  let (datum1, store) ← oneDimLoop env col state.outerPlanState.upcoming none store
  releaseDatum env col datum1
  let (tuplestorestate, stores) := state.stores.alloc store
  return { state with
    tuplestorestate := some tuplestorestate, stores
    outerPlanState := state.outerPlanState.exhaust
    status := .pipeout }

/-- The `SS_PIPEOUT` part of `ExecSkyline_1Dim`. -/
def oneDimPipeout (state : SkylineState T R) :
    Except Fault (SkylineState T R × Outcome T) := do
  assertThat state.tuplestorestate.isSome "state->tuplestorestate != NULL"
  let store ← deref state.stores state.tuplestorestate
  let (resultSlot, store) ← store.gettupleslot env.space
  let state := { state with stores := assign state.stores state.tuplestorestate store, resultSlot }
  match resultSlot with
  | some result => return (state, .emit result)
  | none =>
      let stores ← endObject state.stores state.tuplestorestate
      return ({ state with stores, tuplestorestate := none, status := .done }, .finished)

/-- `ExecSkyline_1Dim`; `SS_INIT` falls through to `SS_PIPEOUT`. -/
def execSkyline1Dim : Body Fault (SkylineState T R) T := fun state =>
  match state.status with
  | .init => do
      let state ← oneDimInit env node state
      oneDimPipeout env state
  | .pipeout => oneDimPipeout env state
  | .done => return (state, .finished)
  | _ => throw (.assertion "0")

end PgSkyline
