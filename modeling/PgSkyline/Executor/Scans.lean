import PgSkyline.Executor.State

/-!
# The presorted and the materialized nested loop method

Translation of `ExecSkyline_2DimPreSort` and `ExecSkyline_MaterializedNestedLoop`.
-/

namespace PgSkyline

open Resumable

variable {T D R : Type} (env : ExecEnv T D R) (node : Skyline D)

/-- `ExecSkylineIsDominating` on the columns of the node. -/
def isDominating (innerSlot slot : T) : SkylineCmp :=
  execSkylineIsDominating env.slotGetattr node.cols innerSlot slot

/-- The loop of `SS_PROCESS` makes one pass for each tuple of the outer plan.
Each tuple is compared with the tuple returned last. -/
def execSkyline2DimPreSort : Body Fault (SkylineState T R) T := fun state =>
  match state.status with
  | .init =>
      let (slot, outer) := state.outerPlanState.procNode
      let state := { state with outerPlanState := outer }
      match slot with
      | some tuple =>
          return ({ state with resultSlot := some tuple, status := .process }, .emit tuple)
      | none => return ({ state with status := .done }, .finished)
  | .process => do
      match state.resultSlot with
      | none => throw (.assertion "!TupIsNull(resultSlot)")
      | some result =>
          let (slot, outer) := state.outerPlanState.procNode
          let state := { state with outerPlanState := outer }
          match slot with
          | none => return ({ state with status := .done }, .finished)
          | some tuple =>
              let cmp := isDominating env node tuple result
              if cmp = .incomparable ∨ (cmp = .allEq ∧ node.skylineDistinct = false) then
                return ({ state with resultSlot := some tuple }, .emit tuple)
              else return (state, .again)
  | .done => return (state, .finished)
  | _ => throw (.assertion "0")

/-- The inner loop of the materialized nested loop: does one of the tuples drop
the result?  `slInnerpos` counts the tuples read before; the second answer
counts the tuples read in this loop. -/
def nestedLoopScan (result : T) (slPos : Nat) : Nat → List T → Bool × Nat
  | _, [] => (false, 0)
  | slInnerpos, innerSlot :: rest =>
      let slInnerpos := slInnerpos + 1
      let cmp := isDominating env node innerSlot result
      if node.skylineDistinct = true ∧ cmp = .allEq ∧ slInnerpos < slPos then (true, 1)
      else if cmp = .firstDominates then (true, 1)
      else
        let (dropped, count) := nestedLoopScan result slPos slInnerpos rest
        (dropped, count + 1)

/-- One pass of the outer loop of `ExecSkyline_MaterializedNestedLoop`. -/
def nestedLoopProcess (state : SkylineState T R) :
    Except Fault (SkylineState T R × Outcome T) :=
  let (slot, outer) := state.outerPlanState.restrPos.procNode
  let state := { state with slPos := state.slPos + 1, outerPlanState := outer.markPos }
  match slot with
  | none => return ({ state with status := .done }, .finished)
  | some result =>
      let outer := state.outerPlanState.reScan
      let (dropped, count) := nestedLoopScan env node result state.slPos 0 outer.upcoming
      let state := { state with
        resultSlot := some result, outerPlanState := { outer with pos := outer.pos + count } }
      if dropped then return (state, .again) else return (state, .emit result)

/-- `ExecSkyline_MaterializedNestedLoop`; `SS_INIT` falls through to
`SS_PROCESS`. -/
def execSkylineMaterializedNestedLoop : Body Fault (SkylineState T R) T := fun state =>
  match state.status with
  | .init =>
      nestedLoopProcess env node { state with
        outerPlanState := state.outerPlanState.markPos, slPos := 0, status := .process }
  | .process => nestedLoopProcess env node state
  | .done => return (state, .finished)
  | _ => throw (.assertion "0")

end PgSkyline
