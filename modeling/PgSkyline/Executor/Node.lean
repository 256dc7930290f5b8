import PgSkyline.Dominance.Order
import PgSkyline.Executor.OneDim
import PgSkyline.Executor.Windowed

/-!
# The node interface

`ExecSkyline`, `ExecReScanSkyline` and `ExecEndSkyline`, and the life of a node
between `ExecInitSkyline` and `ExecEndSkyline`.
-/

namespace PgSkyline

open Resumable

variable {T D R : Type} [LE R] [DecidableLE R] [LT R] [DecidableLT R]
variable (env : ExecEnv T D R) (node : Skyline D)

/-- One pass of the loop of the method that `ExecSkyline` dispatches to. -/
def execSkyline : Body Fault (SkylineState T R) T :=
  match node.skylineMethod with
  | .oneDim => execSkyline1Dim env node
  | .oneDimDistinct => execSkyline1DimDistinct env node
  | .twoDimPresort => execSkyline2DimPreSort env node
  | .materializedNestedLoop => execSkylineMaterializedNestedLoop env node
  | .blockNestedLoop => execSkylineBlockNestedLoop env node
  | .sfs => execSkylineSortFilterSkyline env node
  | .unknown | .elimFilter => fun _ => .error (.assertion "0")

section Dispatch

variable {env} {node}

theorem execSkyline_eq_oneDim (method : node.skylineMethod = .oneDim) :
    execSkyline env node = execSkyline1Dim env node := by
  rw [execSkyline, method]

theorem execSkyline_eq_oneDimDistinct (method : node.skylineMethod = .oneDimDistinct) :
    execSkyline env node = execSkyline1DimDistinct env node := by
  rw [execSkyline, method]

theorem execSkyline_eq_twoDimPresort (method : node.skylineMethod = .twoDimPresort) :
    execSkyline env node = execSkyline2DimPreSort env node := by
  rw [execSkyline, method]

theorem execSkyline_eq_materializedNestedLoop
    (method : node.skylineMethod = .materializedNestedLoop) :
    execSkyline env node = execSkylineMaterializedNestedLoop env node := by
  rw [execSkyline, method]

theorem execSkyline_eq_blockNestedLoop (method : node.skylineMethod = .blockNestedLoop) :
    execSkyline env node = execSkylineBlockNestedLoop env node := by
  rw [execSkyline, method]

theorem execSkyline_eq_sfs (method : node.skylineMethod = .sfs) :
    execSkyline env node = execSkylineSortFilterSkyline env node := by
  rw [execSkyline, method]

end Dispatch

/-- End a tuplestore if there is one, and forget the pointer. -/
def closeTemp (stores : HandleTable (Tuplestorestate T)) :
    Option Nat → Except Fault (HandleTable (Tuplestorestate T))
  | none => return stores
  | some handle => endObject stores (some handle)

/-- A rescan passes on to the outer plan unless that has changed parameters. -/
def reScanUnlessChanged (outer : OuterPlan T) : OuterPlan T :=
  match outer.chgParam with
  | none => outer.reScan
  | some _ => outer

/-- `ExecReScanSkyline`. -/
def execReScanSkyline (state : SkylineState T R) : Except Fault (SkylineState T R) := do
  let state := { state with status := .init, scanSlot := none }
  let state := { state with
    outerPlanState := reScanUnlessChanged state.outerPlanState
    status := SkylineStatus.ofSource .outer }
  let state ← execSkylineInitTupleWindow env node state
  let stores ← closeTemp state.stores state.tempIn
  let stores ← closeTemp stores state.tempOut
  return { state with stores, tempIn := none, tempOut := none }

/-- `ExecSkylineNeedExtraSlot`. -/
def execSkylineNeedExtraSlot : Bool :=
  match node.skylineMethod with
  | .blockNestedLoop | .sfs => true
  | _ => false

/-- `ExecEndSkyline`; windows and tuplestores are left to their memory context. -/
def execEndSkyline (state : SkylineState T R) : SkylineState T R :=
  { state with
    scanSlot := none
    resultSlot := none
    extraSlot := if execSkylineNeedExtraSlot node then none else state.extraSlot }

/-- Before a rescan the outer plan gets ready to deliver `tuples`.  If it has
changed parameters, new or pending ones, it does so when it is next read. -/
def OuterPlan.prepare (outer : OuterPlan T) (tuples : List T) (paramsChanged : Bool) :
    OuterPlan T :=
  if paramsChanged || outer.chgParam.isSome then { outer with chgParam := some tuples }
  else { outer with tuples }

/-- A prepared outer plan delivers the new tuples. -/
theorem OuterPlan.delivers_prepare (outer : OuterPlan T) (tuples : List T) (paramsChanged : Bool) :
    (reScanUnlessChanged (outer.prepare tuples paramsChanged)).Delivers tuples := by
  unfold OuterPlan.prepare
  split
  · exact ⟨rfl, rfl⟩
  · rename_i settled
    have noParam : outer.chgParam = none := by simp_all
    simp [reScanUnlessChanged, noParam, OuterPlan.Delivers, OuterPlan.refresh, OuterPlan.reScan]

/-- Rescan the node while its outer plan gets ready to deliver `tuples`. -/
def rescanWith (tuples : List T) (paramsChanged : Bool) (state : SkylineState T R) :
    Except Fault (SkylineState T R) :=
  execReScanSkyline env node { state with
    outerPlanState := state.outerPlanState.prepare tuples paramsChanged }

/-! ## Rows of integers -/

/-- A row of nullable integers; attributes are numbered from 1. -/
abbrev IntegerRow := List (Option Int)

/-- A server with assertion checking whose tuples are rows of nullable integers. -/
def integerEnv : ExecEnv IntegerRow Int Int where
  slotGetattr row attnum := row[attnum - 1]?.join
  space := ⟨fun row => 24 + 16 * row.length, 48, fun size => 8 * size⟩
  negDblMax := -1000000
  rank _ row := row.length
  random drawn := drawn
  workMem := 1024
  typbyval _ := true
  assertChecking := true

/-- A skyline column over integers.  As for `ORDER BY … DESC`, NULLs come first
for MAX. -/
def integerCol (skylineColIdx : Nat) (skylineOfDir : SkylineOfDir) : SkylineCol Int where
  skylineColIdx
  compareOpFn := Comparison.intCompare
  compareFlags := ⟨skylineOfDir == .max, skylineOfDir == .max⟩
  skylineOfDir

theorem lawfulCols_integerCol (columns : List (Nat × SkylineOfDir)) :
    LawfulCols (columns.map fun column => integerCol column.1 column.2) := by
  intro col colMem
  obtain ⟨column, _, rfl⟩ := List.mem_map.mp colMem
  exact Comparison.threeWay_intCompare

end PgSkyline
