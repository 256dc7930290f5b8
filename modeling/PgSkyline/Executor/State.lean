import PgSkyline.Dominance.Core
import PgSkyline.Lib.HandleTable
import PgSkyline.Lib.Resumable
import PgSkyline.Options
import PgSkyline.Storage.Tuplestore
import PgSkyline.Window.Core

/-!
# Skyline nodes

The plan node `Skyline`, the executor state `SkylineState` and the outer plan it
reads from.  Windows and tuplestores are objects behind handles, so that a
second `…_end` and any use after it are faults.

Of the executor state the statistics (`cmps_tuples`, `cmps_fields`, `pass`,
`pass_info`) and the expression machinery are left out; no result depends on
them.  Time stamps count tuples, so 64 bits hold them.
-/

namespace PgSkyline

/-- The plan node. -/
structure Skyline (D : Type) where
  /-- The column arrays `skylineColIdx`, `skylineOfDir`, … of length `numCols`. -/
  cols : List (SkylineCol D)
  skylineDistinct : Bool
  skylineOfOptions : List SkylineOption
  skylineMethod : SkylineMethod
  /-- The flag `SKYLINE_FLAGS_HAVE_STATS`. -/
  haveStats : Bool

/-- What the executor takes from the rest of the server.  `rank` stands for
`ExecSkylineRank` and `random` for the successive answers of `ExecSkylineRandom`;
both are arbitrary, as the methods must not depend on them. -/
structure ExecEnv (T D R : Type) where
  slotGetattr : T → Nat → Option D
  space : ChunkSpace T
  /-- `-DBL_MAX`. -/
  negDblMax : R
  rank : Skyline D → T → R
  random : Nat → R
  workMem : Int
  /-- Whether the type of an attribute is passed by value. -/
  typbyval : Nat → Bool
  /-- Whether the server is built with `USE_ASSERT_CHECKING`. -/
  assertChecking : Bool

/-! ## The outer plan -/

/-- An outer plan that delivers a finite list of tuples.  If parameters below it
have changed, `chgParam` holds what it delivers once it is rescanned. -/
structure OuterPlan (T : Type) where
  tuples : List T
  pos : Nat
  mark : Nat
  chgParam : Option (List T)

namespace OuterPlan

variable {T : Type}

/-- `ExecInitNode`. -/
def init (tuples : List T) : OuterPlan T :=
  ⟨tuples, 0, 0, none⟩

/-- `ExecReScan`. -/
def reScan (outer : OuterPlan T) : OuterPlan T :=
  match outer.chgParam with
  | none => { outer with pos := 0 }
  | some tuples => { outer with tuples, pos := 0, chgParam := none }

/-- A plan with changed parameters is rescanned before it is read. -/
def refresh (outer : OuterPlan T) : OuterPlan T :=
  if outer.chgParam.isSome then reScan outer else outer

/-- `ExecProcNode`. -/
def procNode (outer : OuterPlan T) : Option T × OuterPlan T :=
  let outer := refresh outer
  match outer.tuples[outer.pos]? with
  | none => (none, outer)
  | some tuple => (some tuple, { outer with pos := outer.pos + 1 })

/-- `ExecMarkPos`. -/
def markPos (outer : OuterPlan T) : OuterPlan T :=
  { outer with mark := outer.pos }

/-- `ExecRestrPos`. -/
def restrPos (outer : OuterPlan T) : OuterPlan T :=
  { outer with pos := outer.mark }

/-- The tuples the next calls of `ExecProcNode` return. -/
def upcoming (outer : OuterPlan T) : List T :=
  (refresh outer).tuples.drop (refresh outer).pos

/-- The plan after all upcoming tuples were read. -/
def exhaust (outer : OuterPlan T) : OuterPlan T :=
  { refresh outer with pos := max (refresh outer).pos (refresh outer).tuples.length }

@[simp]
theorem refresh_refresh (outer : OuterPlan T) : refresh (refresh outer) = refresh outer := by
  cases changed : outer.chgParam <;> simp [refresh, reScan, changed]

@[simp]
theorem chgParam_refresh (outer : OuterPlan T) : (refresh outer).chgParam = none := by
  cases changed : outer.chgParam <;> simp [refresh, reScan, changed]

theorem refresh_of_settled {outer : OuterPlan T} (settled : outer.chgParam = none) :
    refresh outer = outer := by
  simp [refresh, settled]

@[simp]
theorem upcoming_init (tuples : List T) : upcoming (init tuples) = tuples :=
  rfl

/-- The outer plan delivers exactly these tuples from its start. -/
def Delivers (outer : OuterPlan T) (tuples : List T) : Prop :=
  (refresh outer).tuples = tuples ∧ (refresh outer).pos = 0

theorem Delivers.upcoming {outer : OuterPlan T} {tuples : List T}
    (delivers : Delivers outer tuples) : upcoming outer = tuples := by
  rw [OuterPlan.upcoming, delivers.1, delivers.2, List.drop_zero]

theorem procNode_of_upcoming_nil {outer : OuterPlan T} (atEnd : upcoming outer = []) :
    procNode outer = (none, refresh outer) := by
  have beyond : (refresh outer).tuples[(refresh outer).pos]? = none := by
    rw [← List.head?_drop]
    exact congrArg List.head? atEnd
  simp [procNode, beyond]

theorem procNode_of_upcoming_cons {outer : OuterPlan T} {tuple : T} {rest : List T}
    (upcomingEq : upcoming outer = tuple :: rest) :
    procNode outer = (some tuple, { refresh outer with pos := (refresh outer).pos + 1 }) ∧
      upcoming (procNode outer).2 = rest := by
  have found : (refresh outer).tuples[(refresh outer).pos]? = some tuple := by
    rw [← List.head?_drop]
    exact congrArg List.head? upcomingEq
  have step : procNode outer =
      (some tuple, { refresh outer with pos := (refresh outer).pos + 1 }) := by
    simp [procNode, found]
  refine ⟨step, ?_⟩
  have advanced : upcoming (procNode outer).2 =
      (refresh outer).tuples.drop ((refresh outer).pos + 1) := by
    rw [step, upcoming, refresh_of_settled (by simp)]
  calc
    upcoming (procNode outer).2 = (upcoming outer).tail := by
      rw [advanced, upcoming, List.tail_drop]
    _ = rest := by rw [upcomingEq, List.tail_cons]

end OuterPlan

/-! ## The executor state -/

inductive SkylineStatus where
  | init
  | pipeout
  | finalPipeout
  | process
  | done
  deriving DecidableEq, Repr

inductive SkylineSource where
  | outer
  | temp
  deriving DecidableEq, Repr

/-- C enumeration constants are integers; `SS_OUTER` and `SS_INIT` are both 0
and `SS_TEMP` and `SS_PIPEOUT` are both 1. -/
def SkylineStatus.ofSource : SkylineSource → SkylineStatus
  | .outer => .init
  | .temp => .pipeout

/-- The bits `SL_FLAGS_RANKED`, `SL_FLAGS_ENTROPY` and `SL_FLAGS_RANDOM`. -/
structure SlFlags where
  ranked : Bool
  entropy : Bool
  random : Bool
  deriving DecidableEq, Repr

/-- `SL_FLAGS_NONE`. -/
def SlFlags.none : SlFlags :=
  ⟨false, false, false⟩

structure SkylineState (T R : Type) where
  status : SkylineStatus
  source : SkylineSource
  flags : SlFlags
  slPos : Nat
  tuplestorestate : Option Nat
  window : Option Nat
  timestampIn : Nat
  timestampOut : Nat
  tempIn : Option Nat
  tempOut : Option Nat
  windowPolicy : TupleWindowPolicy
  windowsize : Int
  windowslots : Int
  /-- `ps_ResultTupleSlot`, `ss_ScanTupleSlot` and `extraSlot`; `none` is an
  empty slot. -/
  resultSlot : Option T
  scanSlot : Option T
  extraSlot : Option T
  outerPlanState : OuterPlan T
  /-- The tuple windows begun so far. -/
  windows : HandleTable (TupleWindowState T R)
  /-- The tuplestores begun so far. -/
  stores : HandleTable (Tuplestorestate T)
  /-- How often `ExecSkylineRandom` was called. -/
  drawn : Nat

/-! ## Access through handles -/

section Handles

variable {α : Type}

/-- Follow a pointer to an object. -/
def deref (table : HandleTable α) : Option Nat → Except Fault α
  | none => .error .nullPointer
  | some handle =>
      match table.read handle with
      | none => .error .usedAfterEnd
      | some object => .ok object

/-- Replace the object behind a pointer that was followed before. -/
def assign (table : HandleTable α) (pointer : Option Nat) (object : α) : HandleTable α :=
  match pointer with
  | none => table
  | some handle => table.write handle object

/-- End the object behind a pointer. -/
def endObject (table : HandleTable α) : Option Nat → Except Fault (HandleTable α)
  | none => .error .nullPointer
  | some handle =>
      match table.read handle with
      | none => .error .endedTwice
      | some _ => .ok (table.release handle)

theorem deref_of_read {table : HandleTable α} {handle : Nat} {object : α}
    (found : table.read handle = some object) : deref table (some handle) = .ok object := by
  simp [deref, found]

theorem endObject_of_read {table : HandleTable α} {handle : Nat} {object : α}
    (found : table.read handle = some object) :
    endObject table (some handle) = .ok (table.release handle) := by
  simp [endObject, found]

end Handles

/-! ## Initialization -/

/-- The methods that use a window. -/
def SkylineMethod.IsWindowed (method : SkylineMethod) : Prop :=
  method = .blockNestedLoop ∨ method = .sfs

section Init

variable {T D R : Type} (env : ExecEnv T D R) (node : Skyline D)

/-- The default budget of the window with its two overriding options. -/
def windowSizeOption : Except Fault Int :=
  skylineOptionGetIntOr node.skylineOfOptions "window" "windowsize" env.workMem

/-- The slot limit of the window with its two names. -/
def windowSlotsOption : Except Fault Int :=
  skylineOptionGetIntOr node.skylineOfOptions "slots" "windowslots" (-1)

/-- End the window of the state if there is one. -/
def endWindow (state : SkylineState T R) : Except Fault (HandleTable (TupleWindowState T R)) :=
  match state.window with
  | none => return state.windows
  | some handle => endObject state.windows (some handle)

/-- `ExecSkylineInitTupleWindow`. -/
def execSkylineInitTupleWindow (state : SkylineState T R) : Except Fault (SkylineState T R) :=
  match node.skylineMethod with
  | .blockNestedLoop | .sfs => do
      let windows ← endWindow state
      let windowSize ← windowSizeOption env node
      let windowSlots ← windowSlotsOption node
      if windowSlots = 0 then throw (.elog "tuple window must have at least one slot")
      else
        let (window, windows) := windows.alloc
          (TupleWindowState.begin env.negDblMax windowSize windowSlots state.windowPolicy)
        return { state with
          window := some window, windows
          windowsize := windowSize, windowslots := windowSlots }
  | _ => return { state with windowsize := -1, windowslots := -1 }

/-- The window policy that the option `name` selects: without statistics for at
least one column the policy "entropy" falls back to "append". -/
def windowPolicyOption (name : String) : Except Fault TupleWindowPolicy := do
  match ← skylineOptionGetWindowPolicy node.skylineOfOptions name with
  | none => return .append
  | some windowPolicy =>
      if windowPolicy = .entropy ∧ node.haveStats = false then return .append
      else return windowPolicy

/-- The window policy of a skyline node. -/
def initWindowPolicy : Except Fault TupleWindowPolicy :=
  windowPolicyOption node "windowpolicy"

/-- The flags that belong to a window policy. -/
def slFlagsOf : TupleWindowPolicy → SlFlags
  | .entropy => ⟨true, true, false⟩
  | .random => ⟨true, false, true⟩
  | .append | .prepend => SlFlags.none

/-- The state that `ExecInitSkyline` and `ExecInitElimFilter` fill in before they
begin a tuple window. -/
def makeSkylineState (windowPolicy : TupleWindowPolicy) (outer : OuterPlan T) (drawn : Nat) :
    SkylineState T R where
  status := .init
  source := .outer
  flags := slFlagsOf windowPolicy
  slPos := 0
  tuplestorestate := none
  window := none
  timestampIn := 0
  timestampOut := 0
  tempIn := none
  tempOut := none
  windowPolicy := windowPolicy
  windowsize := 0
  windowslots := 0
  resultSlot := none
  scanSlot := none
  extraSlot := none
  outerPlanState := outer
  windows := HandleTable.empty
  stores := HandleTable.empty
  drawn := drawn

/-- `ExecInitSkyline` over an outer plan. -/
def execInitSkyline (outer : OuterPlan T) (drawn : Nat) : Except Fault (SkylineState T R) := do
  let windowPolicy ← initWindowPolicy node
  execSkylineInitTupleWindow env node (makeSkylineState windowPolicy outer drawn)

variable {env node}

theorem execSkylineInitTupleWindow_of_unwindowed (unwindowed : ¬ node.skylineMethod.IsWindowed)
    (state : SkylineState T R) : execSkylineInitTupleWindow env node state =
      .ok { state with windowsize := -1, windowslots := -1 } := by
  unfold execSkylineInitTupleWindow
  cases method : node.skylineMethod with
  | blockNestedLoop => exact absurd (Or.inl method) unwindowed
  | sfs => exact absurd (Or.inr method) unwindowed
  | _ => rfl

/-- A method without a window is initialized whenever its policy is known. -/
theorem execInitSkyline_of_unwindowed (unwindowed : ¬ node.skylineMethod.IsWindowed)
    {outer : OuterPlan T} {drawn : Nat} {state : SkylineState T R}
    (init : execInitSkyline env node outer drawn = .ok state) :
    ∃ policy, initWindowPolicy node = .ok policy ∧
      state = { makeSkylineState policy outer drawn with windowsize := -1, windowslots := -1 } := by
  rcases (bind_eq_ok_iff _ _ _).mp init with ⟨policy, policyEq, initWindow⟩
  rw [execSkylineInitTupleWindow_of_unwindowed unwindowed, Except.ok.injEq] at initWindow
  exact ⟨policy, policyEq, initWindow.symm⟩

end Init

end PgSkyline
