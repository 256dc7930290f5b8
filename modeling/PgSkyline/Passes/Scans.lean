import PgSkyline.Executor.Node
import PgSkyline.Passes.View

/-!
# The methods without a window

What the results of `ExecSkyline_1DimDistinct`, `ExecSkyline_1Dim`,
`ExecSkyline_2DimPreSort` and `ExecSkyline_MaterializedNestedLoop` depend on: the
tuples still to come and a few values, without slots, positions and tuplestores.
-/

namespace PgSkyline

open Resumable Tuplestorestate

/-- What a method without a window still has to do. -/
inductive Scan (T : Type) where
  | start (tuples : List T)
  /-- Compare the upcoming tuples with the tuple returned last. -/
  | comparing (result : T) (pending : List T)
  /-- Look for tuples that drop the tuple at this position. -/
  | nested (tuples : List T) (pos : Nat)
  /-- Return what was stored. -/
  | stored (queue : List T)
  | done

namespace Scan

variable {T D R : Type} (env : ExecEnv T D R) (node : Skyline D)

/-! ## The passes -/

/-- Is the tuple returned although `result` was returned before it? -/
def keepsSlot (tuple result : T) : Bool :=
  let cmp := isDominating env node tuple result
  decide (cmp = .incomparable ∨ (cmp = .allEq ∧ node.skylineDistinct = false))

def presortPass : Body Fault (Scan T) T
  | .start [] => return (.done, .finished)
  | .start (tuple :: rest) => return (.comparing tuple rest, .emit tuple)
  | .comparing _ [] => return (.done, .finished)
  | .comparing result (tuple :: rest) =>
      if keepsSlot env node tuple result then return (.comparing tuple rest, .emit tuple)
      else return (.comparing result rest, .again)
  | .done => return (.done, .finished)
  | _ => throw (.assertion "0")

/-- The tuple at a position of the nested loop. -/
def nestedLoopFrom (tuples : List T) (pos : Nat) : Except Fault (Scan T × Outcome T) :=
  match tuples[pos]? with
  | none => return (.done, .finished)
  | some result =>
      if (nestedLoopScan env node result (pos + 1) 0 tuples).1 then
        return (.nested tuples (pos + 1), .again)
      else return (.nested tuples (pos + 1), .emit result)

def nestedLoopPass : Body Fault (Scan T) T
  | .start tuples => nestedLoopFrom env node tuples 0
  | .nested tuples pos => nestedLoopFrom env node tuples pos
  | .done => return (.done, .finished)
  | _ => throw (.assertion "0")

/-- The loop of `ExecSkyline_1Dim` on the contents of the tuplestore. -/
def minimaLoop (col : SkylineCol D) :
    List T → Option (Option D) → List T → Option (Option D) × List T
  | [], datum1, queue => (datum1, queue)
  | slot :: rest, none, queue =>
      minimaLoop col rest (some (getDatum env col slot)) (queue ++ [slot])
  | slot :: rest, some datum1, queue =>
      let datum2 := getDatum env col slot
      let cmp := compareDatums col datum1 datum2
      if cmp = 0 then minimaLoop col rest (some datum1) (queue ++ [slot])
      else if cmp > 0 then minimaLoop col rest (some datum2) [slot]
      else minimaLoop col rest (some datum1) queue

/-- Return the next stored tuple. -/
def pipeoutFrom : List T → Except Fault (Scan T × Outcome T)
  | [] => return (.done, .finished)
  | tuple :: rest => return (.stored rest, .emit tuple)

def oneDimPass : Body Fault (Scan T) T
  | .start tuples => do
      let col ← firstCol node
      let (datum1, queue) := minimaLoop env col tuples none []
      releaseDatum env col datum1
      pipeoutFrom queue
  | .stored queue => pipeoutFrom queue
  | .done => return (.done, .finished)
  | _ => throw (.assertion "0")

def oneDimDistinctPass : Body Fault (Scan T) T
  | .start tuples => do
      let col ← firstCol node
      match ← oneDimDistinctLoop env col tuples none none with
      | none => return (.done, .finished)
      | some result => return (.done, .emit result)
  | .done => return (.done, .finished)
  | _ => throw (.assertion "0")

end Scan

/-! ## What a state stands for -/

variable {T D R : Type}

/-- The node has not begun its scan of these tuples. -/
def AtStart (state : SkylineState T R) (tuples : List T) : Prop :=
  state.status = .init ∧ state.outerPlanState.Delivers tuples

def PresortView (state : SkylineState T R) : Scan T → Prop
  | .start tuples => AtStart state tuples
  | .comparing result pending => state.status = .process ∧ state.resultSlot = some result ∧
      state.outerPlanState.upcoming = pending
  | .done => state.status = .done
  | _ => False

def NestedLoopView (state : SkylineState T R) : Scan T → Prop
  | .start tuples => AtStart state tuples
  | .nested tuples pos => state.status = .process ∧ state.slPos = pos ∧
      state.outerPlanState.chgParam = none ∧ state.outerPlanState.tuples = tuples ∧
      state.outerPlanState.mark = pos
  | .done => state.status = .done
  | _ => False

def OneDimView (state : SkylineState T R) : Scan T → Prop
  | .start tuples => AtStart state tuples
  | .stored queue => state.status = .pipeout ∧ ∃ store,
      PointsTo state.stores state.tuplestorestate store ∧ Holds store queue
  | .done => state.status = .done
  | _ => False

/-- The result slot has to be empty when the scan begins. -/
def OneDimDistinctView (state : SkylineState T R) : Scan T → Prop
  | .start tuples => AtStart state tuples ∧ state.resultSlot = none
  | .done => state.status = .done
  | _ => False

variable {env : ExecEnv T D R} {node : Skyline D}

/-- An initialized method without a window has not begun its scan. -/
theorem atStart_of_init (unwindowed : ¬ node.skylineMethod.IsWindowed) {input : List T}
    {drawn : Nat} {state : SkylineState T R}
    (init : execInitSkyline env node (OuterPlan.init input) drawn = .ok state) :
    AtStart state input ∧ state.resultSlot = none := by
  rcases execInitSkyline_of_unwindowed unwindowed init with ⟨policy, _, rfl⟩
  exact ⟨⟨rfl, rfl, rfl⟩, rfl⟩

/-! ## `ExecSkyline_2DimPreSort` -/

theorem presort_simulates :
    Simulates (execSkyline2DimPreSort env node) (Scan.presortPass env node)
      (PresortView : SkylineState T R → Scan T → Prop) := by
  intro state scan view
  unfold execSkyline2DimPreSort
  cases scan with
  | start tuples =>
      rcases view with ⟨status, delivers⟩
      have upcoming := delivers.upcoming
      simp only [status]
      cases tuples with
      | nil =>
          rw [OuterPlan.procNode_of_upcoming_nil upcoming]
          exact ⟨_, rfl, rfl⟩
      | cons tuple rest =>
          rcases OuterPlan.procNode_of_upcoming_cons upcoming with ⟨fetched, advanced⟩
          rw [fetched] at advanced ⊢
          exact ⟨_, rfl, rfl, rfl, advanced⟩
  | comparing result pending =>
      rcases view with ⟨status, resultSlot, upcoming⟩
      simp only [status, resultSlot]
      cases pending with
      | nil =>
          rw [OuterPlan.procNode_of_upcoming_nil upcoming]
          exact ⟨_, rfl, rfl⟩
      | cons tuple rest =>
          rcases OuterPlan.procNode_of_upcoming_cons upcoming with ⟨fetched, advanced⟩
          rw [fetched] at advanced ⊢
          simp only [Scan.presortPass, Scan.keepsSlot, decide_eq_true_eq]
          split
          · exact ⟨_, rfl, rfl, rfl, advanced⟩
          · exact ⟨_, rfl, rfl, rfl, advanced⟩
  | nested tuples pos => exact view.elim
  | stored queue => exact view.elim
  | done =>
      have status : state.status = .done := view
      simp only [status]
      exact ⟨_, rfl, status⟩

/-! ## `ExecSkyline_MaterializedNestedLoop` -/

/-- One pass of the outer loop goes on with the tuple at the marked position. -/
theorem nestedLoopProcess_follows {state : SkylineState T R} {tuples : List T} {pos : Nat}
    (process : state.status = .process) (slPos : state.slPos = pos)
    (contents : state.outerPlanState.restrPos.refresh.tuples = tuples)
    (position : state.outerPlanState.restrPos.refresh.pos = pos) :
    Follows NestedLoopView (nestedLoopProcess env node state)
      (Scan.nestedLoopFrom env node tuples pos) := by
  have settled := OuterPlan.chgParam_refresh state.outerPlanState.restrPos
  unfold nestedLoopProcess Scan.nestedLoopFrom OuterPlan.procNode
  generalize state.outerPlanState.restrPos.refresh = outer at contents position settled ⊢
  rcases outer with ⟨outerTuples, outerPos, mark, chgParam⟩
  simp only at contents position settled
  subst contents position settled
  cases found : outerTuples[outerPos]? with
  | none =>
      simp only [found]
      exact ⟨_, rfl, rfl⟩
  | some result =>
      have again : ({ tuples := outerTuples, pos := outerPos + 1, mark, chgParam := none } :
          OuterPlan T).markPos.reScan.upcoming = outerTuples := rfl
      simp only [found, slPos, again]
      by_cases dropped : (nestedLoopScan env node result (outerPos + 1) 0 outerTuples).1 = true
      · simp only [dropped, if_true]
        exact ⟨_, rfl, process, rfl, rfl, rfl, rfl⟩
      · simp only [dropped]
        exact ⟨_, rfl, process, rfl, rfl, rfl, rfl⟩

theorem nestedLoop_simulates :
    Simulates (execSkylineMaterializedNestedLoop env node) (Scan.nestedLoopPass env node)
      (NestedLoopView : SkylineState T R → Scan T → Prop) := by
  intro state scan view
  unfold execSkylineMaterializedNestedLoop
  cases scan with
  | start tuples =>
      rcases view with ⟨status, contents, position⟩
      simp only [status]
      apply nestedLoopProcess_follows
      · rfl
      · rfl
      · cases changed : state.outerPlanState.chgParam <;>
          simpa [OuterPlan.refresh, OuterPlan.restrPos, OuterPlan.markPos, OuterPlan.reScan,
            changed] using contents
      · cases changed : state.outerPlanState.chgParam with
        | none =>
            simpa [OuterPlan.refresh, OuterPlan.restrPos, OuterPlan.markPos, changed] using position
        | some tuples' =>
            simp [OuterPlan.refresh, OuterPlan.restrPos, OuterPlan.markPos, OuterPlan.reScan,
              changed]
  | nested tuples pos =>
      rcases view with ⟨status, slPos, settled, contents, marked⟩
      simp only [status]
      apply nestedLoopProcess_follows status slPos
      · simpa [OuterPlan.refresh, OuterPlan.restrPos, settled] using contents
      · simpa [OuterPlan.refresh, OuterPlan.restrPos, settled] using marked
  | comparing result pending => exact view.elim
  | stored queue => exact view.elim
  | done =>
      have status : state.status = .done := view
      simp only [status]
      exact ⟨_, rfl, status⟩

/-! ## `ExecSkyline_1DimDistinct` -/

theorem oneDimDistinct_simulates :
    Simulates (execSkyline1DimDistinct env node) (Scan.oneDimDistinctPass env node)
      (OneDimDistinctView : SkylineState T R → Scan T → Prop) := by
  intro state scan view
  unfold execSkyline1DimDistinct
  cases scan with
  | start tuples =>
      rcases view with ⟨⟨status, delivers⟩, empty⟩
      simp only [status, Scan.oneDimDistinctPass, delivers.upcoming, empty]
      cases firstCol node with
      | error fault => exact follows_error _ fault
      | ok col =>
          simp only [ok_bind]
          cases oneDimDistinctLoop env col tuples none none with
          | error fault => exact follows_error _ fault
          | ok resultSlot =>
              cases resultSlot with
              | none => exact ⟨_, rfl, rfl⟩
              | some result => exact ⟨_, rfl, rfl⟩
  | comparing result pending => exact view.elim
  | nested tuples pos => exact view.elim
  | stored queue => exact view.elim
  | done =>
      have status : state.status = .done := view
      simp only [status]
      exact ⟨_, rfl, status⟩

/-! ## `ExecSkyline_1Dim` -/

/-- The tuplestore holds the minimal tuples met so far. -/
theorem oneDimLoop_eq (col : SkylineCol D) (tuples : List T) (datum1 : Option (Option D))
    {store : Tuplestorestate T} {queue : List T} (holds : Holds store queue)
    (writable : Writable store) (mark : store.eflags.mark = true) :
    ∃ store', oneDimLoop env col tuples datum1 store =
        .ok ((Scan.minimaLoop env col tuples datum1 queue).1, store') ∧
      Holds store' (Scan.minimaLoop env col tuples datum1 queue).2 := by
  induction tuples generalizing datum1 store queue with
  | nil => exact ⟨store, rfl, holds⟩
  | cons slot rest ih =>
      rcases holds.puttupleslot env.space writable slot with ⟨put, putWritable⟩
      have putMark : (store.puttupleslot env.space slot).eflags.mark = true := by
        simpa using mark
      cases datum1 with
      | none => exact ih _ put putWritable putMark
      | some datum1 =>
          simp only [oneDimLoop, Scan.minimaLoop]
          split
          · exact ih _ put putWritable putMark
          · split
            · rcases holds.catchup env.space mark with
                ⟨caughtUp, catchupEq, empty, emptyWritable, eflags⟩
              rcases empty.puttupleslot env.space emptyWritable slot with ⟨put', putWritable'⟩
              simp only [catchupEq, ok_bind]
              apply ih _ put' putWritable'
              simpa [eflags] using mark
            · exact ih _ holds writable mark

/-- Returning the next stored tuple. -/
theorem oneDimPipeout_follows {state : SkylineState T R} {store : Tuplestorestate T}
    {queue : List T} (pipeout : state.status = .pipeout)
    (found : PointsTo state.stores state.tuplestorestate store) (holds : Holds store queue) :
    Follows OneDimView (oneDimPipeout env state) (Scan.pipeoutFrom queue) := by
  simp only [oneDimPipeout, found.isSome, assertThat_true, found.deref, ok_bind]
  cases queue with
  | nil =>
      rcases holds.gettupleslot_nil env.space with ⟨store', fetched, _⟩
      rcases (found.assign store').endObject with ⟨stores, ended, _⟩
      simp only [fetched, ok_bind, ended]
      exact ⟨_, rfl, rfl⟩
  | cons tuple rest =>
      rcases holds.gettupleslot_cons env.space with ⟨store', fetched, holds', _⟩
      simp only [fetched, ok_bind]
      exact ⟨_, rfl, pipeout, store', found.assign store', holds'⟩

theorem oneDim_simulates :
    Simulates (execSkyline1Dim env node) (Scan.oneDimPass env node)
      (OneDimView : SkylineState T R → Scan T → Prop) := by
  intro state scan view
  unfold execSkyline1Dim
  cases scan with
  | start tuples =>
      rcases view with ⟨status, delivers⟩
      simp only [status, oneDimInit, Scan.oneDimPass, delivers.upcoming]
      cases firstCol node with
      | error fault => exact follows_error _ fault
      | ok col =>
          have flagged : (Tuplestorestate.beginHeap env.space false env.workMem).setEflags
              ⟨false, false, true⟩ =
                .ok { Tuplestorestate.beginHeap env.space false env.workMem with
                  eflags := ⟨false, false, true⟩ } := rfl
          have begun := @holds_beginHeap T env.space false env.workMem
          have empty : Holds { Tuplestorestate.beginHeap env.space false env.workMem with
              eflags := ⟨false, false, true⟩ } [] := ⟨begun.unread, begun.empty_of_eof⟩
          rcases @oneDimLoop_eq T D R env col tuples none _ _ empty rfl rfl with
            ⟨store, looped, holds⟩
          simp only [flagged, looped, ok_bind]
          cases releaseDatum env col (Scan.minimaLoop env col tuples none []).1 with
          | error fault => exact follows_error _ fault
          | ok _ =>
              exact @oneDimPipeout_follows T D R env
                { state with
                  tuplestorestate := some (state.stores.alloc store).1
                  stores := (state.stores.alloc store).2
                  outerPlanState := state.outerPlanState.exhaust
                  status := .pipeout } store _ rfl (pointsTo_alloc state.stores store) holds
  | comparing result pending => exact view.elim
  | nested tuples pos => exact view.elim
  | stored queue =>
      rcases view with ⟨status, store, found, holds⟩
      simp only [status]
      exact oneDimPipeout_follows status found holds
  | done =>
      have status : state.status = .done := view
      simp only [status]
      exact ⟨_, rfl, status⟩

end PgSkyline
