import PgSkyline.Passes.View

/-!
# The window methods simulate their passes

Seen through its pointers, a node that runs a window method is in the state of
the corresponding handle-free machine.  The simulation needs no law of the
compare functions and no bound on the window, so it also carries the life cycle
of the windows and temporary files.
-/

namespace PgSkyline

open Resumable TupleWindowState

variable {T D R : Type} [LE R] [DecidableLE R] [LT R] [DecidableLT R]
variable (env : ExecEnv T D R) (node : Skyline D) (policy : TupleWindowPolicy)

/-- What both window methods keep in the state. -/
structure WindowMethodView (state : SkylineState T R) (pass : Pass T R) : Prop where
  status : state.status = pass.status
  drawn : state.drawn = pass.drawn
  windowPolicy : state.windowPolicy = policy
  flags : state.flags = slFlagsOf policy
  tuplestorestate : state.tuplestorestate = none

/-- A block nested loop node stands for a pass. -/
structure BlockNestedLoopView (state : SkylineState T R) (pass : Pass T R) : Prop
    extends WindowMethodView policy state pass where
  contents :
    match pass.status with
    | .init => HoldsWindow state.windows state.window pass.window ∧ state.files.Closed ∧
        state.outerPlanState.upcoming = pass.pending
    | .process | .pipeout => HoldsWindow state.windows state.window pass.window ∧
        state.files.Reading pass.pending pass.overflow ∧
        state.timestampIn = pass.timestampIn ∧ state.timestampOut = pass.timestampOut
    | .finalPipeout => HoldsWindow state.windows state.window pass.window ∧ state.files.Closed
    | .done => (∀ handle, ¬ state.windows.Live handle) ∧ state.window ≠ none ∧ state.files.Closed

/-- A sort filter skyline node stands for a pass. -/
structure SortFilterView (state : SkylineState T R) (pass : Pass T R) : Prop
    extends WindowMethodView policy state pass where
  window : HoldsWindow state.windows state.window pass.window
  contents :
    match pass.status with
    | .init => state.files.Closed ∧ state.outerPlanState.upcoming = pass.pending
    | .process => state.files.Reading pass.pending pass.overflow ∧
        state.timestampOut = pass.timestampOut
    | .done => state.files.Closed
    | .pipeout | .finalPipeout => False

/-! ## Block nested loop -/

variable {env} {node} {policy}

omit [LE R] [DecidableLE R] [LT R] [DecidableLT R] in
/-- Removing the current window tuple looks the same through the pointers. -/
theorem pipeOutCurrent_follows {View : SkylineState T R → Pass T R → Prop}
    {state : SkylineState T R} {pass : Pass T R}
    (view : ∀ window resultSlot,
      View { state with windows := assign state.windows state.window window, resultSlot }
        { pass with window }) :
    Follows View (pipeOutCurrent env state pass.window) (pass.pipeOut env) := by
  unfold Pass.pipeOut pipeOutCurrent
  cases getTupleSlot env.space pass.window true with
  | error fault => exact follows_error _ fault
  | ok fetched =>
      obtain ⟨resultSlot, window⟩ := fetched
      cases resultSlot with
      | none => exact follows_ok (view window none) _
      | some result => exact follows_ok (view window (some result)) _

private theorem blockNestedLoopTuple_simulates {state : SkylineState T R} {pass : Pass T R}
    {slot : T} {rest : List T}
    (common : WindowMethodView policy state pass)
    (holds : HoldsWindow state.windows state.window pass.window)
    (reading : state.files.Reading rest pass.overflow)
    (timestampIn : state.timestampIn = pass.timestampIn)
    (timestampOut : state.timestampOut = pass.timestampOut) :
    Follows (BlockNestedLoopView policy) (blockNestedLoopTuple env node state slot)
      (blockNestedLoopStep env node (slFlagsOf policy) pass slot rest) := by
  have independent := offerToWindow_innerSlot env node (slFlagsOf policy) (removeCurrent env.space)
    pass.timestampOut slot pass.window pass.drawn state.resultSlot
  simp only [blockNestedLoopStep, blockNestedLoopTuple, holds.found.deref, ok_bind, common.flags,
    common.drawn, timestampOut]
  revert independent
  cases offerToWindow env node (removeCurrent env.space) pass.timestampOut (slFlagsOf policy) slot
      pass.window pass.drawn none with
  | error fault =>
      intro independent
      simp only [independent, error_bind, follows_error]
  | ok admission =>
      rintro ⟨innerSlot, independent⟩
      simp only [independent, ok_bind, pure_eq_ok, Pass.spill]
      by_cases overflows : admission.disposition = .overflows
      · simp only [overflows, if_true]
        obtain ⟨stores, written, reading'⟩ := @writeTempOut_eq T D R env
          { state with
            flags := slFlagsOf policy
            timestampIn := state.timestampIn + 1
            timestampOut := pass.timestampOut
            windows := assign state.windows state.window (rewind admission.window)
            drawn := admission.drawn
            resultSlot := innerSlot } _ _ reading slot
        simp only [written, ok_bind]
        refine ⟨_, rfl, ⟨rfl, rfl, common.windowPolicy, rfl, common.tuplestorestate⟩, ?_⟩
        exact ⟨holds.assign _, reading', by simp [timestampIn], rfl⟩
      · simp only [overflows, if_false]
        refine ⟨_, rfl, ⟨rfl, rfl, common.windowPolicy, rfl, common.tuplestorestate⟩, ?_⟩
        exact ⟨holds.assign _, reading, by simp [timestampIn], rfl⟩

private theorem blockNestedLoopEndOfSource_simulates {state : SkylineState T R} {pass : Pass T R}
    (common : WindowMethodView policy state pass)
    (holds : HoldsWindow state.windows state.window pass.window)
    (reading : state.files.Reading [] pass.overflow)
    (timestampOut : state.timestampOut = pass.timestampOut) (noneLeft : pass.pending = [])
    (process : pass.status = .process) :
    Follows (BlockNestedLoopView policy) (blockNestedLoopEndOfSource env state)
      (blockNestedLoopPass env node (slFlagsOf policy) pass) := by
  obtain ⟨stores, endedIn, writing⟩ := endTempIn_eq reading
  simp only [blockNestedLoopPass, process, noneLeft, blockNestedLoopEndOfSource, endedIn, ok_bind,
    timestampOut]
  by_cases nothing : pass.timestampOut = 0
  · simp only [nothing, if_true]
    obtain ⟨stores', endedOut, closed⟩ := @endTempOut_eq T R
      { state with stores, tempIn := none, timestampOut := 0 } _ writing
    have onWindowEq := @onWindow_eq T R
      { state with stores := stores', tempIn := none, tempOut := none, timestampOut := 0 } _ holds
      rewind
    simp only [endedOut, onWindowEq, ok_bind, pure_eq_ok]
    refine ⟨_, rfl, ⟨rfl, common.drawn, common.windowPolicy, common.flags, common.tuplestorestate⟩,
      ?_⟩
    exact ⟨holds.assign _, closed⟩
  · simp only [nothing, if_false]
    have reading' := @reading_switchTemp T D R env
      { state with stores, tempIn := none, timestampOut := pass.timestampOut } _ writing
    have onWindowEq := @onWindow_eq T R
      { switchTemp env { state with
          stores, tempIn := none, timestampOut := pass.timestampOut } with timestampIn := 0 } _
      holds rewind
    simp only [onWindowEq, ok_bind, pure_eq_ok]
    refine ⟨_, rfl, ⟨rfl, common.drawn, common.windowPolicy, common.flags, common.tuplestorestate⟩,
      ?_⟩
    exact ⟨holds.assign _, reading', rfl, rfl⟩

private theorem blockNestedLoopPipeout_simulates {state : SkylineState T R} {pass : Pass T R}
    (common : WindowMethodView policy state pass)
    (holds : HoldsWindow state.windows state.window pass.window)
    (reading : state.files.Reading pass.pending pass.overflow)
    (timestampIn : state.timestampIn = pass.timestampIn)
    (timestampOut : state.timestampOut = pass.timestampOut) (status : pass.status = .pipeout) :
    Follows (BlockNestedLoopView policy) (execSkylineBlockNestedLoop env node state)
      (blockNestedLoopPass env node (slFlagsOf policy) pass) := by
  have statusEq := common.status
  have statusPipeout : state.status = .pipeout := statusEq.trans status
  simp only [execSkylineBlockNestedLoop, statusPipeout, blockNestedLoopPipeout,
    holds.found.deref, ok_bind, blockNestedLoopPass, status]
  by_cases atEnd : atEof pass.window = true
  · simp only [atEnd, if_true, pure_eq_ok]
    exact follows_ok ⟨⟨rfl, common.drawn, common.windowPolicy, common.flags,
      common.tuplestorestate⟩, holds, reading, timestampIn, timestampOut⟩ _
  · simp only [atEnd, Bool.false_eq_true, if_false]
    cases timestampCurrent pass.window with
    | error fault => exact follows_error _ fault
    | ok timestamp =>
        simp only [ok_bind, timestampIn]
        by_cases now : timestamp = pass.timestampIn
        · simp only [now, if_true]
          refine pipeOutCurrent_follows fun window resultSlot => ⟨⟨statusEq, common.drawn,
            common.windowPolicy, common.flags, common.tuplestorestate⟩, ?_⟩
          simp only [status]
          exact ⟨holds.assign _, reading, timestampIn, timestampOut⟩
        · simp only [now, if_false, onWindow_eq holds, ok_bind, pure_eq_ok]
          exact follows_ok ⟨⟨statusPipeout, common.drawn, common.windowPolicy, common.flags,
            common.tuplestorestate⟩, holds.assign _, reading, timestampIn, timestampOut⟩ _

private theorem blockNestedLoopFinalPipeout_simulates {state : SkylineState T R} {pass : Pass T R}
    (common : WindowMethodView policy state pass)
    (holds : HoldsWindow state.windows state.window pass.window) (closed : state.files.Closed)
    (status : pass.status = .finalPipeout) :
    Follows (BlockNestedLoopView policy) (execSkylineBlockNestedLoop env node state)
      (blockNestedLoopPass env node (slFlagsOf policy) pass) := by
  have statusEq := common.status
  have statusFinal : state.status = .finalPipeout := statusEq.trans status
  simp only [execSkylineBlockNestedLoop, statusFinal, blockNestedLoopFinalPipeout,
    holds.found.deref, ok_bind, blockNestedLoopPass, status]
  by_cases atEnd : atEof pass.window = true
  · obtain ⟨windows, ended, noneLive⟩ := holds.endObject
    simp only [atEnd, if_true, pure_eq_ok, ended, ok_bind]
    refine follows_ok ⟨⟨rfl, common.drawn, common.windowPolicy, common.flags,
      common.tuplestorestate⟩, noneLive, ?_, closed⟩ _
    obtain ⟨handle, pointer, _⟩ := holds.found
    simp [pointer]
  · simp only [atEnd, Bool.false_eq_true, if_false]
    refine pipeOutCurrent_follows fun window resultSlot => ⟨⟨statusEq, common.drawn,
      common.windowPolicy, common.flags, common.tuplestorestate⟩, ?_⟩
    simp only [status]
    exact ⟨holds.assign _, closed⟩

/-- A block nested loop node and its pass take the same passes of the body. -/
theorem blockNestedLoop_simulates :
    Simulates (execSkylineBlockNestedLoop env node)
      (blockNestedLoopPass env node (slFlagsOf policy)) (BlockNestedLoopView policy) := by
  rintro state pass ⟨common, contents⟩
  have statusEq := common.status
  cases status : pass.status with
  | init =>
      rw [status] at contents statusEq
      obtain ⟨holds, closed, upcoming⟩ := contents
      simp only [execSkylineBlockNestedLoop, blockNestedLoopPass, status, statusEq, pure_eq_ok]
      refine follows_ok ⟨⟨rfl, common.drawn, common.windowPolicy, common.flags,
        common.tuplestorestate⟩, holds, ?_, rfl, rfl⟩ _
      rw [← upcoming]
      exact @reading_beginScan T D R env state closed
  | process =>
      rw [status] at contents statusEq
      obtain ⟨holds, reading, timestampIn, timestampOut⟩ := contents
      simp only [execSkylineBlockNestedLoop, statusEq]
      cases pending : pass.pending with
      | nil =>
          rw [pending] at reading
          obtain ⟨outerPlanState, stores, extraSlot, fetched, reading'⟩ := fetchSlot_nil env reading
          simp only [fetched, ok_bind]
          exact @blockNestedLoopEndOfSource_simulates T D R _ _ _ _ env node policy
            { state with outerPlanState, stores, extraSlot } pass
            ⟨statusEq.trans status.symm, common.drawn, common.windowPolicy, common.flags,
              common.tuplestorestate⟩ holds reading' timestampOut pending status
      | cons slot rest =>
          rw [pending] at reading
          obtain ⟨outerPlanState, stores, extraSlot, fetched, reading'⟩ :=
            fetchSlot_cons env reading
          simp only [fetched, ok_bind, blockNestedLoopPass, status, pending]
          exact @blockNestedLoopTuple_simulates T D R _ _ _ _ env node policy
            { state with outerPlanState, stores, extraSlot } pass slot rest
            ⟨statusEq.trans status.symm, common.drawn, common.windowPolicy, common.flags,
              common.tuplestorestate⟩ holds reading' timestampIn timestampOut
  | pipeout =>
      rw [status] at contents
      obtain ⟨holds, reading, timestampIn, timestampOut⟩ := contents
      exact blockNestedLoopPipeout_simulates common holds reading timestampIn timestampOut status
  | finalPipeout =>
      rw [status] at contents
      obtain ⟨holds, closed⟩ := contents
      exact blockNestedLoopFinalPipeout_simulates common holds closed status
  | done =>
      simp only [execSkylineBlockNestedLoop, blockNestedLoopPass, status, statusEq, pure_eq_ok]
      exact follows_ok ⟨common, contents⟩ _

/-! ## Sort filter skyline -/

theorem sortFilterTuple_simulates {state : SkylineState T R} {pass : Pass T R}
    {slot : T} {rest : List T} (process : pass.status = .process)
    (common : WindowMethodView policy state pass)
    (holds : HoldsWindow state.windows state.window pass.window)
    (reading : state.files.Reading rest pass.overflow)
    (timestampOut : state.timestampOut = pass.timestampOut) :
    Follows (SortFilterView policy) (sortFilterTuple env node state slot)
      (sortFilterStep env node (slFlagsOf policy) pass slot rest) := by
  have statusEq := common.status
  have independent := offerToWindow_innerSlot env node (slFlagsOf policy)
    (assertNotSecondDominates env.assertChecking) 0 slot pass.window pass.drawn state.resultSlot
  simp only [sortFilterStep, sortFilterTuple, holds.found.deref, ok_bind, common.flags,
    common.drawn]
  revert independent
  cases offerToWindow env node (assertNotSecondDominates env.assertChecking) 0
      (slFlagsOf policy) slot pass.window pass.drawn none with
  | error fault =>
      intro independent
      simp only [independent, error_bind, follows_error]
  | ok admission =>
      rintro ⟨innerSlot, independent⟩
      simp only [independent, ok_bind, pure_eq_ok, Pass.spill]
      cases disposition : admission.disposition with
      | stored =>
          refine follows_ok ⟨⟨statusEq, rfl, common.windowPolicy, rfl, common.tuplestorestate⟩,
            holds.assign _, ?_⟩ _
          simp only [reduceCtorEq, if_false, process]
          exact ⟨reading, timestampOut⟩
      | overflows =>
          obtain ⟨stores, written, reading'⟩ := @writeTempOut_eq T D R env
            { state with
              flags := slFlagsOf policy
              timestampIn := state.timestampIn + 1
              windows := assign state.windows state.window admission.window
              drawn := admission.drawn
              resultSlot := innerSlot } _ _ reading slot
          simp only [written, ok_bind, if_true, reduceCtorEq, if_false]
          refine follows_ok ⟨⟨statusEq, rfl, common.windowPolicy, rfl, common.tuplestorestate⟩,
            holds.assign _, ?_⟩ _
          simp only [process]
          exact ⟨reading', by rw [timestampOut]⟩
      | dropped =>
          simp only [reduceCtorEq, if_false]
          refine follows_ok ⟨⟨statusEq, rfl, common.windowPolicy, rfl, common.tuplestorestate⟩,
            holds.assign _, ?_⟩ _
          simp only [process]
          exact ⟨reading, timestampOut⟩

private theorem sortFilterEndOfSource_simulates {state : SkylineState T R} {pass : Pass T R}
    (common : WindowMethodView policy state pass)
    (holds : HoldsWindow state.windows state.window pass.window)
    (reading : state.files.Reading [] pass.overflow)
    (timestampOut : state.timestampOut = pass.timestampOut) (noneLeft : pass.pending = [])
    (process : pass.status = .process) :
    Follows (SortFilterView policy) (sortFilterEndOfSource env state)
      (sortFilterPass env node (slFlagsOf policy) pass) := by
  have statusEq := common.status
  obtain ⟨stores, endedIn, writing⟩ := endTempIn_eq reading
  simp only [sortFilterPass, process, noneLeft, sortFilterEndOfSource, endedIn, ok_bind,
    timestampOut]
  by_cases nothing : pass.timestampOut = 0
  · simp only [nothing, if_true]
    obtain ⟨stores', endedOut, closed⟩ := @endTempOut_eq T R
      { state with stores, tempIn := none, timestampOut := 0 } _ writing
    simp only [endedOut, ok_bind, pure_eq_ok]
    exact follows_ok ⟨⟨rfl, common.drawn, common.windowPolicy, common.flags,
      common.tuplestorestate⟩, holds, closed⟩ _
  · simp only [nothing, if_false]
    have reading' := @reading_switchTemp T D R env
      { state with stores, tempIn := none, timestampOut := pass.timestampOut } _ writing
    have onWindowEq := @onWindow_eq T R
      (switchTemp env { state with stores, tempIn := none, timestampOut := pass.timestampOut }) _
      holds clean
    simp only [onWindowEq, ok_bind, pure_eq_ok]
    refine follows_ok ⟨⟨statusEq.trans process, common.drawn, common.windowPolicy, common.flags,
      common.tuplestorestate⟩, holds.assign _, ?_⟩ _
    exact ⟨reading', rfl⟩

/-- A sort filter skyline node and its pass take the same passes of the body. -/
theorem sortFilter_simulates :
    Simulates (execSkylineSortFilterSkyline env node)
      (sortFilterPass env node (slFlagsOf policy)) (SortFilterView policy) := by
  rintro state pass ⟨common, holds, contents⟩
  have statusEq := common.status
  unfold execSkylineSortFilterSkyline
  cases status : pass.status with
  | init =>
      rw [status] at contents statusEq
      obtain ⟨closed, upcoming⟩ := contents
      simp only [sortFilterPass, status, statusEq, pure_eq_ok]
      refine follows_ok ⟨⟨rfl, common.drawn, common.windowPolicy, common.flags,
        common.tuplestorestate⟩, holds, ?_, rfl⟩ _
      rw [← upcoming]
      exact @reading_beginScan T D R env state closed
  | process =>
      rw [status] at contents statusEq
      obtain ⟨reading, timestampOut⟩ := contents
      simp only [statusEq]
      cases pending : pass.pending with
      | nil =>
          rw [pending] at reading
          obtain ⟨outerPlanState, stores, extraSlot, fetched, reading'⟩ := fetchSlot_nil env reading
          simp only [fetched, ok_bind]
          exact @sortFilterEndOfSource_simulates T D R _ _ _ _ env node policy
            { state with outerPlanState, stores, extraSlot } pass
            ⟨statusEq.trans status.symm, common.drawn, common.windowPolicy, common.flags,
              common.tuplestorestate⟩ holds reading' timestampOut pending status
      | cons slot rest =>
          rw [pending] at reading
          obtain ⟨outerPlanState, stores, extraSlot, fetched, reading'⟩ :=
            fetchSlot_cons env reading
          simp only [fetched, ok_bind, sortFilterPass, status, pending]
          exact @sortFilterTuple_simulates T D R _ _ _ _ env node policy
            { state with outerPlanState, stores, extraSlot } pass slot rest status
            ⟨statusEq.trans status.symm, common.drawn, common.windowPolicy, common.flags,
              common.tuplestorestate⟩ holds reading' timestampOut
  | pipeout | finalPipeout =>
      rw [status] at contents
      exact contents.elim
  | done =>
      simp only [sortFilterPass, status, statusEq, pure_eq_ok]
      exact follows_ok ⟨common, holds, contents⟩ _

end PgSkyline
