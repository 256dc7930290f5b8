import PgSkyline.Executor.ElimFilter
import PgSkyline.Passes.Admission
import PgSkyline.Passes.Scans
import PgSkyline.Passes.Simulation
import PgSkyline.Passes.Start

/-!
# Results and the reading of the outer plan

`skyline_methode_can_use_limit` tells the planner which methods return tuples before
they have read the whole outer plan.  This module compares it with the executor: what
a method has read when it hands out a result, in every state it can reach.
-/

namespace PgSkyline

open Resumable TupleWindowState

variable {T D R : Type}

/-- The outer plan has no more tuples. -/
def ReadAll (state : SkylineState T R) : Prop :=
  state.outerPlanState.upcoming = []

/-- The tuple is the one that the pass took from the outer plan. -/
def JustRead (state state' : SkylineState T R) (tuple : T) : Prop :=
  state.outerPlanState.upcoming = tuple :: state'.outerPlanState.upcoming

theorem OuterPlan.upcoming_exhaust (outer : OuterPlan T) : outer.exhaust.upcoming = [] := by
  simp only [exhaust, upcoming]
  rw [refresh_of_settled (by simp), List.drop_eq_nil_iff]
  exact Nat.le_max_right _ _

/-! ## The source of a window method -/

section Frame

variable {env : ExecEnv T D R}

/-- The state reads from where the other one reads. -/
def SameSource (state state' : SkylineState T R) : Prop :=
  state'.source = state.source ∧ state'.outerPlanState = state.outerPlanState

theorem SameSource.readAll {state state' : SkylineState T R} (same : SameSource state state')
    (readAll : ReadAll state) : ReadAll state' := by
  rw [ReadAll, same.2]
  exact readAll

theorem onWindow_sameSource {state state' : SkylineState T R}
    {operation : TupleWindowState T R → TupleWindowState T R}
    (applied : onWindow state operation = .ok state') :
    SameSource state state' ∧ state'.status = state.status := by
  rcases (bind_eq_ok_iff _ _ _).mp applied with ⟨window, _, result⟩
  cases result
  exact ⟨⟨rfl, rfl⟩, rfl⟩

theorem writeTempOut_sameSource {state state' : SkylineState T R} {slot : T}
    (written : writeTempOut env state slot = .ok state') : SameSource state state' := by
  rcases (bind_eq_ok_iff _ _ _).mp written with ⟨store, _, result⟩
  cases result
  exact ⟨rfl, rfl⟩

theorem endTempIn_sameSource {state state' : SkylineState T R}
    (ended : endTempIn state = .ok state') : SameSource state state' := by
  unfold endTempIn at ended
  split at ended
  · cases ended
    exact ⟨rfl, rfl⟩
  · rcases (bind_eq_ok_iff _ _ _).mp ended with ⟨stores, _, result⟩
    cases result
    exact ⟨rfl, rfl⟩

theorem endTempOut_sameSource {state state' : SkylineState T R}
    (ended : endTempOut state = .ok state') : SameSource state state' := by
  rcases (bind_eq_ok_iff _ _ _).mp ended with ⟨stores, _, result⟩
  cases result
  exact ⟨rfl, rfl⟩

theorem pipeOutCurrent_sameSource {state state' : SkylineState T R}
    {window : TupleWindowState T R} {outcome : Outcome T}
    (piped : pipeOutCurrent env state window = .ok (state', outcome)) :
    SameSource state state' ∧ state'.status = state.status := by
  rcases (bind_eq_ok_iff _ _ _).mp piped with ⟨⟨resultSlot, window'⟩, _, result⟩
  cases resultSlot <;> cases result <;> exact ⟨⟨rfl, rfl⟩, rfl⟩

/-- What fetching does to the source. -/
theorem fetchSlot_source {state fetched : SkylineState T R} {slot : Option T}
    (fetch : fetchSlot env state = .ok (slot, fetched)) :
    fetched.source = state.source ∧
      (ReadAll state → ReadAll fetched) ∧
      (state.source = .outer →
        (slot = none → ReadAll fetched) ∧
          ∀ tuple, slot = some tuple → JustRead state fetched tuple) := by
  unfold fetchSlot at fetch
  cases source : state.source with
  | outer =>
      simp only [source] at fetch
      cases fetch
      cases upcoming : state.outerPlanState.upcoming with
      | nil =>
          have fetched := OuterPlan.procNode_of_upcoming_nil upcoming
          have stillNone : state.outerPlanState.procNode.2.upcoming = [] := by
            rw [fetched]
            simpa [OuterPlan.upcoming] using upcoming
          refine ⟨rfl, fun _ => stillNone, fun _ => ⟨fun _ => stillNone, ?_⟩⟩
          intro tuple isSome
          rw [fetched] at isSome
          cases isSome
      | cons tuple rest =>
          rcases OuterPlan.procNode_of_upcoming_cons upcoming with ⟨fetched, advanced⟩
          refine ⟨rfl, fun readAll => ?_, fun _ => ⟨fun isNone => ?_, ?_⟩⟩
          · rw [ReadAll, upcoming] at readAll
            cases readAll
          · rw [fetched] at isNone
            cases isNone
          · intro tuple' isSome
            rw [JustRead, upcoming]
            rw [fetched] at isSome
            cases isSome
            rw [advanced]
  | temp =>
      simp only [source] at fetch
      rcases (bind_eq_ok_iff _ _ _).mp fetch with ⟨store, _, fetch⟩
      rcases (bind_eq_ok_iff _ _ _).mp fetch with ⟨⟨slot', store'⟩, _, result⟩
      cases result
      exact ⟨rfl, id, fun isOuter => by cases isOuter⟩

end Frame

/-! ## Block nested loop -/

namespace BlockNestedLoop

variable [LE R] [DecidableLE R] [LT R] [DecidableLT R] (env : ExecEnv T D R) (node : Skyline D)
  (start : TupleWindowState T R)

/-- While the outer plan is read, every stamp is smaller than the read position. -/
structure FirstPass (pass : Pass T R) : Prop where
  balanced : Balanced env.space pass.window
  limits : SameLimits start pass.window
  timestampOut_le : pass.timestampOut ≤ pass.timestampIn
  young : ∀ slot ∈ pass.window.slots, slot.timestamp < pass.timestampIn

/-- Behind the first pass the outer plan is read. -/
structure Reads (state : SkylineState T R) (pass : Pass T R) : Prop where
  view : BlockNestedLoopView start.policy state pass
  progress :
    match pass.status with
    | .init => Balanced env.space pass.window ∧ SameLimits start pass.window ∧
        pass.window.slots = []
    | .process | .pipeout =>
        ReadAll state ∨ (state.source = .outer ∧ FirstPass env start pass)
    | .finalPipeout | .done => ReadAll state

variable {env} {node} {start} {state state' : SkylineState T R} {pass : Pass T R}
  {outcome : Outcome T}

omit [LT R] [DecidableLT R] in
private theorem moveNext_stays (window : TupleWindowState T R) :
    (moveNext window).slots = window.slots ∧
      (Balanced env.space window → Balanced env.space (moveNext window)) ∧
      SameLimits window (moveNext window) := by
  unfold moveNext
  split
  · exact ⟨rfl, id, SameLimits.refl window⟩
  · exact ⟨rfl, fun balanced => ⟨balanced.availMem, balanced.availSlots, balanced.atMost⟩,
      rfl, rfl, rfl⟩

/-- A tuple that is read in the first pass leaves all stamps behind the read position. -/
theorem FirstPass.read (first : FirstPass env start pass) {slot : T} {rest : List T}
    {pass' : Pass T R}
    (step : blockNestedLoopStep env node (slFlagsOf start.policy) pass slot rest =
      .ok (pass', outcome)) : FirstPass env start pass' ∧ pass'.status = .pipeout := by
  rcases first.limits with ⟨sizes, count, policy⟩
  have offered := @offerToWindow_removeCurrent T D R _ _ _ _ env node pass.window first.balanced
    pass.timestampOut slot pass.drawn none
  rw [policy] at offered
  rcases offered with ⟨admission, offerEq, valid, admitted⟩
  simp only [blockNestedLoopStep, offerEq, ok_bind, pure_eq_ok, Except.ok.injEq, Prod.mk.injEq]
    at step
  rcases step with ⟨rfl, _⟩
  have sub := @Elimination.scan_sublist _ (stopsTuple env node slot) (evictsSlot env node slot)
    pass.window.slots
  have young := first.young
  have behind := first.timestampOut_le
  have limits := first.limits.trans valid.limits
  have balanced := balanced_rewind valid.balanced
  unfold Admitted at admitted
  unfold Pass.spill
  cases disposition : admission.disposition with
  | dropped =>
      rw [disposition] at admitted
      refine ⟨⟨balanced, limits, Nat.le_succ_of_le behind, fun held mem => ?_⟩, rfl⟩
      have heldMem : held ∈ admission.window.slots := mem
      rw [admitted.2] at heldMem
      exact Nat.lt_succ_of_lt (young held (sub.subset heldMem))
  | stored =>
      rw [disposition] at admitted
      rcases admitted with ⟨_, ⟨rank, added⟩, _⟩
      refine ⟨⟨balanced, limits, Nat.le_succ_of_le behind, fun held mem => ?_⟩, rfl⟩
      rcases List.mem_cons.mp (added.mem_iff.mp mem) with rfl | heldMem
      · exact Nat.lt_succ_of_le behind
      · exact Nat.lt_succ_of_lt (young held (sub.subset heldMem))
  | overflows =>
      rw [disposition] at admitted
      refine ⟨⟨balanced, limits, Nat.succ_le_succ behind, fun held mem => ?_⟩, rfl⟩
      have heldMem : held ∈ admission.window.slots := mem
      rw [admitted.2.1] at heldMem
      exact Nat.lt_succ_of_lt (young held (sub.subset heldMem))

theorem FirstPass.pipeout (first : FirstPass env start pass) (status : pass.status = .pipeout)
    {pass' : Pass T R}
    (step : blockNestedLoopPass env node (slFlagsOf start.policy) pass = .ok (pass', outcome)) :
    FirstPass env start pass' ∧ (pass'.status = .process ∨ pass'.status = .pipeout) ∧
      outcome = .again := by
  simp only [blockNestedLoopPass, status] at step
  split at step
  · cases step
    exact ⟨⟨first.balanced, first.limits, first.timestampOut_le, first.young⟩, Or.inl rfl, rfl⟩
  · rcases (bind_eq_ok_iff _ _ _).mp step with ⟨timestamp, found, step⟩
    unfold timestampCurrent at found
    split at found
    · cases found
    · rename_i slot slotFound
      cases found
      have younger := first.young slot (List.mem_of_getElem? slotFound)
      rw [if_neg (Nat.ne_of_lt younger)] at step
      cases step
      rcases moveNext_stays pass.window with ⟨slots, balanced, limits⟩
      refine ⟨⟨balanced first.balanced, first.limits.trans limits, first.timestampOut_le, ?_⟩,
        Or.inr rfl, rfl⟩
      rw [slots]
      exact first.young

omit [LE R] [DecidableLE R] [LT R] [DecidableLT R] in
theorem endOfSource_source
    (ended : blockNestedLoopEndOfSource env state = .ok (state', outcome)) :
    (ReadAll state → ReadAll state') ∧ outcome = .again ∧
      (state'.status = .finalPipeout ∨ state'.status = .pipeout) := by
  rcases (bind_eq_ok_iff _ _ _).mp ended with ⟨closed, closedEq, ended⟩
  have first := endTempIn_sameSource closedEq
  split at ended
  · rcases (bind_eq_ok_iff _ _ _).mp ended with ⟨dropped, droppedEq, ended⟩
    rcases (bind_eq_ok_iff _ _ _).mp ended with ⟨rewound, rewoundEq, ended⟩
    cases ended
    have second := endTempOut_sameSource droppedEq
    have third := (onWindow_sameSource rewoundEq).1
    exact ⟨fun readAll => third.readAll (second.readAll (first.readAll readAll)), rfl, Or.inl rfl⟩
  · rcases (bind_eq_ok_iff _ _ _).mp ended with ⟨rewound, rewoundEq, ended⟩
    cases ended
    have second := (onWindow_sameSource rewoundEq).1
    refine ⟨fun readAll => ?_, rfl, Or.inr rfl⟩
    have switched : ReadAll (switchTemp env closed) := first.readAll readAll
    exact second.readAll switched

theorem tuple_source {slot : T}
    (read : blockNestedLoopTuple env node state slot = .ok (state', outcome)) :
    SameSource state state' ∧ outcome = .again ∧ state'.status = .pipeout := by
  simp only [blockNestedLoopTuple, bind_eq_ok_iff] at read
  rcases read with ⟨window, _, admission, _, read⟩
  split at read
  · rcases (bind_eq_ok_iff _ _ _).mp read with ⟨written, writtenEq, result⟩
    cases result
    have same := writeTempOut_sameSource writtenEq
    exact ⟨⟨same.1, same.2⟩, rfl, rfl⟩
  · cases read
    exact ⟨⟨rfl, rfl⟩, rfl, rfl⟩

omit [LT R] [DecidableLT R] in
private theorem pipeout_source
    (piped : blockNestedLoopPipeout env state = .ok (state', outcome)) :
    SameSource state state' ∧ (state'.status = .process ∨ state'.status = state.status) := by
  rcases (bind_eq_ok_iff _ _ _).mp piped with ⟨window, _, piped⟩
  split at piped
  · cases piped
    exact ⟨⟨rfl, rfl⟩, Or.inl rfl⟩
  · rcases (bind_eq_ok_iff _ _ _).mp piped with ⟨timestamp, _, piped⟩
    split at piped
    · exact (pipeOutCurrent_sameSource piped).imp_right Or.inr
    · rcases (bind_eq_ok_iff _ _ _).mp piped with ⟨moved, movedEq, piped⟩
      cases piped
      exact (onWindow_sameSource movedEq).imp_right Or.inr

omit [LE R] [DecidableLE R] [LT R] [DecidableLT R] in
private theorem finalPipeout_source
    (piped : blockNestedLoopFinalPipeout env state = .ok (state', outcome)) :
    SameSource state state' ∧ (state'.status = .done ∨ state'.status = state.status) := by
  rcases (bind_eq_ok_iff _ _ _).mp piped with ⟨window, _, piped⟩
  split at piped
  · rcases (bind_eq_ok_iff _ _ _).mp piped with ⟨windows, _, piped⟩
    cases piped
    exact ⟨⟨rfl, rfl⟩, Or.inl rfl⟩
  · exact (pipeOutCurrent_sameSource piped).imp_right Or.inr

omit [LE R] [DecidableLE R] [LT R] [DecidableLT R] in
/-- Behind the first pass it does not matter where the pass is. -/
theorem reads_of_readAll (view : BlockNestedLoopView start.policy state pass)
    (begun : pass.status ≠ .init) (readAll : ReadAll state) : Reads env start state pass := by
  refine ⟨view, ?_⟩
  cases status : pass.status with
  | init => exact absurd status begun
  | process | pipeout => exact Or.inl readAll
  | finalPipeout | done => exact readAll

theorem Reads.step (reads : Reads env start state pass)
    (step : execSkylineBlockNestedLoop env node state = .ok (state', outcome)) :
    (∃ pass', Reads env start state' pass') ∧
      ∀ result, outcome = .emit result → ReadAll state' := by
  rcases blockNestedLoop_simulates.exists_ok reads.view step with ⟨pass', passStep, view'⟩
  have statusEq := reads.view.status
  have progress := reads.progress
  cases status : pass.status with
  | init =>
      rw [status] at progress statusEq
      rcases progress with ⟨balanced, limits, slots⟩
      simp only [execSkylineBlockNestedLoop, statusEq, pure_eq_ok] at step
      simp only [blockNestedLoopPass, status, pure_eq_ok] at passStep
      cases step
      cases passStep
      refine ⟨⟨_, view', Or.inr ⟨rfl, balanced, limits, Nat.le_refl 0, ?_⟩⟩, ?_⟩
      · simp [slots]
      · intro result isEmit
        cases isEmit
  | process =>
      rw [status] at progress statusEq
      simp only [execSkylineBlockNestedLoop, statusEq] at step
      rcases (bind_eq_ok_iff _ _ _).mp step with ⟨⟨slot, fetched⟩, fetch, step⟩
      rcases fetchSlot_source fetch with ⟨source, stays, outer⟩
      cases slot with
      | none =>
          rcases endOfSource_source step with ⟨kept, rfl, begun⟩
          have readAll : ReadAll fetched := by
            rcases progress with readAll | ⟨isOuter, _⟩
            · exact stays readAll
            · exact (outer isOuter).1 rfl
          refine ⟨⟨pass', reads_of_readAll view' ?_ (kept readAll)⟩, ?_⟩
          · rw [← view'.status]
            rcases begun with status' | status' <;> simp [status']
          · intro result isEmit
            cases isEmit
      | some tuple =>
          rcases tuple_source step with ⟨same, rfl, begun⟩
          refine ⟨⟨pass', ?_⟩, fun result isEmit => by cases isEmit⟩
          rcases progress with readAll | ⟨isOuter, first⟩
          · refine reads_of_readAll view' ?_ (same.readAll (stays readAll))
            rw [← view'.status, begun]
            simp
          · have justRead := (outer isOuter).2 tuple rfl
            have contents := reads.view.contents
            rw [status] at contents
            have pending := contents.2.1.source
            simp only [Files.SourceHolds, SkylineState.files, isOuter] at pending
            rw [JustRead, pending.2] at justRead
            simp only [blockNestedLoopPass, status, justRead] at passStep
            rcases first.read passStep with ⟨first', status'⟩
            refine ⟨view', ?_⟩
            rw [status']
            exact Or.inr ⟨same.1.trans (source.trans isOuter), first'⟩
  | pipeout =>
      rw [status] at progress statusEq
      simp only [execSkylineBlockNestedLoop, statusEq] at step
      rcases pipeout_source step with ⟨same, begun⟩
      rcases progress with readAll | ⟨isOuter, first⟩
      · refine ⟨⟨pass', reads_of_readAll view' ?_ (same.readAll readAll)⟩,
          fun _ _ => same.readAll readAll⟩
        rw [← view'.status]
        rcases begun with status' | status' <;> simp [status', statusEq]
      · rcases first.pipeout status passStep with ⟨first', status', rfl⟩
        refine ⟨⟨pass', view', ?_⟩, fun result isEmit => by cases isEmit⟩
        rcases status' with status' | status' <;>
          rw [status'] <;> exact Or.inr ⟨same.1.trans isOuter, first'⟩
  | finalPipeout =>
      rw [status] at progress statusEq
      simp only [execSkylineBlockNestedLoop, statusEq] at step
      rcases finalPipeout_source step with ⟨same, begun⟩
      refine ⟨⟨pass', reads_of_readAll view' ?_ (same.readAll progress)⟩,
        fun _ _ => same.readAll progress⟩
      rw [← view'.status]
      rcases begun with status' | status' <;> simp [status', statusEq]
  | done =>
      rw [status] at progress statusEq
      simp only [execSkylineBlockNestedLoop, statusEq, pure_eq_ok] at step
      cases step
      exact ⟨⟨pass, reads⟩, fun _ _ => progress⟩

end BlockNestedLoop

/-! ## The other methods -/

section Passes

variable {env : ExecEnv T D R} {node : Skyline D} {state state' : SkylineState T R}
  {outcome : Outcome T}

/-- The one-dimensional methods read the outer plan in the first pass. -/
def ReadFirst (state : SkylineState T R) : Prop :=
  state.status ≠ .init → ReadAll state

theorem oneDimPipeout_source (piped : oneDimPipeout env state = .ok (state', outcome)) :
    SameSource state state' := by
  simp only [oneDimPipeout, bind_eq_ok_iff] at piped
  rcases piped with ⟨_, _, store, _, ⟨resultSlot, store'⟩, _, piped⟩
  cases resultSlot with
  | some result =>
      cases piped
      exact ⟨rfl, rfl⟩
  | none =>
      rcases (bind_eq_ok_iff _ _ _).mp piped with ⟨stores, _, result⟩
      cases result
      exact ⟨rfl, rfl⟩

private theorem oneDim_readAll (readFirst : ReadFirst state)
    (step : execSkyline1Dim env node state = .ok (state', outcome)) : ReadAll state' := by
  unfold execSkyline1Dim at step
  cases status : state.status with
  | init =>
      simp only [status, bind_eq_ok_iff] at step
      rcases step with ⟨begun, initialized, piped⟩
      have readAll : ReadAll begun := by
        simp only [oneDimInit, bind_eq_ok_iff] at initialized
        rcases initialized with ⟨col, _, store, _, ⟨datum, filled⟩, _, _, _, result⟩
        cases result
        exact OuterPlan.upcoming_exhaust _
      exact (oneDimPipeout_source piped).readAll readAll
  | pipeout =>
      simp only [status] at step
      exact (oneDimPipeout_source step).readAll (readFirst (by simp [status]))
  | done =>
      simp only [status] at step
      cases step
      exact readFirst (by simp [status])
  | process | finalPipeout =>
      simp only [status] at step
      cases step

private theorem oneDimDistinct_readAll (readFirst : ReadFirst state)
    (step : execSkyline1DimDistinct env node state = .ok (state', outcome)) : ReadAll state' := by
  unfold execSkyline1DimDistinct at step
  cases status : state.status with
  | init =>
      simp only [status, bind_eq_ok_iff] at step
      rcases step with ⟨col, _, resultSlot, _, returned⟩
      cases resultSlot <;> cases returned <;> exact OuterPlan.upcoming_exhaust _
  | done =>
      simp only [status] at step
      cases step
      exact readFirst (by simp [status])
  | process | pipeout | finalPipeout =>
      simp only [status] at step
      cases step

/-- What is fetched at the front of the outer plan. -/
theorem procNode_justRead {outer outer' : OuterPlan T} {tuple : T}
    (fetched : outer.procNode = (some tuple, outer')) :
    outer.upcoming = tuple :: outer'.upcoming := by
  cases upcoming : outer.upcoming with
  | nil =>
      rw [OuterPlan.procNode_of_upcoming_nil upcoming] at fetched
      cases fetched
  | cons tuple' rest =>
      rcases OuterPlan.procNode_of_upcoming_cons upcoming with ⟨step, advanced⟩
      rw [fetched] at step advanced
      cases step
      rw [← advanced]

private theorem presort_reads
    (step : execSkyline2DimPreSort env node state = .ok (state', outcome)) :
    state'.source = state.source ∧ ∀ result, outcome = .emit result →
      JustRead state state' result := by
  unfold execSkyline2DimPreSort at step
  cases status : state.status with
  | init =>
      simp only [status] at step
      split at step
      · rename_i tuple fetched
        cases step
        refine ⟨rfl, fun result isEmit => ?_⟩
        cases isEmit
        exact procNode_justRead (Prod.ext fetched rfl)
      · cases step
        exact ⟨rfl, fun result isEmit => by cases isEmit⟩
  | process =>
      simp only [status] at step
      split at step
      · cases step
      · split at step
        · cases step
          exact ⟨rfl, fun result isEmit => by cases isEmit⟩
        · rename_i tuple fetched
          split at step
          · cases step
            refine ⟨rfl, fun result isEmit => ?_⟩
            cases isEmit
            exact procNode_justRead (Prod.ext fetched rfl)
          · cases step
            exact ⟨rfl, fun result isEmit => by cases isEmit⟩
  | done =>
      simp only [status] at step
      cases step
      exact ⟨rfl, fun result isEmit => by cases isEmit⟩
  | pipeout | finalPipeout =>
      simp only [status] at step
      cases step

end Passes

/-! ## Sort filter skyline -/

namespace SortFilter

/-- What is read from a temporary file was read from the outer plan before. -/
def Reads (state : SkylineState T R) : Prop :=
  state.source = .temp → ReadAll state

section Frame

variable {env : ExecEnv T D R} {node : Skyline D} {state state' : SkylineState T R}
  {outcome : Outcome T}

theorem endOfSource_source (readAll : ReadAll state)
    (ended : sortFilterEndOfSource env state = .ok (state', outcome)) :
    ReadAll state' ∧ ∀ result, outcome ≠ .emit result := by
  rcases (bind_eq_ok_iff _ _ _).mp ended with ⟨closed, closedEq, ended⟩
  have first := (endTempIn_sameSource closedEq).readAll readAll
  split at ended
  · rcases (bind_eq_ok_iff _ _ _).mp ended with ⟨dropped, droppedEq, ended⟩
    cases ended
    have second := (endTempOut_sameSource droppedEq).readAll first
    exact ⟨second, fun result isEmit => by cases isEmit⟩
  · rcases (bind_eq_ok_iff _ _ _).mp ended with ⟨cleaned, cleanedEq, ended⟩
    cases ended
    have switched : ReadAll (switchTemp env closed) := first
    exact ⟨(onWindow_sameSource cleanedEq).1.readAll switched, fun result isEmit => by cases isEmit⟩

variable [LE R] [DecidableLE R] [LT R] [DecidableLT R]

theorem tuple_source {slot : T}
    (read : sortFilterTuple env node state slot = .ok (state', outcome)) :
    SameSource state state' ∧ ∀ result, outcome = .emit result → result = slot := by
  simp only [sortFilterTuple, bind_eq_ok_iff] at read
  rcases read with ⟨window, _, admission, _, read⟩
  split at read
  · cases read
    refine ⟨⟨rfl, rfl⟩, fun result isEmit => ?_⟩
    cases isEmit
    rfl
  · rcases (bind_eq_ok_iff _ _ _).mp read with ⟨written, writtenEq, read⟩
    cases read
    have same := writeTempOut_sameSource writtenEq
    exact ⟨⟨same.1, same.2⟩, fun result isEmit => by cases isEmit⟩
  · cases read
    exact ⟨⟨rfl, rfl⟩, fun result isEmit => by cases isEmit⟩

/-- A result of the first pass was just read; in the later passes all were. -/
theorem Reads.step (reads : Reads state)
    (step : execSkylineSortFilterSkyline env node state = .ok (state', outcome)) :
    Reads state' ∧ ∀ result, outcome = .emit result →
      (state.source = .outer → JustRead state state' result) ∧
        (state.source = .temp → ReadAll state') := by
  unfold execSkylineSortFilterSkyline at step
  cases status : state.status with
  | init =>
      simp only [status] at step
      cases step
      refine ⟨fun isTemp => ?_, fun result isEmit => by cases isEmit⟩
      cases isTemp
  | process =>
      simp only [status] at step
      rcases (bind_eq_ok_iff _ _ _).mp step with ⟨⟨slot, fetched⟩, fetch, step⟩
      rcases fetchSlot_source fetch with ⟨source, stays, outer⟩
      cases slot with
      | none =>
          have readAll : ReadAll fetched := by
            cases from_ : state.source with
            | outer => exact (outer from_).1 rfl
            | temp => exact stays (reads from_)
          rcases endOfSource_source readAll step with ⟨readAll', silent⟩
          exact ⟨fun _ => readAll', fun result isEmit => absurd isEmit (silent result)⟩
      | some tuple =>
          rcases tuple_source step with ⟨same, emitted⟩
          refine ⟨fun isTemp => ?_, fun result isEmit => ⟨fun isOuter => ?_, fun isTemp => ?_⟩⟩
          · exact same.readAll (stays (reads (source.symm.trans (same.1.symm.trans isTemp))))
          · rw [emitted result isEmit, JustRead, same.2]
            exact (outer isOuter).2 tuple rfl
          · exact same.readAll (stays (reads isTemp))
  | done =>
      simp only [status] at step
      cases step
      exact ⟨reads, fun result isEmit => by cases isEmit⟩
  | pipeout | finalPipeout =>
      simp only [status] at step
      cases step

end Frame

end SortFilter

/-! ## The nested loop -/

namespace NestedLoop

variable {env : ExecEnv T D R} {node : Skyline D} {state state' : SkylineState T R}
  {outcome : Outcome T}

/-- The outer plan of the nested loop has no changed parameters, and the first pass
starts where the mark is. -/
structure Reads (state : SkylineState T R) : Prop where
  settled : state.outerPlanState.chgParam = none
  marked : state.status = .init → state.outerPlanState.pos = state.outerPlanState.mark

/-- A tuple that nothing dropped was compared with the whole outer plan. -/
theorem count_of_survived {result : T} {slPos slInnerpos count : Nat} {tuples : List T}
    (scan : nestedLoopScan env node result slPos slInnerpos tuples = (false, count)) :
    count = tuples.length := by
  induction tuples generalizing slInnerpos count with
  | nil =>
      cases scan
      rfl
  | cons innerSlot rest ih =>
      simp only [nestedLoopScan] at scan
      split at scan
      · cases scan
      · split at scan
        · cases scan
        · rcases recursion : nestedLoopScan env node result slPos (slInnerpos + 1) rest with
            ⟨dropped, count'⟩
          rw [recursion] at scan
          cases scan
          rw [List.length_cons, ih recursion]

/-- The tuple is the one at the mark, which moves on; for it the whole outer plan
was read. -/
def ReadForMark (state state' : SkylineState T R) (tuple : T) : Prop :=
  state.outerPlanState.tuples[state.outerPlanState.mark]? = some tuple ∧
    state'.outerPlanState.mark = state.outerPlanState.mark + 1 ∧ ReadAll state'

theorem process_source (settled : state.outerPlanState.chgParam = none)
    (process : state.status = .process)
    (step : nestedLoopProcess env node state = .ok (state', outcome)) :
    Reads state' ∧ ∀ result, outcome = .emit result → ReadForMark state state' result := by
  rcases outerEq : state.outerPlanState with ⟨tuples, pos, mark, chgParam⟩
  rw [outerEq] at settled
  cases settled
  cases found : tuples[mark]? with
  | none =>
      simp only [nestedLoopProcess, outerEq, OuterPlan.restrPos, OuterPlan.procNode,
        OuterPlan.refresh, Option.isSome_none, Bool.false_eq_true, if_false, found] at step
      cases step
      refine ⟨⟨rfl, fun isInit => ?_⟩, fun result isEmit => by cases isEmit⟩
      cases isInit
  | some tuple =>
      simp only [nestedLoopProcess, outerEq, OuterPlan.restrPos, OuterPlan.procNode,
        OuterPlan.refresh, Option.isSome_none, Bool.false_eq_true, if_false, found,
        OuterPlan.markPos, OuterPlan.reScan] at step
      split at step
      · cases step
        refine ⟨⟨rfl, fun isInit => ?_⟩, fun result isEmit => by cases isEmit⟩
        cases process.symm.trans isInit
      · rename_i survived
        cases step
        refine ⟨⟨rfl, fun isInit => ?_⟩, fun result isEmit => ?_⟩
        · cases process.symm.trans isInit
        · cases isEmit
          simp only [ReadForMark, outerEq]
          refine ⟨found, trivial, ?_⟩
          have all := count_of_survived (Prod.ext (Bool.eq_false_iff.mpr survived) rfl)
          have upcoming : OuterPlan.upcoming ⟨tuples, 0, mark + 1, none⟩ = tuples := rfl
          rw [upcoming] at all
          simp [ReadAll, OuterPlan.upcoming, OuterPlan.refresh, all]

theorem Reads.step (reads : Reads state)
    (step : execSkylineMaterializedNestedLoop env node state = .ok (state', outcome)) :
    Reads state' ∧ ∀ result, outcome = .emit result → ReadForMark state state' result := by
  unfold execSkylineMaterializedNestedLoop at step
  cases status : state.status with
  | init =>
      simp only [status] at step
      rcases process_source (by exact reads.settled) rfl step with ⟨reads', emitted⟩
      refine ⟨reads', fun result isEmit => ?_⟩
      rw [ReadForMark, ← reads.marked status]
      exact emitted result isEmit
  | process =>
      simp only [status] at step
      exact process_source reads.settled status step
  | done =>
      simp only [status] at step
      cases step
      exact ⟨reads, fun result isEmit => by cases isEmit⟩
  | pipeout | finalPipeout =>
      simp only [status] at step
      cases step

end NestedLoop

/-! ## The elimination filter -/

section Methods

variable [LE R] [DecidableLE R] [LT R] [DecidableLT R] {env : ExecEnv T D R} {node : Skyline D}
  {state state' : SkylineState T R} {outcome : Outcome T}

private theorem elimFilter_justRead {result : T}
    (step : execElimFilter env node state = .ok (state', .emit result)) :
    JustRead state state' result := by
  unfold execElimFilter at step
  cases status : state.status with
  | init =>
      simp only [status] at step
      cases step
  | process =>
      simp only [status] at step
      split at step
      · cases step
      · rename_i tuple fetched
        simp only [elimFilterTuple, bind_eq_ok_iff] at step
        rcases step with ⟨window, _, compared, _, step⟩
        split at step
        · rcases (bind_eq_ok_iff _ _ _).mp step with ⟨window', _, step⟩
          cases step
          exact procNode_justRead (Prod.ext fetched rfl)
        · cases step
  | done =>
      simp only [status] at step
      cases step
  | pipeout | finalPipeout =>
      simp only [status] at step
      cases step

/-! ## All methods -/

/-- What a method has read of the outer plan when a pass hands out a tuple. -/
def ReadsForResult (node : Skyline D) (state state' : SkylineState T R) (result : T) : Prop :=
  if skylineMethodeCanUseLimit node.skylineMethod = false then ReadAll state'
  else if node.skylineMethod = .materializedNestedLoop then
    NestedLoop.ReadForMark state state' result
  else if state.source = .outer then JustRead state state' result
  else ReadAll state'

/-- What the passes of a method keep. -/
def MethodReads (env : ExecEnv T D R) (node : Skyline D) (state : SkylineState T R) : Prop :=
  match node.skylineMethod with
  | .unknown | .elimFilter => True
  | .oneDim | .oneDimDistinct => ReadFirst state
  | .twoDimPresort => state.source = .outer
  | .materializedNestedLoop => NestedLoop.Reads state
  | .blockNestedLoop => ∃ start pass, BlockNestedLoop.Reads env start state pass
  | .sfs => SortFilter.Reads state

omit [LE R] [DecidableLE R] [LT R] [DecidableLT R] in
private theorem methodReads_of_init {input : List T} {drawn : Nat}
    (init : execInitSkyline env node (OuterPlan.init input) drawn = .ok state) :
    MethodReads env node state := by
  unfold MethodReads
  cases method : node.skylineMethod with
  | unknown | elimFilter => trivial
  | oneDim | oneDimDistinct =>
      have unwindowed : ¬ node.skylineMethod.IsWindowed := by
        simp [SkylineMethod.IsWindowed, method]
      exact fun begun => absurd (atStart_of_init unwindowed init).1.1 begun
  | twoDimPresort => exact (counters_of_init init).1
  | materializedNestedLoop =>
      have unwindowed : ¬ node.skylineMethod.IsWindowed := by
        simp [SkylineMethod.IsWindowed, method]
      rcases execInitSkyline_of_unwindowed unwindowed init with ⟨policy, _, rfl⟩
      exact ⟨rfl, fun _ => rfl⟩
  | blockNestedLoop =>
      rcases windowMethodStart_of_init (Or.inl method) init with ⟨policy, _, _, begun⟩
      exact ⟨begin env.negDblMax state.windowsize state.windowslots policy, _,
        begun.blockNestedLoop, balanced_begin _ _ _ _, SameLimits.refl _, rfl⟩
  | sfs =>
      intro isTemp
      cases (counters_of_init init).1.symm.trans isTemp

theorem MethodReads.step (reads : MethodReads env node state)
    (step : execSkyline env node state = .ok (state', outcome)) :
    MethodReads env node state' ∧
      ∀ result, outcome = .emit result → ReadsForResult node state state' result := by
  unfold MethodReads at reads ⊢
  unfold execSkyline at step
  unfold ReadsForResult
  cases method : node.skylineMethod with
  | unknown | elimFilter =>
      rw [method] at step
      cases step
  | oneDim =>
      rw [method] at reads step
      have readAll := oneDim_readAll reads step
      exact ⟨fun _ => readAll, fun _ _ => readAll⟩
  | oneDimDistinct =>
      rw [method] at reads step
      have readAll := oneDimDistinct_readAll reads step
      exact ⟨fun _ => readAll, fun _ _ => readAll⟩
  | twoDimPresort =>
      rw [method] at reads step
      rcases presort_reads step with ⟨source, emitted⟩
      refine ⟨source.trans reads, fun result isEmit => ?_⟩
      simpa [skylineMethodeCanUseLimit, reads] using emitted result isEmit
  | materializedNestedLoop =>
      rw [method] at reads step
      rcases reads.step step with ⟨reads', emitted⟩
      refine ⟨reads', fun result isEmit => ?_⟩
      simpa [skylineMethodeCanUseLimit] using emitted result isEmit
  | blockNestedLoop =>
      rw [method] at reads step
      rcases reads with ⟨start, pass, reads⟩
      rcases reads.step step with ⟨⟨pass', reads'⟩, emitted⟩
      exact ⟨⟨start, pass', reads'⟩, emitted⟩
  | sfs =>
      rw [method] at reads step
      rcases SortFilter.Reads.step reads step with ⟨reads', emitted⟩
      refine ⟨reads', fun result isEmit => ?_⟩
      rcases emitted result isEmit with ⟨fromOuter, fromTemp⟩
      cases from_ : state.source with
      | outer => simpa [skylineMethodeCanUseLimit] using fromOuter from_
      | temp => simpa [skylineMethodeCanUseLimit] using fromTemp from_

variable (env) (node)

/-- The methods that cannot use a limit have read the whole outer plan whenever they
hand out a tuple.  The others hand out the tuple they have just read; only the nested
loop reads the outer plan for it again, and only sort filter skyline, in its later
passes, reads tuples it has put aside. -/
theorem skylineMethodeCanUseLimit_correct :
    (∀ (input : List T) (drawn : Nat) (start state state' : SkylineState T R) (result : T),
      execInitSkyline env node (OuterPlan.init input) drawn = .ok start →
      Relation.ReflTransGen (Moves (execSkyline env node)) start state →
      execSkyline env node state = .ok (state', .emit result) →
      ReadsForResult node state state' result) ∧
    ∀ (state state' : SkylineState T R) (result : T),
      execElimFilter env node state = .ok (state', .emit result) →
      JustRead state state' result := by
  refine ⟨?_, fun state state' result pass => elimFilter_justRead pass⟩
  intro input drawn start state state' result init reached pass
  have reads := invariant_of_moves (MethodReads env node)
    (fun _ _ _ reads step => (reads.step step).1) (methodReads_of_init init) reached
  exact (reads.step pass).2 result rfl

end Methods

/-- Sort filter skyline returns its first tuple before it has read the second. -/
theorem skylineMethodeCanUseLimit_correct_sfs :
    let node : Skyline Int :=
      ⟨[integerCol 1 .min], false, [⟨"slots", .integer 1⟩], .sfs, false⟩
    let input : List IntegerRow := [[some 1], [some 1], [some 2]]
    ∃ start, execInitSkyline integerEnv node (OuterPlan.init input) 0 = .ok start ∧
      ∃ state state', Relation.ReflTransGen (Moves (execSkyline integerEnv node)) start state ∧
        execSkyline integerEnv node state = .ok (state', .emit [some 1]) ∧
        ReadsForResult node state state' [some 1] := by
  intro node input
  refine ⟨_, rfl, _, _, .single ⟨.again, rfl⟩, rfl, ?_⟩
  exact (skylineMethodeCanUseLimit_correct integerEnv node).1 input 0 _ _ _ _ rfl
    (.single ⟨.again, rfl⟩) rfl

end PgSkyline
