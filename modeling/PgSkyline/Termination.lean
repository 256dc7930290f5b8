import PgSkyline.BlockNestedLoop.Result
import PgSkyline.SortFilter.Result

/-!
# When the window methods end

`ExecSkylineInitTupleWindow` refuses only a slot limit of exactly 0.  It lets
through windows that never have free space: a slot limit below -1, and a negative
memory limit without a slot limit.  With such a window every tuple overflows, so
every pass writes its whole source out again.
-/

namespace PgSkyline

open Resumable TupleWindowState

variable {T D R : Type} [LE R] [DecidableLE R] [LT R] [DecidableLT R]
variable {env : ExecEnv T D R} {node : Skyline D}

/-- The node reaches `SS_DONE` after finitely many iterations. -/
def ReachesDone (env : ExecEnv T D R) (node : Skyline D) (state : SkylineState T R) : Prop :=
  ∃ out last, Drains (execSkyline env node) state out last ∧ last.status = .done

/-- With assertion checking, the assertion on the order of its input stops sort
filter skyline. -/
def StoppedByAssertion (env : ExecEnv T D R) (node : Skyline D) (input : List T)
    (state : SkylineState T R) : Prop :=
  node.skylineMethod = .sfs ∧ ∃ n out fault,
    run (execSkyline env node) n state = (out, .failed fault) ∧
      SortFilter.Misuse env node input fault

/-! ## Empty inputs -/

theorem blockNestedLoopPass_drains_nil (flags : SlFlags) {window : TupleWindowState T R}
    (empty : window.slots = []) (drawn : Nat) :
    ∃ last, Drains (blockNestedLoopPass env node flags) (Pass.init window [] drawn) [] last ∧
      last.status = .done := by
  have atEnd : atEof (rewind window) = true := by simp [rewind, atEof, empty]
  have ended : blockNestedLoopPass env node flags
      { Pass.init window [] drawn with status := .finalPipeout, window := rewind window } =
        .ok ({ Pass.init window [] drawn with status := .done, window := rewind window },
          .finished) := by
    simp only [blockNestedLoopPass, atEnd, if_true, pure_eq_ok]
  exact ⟨_, .again rfl (.again rfl (.finished ended)), rfl⟩

private theorem sortFilterPass_drains_nil (flags : SlFlags) (window : TupleWindowState T R)
    (drawn : Nat) :
    ∃ last, Drains (sortFilterPass env node flags) (Pass.init window [] drawn) [] last ∧
      last.status = .done :=
  ⟨_, .again rfl (.finished rfl), rfl⟩

/-! ## Windows without capacity -/

/-- A pass that only copies its source to the overflow. -/
structure Copying (env : ExecEnv T D R) (start : TupleWindowState T R) (pass : Pass T R) :
    Prop where
  balanced : Balanced env.space pass.window
  limits : SameLimits start pass.window
  empty : pass.window.slots = []
  busy : pass.pending ≠ [] ∨ pass.overflow ≠ []
  counted : pass.status = .init ∨ pass.timestampOut = pass.overflow.length
  status : pass.status = .init ∧ pass.pending ≠ [] ∨ pass.status = .process ∨
    pass.status = .pipeout ∧ pass.window.current = 0

variable {start : TupleWindowState T R} {pass : Pass T R}

omit [LE R] [DecidableLE R] [LT R] [DecidableLT R] in
/-- Nothing is dropped by an empty window and nothing is put into it. -/
theorem overflows_of_admitted {scanned : Bool × List (TupleWindowSlot T R)} {slot : T}
    {timestamp : Nat} {admission : Admission T R} (copying : Copying env start pass)
    (noCapacity : ¬ HasCapacity start.maxKBytes start.maxSlots) (scannedEq : scanned = (true, []))
    (admitted : Admitted env pass.window scanned slot timestamp admission) :
    admission.disposition = .overflows ∧ admission.window.slots = [] := by
  unfold Admitted at admitted
  subst scannedEq
  cases disposition : admission.disposition with
  | dropped =>
      rw [disposition] at admitted
      exact absurd admitted.1 (by simp)
  | stored =>
      rw [disposition] at admitted
      rcases admitted with ⟨_, _, room⟩
      rw [hasRoom_nil_iff, copying.limits.1, copying.limits.2.1] at room
      exact absurd room noCapacity
  | overflows =>
      rw [disposition] at admitted
      exact ⟨rfl, admitted.2.1⟩

/-- A block nested loop pass without capacity goes on copying. -/
theorem blockNestedLoopPass_copies (noCapacity : ¬ HasCapacity start.maxKBytes start.maxSlots)
    (copying : Copying env start pass) :
    ∃ pass', blockNestedLoopPass env node (slFlagsOf start.policy) pass = .ok (pass', .again) ∧
      Copying env start pass' := by
  rcases copying.status with ⟨status, nonempty⟩ | status | ⟨status, current⟩
  · simp only [blockNestedLoopPass, status, pure_eq_ok]
    exact ⟨_, rfl, copying.balanced, copying.limits, copying.empty, Or.inl nonempty, Or.inr rfl,
      Or.inr (Or.inl rfl)⟩
  · have counted : pass.timestampOut = pass.overflow.length := by
      simpa [status] using copying.counted
    cases pending : pass.pending with
    | nil =>
        have overflow : pass.overflow ≠ [] := by simpa [pending] using copying.busy
        have written : ¬ pass.timestampOut = 0 := by simpa [counted] using overflow
        simp only [blockNestedLoopPass, status, pending, written, if_false, pure_eq_ok]
        exact ⟨_, rfl, balanced_rewind copying.balanced, copying.limits, copying.empty,
          Or.inl overflow, Or.inr rfl, Or.inr (Or.inr ⟨rfl, rfl⟩)⟩
    | cons slot rest =>
        rcases @offerToWindow_removeCurrent T D R _ _ _ _ env node pass.window copying.balanced
          pass.timestampOut slot pass.drawn none with ⟨admission, offerEq, valid, admitted⟩
        rw [copying.limits.2.2] at offerEq
        rcases overflows_of_admitted copying noCapacity (by rw [copying.empty]; rfl) admitted with
          ⟨disposition, slots⟩
        simp only [blockNestedLoopPass, status, pending, blockNestedLoopStep, offerEq, ok_bind,
          pure_eq_ok, Pass.spill, disposition, if_true]
        exact ⟨_, rfl, balanced_rewind valid.balanced, copying.limits.trans valid.limits, slots,
          Or.inr (by simp), Or.inr (by simp [counted]), Or.inr (Or.inr ⟨rfl, rfl⟩)⟩
  · have counted : pass.timestampOut = pass.overflow.length := by
      simpa [status] using copying.counted
    have atEnd : atEof pass.window = true := by simp [atEof, current, copying.empty]
    simp only [blockNestedLoopPass, status, atEnd, if_true, pure_eq_ok]
    exact ⟨_, rfl, copying.balanced, copying.limits, copying.empty, copying.busy, Or.inr counted,
      Or.inr (Or.inl rfl)⟩

/-- A sort filter skyline pass without capacity goes on copying. -/
theorem sortFilterPass_copies (noCapacity : ¬ HasCapacity start.maxKBytes start.maxSlots)
    (copying : Copying env start pass) (noPipeout : pass.status ≠ .pipeout) :
    ∃ pass', sortFilterPass env node (slFlagsOf start.policy) pass = .ok (pass', .again) ∧
      Copying env start pass' ∧ pass'.status ≠ .pipeout := by
  rcases copying.status with ⟨status, nonempty⟩ | status | ⟨status, _⟩
  · simp only [sortFilterPass, status, pure_eq_ok]
    exact ⟨_, rfl, ⟨copying.balanced, copying.limits, copying.empty, Or.inl nonempty, Or.inr rfl,
      Or.inr (Or.inl rfl)⟩, by simp⟩
  · have counted : pass.timestampOut = pass.overflow.length := by
      simpa [status] using copying.counted
    cases pending : pass.pending with
    | nil =>
        have overflow : pass.overflow ≠ [] := by simpa [pending] using copying.busy
        have written : ¬ pass.timestampOut = 0 := by simpa [counted] using overflow
        simp only [sortFilterPass, status, pending, written, if_false, pure_eq_ok]
        exact ⟨_, rfl, ⟨balanced_clean, copying.limits, rfl, Or.inl overflow, Or.inr rfl,
          Or.inr (Or.inl rfl)⟩, by simp⟩
    | cons slot rest =>
        rcases @offerToWindow_assertNotSecondDominates T D R _ _ _ _ env node pass.window
          copying.balanced 0 slot pass.drawn none with
          ⟨_, ⟨held, heldMem, _⟩, _⟩ | ⟨admission, offerEq, valid, admitted⟩
        · simp [copying.empty] at heldMem
        · rw [copying.limits.2.2] at offerEq
          rcases overflows_of_admitted copying noCapacity (by rw [copying.empty]; rfl) admitted with
            ⟨disposition, slots⟩
          simp only [sortFilterPass, status, pending, sortFilterStep, offerEq, ok_bind, pure_eq_ok,
            Pass.spill, disposition, if_true, reduceCtorEq, if_false]
          exact ⟨_, rfl, ⟨valid.balanced, copying.limits.trans valid.limits, slots,
            Or.inr (by simp), Or.inr (by simp [counted]), Or.inr (Or.inl rfl)⟩, by simp⟩
  · exact absurd status noPipeout

/-- A node whose window has no capacity reads a nonempty input forever. -/
theorem run_eq_of_noCapacity (windowed : node.skylineMethod.IsWindowed)
    {policy : TupleWindowPolicy} {windowSize windowSlots : Int} {input : List T} {drawn : Nat}
    {state : SkylineState T R}
    (started : WindowMethodStart policy (begin env.negDblMax windowSize windowSlots policy) input
      drawn state)
    (nonempty : input ≠ []) (noCapacity : ¬ HasCapacity windowSize windowSlots) (n : Nat) :
    run (execSkyline env node) n state = ([], .running) := by
  have copying : Copying env (begin env.negDblMax windowSize windowSlots policy)
      (Pass.init (begin env.negDblMax windowSize windowSlots policy) input drawn) :=
    ⟨balanced_begin _ _ _ _, SameLimits.refl _, rfl, Or.inl nonempty, Or.inl rfl,
      Or.inl ⟨rfl, nonempty⟩⟩
  rcases windowed with method | method
  · rw [execSkyline_eq_blockNestedLoop method,
      blockNestedLoop_simulates.run_eq n started.blockNestedLoop]
    exact run_eq_of_invariant (Copying env _)
      (fun _ copying => blockNestedLoopPass_copies noCapacity copying) copying n
  · rw [execSkyline_eq_sfs method, sortFilter_simulates.run_eq n started.sortFilter]
    apply run_eq_of_invariant (fun pass =>
      Copying env (begin env.negDblMax windowSize windowSlots policy) pass ∧
        pass.status ≠ .pipeout)
    · rintro pass ⟨copying, noPipeout⟩
      exact sortFilterPass_copies noCapacity copying noPipeout
    · exact ⟨copying, by simp [Pass.init]⟩

theorem not_reachesDone_of_noCapacity (windowed : node.skylineMethod.IsWindowed) (input : List T)
    (drawn : Nat) {state : SkylineState T R}
    (init : execInitSkyline env node (OuterPlan.init input) drawn = .ok state)
    (nonempty : input ≠ []) (noCapacity : ¬ HasCapacity state.windowsize state.windowslots) :
    ¬ ReachesDone env node state := by
  rintro ⟨out, last, drains, _⟩
  rcases windowMethodStart_of_init windowed init with ⟨policy, _, _, started⟩
  exact not_drains_of_run_eq (run_eq_of_noCapacity windowed started nonempty noCapacity) drains

/-! ## The exact condition -/

/-- A node over an empty input reaches `SS_DONE` with any window. -/
theorem reachesDone_of_nil (windowed : node.skylineMethod.IsWindowed)
    {policy : TupleWindowPolicy} {windowSize windowSlots : Int} {drawn : Nat}
    {state : SkylineState T R}
    (started : WindowMethodStart policy (begin env.negDblMax windowSize windowSlots policy) []
      drawn state) :
    ReachesDone env node state := by
  rcases windowed with method | method
  · rcases @blockNestedLoopPass_drains_nil T D R _ _ _ _ env node (slFlagsOf policy)
      (begin env.negDblMax windowSize windowSlots policy) rfl drawn with ⟨pass, drains, done⟩
    rcases blockNestedLoop_simulates.drains started.blockNestedLoop drains with
      ⟨last, nodeDrains, view⟩
    rw [ReachesDone, execSkyline_eq_blockNestedLoop method]
    exact ⟨[], last, nodeDrains, view.status.trans done⟩
  · rcases @sortFilterPass_drains_nil T D R _ _ _ _ env node (slFlagsOf policy)
      (begin env.negDblMax windowSize windowSlots policy) drawn with ⟨pass, drains, done⟩
    rcases sortFilter_simulates.drains started.sortFilter drains with ⟨last, nodeDrains, view⟩
    rw [ReachesDone, execSkyline_eq_sfs method]
    exact ⟨[], last, nodeDrains, view.status.trans done⟩

/-- From its start a window method reaches the end or is stopped exactly if its input is
empty or its window can take a tuple. -/
private theorem reachesDone_or_stopped_iff (windowed : node.skylineMethod.IsWindowed)
    {policy : TupleWindowPolicy} {windowSize windowSlots : Int} {input : List T} {drawn : Nat}
    {state : SkylineState T R}
    (started : WindowMethodStart policy (begin env.negDblMax windowSize windowSlots policy) input
      drawn state) :
    (ReachesDone env node state ∨ StoppedByAssertion env node input state) ↔
      input = [] ∨ HasCapacity windowSize windowSlots := by
  constructor
  · intro ends
    by_contra notEnding
    rcases not_or.mp notEnding with ⟨nonempty, noCapacity⟩
    have running := run_eq_of_noCapacity windowed started nonempty noCapacity
    rcases ends with ⟨out, last, drains, _⟩ | ⟨_, n, out, fault, failed, _⟩
    · exact not_drains_of_run_eq running drains
    · rw [running n] at failed
      simp at failed
  · rintro (rfl | capacity)
    · exact Or.inl (reachesDone_of_nil windowed started)
    · rcases windowed with method | method
      · rcases blockNestedLoop_drains_of_start env node method started capacity with
          ⟨out, last, drains, done, _⟩
        exact Or.inl ⟨out, last, drains, done⟩
      · rcases sortFilter_drains_or_misuse_of_start env node method started capacity with
          ⟨out, last, drains, done, _⟩ | ⟨n, out, fault, failed, misuse⟩
        · exact Or.inl ⟨out, last, drains, done⟩
        · exact Or.inr ⟨method, n, out, fault, failed, misuse⟩

/-- The assertion stops nothing but sort filter skyline with assertion checking on an input
that is not presorted. -/
theorem not_stoppedByAssertion {input : List T} {state : SkylineState T R}
    (unstopped : env.assertChecking = false ∨ node.skylineMethod = .blockNestedLoop ∨
      SortFilter.Presorted env node input) : ¬ StoppedByAssertion env node input state := by
  rintro ⟨method, _, _, _, _, _, checking, notPresorted⟩
  rcases unstopped with unchecked | other | presorted
  · rw [unchecked] at checking
    cases checking
  · rw [method] at other
    cases other
  · exact notPresorted presorted

/-- A window method ends exactly if its input is empty or its window can take a
tuple. -/
theorem windowMethod_ends_iff (env : ExecEnv T D R) (node : Skyline D)
    (windowed : node.skylineMethod = .blockNestedLoop ∨ node.skylineMethod = .sfs)
    (windowSize windowSlots : Int) (size : windowSizeOption env node = .ok windowSize)
    (slots : windowSlotsOption node = .ok windowSlots)
    (input : List T) (drawn : Nat) (state : SkylineState T R)
    (init : execInitSkyline env node (OuterPlan.init input) drawn = .ok state) :
    (ReachesDone env node state ∨ StoppedByAssertion env node input state) ↔
      input = [] ∨ 1 ≤ windowSlots ∨ (windowSlots = -1 ∧ 0 ≤ windowSize) := by
  rcases windowMethodStart_of_init windowed init with ⟨policy, _, options, started⟩
  cases options.size.symm.trans size
  cases options.slots.symm.trans slots
  exact reachesDone_or_stopped_iff windowed started

/-- Where the assertion cannot stop it, this is also the condition for a window method to
reach `SS_DONE`. -/
theorem windowMethod_reachesDone_iff (env : ExecEnv T D R) (node : Skyline D)
    (windowed : node.skylineMethod = .blockNestedLoop ∨ node.skylineMethod = .sfs)
    (windowSize windowSlots : Int) (size : windowSizeOption env node = .ok windowSize)
    (slots : windowSlotsOption node = .ok windowSlots)
    (input : List T) (drawn : Nat) (state : SkylineState T R)
    (init : execInitSkyline env node (OuterPlan.init input) drawn = .ok state)
    (unstopped : env.assertChecking = false ∨ node.skylineMethod = .blockNestedLoop ∨
      SortFilter.Presorted env node input) :
    ReachesDone env node state ↔
      input = [] ∨ 1 ≤ windowSlots ∨ (windowSlots = -1 ∧ 0 ≤ windowSize) := by
  rcases windowMethodStart_of_init windowed init with ⟨policy, _, options, started⟩
  cases options.size.symm.trans size
  cases options.slots.symm.trans slots
  have notStopped : ¬ StoppedByAssertion env node input state := not_stoppedByAssertion unstopped
  exact (or_iff_left notStopped).symm.trans (reachesDone_or_stopped_iff windowed started)

/-- A block nested loop with one window slot. -/
theorem windowMethod_ends_iff_oneSlot :
    let node : Skyline Int :=
      ⟨[integerCol 1 .min], false, [⟨"slots", .integer 1⟩], .blockNestedLoop, false⟩
    let input : List IntegerRow := [[some 2], [some 1]]
    ∃ state, execInitSkyline integerEnv node (OuterPlan.init input) 0 = .ok state ∧
      ((ReachesDone integerEnv node state ∨ StoppedByAssertion integerEnv node input state) ↔
        input = [] ∨ 1 ≤ (1 : Int) ∨ ((1 : Int) = -1 ∧ 0 ≤ (1024 : Int))) :=
  ⟨_, rfl, windowMethod_ends_iff integerEnv _ (Or.inl rfl) 1024 1 rfl rfl _ 0 _ rfl⟩

/-- The options accept a negative `windowsize` and negative `slots`, with which
one tuple is enough to keep both methods busy forever. -/
theorem windowMethod_negativeOptions_runForever :
    (∃ state, execInitSkyline integerEnv
        ⟨[integerCol 1 .min], false, [⟨"windowsize", .integer (-1)⟩], .blockNestedLoop, false⟩
        (OuterPlan.init [[some 1]]) 0 = .ok state ∧
      ¬ ReachesDone integerEnv
        ⟨[integerCol 1 .min], false, [⟨"windowsize", .integer (-1)⟩], .blockNestedLoop, false⟩
        state) ∧
    ∃ state, execInitSkyline integerEnv
        ⟨[integerCol 1 .min], false, [⟨"slots", .integer (-2)⟩], .sfs, false⟩
        (OuterPlan.init [[some 1]]) 0 = .ok state ∧
      ¬ ReachesDone integerEnv
        ⟨[integerCol 1 .min], false, [⟨"slots", .integer (-2)⟩], .sfs, false⟩ state := by
  constructor
  · exact ⟨_, rfl,
      not_reachesDone_of_noCapacity (Or.inl rfl) [[some 1]] 0 rfl (by simp) (by decide)⟩
  · exact ⟨_, rfl,
      not_reachesDone_of_noCapacity (Or.inr rfl) [[some 1]] 0 rfl (by simp) (by decide)⟩

end PgSkyline
