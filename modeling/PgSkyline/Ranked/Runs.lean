import PgSkyline.ElimFilter.Rescan
import PgSkyline.Lib.Ranking
import PgSkyline.Lifecycle.Core
import PgSkyline.Ranked.Scan

/-!
# Runs of the probing loops

The windows of `ExecSkyline_BlockNestedLoop`, `ExecSkyline_SortFilterSkyline` and
`ExecElimFilter` go through the same operations: they are compared with a tuple
from their start, the tuple is put behind the scan, and in between they are
rewound, piped out and cleaned.
-/

namespace PgSkyline

open Ranking Resumable TupleWindowState

section Runs

variable {T D R : Type} [LE R] [DecidableLE R] [LT R] [DecidableLT R]

/-- The rank at which a tuple is inserted. -/
def insertRankOf (env : ExecEnv T D R) (node : Skyline D) (policy : TupleWindowPolicy) (slot : T)
    (drawn : Nat) : R :=
  if policy = .random then env.random drawn else env.rank node slot

/-- What a probing loop does with a window tuple that the new tuple dominates. -/
def IsProbing (env : ExecEnv T D R)
    (secondDominates : TupleWindowState T R → Except Fault (TupleWindowState T R)) : Prop :=
  secondDominates = removeCurrent env.space ∨
    secondDominates = assertNotSecondDominates env.assertChecking

/-- The windows over the runs of the probing loops, with the slots put so far in
the order of their arrival. -/
inductive ProbingRun (env : ExecEnv T D R) (node : Skyline D) (policy : TupleWindowPolicy) :
    List (TupleWindowSlot T R) → TupleWindowState T R → Prop
  | begin (maxKBytes maxSlots : Int) :
      ProbingRun env node policy [] (begin env.negDblMax maxKBytes maxSlots policy)
  | compared {arrivals : List (TupleWindowSlot T R)} {window window' : TupleWindowState T R}
      {secondDominates : TupleWindowState T R → Except Fault (TupleWindowState T R)} {slot : T}
      {drawn drawn' : Nat} {innerSlot innerSlot' : Option T} {atEnd : Bool} :
      ProbingRun env node policy arrivals window → IsProbing env secondDominates →
      compareWithWindow env node secondDominates (slFlagsOf policy) slot window drawn innerSlot =
        .ok (atEnd, window', drawn', innerSlot') →
      ProbingRun env node policy arrivals window'
  | put {arrivals : List (TupleWindowSlot T R)} {window scanned window' : TupleWindowState T R}
      {secondDominates : TupleWindowState T R → Except Fault (TupleWindowState T R)} {slot : T}
      {timestamp drawn drawn' : Nat} {innerSlot innerSlot' : Option T} {forced : Bool} :
      ProbingRun env node policy arrivals window → IsProbing env secondDominates →
      compareWithWindow env node secondDominates (slFlagsOf policy) slot window drawn innerSlot =
        .ok (true, scanned, drawn', innerSlot') →
      putTupleSlot env.space env.negDblMax scanned slot timestamp forced = .ok window' →
      ProbingRun env node policy
        (arrivals ++ [⟨slot, timestamp, insertRankOf env node policy slot drawn⟩]) window'
  | rewind {arrivals : List (TupleWindowSlot T R)} {window : TupleWindowState T R} :
      ProbingRun env node policy arrivals window →
      ProbingRun env node policy arrivals (rewind window)
  | moveNext {arrivals : List (TupleWindowSlot T R)} {window : TupleWindowState T R} :
      ProbingRun env node policy arrivals window →
      ProbingRun env node policy arrivals (moveNext window)
  | fetched {arrivals : List (TupleWindowSlot T R)} {window window' : TupleWindowState T R}
      {slot : Option T} :
      ProbingRun env node policy arrivals window →
      getTupleSlot env.space window true = .ok (slot, window') →
      ProbingRun env node policy arrivals window'
  | clean {arrivals : List (TupleWindowSlot T R)} {window : TupleWindowState T R} :
      ProbingRun env node policy arrivals window →
      ProbingRun env node policy arrivals (clean window)

/-- The window stands in a run of the probing loops. -/
def Probed (env : ExecEnv T D R) (node : Skyline D) (policy : TupleWindowPolicy)
    (window : TupleWindowState T R) : Prop :=
  ∃ arrivals, ProbingRun env node policy arrivals window

variable {env : ExecEnv T D R} {node : Skyline D} {policy : TupleWindowPolicy}

/-! ## The window methods -/

theorem Probed.offerToWindow {window : TupleWindowState T R}
    (probed : Probed env node policy window)
    {secondDominates : TupleWindowState T R → Except Fault (TupleWindowState T R)}
    (probing : IsProbing env secondDominates) {timestamp drawn : Nat} {slot : T}
    {innerSlot : Option T} {admission : Admission T R}
    (offered : offerToWindow env node secondDominates timestamp (slFlagsOf policy) slot window drawn
      innerSlot = .ok admission) : Probed env node policy admission.window := by
  rcases probed with ⟨arrivals, run⟩
  rcases (bind_eq_ok_iff _ _ _).mp offered with
    ⟨⟨atEnd, scanned, drawn', innerSlot'⟩, compared, admitted⟩
  cases atEnd with
  | false =>
      cases admitted
      exact ⟨arrivals, run.compared probing compared⟩
  | true =>
      simp only [if_true] at admitted
      split at admitted
      · rcases (bind_eq_ok_iff _ _ _).mp admitted with ⟨window', put, stored⟩
        cases stored
        exact ⟨_, run.put probing compared put⟩
      · cases admitted
        exact ⟨arrivals, run.compared probing compared⟩

theorem Probed.rewind {window : TupleWindowState T R} (probed : Probed env node policy window) :
    Probed env node policy (rewind window) :=
  probed.imp fun _ run => run.rewind

theorem Probed.pipeOut {pass pass' : Pass T R} {outcome : Outcome T}
    (probed : Probed env node policy pass.window)
    (piped : pass.pipeOut env = .ok (pass', outcome)) : Probed env node policy pass'.window := by
  rcases probed with ⟨arrivals, run⟩
  rcases (bind_eq_ok_iff _ _ _).mp piped with ⟨⟨slot, window⟩, fetched, returned⟩
  cases slot with
  | none =>
      cases returned
      exact ⟨arrivals, run.fetched fetched⟩
  | some result =>
      cases returned
      exact ⟨arrivals, run.fetched fetched⟩

omit [LE R] [DecidableLE R] [LT R] [DecidableLT R] in
theorem window_spill (pass : Pass T R) (disposition : Disposition) (slot : T) :
    (pass.spill disposition slot).window = pass.window := by
  rw [Pass.spill]
  split
  · rfl
  · rfl

private theorem blockNestedLoopPass_probed {pass pass' : Pass T R} {outcome : Outcome T}
    (probed : Probed env node policy pass.window)
    (step : blockNestedLoopPass env node (slFlagsOf policy) pass = .ok (pass', outcome)) :
    Probed env node policy pass'.window := by
  rw [blockNestedLoopPass] at step
  cases status : pass.status with
  | init =>
      rw [status] at step
      cases step
      exact probed
  | process =>
      rw [status] at step
      cases pending : pass.pending with
      | nil =>
          rw [pending] at step
          simp only at step
          split at step
          · cases step
            exact probed.rewind
          · cases step
            exact probed.rewind
      | cons slot rest =>
          rw [pending] at step
          rcases (bind_eq_ok_iff _ _ _).mp step with ⟨admission, offered, stepped⟩
          cases stepped
          rw [window_spill]
          exact (probed.offerToWindow (Or.inl rfl) offered).rewind
  | pipeout =>
      rw [status] at step
      simp only at step
      split at step
      · cases step
        exact probed
      · rcases (bind_eq_ok_iff _ _ _).mp step with ⟨timestamp, _, later⟩
        split at later
        · exact probed.pipeOut later
        · cases later
          exact probed.imp fun _ run => run.moveNext
  | finalPipeout =>
      rw [status] at step
      simp only at step
      split at step
      · cases step
        exact probed
      · exact probed.pipeOut step
  | done =>
      rw [status] at step
      cases step
      exact probed

private theorem sortFilterPass_probed {pass pass' : Pass T R} {outcome : Outcome T}
    (probed : Probed env node policy pass.window)
    (step : sortFilterPass env node (slFlagsOf policy) pass = .ok (pass', outcome)) :
    Probed env node policy pass'.window := by
  rw [sortFilterPass] at step
  cases status : pass.status with
  | init =>
      rw [status] at step
      cases step
      exact probed
  | process =>
      rw [status] at step
      cases pending : pass.pending with
      | nil =>
          rw [pending] at step
          simp only at step
          split at step
          · cases step
            exact probed
          · cases step
            exact probed.imp fun _ run => run.clean
      | cons slot rest =>
          rw [pending] at step
          rcases (bind_eq_ok_iff _ _ _).mp step with ⟨admission, offered, stepped⟩
          have stored := probed.offerToWindow (Or.inr rfl) offered
          simp only at stepped
          split at stepped
          · cases stepped
            rw [window_spill]
            exact stored
          · cases stepped
            rw [window_spill]
            exact stored
  | done =>
      rw [status] at step
      cases step
      exact probed
  | pipeout | finalPipeout =>
      rw [status] at step
      cases step

omit [LE R] [DecidableLE R] [LT R] [DecidableLT R] in
theorem HoldsWindow.unique {windows : HandleTable (TupleWindowState T R)} {pointer : Option Nat}
    {window window' : TupleWindowState T R} (holds : HoldsWindow windows pointer window)
    (holds' : HoldsWindow windows pointer window') : window' = window := by
  rcases holds.found with ⟨handle, rfl, read⟩
  rcases holds'.found with ⟨handle', same, read'⟩
  cases same
  exact Option.some.inj (read'.symm.trans read)

/-- A window method stands for a pass whose window is in a run of the loops. -/
structure ProbingTracked (env : ExecEnv T D R) (node : Skyline D) (policy : TupleWindowPolicy)
    (state : SkylineState T R) : Prop where
  tracked : ∃ windowSize windowSlots, WindowTracked env node policy windowSize windowSlots state
  blockNestedLoop : node.skylineMethod = .blockNestedLoop →
    ∃ pass, BlockNestedLoopView policy state pass ∧ Probed env node policy pass.window
  sortFilter : node.skylineMethod = .sfs →
    ∃ pass, SortFilterView policy state pass ∧ Probed env node policy pass.window

variable {state : SkylineState T R}

theorem probingTracked_of_start {windowSize windowSlots : Int}
    (policyEq : initWindowPolicy node = .ok policy)
    (options : WindowOptions env node windowSize windowSlots) {input : List T} {drawn : Nat}
    (start : WindowMethodStart policy
      (TupleWindowState.begin env.negDblMax windowSize windowSlots policy) input drawn state) :
    ProbingTracked env node policy state where
  tracked := ⟨windowSize, windowSlots, .of_start policyEq options start⟩
  blockNestedLoop _ := ⟨_, start.blockNestedLoop, [], .begin windowSize windowSlots⟩
  sortFilter _ := ⟨_, start.sortFilter, [], .begin windowSize windowSlots⟩

theorem ProbingTracked.call (tracking : ProbingTracked env node policy state)
    {state' : SkylineState T R} {outcome : Outcome T}
    (step : execSkyline env node state = .ok (state', outcome)) :
    ProbingTracked env node policy state' where
  tracked := by
    rcases tracking.tracked with ⟨windowSize, windowSlots, tracked⟩
    exact ⟨windowSize, windowSlots, tracked.call step⟩
  blockNestedLoop method := by
    rcases tracking.blockNestedLoop method with ⟨pass, view, probed⟩
    rw [execSkyline_eq_blockNestedLoop method] at step
    rcases blockNestedLoop_simulates.exists_ok view step with ⟨pass', passed, view'⟩
    exact ⟨pass', view', blockNestedLoopPass_probed probed passed⟩
  sortFilter method := by
    rcases tracking.sortFilter method with ⟨pass, view, probed⟩
    rw [execSkyline_eq_sfs method] at step
    rcases sortFilter_simulates.exists_ok view step with ⟨pass', passed, view'⟩
    exact ⟨pass', view', sortFilterPass_probed probed passed⟩

theorem Reachable.probingTracked {mayRescan : SkylineState T R → Prop}
    (windowed : node.skylineMethod.IsWindowed) (policyEq : initWindowPolicy node = .ok policy)
    (reachable : Reachable env node mayRescan state) :
    ProbingTracked env node policy state := by
  induction reachable with
  | init initialized =>
      rcases windowMethodStart_of_init windowed initialized with
        ⟨policy', policyEq', options, start⟩
      cases policyEq.symm.trans policyEq'
      exact probingTracked_of_start policyEq options start
  | call _ step ih => exact ih.call step
  | @rescan state state' tuples paramsChanged _ _ rescanned ih =>
      rcases ih.tracked with ⟨windowSize, windowSlots, tracked⟩
      have notEnded := not_windowEnded_of_rescanWith tracked rescanned
      rcases tracked.rescan windowed notEnded tuples paramsChanged with ⟨state'', same, start⟩
      cases same.symm.trans rescanned
      exact probingTracked_of_start policyEq tracked.options start

/-- The window of a block nested loop or sort filter skyline node is in a run of the
loops. -/
theorem Reachable.probed {mayRescan : SkylineState T R → Prop}
    (windowed : node.skylineMethod.IsWindowed) (policyEq : initWindowPolicy node = .ok policy)
    (reachable : Reachable env node mayRescan state) {window : TupleWindowState T R}
    (holds : HoldsWindow state.windows state.window window) : Probed env node policy window := by
  have tracking := reachable.probingTracked windowed policyEq
  rcases windowed with method | method
  · rcases tracking.blockNestedLoop method with ⟨pass, ⟨_, contents⟩, probed⟩
    have same : HoldsWindow state.windows state.window pass.window := by
      cases status : pass.status with
      | init | process | pipeout | finalPipeout =>
          rw [status] at contents
          exact contents.1
      | done =>
          rw [status] at contents
          rcases holds.found with ⟨handle, _, read⟩
          exact absurd (HandleTable.live_of_read read) (contents.1 handle)
    rw [same.unique holds]
    exact probed
  · rcases tracking.sortFilter method with ⟨pass, view, probed⟩
    rw [view.window.unique holds]
    exact probed

/-! ## The elimination filter -/

/-- The filter holds a window that is in a run of the loops. -/
structure FilterProbed (env : ExecEnv T D R) (node : Skyline D) (policy : TupleWindowPolicy)
    (state : SkylineState T R) : Prop where
  flags : state.flags = slFlagsOf policy
  window : ∃ window, HoldsWindow state.windows state.window window ∧ Probed env node policy window

private theorem elimFilterTuple_probed (filtering : FilterProbed env node policy state) {slot : T}
    {state' : SkylineState T R} {outcome : Outcome T}
    (step : elimFilterTuple env node state slot = .ok (state', outcome)) :
    FilterProbed env node policy state' := by
  rcases filtering.window with ⟨window, holds, arrivals, run⟩
  simp only [elimFilterTuple, holds.found.deref, ok_bind, filtering.flags] at step
  rcases (bind_eq_ok_iff _ _ _).mp step with
    ⟨⟨atEnd, scanned, drawn', innerSlot'⟩, compared, later⟩
  cases atEnd with
  | false =>
      cases later
      exact ⟨rfl, scanned, holds.assign _, arrivals, run.compared (Or.inl rfl) compared⟩
  | true =>
      rcases (bind_eq_ok_iff _ _ _).mp later with ⟨window', put, returned⟩
      cases returned
      exact ⟨rfl, window', holds.assign _, _, run.put (Or.inl rfl) compared put⟩

theorem FilterLife.probed (policyEq : windowPolicyOption node "efwindowpolicy" = .ok policy)
    (reachable : FilterLife env node state) : FilterProbed env node policy state := by
  induction reachable with
  | init initialized =>
      rcases ElimFilter.exists_window_of_init initialized with
        ⟨policy', policyEq', _, flags, _, holds⟩
      cases policyEq.symm.trans policyEq'
      exact ⟨flags, _, holds, [], .begin _ _⟩
  | @rescan state state' tuples paramsChanged before rescanned =>
      rcases before.exists_view with ⟨policy', windowSize, windowSlots, pass, options, view⟩
      cases policyEq.symm.trans options.policy
      rcases exists_rescanned options view tuples paramsChanged with ⟨again, againEq, fresh⟩
      cases againEq.symm.trans rescanned
      exact ⟨fresh.flags, _, fresh.window, [], .begin _ _⟩
  | @call state state' outcome _ step ih =>
      rw [execElimFilter] at step
      cases status : state.status with
      | init =>
          rw [status] at step
          cases step
          exact ⟨ih.flags, ih.window⟩
      | process =>
          rw [status] at step
          generalize state.outerPlanState.procNode = fetched at step
          rcases fetched with ⟨slot, outer⟩
          cases slot with
          | none =>
              cases step
              exact ⟨ih.flags, ih.window⟩
          | some tuple =>
              have advanced : FilterProbed env node policy
                  { state with status := .process, outerPlanState := outer } :=
                ⟨ih.flags, ih.window⟩
              exact elimFilterTuple_probed advanced step
      | done =>
          rw [status] at step
          cases step
          exact ih
      | pipeout | finalPipeout =>
          rw [status] at step
          cases step

end Runs

end PgSkyline
