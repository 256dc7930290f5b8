import PgSkyline.Statistics.Comparisons
import PgSkyline.Statistics.Credit

/-!
# The number of dominance tests

In every state of every scan, a window method has compared each pair of input tuples at
most once, however often tuples go through temporary files.
-/

namespace PgSkyline

open Resumable TupleWindowState

variable {T D R : Type} [LE R] [DecidableLE R] [LT R] [DecidableLT R]

section Scan

variable {env : ExecEnv T D R} {node : Skyline D} {policy : TupleWindowPolicy}
  {start : TupleWindowState T R} {state state' : SkylineState T R} {input : List T}

omit [LT R] [DecidableLT R] in
/-- A pass makes no more comparisons than its view allows. -/
theorem windowMethodCmps_le {pass : Pass T R} (status : state.status = pass.status)
    (reads : pass.status = .process → HoldsWindow state.windows state.window pass.window ∧
      state.files.Reading pass.pending pass.overflow) :
    windowMethodCmps env node state ≤ passCost pass := by
  unfold windowMethodCmps
  rw [status]
  cases statusEq : pass.status with
  | process =>
      rcases reads statusEq with ⟨holds, reading⟩
      cases pending : pass.pending with
      | nil =>
          rw [pending] at reading
          rcases fetchSlot_nil env reading with ⟨_, _, _, fetched, _⟩
          simp only [fetched, Nat.zero_le]
      | cons slot rest =>
          rw [pending] at reading
          rcases fetchSlot_cons env reading with ⟨_, _, _, fetched, _⟩
          simp only [fetched, holds.found.deref, passCost, statusEq, pending]
          exact compareWithWindowCmps_le _ slot pass.window _
  | init | pipeout | finalPipeout | done => exact Nat.zero_le _

/-- What a scan by block nested loop has compared. -/
theorem blockNestedLoop_cmpsTuples_le (method : node.skylineMethod = .blockNestedLoop)
    {drawn cmps : Nat} (balanced : Balanced env.space start) (empty : start.slots = [])
    (begun : WindowMethodStart start.policy start input drawn state)
    (moves : Relation.ReflTransGen (Moves (metered (execSkyline env node)
      (windowMethodCmps env node))) (state, 0) (state', cmps)) :
    cmps ≤ input.length.choose 2 := by
  rw [execSkyline_eq_blockNestedLoop method] at moves
  let Inv : SkylineState T R → Nat → Prop := fun state credit => ∃ pass,
    BlockNestedLoopView start.policy state pass ∧ BlockNestedLoop.Paced env start pass ∧
      BlockNestedLoop.credit pass = credit
  have pays : ∀ s s' outcome credit, Inv s credit →
      execSkylineBlockNestedLoop env node s = .ok (s', outcome) →
      ∃ credit', Inv s' credit' ∧ windowMethodCmps env node s + credit' ≤ credit := by
    rintro s s' outcome _ ⟨pass, view, paced, rfl⟩ step
    rcases blockNestedLoop_simulates.exists_ok view step with ⟨pass', passStep, view'⟩
    rcases BlockNestedLoop.pass_pays paced passStep with ⟨paced', paid⟩
    have cost : windowMethodCmps env node s ≤ passCost pass := by
      refine windowMethodCmps_le view.status fun process => ?_
      have contents := view.contents
      rw [process] at contents
      exact ⟨contents.1, contents.2.1⟩
    exact ⟨_, ⟨pass', view', paced', rfl⟩, by omega⟩
  have inv : Inv state (input.length.choose 2) :=
    ⟨Pass.init start input drawn, begun.blockNestedLoop,
      ⟨balanced, SameLimits.refl start, empty⟩, rfl⟩
  simpa using total_le_of_credit Inv pays inv moves

/-- What a scan by sort filter skyline has compared. -/
theorem sortFilter_cmpsTuples_le (method : node.skylineMethod = .sfs)
    {drawn cmps : Nat} (balanced : Balanced env.space start) (empty : start.slots = [])
    (begun : WindowMethodStart start.policy start input drawn state)
    (moves : Relation.ReflTransGen (Moves (metered (execSkyline env node)
      (windowMethodCmps env node))) (state, 0) (state', cmps)) :
    cmps ≤ input.length.choose 2 := by
  rw [execSkyline_eq_sfs method] at moves
  let Inv : SkylineState T R → Nat → Prop := fun state credit => ∃ pass,
    SortFilterView start.policy state pass ∧ SortFilter.KeepsFull env start pass ∧
      (pass.status = .init → pass.window.slots = []) ∧ SortFilter.credit pass = credit
  have pays : ∀ s s' outcome credit, Inv s credit →
      execSkylineSortFilterSkyline env node s = .ok (s', outcome) →
      ∃ credit', Inv s' credit' ∧ windowMethodCmps env node s + credit' ≤ credit := by
    rintro s s' outcome _ ⟨pass, view, keeps, fresh, rfl⟩ step
    rcases sortFilter_simulates.exists_ok view step with ⟨pass', passStep, view'⟩
    have paid := SortFilter.pass_pays keeps fresh passStep
    have keeps' := (SortFilter.sortFilterPass_consumes pass _ keeps passStep).1
    have cost : windowMethodCmps env node s ≤ passCost pass := by
      refine windowMethodCmps_le view.status fun process => ?_
      have contents := view.contents
      rw [process] at contents
      exact ⟨view.window, contents.1⟩
    have begun' := SortFilter.status_ne_init keeps passStep
    exact ⟨_, ⟨pass', view', keeps', fun again => absurd again begun', rfl⟩, by omega⟩
  have inv : Inv state (input.length.choose 2) :=
    ⟨Pass.init start input drawn, begun.sortFilter,
      ⟨balanced, SameLimits.refl start, by simp [Pass.init]⟩, fun _ => empty, rfl⟩
  simpa using total_le_of_credit Inv pays inv moves

end Scan

variable (env : ExecEnv T D R) (node : Skyline D)

/-- `cmps_tuples` never exceeds the number of pairs of input tuples: in every state that a
scan with a window reaches, however small the window and whatever the compare functions do. -/
theorem execSkyline_cmpsTuples_le (windowed : node.skylineMethod.IsWindowed) (input : List T)
    (drawn : Nat) (state : SkylineState T R)
    (init : execInitSkyline env node (OuterPlan.init input) drawn = .ok state)
    (state' : SkylineState T R) (cmps : Nat)
    (moves : Relation.ReflTransGen (Moves (metered (execSkyline env node)
      (windowMethodCmps env node))) (state, 0) (state', cmps)) :
    cmps ≤ input.length * (input.length - 1) / 2 := by
  rcases windowMethodStart_of_init windowed init with ⟨policy, _, _, begun⟩
  rw [← Nat.choose_two_right]
  rcases windowed with method | method
  · exact @blockNestedLoop_cmpsTuples_le T D R _ _ _ _ env node _ state state' input method drawn
      cmps (balanced_begin _ _ _ _) rfl begun moves
  · exact @sortFilter_cmpsTuples_le T D R _ _ _ _ env node _ state state' input method drawn
      cmps (balanced_begin _ _ _ _) rfl begun moves

/-- With one slot, three incomparable rows meet each other over three passes: the bound is
reached. -/
theorem execSkyline_cmpsTuples_le_oneSlot :
    let node : Skyline Int :=
      ⟨[(1, .min), (2, .min)].map fun column => integerCol column.1 column.2, false,
        [⟨"slots", .integer 1⟩], .sfs, false⟩
    let input : List IntegerRow := [[some 1, some 3], [some 2, some 2], [some 3, some 1]]
    ∃ start, execInitSkyline integerEnv node (OuterPlan.init input) 0 = .ok start ∧
      ∃ state, Relation.ReflTransGen (Moves (metered (execSkyline integerEnv node)
          (windowMethodCmps integerEnv node))) (start, 0) (state, 3) ∧
        state.source = .temp ∧ 3 ≤ input.length * (input.length - 1) / 2 := by
  intro node input
  refine ⟨_, rfl, ?_⟩
  suffices reached : ∃ state, Relation.ReflTransGen (Moves (metered (execSkyline integerEnv node)
      (windowMethodCmps integerEnv node))) (_, 0) (state, 3) ∧ state.source = .temp by
    rcases reached with ⟨state, moves, source⟩
    exact ⟨state, moves, source,
      execSkyline_cmpsTuples_le integerEnv node (Or.inr rfl) input 0 _ rfl state 3 moves⟩
  exact ⟨_, .head ⟨_, rfl⟩ (.head ⟨_, rfl⟩ (.head ⟨_, rfl⟩ (.head ⟨_, rfl⟩ (.head ⟨_, rfl⟩
    (.head ⟨_, rfl⟩ (.single ⟨_, rfl⟩)))))), rfl⟩

end PgSkyline
