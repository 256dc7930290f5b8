import PgSkyline.BlockNestedLoop.Correctness
import PgSkyline.Passes.Start

/-!
# The results of a block nested loop

A freshly initialized block nested loop node drains into the reference skyline
of its input.
-/

namespace PgSkyline

open Resumable TupleWindowState

variable {T D R : Type} [LE R] [DecidableLE R] [LT R] [DecidableLT R]
variable (env : ExecEnv T D R) (node : Skyline D)

/-- The node and its pass have drained into the same results. -/
theorem blockNestedLoop_drains_of_start (method : node.skylineMethod = .blockNestedLoop)
    {policy : TupleWindowPolicy} {windowSize windowSlots : Int} {input : List T} {drawn : Nat}
    {state : SkylineState T R}
    (start : WindowMethodStart policy (begin env.negDblMax windowSize windowSlots policy) input
      drawn state)
    (capacity : HasCapacity windowSize windowSlots) :
    ∃ out last, Drains (execSkyline env node) state out last ∧ last.status = .done ∧
      (LawfulCols node.cols → NodeSieved env node input out) := by
  obtain ⟨out, pass, drains, done, finished⟩ := @BlockNestedLoop.drains T D R env node
    (begin env.negDblMax windowSize windowSlots policy) input _ _ _ _
    (balanced_begin env.negDblMax windowSize windowSlots policy) rfl capacity drawn
  obtain ⟨last, nodeDrains, view⟩ := blockNestedLoop_simulates.drains start.blockNestedLoop drains
  rw [execSkyline_eq_blockNestedLoop method]
  exact ⟨out, last, nodeDrains, view.status.trans done, finished⟩

/-- Over all calls up to `SS_DONE`, `ExecSkyline_BlockNestedLoop` returns exactly
the skyline of its input, for every accepted capacity and every window policy. -/
theorem execSkylineBlockNestedLoop_correct (lawful : LawfulCols node.cols)
    (method : node.skylineMethod = .blockNestedLoop) (input : List T) (drawn : Nat)
    (state : SkylineState T R)
    (init : execInitSkyline env node (OuterPlan.init input) drawn = .ok state)
    (capacity : HasCapacity state.windowsize state.windowslots) :
    ∃ out last, Drains (execSkyline env node) state out last ∧ last.status = .done ∧
      IsSkyline env.slotGetattr node.cols node.skylineDistinct input out := by
  obtain ⟨policy, _, _, start⟩ := windowMethodStart_of_init (Or.inl method) init
  obtain ⟨out, last, drains, done, sieved⟩ :=
    blockNestedLoop_drains_of_start env node method start capacity
  exact ⟨out, last, drains, done, (sieved lawful).isSkyline lawful⟩

/-- One slot and random ranks, on rows that force several passes. -/
theorem execSkylineBlockNestedLoop_correct_oneSlot :
    let node : Skyline Int :=
      ⟨[(1, .min), (2, .max), (3, .diff)].map fun column => integerCol column.1 column.2, false,
        [⟨"slots", .integer 1⟩, ⟨"windowpolicy", .string "random"⟩], .blockNestedLoop, true⟩
    let input : List IntegerRow :=
      [[some 3, some 1, none], [some 2, some 1, none], [some 1, none, none], [some 2, some 1, none]]
    ∃ state, execInitSkyline integerEnv node (OuterPlan.init input) 0 = .ok state ∧
      ∃ out last, Drains (execSkyline integerEnv node) state out last ∧ last.status = .done ∧
        IsSkyline integerEnv.slotGetattr node.cols node.skylineDistinct input out :=
  ⟨_, rfl, execSkylineBlockNestedLoop_correct integerEnv _ (lawfulCols_integerCol _) rfl _ 0 _ rfl
    (by decide)⟩

end PgSkyline
