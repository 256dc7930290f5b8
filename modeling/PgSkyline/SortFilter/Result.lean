import PgSkyline.Passes.Start
import PgSkyline.SortFilter.Correctness

/-!
# The results of sort filter skyline

A freshly initialized sort filter skyline node drains a presorted input into its
reference skyline.
-/

namespace PgSkyline

open Resumable TupleWindowState

variable {T D R : Type} [LE R] [DecidableLE R] [LT R] [DecidableLT R]
variable (env : ExecEnv T D R) (node : Skyline D)

/-- The node has drained, or the assertion has stopped it on an input that is not
presorted. -/
theorem sortFilter_drains_or_misuse_of_start (method : node.skylineMethod = .sfs)
    {policy : TupleWindowPolicy} {windowSize windowSlots : Int} {input : List T} {drawn : Nat}
    {state : SkylineState T R}
    (start : WindowMethodStart policy (begin env.negDblMax windowSize windowSlots policy) input
      drawn state)
    (capacity : HasCapacity windowSize windowSlots) :
    (∃ out last, Drains (execSkyline env node) state out last ∧ last.status = .done ∧
      (SortFilter.Presorted env node input → NodeSieved env node input out)) ∨
    ∃ n out fault, run (execSkyline env node) n state = (out, .failed fault) ∧
      SortFilter.Misuse env node input fault := by
  rw [execSkyline_eq_sfs method]
  rcases @SortFilter.drains_or_misuse T D R env node
    (begin env.negDblMax windowSize windowSlots policy) input _ _ _ _
    (balanced_begin env.negDblMax windowSize windowSlots policy) rfl capacity drawn with
    ⟨out, pass, drains, done, sieved⟩ | ⟨n, out, fault, failed, misuse⟩
  · rcases sortFilter_simulates.drains start.sortFilter drains with ⟨last, nodeDrains, view⟩
    exact Or.inl ⟨out, last, nodeDrains, view.status.trans done, sieved⟩
  · have same := (@sortFilter_simulates T D R _ _ _ _ env node policy).run_eq n start.sortFilter
    exact Or.inr ⟨n, out, fault, same.trans failed, misuse⟩

/-- On an input in which no tuple dominates an earlier one, in particular on a
sorted one, `ExecSkyline_SortFilterSkyline` returns exactly the skyline, for every
accepted capacity and every window policy.  As a drain has no failure, its
assertion never fails. -/
theorem execSkylineSortFilterSkyline_correct (lawful : LawfulCols node.cols)
    (method : node.skylineMethod = .sfs) (input : List T) (drawn : Nat) (state : SkylineState T R)
    (init : execInitSkyline env node (OuterPlan.init input) drawn = .ok state)
    (presorted : NoLaterDominates env.slotGetattr node.cols input ∨
      SortedOn env.slotGetattr node.cols input)
    (capacity : HasCapacity state.windowsize state.windowslots) :
    ∃ out last, Drains (execSkyline env node) state out last ∧ last.status = .done ∧
      IsSkyline env.slotGetattr node.cols node.skylineDistinct input out := by
  have inOrder : NoLaterDominates env.slotGetattr node.cols input := by
    rcases presorted with inOrder | sorted
    · exact inOrder
    · exact sorted.noLaterDominates lawful
  rcases windowMethodStart_of_init (Or.inr method) init with ⟨policy, _, _, start⟩
  rcases sortFilter_drains_or_misuse_of_start env node method start capacity with
    ⟨out, last, drains, done, sieved⟩ | ⟨_, _, _, _, _, _, notPresorted⟩
  · exact ⟨out, last, drains, done, (sieved ⟨lawful, inOrder⟩).isSkyline lawful⟩
  · exact absurd ⟨lawful, inOrder⟩ notPresorted

/-- Two passes with a budget of no memory at all, DISTINCT and entropy ranks. -/
theorem execSkylineSortFilterSkyline_correct_noMemory :
    let node : Skyline Int :=
      ⟨[(1, .diff), (2, .min), (3, .max)].map fun column => integerCol column.1 column.2, true,
        [⟨"window", .integer 0⟩, ⟨"windowpolicy", .string "entropy"⟩], .sfs, true⟩
    let input : List IntegerRow :=
      [[some 1, some 1, some 1], [some 1, some 2, none], [some 1, some 2, some 2],
        [some 1, some 2, some 2], [none, some 1, some 1]]
    ∃ state, execInitSkyline integerEnv node (OuterPlan.init input) 0 = .ok state ∧
      ∃ out last, Drains (execSkyline integerEnv node) state out last ∧ last.status = .done ∧
        IsSkyline integerEnv.slotGetattr node.cols node.skylineDistinct input out :=
  ⟨_, rfl, execSkylineSortFilterSkyline_correct integerEnv _ (lawfulCols_integerCol _) rfl _ 0 _ rfl
    (Or.inr (by decide)) (by decide)⟩

end PgSkyline
