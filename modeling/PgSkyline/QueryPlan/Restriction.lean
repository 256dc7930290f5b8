import PgSkyline.Dominance.Groups
import PgSkyline.QueryPlan.Computes

/-!
# Rows of one group, rows of a qual

What the executor returns for the rows of one DIFF group, and for the rows that a qual
from outside keeps, when the rows are picked out below the skyline node or above it.
-/

namespace PgSkyline

open Comparison Covering Resumable

variable {T D R : Type} [LE R] [DecidableLE R] [LT R] [DecidableLT R]

/-- The rows that a clause returns for one combination of the DIFF columns are those that the
clause without these columns returns for the rows of that group, whichever methods and
servers return them. -/
theorem execSkyline_diffGroups (env env' : ExecEnv T D R)
    (sameReads : env'.slotGetattr = env.slotGetattr) (node node' : Skyline D)
    (lawful : LawfulCols node.cols) (cols : node'.cols = withoutDiff node.cols)
    (distinct : node'.skylineDistinct = node.skylineDistinct) (input out : List T)
    (returns : node.Returns env input out) (group : T) (groupInput groupOut : List T)
    (rows : groupInput.Perm (input.filter (sameGroup env.slotGetattr node.cols group)))
    (groupReturns : node'.Returns env' groupInput groupOut) :
    SameResult env.slotGetattr node'.cols node.skylineDistinct
      (out.filter (sameGroup env.slotGetattr node.cols group)) groupOut := by
  have lawful' : LawfulCols node'.cols := by
    rw [cols]
    exact lawfulCols_withoutDiff lawful
  have ofGroup := (isSkyline_iff_groups lawful).mp (returns.isSkyline lawful) group
  have alone := groupReturns.isSkyline lawful'
  rw [← cols] at ofGroup
  rw [sameReads, distinct] at alone
  have rearranged := (Covers.refl (Beats env.slotGetattr node'.cols node.skylineDistinct)
    (input.filter (sameGroup env.slotGetattr node.cols group))).perm rows.symm
  exact ofGroup.sameResult lawful' (alone.of_covers lawful' rearranged)

/-- A group of a nested loop against the one-dimensional method over its rows. -/
theorem execSkyline_diffGroups_ofFirst :
    let node : Skyline Int :=
      ⟨[(1, .min), (2, .diff)].map fun column => integerCol column.1 column.2, false, [],
        .materializedNestedLoop, false⟩
    let node' : Skyline Int :=
      ⟨[(1, .min)].map fun column => integerCol column.1 column.2, false, [], .oneDim, false⟩
    let out : List IntegerRow := [[some 1, some 1], [some 2, none]]
    SameResult integerEnv.slotGetattr node'.cols node.skylineDistinct
      (out.filter (sameGroup integerEnv.slotGetattr node.cols [none, some 1]))
      [[some 1, some 1]] := by
  intro node node' out
  have returns : node.Returns integerEnv [[some 3, some 1], [some 1, some 1], [some 2, none]] out :=
    returns_of_run 0 10 trivial rfl rfl
  have groupReturns : node'.Returns integerEnv [[some 3, some 1], [some 1, some 1]]
      [[some 1, some 1]] := returns_of_run 0 10 ⟨rfl, _, rfl, by decide, Or.inl rfl⟩ rfl rfl
  exact execSkyline_diffGroups integerEnv integerEnv rfl node node' (lawfulCols_integerCol _) rfl
    rfl _ out returns [none, some 1] _ _ (by decide) groupReturns

/-- A node over the same columns on some server. -/
structure SameClause (env env' : ExecEnv T D R) (node node' : Skyline D) : Prop where
  reads : env'.slotGetattr = env.slotGetattr
  cols : node'.cols = node.cols
  distinct : node'.skylineDistinct = node.skylineDistinct

/-- Whatever correct result a clause has, its rows on which the qual holds are what any node
returns for the clause over the rows on which the qual holds. -/
def MayPushQual (env : ExecEnv T D R) (node : Skyline D) (qual : T → Bool) : Prop :=
  ∀ input out, IsSkyline env.slotGetattr node.cols node.skylineDistinct input out →
    ∀ env' node' pushedOut, SameClause env env' node node' →
      node'.Returns env' (input.filter qual) pushedOut →
      SameResult env.slotGetattr node.cols node.skylineDistinct (out.filter qual) pushedOut

/-- A qual may be pushed down below a skyline node exactly if it holds of every row that
dominates (for DISTINCT, or equals) a row on which it holds. -/
theorem mayPushQual_iff (env : ExecEnv T D R) (node : Skyline D) (lawful : LawfulCols node.cols)
    (qual : T → Bool) : MayPushQual env node qual ↔
      ClosedUnderBeaters env.slotGetattr node.cols node.skylineDistinct qual := by
  constructor
  · intro mayPush x y beats kept
    by_contra dropped
    rcases exists_returns_nestedLoopNode env lawful ([x, y].filter qual) with ⟨out, returns⟩
    have lawfulNode : LawfulCols (nestedLoopNode node).cols := lawful
    have skyline := returns.isSkyline lawfulNode
    have same := mayPush [x, y] [x] (isSkyline_pair lawful beats) env (nestedLoopNode node) out
      ⟨rfl, rfl, rfl⟩ returns
    have rows : [x, y].filter qual = [y] := by simp [dropped, kept]
    have none_ : [x].filter qual = [] := by simp [dropped]
    rw [rows] at skyline
    rw [none_] at same
    exact IsSkyline.not_sameResult_nil lawful skyline same
  · intro closed input out skyline env' node' pushedOut sameClause returns
    have lawful' : LawfulCols node'.cols := sameClause.cols ▸ lawful
    have pushed := returns.isSkyline lawful'
    rw [sameClause.reads, sameClause.cols, sameClause.distinct] at pushed
    exact (skyline.filter lawful closed).sameResult lawful pushed

/-- A bound from above on a MIN column may be pushed down, one from below may not. -/
theorem mayPushQual_iff_bounds :
    let node : Skyline Int :=
      ⟨[(1, .min)].map fun column => integerCol column.1 column.2, false, [], .blockNestedLoop,
        false⟩
    MayPushQual integerEnv node (boundedBy integerEnv.slotGetattr node.cols [some 5]) ∧
      ¬ MayPushQual integerEnv node fun row => row.head? == some (some 7) := by
  intro node
  have lawful : LawfulCols node.cols := lawfulCols_integerCol _
  constructor
  · exact (mayPushQual_iff integerEnv node lawful _).mpr
      (closedUnderBeaters_boundedBy lawful (List.Subset.refl _) _ _)
  · intro mayPush
    have closed := (mayPushQual_iff integerEnv node lawful _).mp mayPush [some 1] [some 7]
    have beats : Beats integerEnv.slotGetattr node.cols node.skylineDistinct [some 1] [some 7] := by
      decide
    exact absurd (closed beats rfl) (by decide)

end PgSkyline
