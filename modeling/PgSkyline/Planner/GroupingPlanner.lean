import PgSkyline.Executor.ElimFilter
import PgSkyline.Executor.Node
import PgSkyline.Lib.Pipeline
import PgSkyline.Planner.Order
import PgSkyline.Planner.Paths
import Mathlib.Data.List.Destutter

/-!
# The end of `grouping_planner`

Translation of the part of `optimizer/plan/planner.c` that puts the nodes for
SKYLINE OF, ORDER BY, DISTINCT and LIMIT on top of a plan and keeps track of the
order of the result in `current_pathkeys`.

The nodes are a list, the first one next to the plan they are put on.
-/

namespace PgSkyline

open Resumable

variable {T D R E EC : Type}

/-- `skyline_method_preserves_tuple_order`. -/
def skylineMethodPreservesTupleOrder : SkylineMethod → Bool
  | .oneDim | .oneDimDistinct | .materializedNestedLoop => true
  | .twoDimPresort => true
  | .blockNestedLoop => false
  | .sfs => true
  | .elimFilter => true
  | .unknown => false

/-- A node that `grouping_planner` puts on top of a plan. -/
inductive UpperNode (T D EC : Type) where
  | elimFilter (node : Skyline D)
  | sort (pathkeys : List (PathKey EC))
  | material
  | skyline (node : Skyline D)
  /-- `execTuplesMatch` on the columns of the DISTINCT clause. -/
  | unique (tuplesMatch : T → T → Bool)
  | limit (offset : Nat) (count : Option Nat)

/-- What the end of `grouping_planner` finds in the parse tree and in the planner
state. -/
structure UpperQuery (T EC : Type) where
  skylineClause : Option SkylineClause
  skylinePathkeys : List (PathKey EC)
  sortClause : Bool
  sortPathkeys : List (PathKey EC)
  distinctClause : Option (T → T → Bool)
  /-- The values of OFFSET and LIMIT. -/
  limitClause : Option (Nat × Option Nat)

/-! ## The nodes -/

section Nodes

variable (catalog : Catalog D) (targetList : List (TargetEntry E)) (haveStats : Bool)

/-- `make_skyline`, and `make_elimfilter` for the method `SM_ELIMFILTER`. -/
def makeSkyline (clause : SkylineClause) (skylineMethod : SkylineMethod) :
    Except Fault (Skyline D) := do
  let cols ← makeSkylineCols catalog targetList clause.skylineOfList
  return {
    cols
    skylineDistinct := clause.skylineDistinct
    skylineOfOptions := clause.skylineOfOptions
    skylineMethod
    haveStats }

/-- The elimination filter, if the option "ef" is there. -/
def planElimFilter (clause : SkylineClause) : Except Fault (List (UpperNode T D EC)) := do
  match ← skylineOptionGetInt clause.skylineOfOptions "ef" with
  | none => return []
  | some _ => return [.elimFilter (← makeSkyline catalog targetList haveStats clause .elimFilter)]

variable [DecidableEq EC]

/-- The nodes for a skyline clause, and the order of the result. -/
def planSkyline (clause : SkylineClause) (skylinePathkeys currentPathkeys : List (PathKey EC)) :
    Except Fault (List (UpperNode T D EC) × List (PathKey EC)) := do
  let hasMatchingPath := (skylinePathkeysContainedIn skylinePathkeys currentPathkeys).1
  let skylineMethod ← skylineChooseMethod clause.skylineOfList.length clause.skylineDistinct
    clause.skylineOfOptions hasMatchingPath
  let elimFilter ← planElimFilter catalog targetList haveStats clause
  let needsSort :=
    decide (skylineMethod = .twoDimPresort ∨ skylineMethod = .sfs) && !hasMatchingPath
  let needsMaterial := decide (skylineMethod = .materializedNestedLoop)
  let below :=
    if needsSort then [.sort skylinePathkeys] else if needsMaterial then [.material] else []
  let currentPathkeys := if needsSort then skylinePathkeys else currentPathkeys
  let node ← makeSkyline catalog targetList haveStats clause skylineMethod
  let currentPathkeys :=
    if skylineMethodPreservesTupleOrder skylineMethod then currentPathkeys else []
  return (elimFilter ++ below ++ [.skyline node], currentPathkeys)

/-- The nodes for SKYLINE OF, if the query has it. -/
def planSkylineClause (query : UpperQuery T EC) (currentPathkeys : List (PathKey EC)) :
    Except Fault (List (UpperNode T D EC) × List (PathKey EC)) :=
  match query.skylineClause with
  | none => return ([], currentPathkeys)
  | some clause =>
      planSkyline catalog targetList haveStats clause query.skylinePathkeys currentPathkeys

/-- The explicit sort step for ORDER BY. -/
def planSort (query : UpperQuery T EC) (currentPathkeys : List (PathKey EC)) :
    List (UpperNode T D EC) × List (PathKey EC) :=
  if query.sortClause && !pathkeysContainedIn query.sortPathkeys currentPathkeys then
    ([.sort query.sortPathkeys], query.sortPathkeys)
  else ([], currentPathkeys)

/-- The end of `grouping_planner`: the nodes put on top of a plan with the order
`currentPathkeys`, and the `query_pathkeys` reported to the outer query level. -/
def groupingPlannerEnd (query : UpperQuery T EC) (currentPathkeys : List (PathKey EC)) :
    Except Fault (List (UpperNode T D EC) × List (PathKey EC)) := do
  let (skylineNodes, currentPathkeys) ←
    planSkylineClause catalog targetList haveStats query currentPathkeys
  let (sortNodes, currentPathkeys) := planSort query currentPathkeys
  let uniqueNodes := query.distinctClause.toList.map .unique
  let limitNodes := query.limitClause.toList.map fun limit => .limit limit.1 limit.2
  return (skylineNodes ++ sortNodes ++ uniqueNodes ++ limitNodes, currentPathkeys)

end Nodes

/-! ## What the nodes deliver -/

/-- `ExecUnique`: a tuple is returned unless it matches the tuple returned last. -/
def execUnique (tuplesMatch : T → T → Bool) (input : List T) : List T :=
  input.destutter fun result slot => tuplesMatch slot result = false

/-- `ExecLimit`. -/
def execLimit (offset : Nat) (count : Option Nat) (input : List T) : List T :=
  match count with
  | none => input.drop offset
  | some count => (input.drop offset).take count

variable [LE R] [DecidableLE R] [LT R] [DecidableLT R]

/-- Over a plan that delivers `input` the node may have handed out `out` so far.  A
node is read only as far as the nodes above it ask for tuples. -/
def UpperNode.Delivers (env : ExecEnv T D R) (order : Oid → D → D → Int)
    (row : T → EC → Option D) (input out : List T) : UpperNode T D EC → Prop
  | .elimFilter node => ∃ drawn state n,
      execInitElimFilter env node (OuterPlan.init input) drawn = .ok state ∧
        out = (run (execElimFilter env node) n state).1
  | .sort pathkeys => ∃ sorted : List T, sorted.Perm input ∧
      SortedByPathkeys order pathkeys (sorted.map row) ∧ out <+: sorted
  | .material => out <+: input
  | .skyline node => ∃ drawn state n,
      execInitSkyline env node (OuterPlan.init input) drawn = .ok state ∧
        out = (run (execSkyline env node) n state).1
  | .unique tuplesMatch => out <+: execUnique tuplesMatch input
  | .limit offset count => out <+: execLimit offset count input

/-- The nodes one above the other. -/
def DeliverInTurn (env : ExecEnv T D R) (order : Oid → D → D → Int) (row : T → EC → Option D) :
    List (UpperNode T D EC) → List T → List T → Prop :=
  Pipeline.InTurn fun node input out => node.Delivers env order row input out

end PgSkyline
