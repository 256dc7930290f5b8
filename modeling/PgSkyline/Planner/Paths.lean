import PgSkyline.Planner.Pathkeys
import Mathlib.Data.List.MinMax
import Mathlib.Data.Prod.Lex

/-!
# The choice of the path

Translation of the path comparisons of `optimizer/util/pathnode.c` and
`optimizer/path/pathkeys.c`, of the end of `query_planner`
(`optimizer/plan/planmain.c`), and of the choice of the best path in
`grouping_planner` (`optimizer/plan/planner.c`), with the unmodified versions of
the last two in the namespace `Upstream`.

A path is a pointer, behind which its costs and its path keys are found.  Costs
are any ordered set; the cost of a fraction of the tuples, the cost of an
explicit sort and the test for hashed grouping are parameters.
-/

namespace PgSkyline

variable {P C F EC : Type} [DecidableEq EC]

/-! ## Comparing path keys -/

inductive PathKeysComparison where
  | equal
  | better1
  | better2
  | different
  deriving DecidableEq, Repr

/-- `compare_pathkeys`. -/
def comparePathkeyLists : List (PathKey EC) → List (PathKey EC) → PathKeysComparison
  | pathkey1 :: keys1, pathkey2 :: keys2 =>
      if pathkey1 ≠ pathkey2 then .different else comparePathkeyLists keys1 keys2
  | [], [] => .equal
  | _ :: _, [] => .better1
  | [], _ :: _ => .better2

/-- `pathkeys_contained_in`. -/
def pathkeysContainedIn (keys1 keys2 : List (PathKey EC)) : Bool :=
  match comparePathkeyLists keys1 keys2 with
  | .equal | .better2 => true
  | _ => false

theorem pathkeysContainedIn_iff (keys1 keys2 : List (PathKey EC)) :
    pathkeysContainedIn keys1 keys2 = true ↔ keys1 <+: keys2 := by
  unfold pathkeysContainedIn
  induction keys1 generalizing keys2 with
  | nil => cases keys2 <;> simp [comparePathkeyLists]
  | cons pathkey1 keys1 ih =>
      cases keys2 with
      | nil => simp [comparePathkeyLists]
      | cons pathkey2 keys2 =>
          rw [comparePathkeyLists, List.cons_prefix_cons, ← ih keys2]
          by_cases same : pathkey1 = pathkey2
          · simp [same]
          · simp [same]

/-! ## Comparing costs -/

/-- The two cost fields of a path. -/
structure PathCost (C : Type) where
  startupCost : C
  totalCost : C
  deriving DecidableEq, Repr

/-- The paths of a query. -/
structure PathTable (P C EC : Type) where
  cost : P → PathCost C
  pathkeys : P → List (PathKey EC)

/-- The cost functions of the optimizer. -/
structure CostModel (F C EC : Type) where
  /-- `fraction <= 0.0 || fraction >= 1.0`. -/
  isWhole : F → Bool
  /-- `startup_cost + fraction * (total_cost - startup_cost)`. -/
  costAt : F → PathCost C → C
  /-- `cost_sort` by these path keys of an input with this total cost. -/
  costSort : List (PathKey EC) → C → PathCost C

section Costs

variable [LT C] [DecidableLT C]

/-- `-1`, `0` or `+1` according as the first cost is less, the same or more; the
second pair decides if the first one is the same. -/
def compareCosts (cost1 cost2 : C) (same : Int) : Int :=
  if cost1 < cost2 then -1 else if cost2 < cost1 then 1 else same

/-- `compare_path_costs` with the criterion `TOTAL_COST`. -/
def comparePathCosts (path1 path2 : PathCost C) : Int :=
  compareCosts path1.totalCost path2.totalCost
    (compareCosts path1.startupCost path2.startupCost 0)

/-- `compare_fractional_path_costs`. -/
def compareFractionalPathCosts (costs : CostModel F C EC) (fraction : F)
    (path1 path2 : PathCost C) : Int :=
  if costs.isWhole fraction then comparePathCosts path1 path2
  else compareCosts (costs.costAt fraction path1) (costs.costAt fraction path2) 0

/-- The loop of `get_cheapest_fractional_path_for_pathkeys` and its skyline
variant, which differ in the containment test. -/
def getCheapestFractionalPath (table : PathTable P C EC) (costs : CostModel F C EC) (fraction : F)
    (containedIn : List (PathKey EC) → Bool) : List P → Option P → Option P
  | [], matchedPath => matchedPath
  | path :: rest, matchedPath =>
      let keeps := matchedPath.any fun matched =>
        compareFractionalPathCosts costs fraction (table.cost matched) (table.cost path) ≤ 0
      if keeps then getCheapestFractionalPath table costs fraction containedIn rest matchedPath
      else if containedIn (table.pathkeys path) then
        getCheapestFractionalPath table costs fraction containedIn rest (some path)
      else getCheapestFractionalPath table costs fraction containedIn rest matchedPath

/-- `get_cheapest_fractional_path_for_pathkeys`. -/
def getCheapestFractionalPathForPathkeys (table : PathTable P C EC) (costs : CostModel F C EC)
    (paths : List P) (pathkeys : List (PathKey EC)) (fraction : F) : Option P :=
  getCheapestFractionalPath table costs fraction (pathkeysContainedIn pathkeys) paths none

/-- `get_cheapest_fractional_path_for_skyline_pathkeys`. -/
def getCheapestFractionalPathForSkylinePathkeys (table : PathTable P C EC)
    (costs : CostModel F C EC) (paths : List P) (pathkeys : List (PathKey EC)) (fraction : F) :
    Option P :=
  getCheapestFractionalPath table costs fraction
    (fun keys => (skylinePathkeysContainedIn pathkeys keys).1) paths none

/-- The cheapest total path of `set_cheapest`. -/
def setCheapest (table : PathTable P C EC) : List P → Except Fault P
  | [] => .error (.elog "could not devise a query plan for the given query")
  | first :: rest => .ok <| rest.foldl (fun cheapestTotalPath path =>
      let cmp := comparePathCosts (table.cost cheapestTotalPath) (table.cost path)
      if 0 < cmp ∨ (cmp = 0 ∧ comparePathkeyLists (table.pathkeys cheapestTotalPath)
          (table.pathkeys path) = .better2) then path
      else cheapestTotalPath) first

/-! ## `query_planner` -/

/-- The final relation. -/
structure RelOptInfo (P : Type) where
  pathlist : List P
  cheapestTotalPath : P

/-- Forget about the presorted path if it would be cheaper to sort the
cheapest-total path. -/
def forgetLoser (table : PathTable P C EC) (costs : CostModel F C EC)
    (queryPathkeys : List (PathKey EC)) (fraction : F)
    (containedIn : List (PathKey EC) → Bool) (cheapestpath : P) : Option P → Option P
  | none => none
  | some presorted =>
      let sortPath :=
        if queryPathkeys = [] ∨ containedIn (table.pathkeys cheapestpath) then
          table.cost cheapestpath
        else costs.costSort queryPathkeys (table.cost cheapestpath).totalCost
      if 0 < compareFractionalPathCosts costs fraction (table.cost presorted) sortPath then none
      else some presorted

/-- What `query_planner` returns. -/
structure QueryPaths (P : Type) where
  cheapestPath : P
  sortedPath : Option P
  skylinePath : Option P
  deriving DecidableEq, Repr

variable [DecidableEq P]

/-- The choice of the presorted paths at the end of `query_planner`. -/
def queryPlanner (table : PathTable P C EC) (costs : CostModel F C EC) (finalRel : RelOptInfo P)
    (queryPathkeys : List (PathKey EC)) (tupleFraction : F) : QueryPaths P :=
  let cheapestpath := finalRel.cheapestTotalPath
  let skylinepath := getCheapestFractionalPathForSkylinePathkeys table costs finalRel.pathlist
    queryPathkeys tupleFraction
  let sortedpath := getCheapestFractionalPathForPathkeys table costs finalRel.pathlist
    queryPathkeys tupleFraction
  let sortedpath := if sortedpath = some cheapestpath then none else sortedpath
  let sortedpath := if sortedpath = skylinepath then none else sortedpath
  let skylinepath := if skylinepath = some cheapestpath then none else skylinepath
  { cheapestPath := cheapestpath
    sortedPath := forgetLoser table costs queryPathkeys tupleFraction
      (pathkeysContainedIn queryPathkeys) cheapestpath sortedpath
    skylinePath := forgetLoser table costs queryPathkeys tupleFraction
      (fun keys => (skylinePathkeysContainedIn queryPathkeys keys).1) cheapestpath skylinepath }

/-- The unmodified `query_planner`. -/
def Upstream.queryPlanner (table : PathTable P C EC) (costs : CostModel F C EC)
    (finalRel : RelOptInfo P) (queryPathkeys : List (PathKey EC)) (tupleFraction : F) :
    P × Option P :=
  let cheapestpath := finalRel.cheapestTotalPath
  let sortedpath := getCheapestFractionalPathForPathkeys table costs finalRel.pathlist
    queryPathkeys tupleFraction
  let sortedpath := if sortedpath = some cheapestpath then none else sortedpath
  (cheapestpath, forgetLoser table costs queryPathkeys tupleFraction
    (pathkeysContainedIn queryPathkeys) cheapestpath sortedpath)

end Costs

/-! ## The best path -/

/-- The path chosen for a skyline clause that has a skyline path. -/
def bestPathForSkyline (skylineClause : SkylineClause) (cheapestPath : P) (sortedPath : Option P)
    (skylinePath : P) : P :=
  let skylineMethod := skylineMethodForcedByOptions skylineClause.skylineOfOptions
  let skylineDim := skylineClause.skylineOfList.length
  if skylineDim = 2 ∧ (skylineMethod = .unknown ∨ skylineMethod = .twoDimPresort) then skylinePath
  else if 2 ≤ skylineDim ∧ (skylineMethod = .unknown ∨ skylineMethod = .sfs) then skylinePath
  else sortedPath.getD cheapestPath

/-- The choice of `best_path` in `grouping_planner`.  `chooseHashedGrouping` is
asked if there is a GROUP BY clause. -/
def bestPath (groupClause : Bool) (chooseHashedGrouping : P → Option P → Bool)
    (skylineClause : Option SkylineClause) (paths : QueryPaths P) : Except Fault P := do
  let skylinePath ←
    match skylineClause with
    | none => pure none
    | some clause =>
        match ← skylineOptionGetInt clause.skylineOfOptions "noindex" with
        | some _ => pure none
        | none => pure (paths.skylinePath.map fun path => (clause, path))
  let useHashedGrouping := groupClause && chooseHashedGrouping paths.cheapestPath paths.sortedPath
  if useHashedGrouping then return paths.cheapestPath
  else
    match paths.sortedPath, skylinePath with
    | none, none => return paths.cheapestPath
    | sortedPath, some (clause, path) =>
        return bestPathForSkyline clause paths.cheapestPath sortedPath path
    | some sortedPath, none => return sortedPath

/-- The choice of `best_path` in the unmodified `grouping_planner`. -/
def Upstream.bestPath (groupClause : Bool) (chooseHashedGrouping : P → Option P → Bool)
    (paths : P × Option P) : P :=
  let useHashedGrouping := groupClause && chooseHashedGrouping paths.1 paths.2
  match paths.2 with
  | none => paths.1
  | some sortedPath => if useHashedGrouping then paths.1 else sortedPath

end PgSkyline
