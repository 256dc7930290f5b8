import PgSkyline.Nodes.Core

/-!
# Plan trees with skyline nodes

Translation of `make_skyline` and `make_elimfilter` of `optimizer/plan/createplan.c`
with the arrays of the plan node, and of the place where `grouping_planner` calls
them.  Plan nodes of other types are a parameter.
-/

namespace PgSkyline

variable {O U E D F : Type}

/-- The fields of the superclass `Plan` without the subtrees; `F` is `double`. -/
structure Plan (O F : Type) where
  startupCost : F
  totalCost : F
  planRows : F
  planWidth : Int
  targetlist : NodePtr O
  qual : NodePtr O
  initPlan : NodePtr O
  extParam : List Nat
  allParam : List Nat

/-- The fields of the struct `Skyline`, which is also the struct `ElimFilter`. -/
structure SkylineNode (O F : Type) where
  skylineDistinct : Bool
  numCols : Nat
  flags : Nat
  skylineColIdx : List Nat
  skylineOfOperators : List Oid
  nullsFirst : List Bool
  skylineOfDir : List SkylineOfDir
  colFlags : List Nat
  colMin : List F
  colScale : List F
  colCoerceFunc : List Oid
  skylineOfOptions : NodePtr O
  skylineMethod : SkylineMethod

/-- The arrays are as long as `numCols` says. -/
structure SkylineNode.Allocated (node : SkylineNode O F) : Prop where
  skylineColIdx : node.skylineColIdx.length = node.numCols
  skylineOfOperators : node.skylineOfOperators.length = node.numCols
  nullsFirst : node.nullsFirst.length = node.numCols
  skylineOfDir : node.skylineOfDir.length = node.numCols
  colFlags : node.colFlags.length = node.numCols
  colMin : node.colMin.length = node.numCols
  colScale : node.colScale.length = node.numCols
  colCoerceFunc : node.colCoerceFunc.length = node.numCols

/-- The tags of the struct `Skyline`. -/
inductive SkylineTag where
  | skyline
  | elimFilter
  deriving DecidableEq, Repr

/-- A pointer to a plan node; `U` stands for the plan nodes of all other types, with
their own fields except for further subplans. -/
inductive PlanPtr (O U F : Type) where
  | null
  | upstream (node : U) (plan : Plan O F) (lefttree righttree : PlanPtr O U F)
      (subplans : List (PlanPtr O U F))
  | skyline (type : SkylineTag) (plan : Plan O F) (lefttree righttree : PlanPtr O U F)
      (node : SkylineNode O F)

mutual

/-- Is there a node with the tag `T_ElimFilter`? -/
def PlanPtr.hasElimFilter : PlanPtr O U F → Bool
  | .null => false
  | .upstream _ _ lefttree righttree subplans =>
      lefttree.hasElimFilter || righttree.hasElimFilter || anyElimFilter subplans
  | .skyline type _ lefttree righttree _ =>
      decide (type = .elimFilter) || lefttree.hasElimFilter || righttree.hasElimFilter

def anyElimFilter : List (PlanPtr O U F) → Bool
  | [] => false
  | subplan :: rest => subplan.hasElimFilter || anyElimFilter rest

end

/-! ## `make_skyline` -/

/-- The result of `find_coercion_pathway`. -/
inductive CoercionPath where
  | none
  | func (coerceFunc : Oid)
  | relabelType
  | arrayCoerce
  | coerceViaIo
  deriving DecidableEq, Repr

/-- What `make_skyline` takes from the catalog and the statistics. -/
structure PlannerStats (E D F : Type) where
  /-- `find_coercion_pathway` from a type to `FLOAT8OID`. -/
  findCoercionPathway : Oid → CoercionPath
  /-- `examine_variable` and `get_variable_range`. -/
  getVariableRange : E → Oid → Option (D × D)
  oidFunctionCall1 : Oid → D → D
  datumGetFloat8 : D → F

/-- The entries of the arrays for one column. -/
structure SkylineEntry (F : Type) where
  skylineColIdx : Nat
  skylineOfOperator : Oid
  nullsFirst : Bool
  skylineOfDir : SkylineOfDir
  colFlags : Nat
  colMin : F
  colScale : F
  colCoerceFunc : Oid

def skylineFlagsNone : Nat := 0

def skylineFlagsCoerce : Nat := 1

def skylineFlagsHaveStats : Nat := 2

def skylineFlagsCoerceFunc : Nat := 4

section MakeSkyline

variable [Zero F] [One F] [Add F] [Sub F] [Div F] [LT F] [DecidableLT F]

/-- `SKYLINE_RANK_EPSILON`. -/
def skylineRankEpsilon : F := 0

/-- `SKYLINE_RANK_BOUND_MIN`. -/
def skylineRankBoundMin : F := 0 + skylineRankEpsilon

/-- `SKYLINE_RANK_RANGE`. -/
def skylineRankRange : F := (1 - skylineRankEpsilon) - skylineRankBoundMin

variable (stats : PlannerStats E D F) (targetList : List (TargetEntry E))

/-- The entry with the range of the statistics. -/
def SkylineEntry.setRange (entry : SkylineEntry F) (min max : D) : SkylineEntry F :=
  let minAsDouble := stats.datumGetFloat8 min
  let maxAsDouble := stats.datumGetFloat8 max
  let range := maxAsDouble - minAsDouble
  let range := if range < skylineRankEpsilon then skylineRankEpsilon else range
  { entry with
    colMin := minAsDouble - skylineRankBoundMin
    colScale := skylineRankRange / range
    colFlags := entry.colFlags ||| skylineFlagsHaveStats }

/-- The loop of `make_skyline` for one column. -/
def makeSkylineEntry (skylineof : SkylineOf) : Except Fault (SkylineEntry F) := do
  let tle ← getSkylineclauseTle skylineof targetList
  let entry : SkylineEntry F := {
    skylineColIdx := tle.resno
    skylineOfOperator := skylineof.skylineop
    nullsFirst := skylineof.nullsFirst
    skylineOfDir := skylineof.skylineofDir
    colFlags := skylineFlagsNone
    -- some sane values
    colMin := 0 - skylineRankBoundMin
    colScale := skylineRankRange
    colCoerceFunc := invalidOid }
  let pathtype := stats.findCoercionPathway skylineof.restype
  if pathtype = .none then return entry
  else
    let entry := { entry with colFlags := entry.colFlags ||| skylineFlagsCoerce }
    match stats.getVariableRange tle.expr skylineof.skylineop with
    | none => return entry
    | some (min, max) =>
        match pathtype with
        | .func coerceFunc =>
            let entry := { entry with
              colCoerceFunc := coerceFunc
              colFlags := entry.colFlags ||| skylineFlagsCoerceFunc }
            return entry.setRange stats (stats.oidFunctionCall1 coerceFunc min)
              (stats.oidFunctionCall1 coerceFunc max)
        | .relabelType => return entry.setRange stats min max
        | .arrayCoerce | .coerceViaIo | .none => return entry

/-- The fields that `make_skyline` sets. -/
def makeSkylineNode (clause : SkylineClause) (skylineMethod : SkylineMethod) :
    Except Fault (SkylineNode O F) := do
  let entries ← clause.skylineOfList.mapM (makeSkylineEntry stats targetList)
  let haveStats := entries.any fun entry => entry.colFlags &&& skylineFlagsHaveStats != 0
  return {
    skylineDistinct := clause.skylineDistinct
    numCols := entries.length
    flags := if haveStats then skylineFlagsHaveStats else skylineFlagsNone
    skylineColIdx := entries.map SkylineEntry.skylineColIdx
    skylineOfOperators := entries.map SkylineEntry.skylineOfOperator
    nullsFirst := entries.map SkylineEntry.nullsFirst
    skylineOfDir := entries.map SkylineEntry.skylineOfDir
    colFlags := entries.map SkylineEntry.colFlags
    colMin := entries.map SkylineEntry.colMin
    colScale := entries.map SkylineEntry.colScale
    colCoerceFunc := entries.map SkylineEntry.colCoerceFunc
    skylineOfOptions := .ofList (clause.skylineOfOptions.map SkylineOption.toNode)
    skylineMethod }

/-- `make_skyline`.  The costs are not computed here, and later passes change the other
fields of the superclass as well, so these fields are given. -/
def makeSkylinePlan (plan : Plan O F) (lefttree : PlanPtr O U F) (clause : SkylineClause)
    (skylineMethod : SkylineMethod) : Except Fault (PlanPtr O U F) := do
  let node ← makeSkylineNode stats targetList clause skylineMethod
  return .skyline .skyline plan lefttree .null node

/-- `make_elimfilter` changes the node type for `T_Skyline` to `T_ElimFilter`. -/
def makeElimfilterPlan (plan : Plan O F) (lefttree : PlanPtr O U F) (clause : SkylineClause) :
    Except Fault (PlanPtr O U F) := do
  match ← makeSkylinePlan stats targetList plan lefttree clause .elimFilter with
  | .skyline _ plan lefttree righttree node =>
      return .skyline .elimFilter plan lefttree righttree node
  | result => return result

/-- The plan nodes that `grouping_planner` puts below the skyline node. -/
structure BelowSkyline (O U F : Type) where
  elimFilterPlan : Plan O F
  sort : U × Plan O F
  material : U × Plan O F

/-- The elimination filter, if the option "ef" is there. -/
def filteredTree (below : BelowSkyline O U F) (clause : SkylineClause)
    (resultPlan : PlanPtr O U F) : Except Fault (PlanPtr O U F) := do
  match ← skylineOptionGetInt clause.skylineOfOptions "ef" with
  | none => return resultPlan
  | some _ => makeElimfilterPlan stats targetList below.elimFilterPlan resultPlan clause

/-- The sort or materialize node that the method needs. -/
def BelowSkyline.tree (below : BelowSkyline O U F) (skylineMethod : SkylineMethod)
    (hasMatchingPath : Bool) (resultPlan : PlanPtr O U F) : PlanPtr O U F :=
  if skylineMethod = .twoDimPresort ∨ skylineMethod = .sfs then
    if hasMatchingPath then resultPlan
    else .upstream below.sort.1 below.sort.2 resultPlan .null []
  else if skylineMethod = .materializedNestedLoop then
    .upstream below.material.1 below.material.2 resultPlan .null []
  else resultPlan

/-- The part of `grouping_planner` for the skyline clause. -/
def planSkylineTree (below : BelowSkyline O U F) (plan : Plan O F) (clause : SkylineClause)
    (hasMatchingPath : Bool) (resultPlan : PlanPtr O U F) : Except Fault (PlanPtr O U F) := do
  let skylineMethod ← skylineChooseMethod clause.skylineOfList.length clause.skylineDistinct
    clause.skylineOfOptions hasMatchingPath
  let filtered ← filteredTree stats targetList below clause resultPlan
  makeSkylinePlan stats targetList plan (below.tree skylineMethod hasMatchingPath filtered) clause
    skylineMethod

/-! ## The trees of the planner -/

/-- A plan tree of the planner: its skyline nodes and elimination filters come from
`make_skyline` and `make_elimfilter`, under and over other plan nodes. -/
inductive Planned (stats : PlannerStats E D F) : PlanPtr O U F → Prop where
  | null : Planned stats .null
  | upstream {node : U} {plan : Plan O F} {lefttree righttree : PlanPtr O U F}
      {subplans : List (PlanPtr O U F)} : Planned stats lefttree → Planned stats righttree →
      (∀ subplan ∈ subplans, Planned stats subplan) →
      Planned stats (.upstream node plan lefttree righttree subplans)
  | makeSkyline {targetList : List (TargetEntry E)} {plan : Plan O F} {lefttree : PlanPtr O U F}
      {clause : SkylineClause} {skylineMethod : SkylineMethod} {result : PlanPtr O U F} :
      Planned stats lefttree →
      makeSkylinePlan stats targetList plan lefttree clause skylineMethod = .ok result →
      Planned stats result
  | makeElimfilter {targetList : List (TargetEntry E)} {plan : Plan O F} {lefttree : PlanPtr O U F}
      {clause : SkylineClause} {result : PlanPtr O U F} : Planned stats lefttree →
      makeElimfilterPlan stats targetList plan lefttree clause = .ok result → Planned stats result

variable {stats targetList}

private theorem allocated_of_makeSkylineNode {clause : SkylineClause}
    {skylineMethod : SkylineMethod} {node : SkylineNode O F}
    (made : makeSkylineNode stats targetList clause skylineMethod = .ok node) : node.Allocated := by
  rw [makeSkylineNode, bind_eq_ok_iff] at made
  rcases made with ⟨entries, _, made⟩
  cases made
  constructor <;> exact List.length_map _

/-- What `make_skyline` returns. -/
theorem makeSkylinePlan_eq_ok {plan : Plan O F} {lefttree result : PlanPtr O U F}
    {clause : SkylineClause} {skylineMethod : SkylineMethod}
    (made : makeSkylinePlan stats targetList plan lefttree clause skylineMethod = .ok result) :
    ∃ node : SkylineNode O F, node.Allocated ∧
      result = .skyline .skyline plan lefttree .null node := by
  rw [makeSkylinePlan, bind_eq_ok_iff] at made
  rcases made with ⟨node, nodeMade, made⟩
  cases made
  exact ⟨node, allocated_of_makeSkylineNode nodeMade, rfl⟩

theorem makeElimfilterPlan_eq_ok {plan : Plan O F} {lefttree result : PlanPtr O U F}
    {clause : SkylineClause}
    (made : makeElimfilterPlan stats targetList plan lefttree clause = .ok result) :
    ∃ node : SkylineNode O F, node.Allocated ∧
      result = .skyline .elimFilter plan lefttree .null node := by
  rw [makeElimfilterPlan, bind_eq_ok_iff] at made
  rcases made with ⟨skyline, skylineMade, made⟩
  rcases makeSkylinePlan_eq_ok skylineMade with ⟨node, allocated, rfl⟩
  cases made
  exact ⟨node, allocated, rfl⟩

end MakeSkyline

end PgSkyline
