import PgSkyline.Parser.Duplicates

/-!
# Analysed queries

Translation of `transformSelectStmt` (`parser/analyze.c`) from the skyline clause on,
with `parseCheckAggregates` (`parser/parse_agg.c`).  The clauses that are transformed
before the skyline clause are a parameter; what is known of them is that their sort
and group items refer to entries of the target list.
-/

namespace PgSkyline

variable {S N E R J D : Type}

/-- `SortClause`, which is also `GroupClause`. -/
structure SortClause where
  tleSortGroupRef : Nat
  sortop : Oid
  nullsFirst : Bool
  deriving DecidableEq, Repr

structure RowMarkClause where
  rti : Nat
  forUpdate : Bool
  noWait : Bool
  deriving DecidableEq, Repr

/-- The `Query` of a SELECT without set operations; `R` is the range table and `J` the
FROM list of the join tree. -/
structure Query (E R J : Type) where
  targetList : List (TargetEntry E)
  rtable : R
  fromlist : J
  quals : Option E
  havingQual : Option E
  sortClause : List SortClause
  groupClause : List SortClause
  distinctClause : List SortClause
  skylineClause : Option SkylineClause
  limitOffset : Option E
  limitCount : Option E
  hasAggs : Bool
  rowMarks : List RowMarkClause

/-- What `transformSelectStmt` has when it comes to the skyline clause. -/
structure Clauses (E R J : Type) where
  pstate : ParseState E
  rtable : R
  fromlist : J
  quals : Option E
  havingQual : Option E
  sortClause : List SortClause
  groupClause : List SortClause
  distinctClause : List SortClause
  hasAggs : Bool
  /-- The items of these clauses refer to entries of the target list. -/
  refs : ∀ item ∈ sortClause ++ groupClause ++ distinctClause,
    item.tleSortGroupRef ≠ 0 ∧ HasRef pstate.targetlist item.tleSortGroupRef

/-- The analysis of the other parts of a statement. -/
structure SelectAnalysis (S N E R J : Type) extends ExprAnalysis N E where
  /-- From `transformFromClause` to `transformDistinctClause`. -/
  transformClauses : S → Except Fault (Clauses E R J)
  transformLimitOffset : S → Except Fault (Option E)
  transformLimitCount : S → Except Fault (Option E)
  transformLockingClause : S → Clauses E R J → Bool → Except Fault (List RowMarkClause)
  checkExprHasAggs : E → Bool
  /-- `checkExprHasAggs` for the FROM list. -/
  joinHasAggs : J → Bool
  /-- `check_ungrouped_columns` for one expression, given the grouping expressions. -/
  checkUngroupedColumns : List E → E → Except Fault Unit

structure SelectStmt (S N : Type) where
  /-- All parts except for the skyline clause. -/
  others : S
  skylineOfClause : Option (SkylineOfClause N)

/-- `get_sortgroupclause_tle`. -/
def getSortgroupclauseTle (item : SortClause) (targetList : List (TargetEntry E)) :
    Except Fault (TargetEntry E) :=
  match targetList.find? fun tle => tle.ressortgroupref == item.tleSortGroupRef with
  | some tle => .ok tle
  | none => .error (.elog "ORDER/GROUP BY expression not found in targetlist")

section Analysis

variable (catalog : Catalog D) (analysis : SelectAnalysis S N E R J)

/-- An acceptable GROUP BY expression. -/
def checkGroupExpr (targetList : List (TargetEntry E)) (grpcl : SortClause) : Except Fault E := do
  let tle ← getSortgroupclauseTle grpcl targetList
  if analysis.checkExprHasAggs tle.expr then
    throw (.elog "aggregates not allowed in GROUP BY clause")
  else return tle.expr

/-- `check_ungrouped_columns` for a target list. -/
def checkUngroupedTargets (groupClauses : List E) : List (TargetEntry E) → Except Fault Unit
  | [] => return ()
  | tle :: rest => do
      analysis.checkUngroupedColumns groupClauses tle.expr
      checkUngroupedTargets groupClauses rest

/-- `parseCheckAggregates`. -/
def parseCheckAggregates (clauses : Clauses E R J) (targetList : List (TargetEntry E)) :
    Except Fault Unit := do
  if clauses.quals.any analysis.checkExprHasAggs then
    throw (.elog "aggregates not allowed in WHERE clause")
  else if analysis.joinHasAggs clauses.fromlist then
    throw (.elog "aggregates not allowed in JOIN conditions")
  else
    let groupClauses ← clauses.groupClause.mapM (checkGroupExpr analysis targetList)
    checkUngroupedTargets analysis groupClauses.reverse targetList
    match clauses.havingQual with
    | none => return ()
    | some havingQual => analysis.checkUngroupedColumns groupClauses.reverse havingQual

/-- The check is made if there are aggregates or grouping. -/
def checkAggregates (clauses : Clauses E R J) (targetList : List (TargetEntry E))
    (hasAggs : Bool) : Except Fault Unit :=
  if hasAggs || !clauses.groupClause.isEmpty || clauses.havingQual.isSome then
    parseCheckAggregates analysis clauses targetList
  else return ()

variable [DecidableEq E]

/-- `transformSkylineClause`, also for a query without the clause. -/
def transformSkylineOf (skylineOfClause : Option (SkylineOfClause N)) (pstate : ParseState E) :
    Except Fault (Option SkylineClause × ParseState E) :=
  match skylineOfClause with
  | none => return (none, pstate)
  | some sbc => do
      let (node, pstate) ← transformSkylineClause catalog analysis.toExprAnalysis true sbc pstate
      return (some node, pstate)

/-- `p_hasAggs` at the end. -/
def queryHasAggs (clauses : Clauses E R J) (targetList : List (TargetEntry E)) : Bool :=
  clauses.hasAggs || targetList.any fun tle => analysis.checkExprHasAggs tle.expr

/-- The part of `transformSelectStmt` behind the skyline clause. -/
def finishSelectStmt (others : S) (clauses : Clauses E R J) (skylineClause : Option SkylineClause)
    (targetList : List (TargetEntry E)) : Except Fault (Query E R J) := do
  let limitOffset ← analysis.transformLimitOffset others
  let limitCount ← analysis.transformLimitCount others
  let hasAggs := queryHasAggs analysis clauses targetList
  checkAggregates analysis clauses targetList hasAggs
  let rowMarks ← analysis.transformLockingClause others clauses hasAggs
  return {
    targetList
    rtable := clauses.rtable
    fromlist := clauses.fromlist
    quals := clauses.quals
    havingQual := clauses.havingQual
    sortClause := clauses.sortClause
    groupClause := clauses.groupClause
    distinctClause := clauses.distinctClause
    skylineClause
    limitOffset
    limitCount
    hasAggs
    rowMarks }

/-- `transformSelectStmt` for a statement without INTO. -/
def transformSelectStmt (stmt : SelectStmt S N) : Except Fault (Query E R J) := do
  let clauses ← analysis.transformClauses stmt.others
  let (skylineClause, pstate) ← transformSkylineOf catalog analysis stmt.skylineOfClause
    clauses.pstate
  finishSelectStmt analysis stmt.others clauses skylineClause pstate.targetlist

end Analysis

end PgSkyline
