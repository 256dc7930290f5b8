import PgSkyline.Deparse.RuleUtils

/-!
# Pushing quals down into subqueries

Translation of the last section of `optimizer/path/allpaths.c`: which subqueries and
which quals are safe, and the replacement of the subquery in `set_subquery_pathlist`;
and of `select_common_type` (`parser/parse_coerce.c`) as `transformSetOperationTree`
(`parser/analyze.c`) uses it for the column types of set operations.

The C functions change a `Query` in place; here they return the changed one.
-/

namespace PgSkyline

variable {E R X J D : Type}

/-- `SetOperation`. -/
inductive SetOperation where
  | union
  | intersect
  | except
  deriving DecidableEq, Repr

/-- A node of the tree in `setOperations`: the range table index of a component query, or
an operation.  Any other node is an error. -/
inductive SetOperationTree where
  | rangeTblRef (rtindex : Nat)
  | setOperationStmt (op : SetOperation) (all : Bool) (larg rarg : SetOperationTree)
      (colTypes : List Oid)
  | other (nodeTag : Nat)
  deriving Repr

/-- A `Query` that may be at the top of a tree of set operations. -/
structure Subquery (E R J : Type) extends Query E R J where
  setOperations : Option SetOperationTree

/-- A range table entry with its subquery, if it is one. -/
structure RangeTblEntry (Q X : Type) where
  subquery : Option Q
  others : X

/-- The query that is checked; its range table holds the component queries. -/
abbrev TopQuery (E R X J : Type) :=
  Subquery E (List (RangeTblEntry (Subquery E R J) X)) J

structure Var where
  varno : Nat
  /-- The attribute number, 0 for the whole row. -/
  varattno : Nat
  deriving DecidableEq, Repr

structure RestrictInfo (E : Type) where
  clause : E
  pseudoconstant : Bool

/-- What the optimizer asks about expressions (`optimizer/util/clauses.c`,
`optimizer/util/var.c`, `nodes/nodeFuncs.c`), and the expressions that it builds. -/
structure ClauseUtils (E : Type) where
  exprType : E → Oid
  containSubplans : E → Bool
  pullVarClause : E → List Var
  expressionReturnsSet : E → Bool
  containVolatileFunctions : E → Bool
  makeAndclause : List E → E
  /-- `ResolveNew`: the Vars of the range table entry are replaced by the expressions of
  the target list. -/
  resolveNew : E → Nat → List (TargetEntry E) → E

/-- `get_tle_by_resno`. -/
def getTleByResno (tlist : List (TargetEntry E)) (resno : Nat) : Option (TargetEntry E) :=
  tlist.find? fun tle => tle.resno == resno

/-- `rt_fetch`; range table indexes start at 1. -/
def rtFetch {Q : Type} (rtindex : Nat) (rtable : List (RangeTblEntry Q X)) :
    Option (RangeTblEntry Q X) :=
  match rtindex with
  | 0 => none
  | index + 1 => rtable[index]?

/-- The subquery that a leaf of the tree refers to. -/
def fetchSubquery {Q : Type} (rtindex : Nat) (rtable : List (RangeTblEntry Q X)) :
    Except Fault Q :=
  match rtFetch rtindex rtable with
  | none => .error .invalidRead
  | some rte =>
      match rte.subquery with
      | none => .error (.assertion "subquery != NULL")
      | some subquery => .ok subquery

/-! ## Column types of set operations -/

/-- What `select_common_type` asks about types. -/
structure TypeUtils where
  getBaseType : Oid → Oid
  typeCategory : Oid → Nat
  isPreferredType : Nat → Oid → Bool
  /-- `can_coerce_type` with `COERCION_IMPLICIT`, from the first to the second type. -/
  canCoerceType : Oid → Oid → Bool
  formatTypeBe : Oid → String

section Types

variable (types : TypeUtils) (context : String)

/-- A step of the loop of `select_common_type`. -/
def selectCommonStep (ptype typeid : Oid) : Except Fault Oid :=
  let ntype := types.getBaseType typeid
  let pcategory := types.typeCategory ptype
  if ntype ≠ unknownOid ∧ ntype ≠ ptype then
    if ptype = unknownOid then return ntype
    else if types.typeCategory ntype ≠ pcategory then
      let ptypeName := types.formatTypeBe ptype
      let ntypeName := types.formatTypeBe ntype
      throw (.elog s!"{context} types {ptypeName} and {ntypeName} cannot be matched")
    else if !types.isPreferredType pcategory ptype && types.canCoerceType ptype ntype &&
        !types.canCoerceType ntype ptype then return ntype
    else return ptype
  else return ptype

/-- `select_common_type`, with a context. -/
def selectCommonType : List Oid → Except Fault Oid
  | [] => throw (.assertion "typeids != NIL")
  | ptype :: typeids =>
      if ptype ≠ unknownOid ∧ ∀ ntype ∈ typeids, ntype = ptype then return ptype
      else do
        let ptype ← typeids.foldlM (selectCommonStep types context) (types.getBaseType ptype)
        return if ptype = unknownOid then textOid else ptype

/-- The column types that `transformSetOperationTree` gives an operation. -/
def mergeColTypes (lcoltypes rcoltypes : List Oid) : Except Fault (List Oid) :=
  if lcoltypes.length ≠ rcoltypes.length then
    throw (.elog s!"each {context} query must have the same number of columns")
  else (lcoltypes.zip rcoltypes).mapM fun pair => selectCommonType types context [pair.1, pair.2]

end Types

/-- The name of the operation in errors. -/
def SetOperation.context : SetOperation → String
  | .union => "UNION"
  | .intersect => "INTERSECT"
  | .except => "EXCEPT"

section Safe

variable (utils : ClauseUtils E) (catalog : Catalog D)

/-! ## Which subqueries are safe -/

/-- `compare_tlist_datatypes`. -/
def compareTlistDatatypes :
    List (TargetEntry E) → List Oid → (Nat → Bool) → Except Fault (Nat → Bool)
  | [], [], differentTypes => return differentTypes
  | [], _ :: _, _ => throw (.elog "wrong number of tlist entries")
  | tle :: tlist, colTypes, differentTypes =>
      if tle.resjunk then compareTlistDatatypes tlist colTypes differentTypes
      else
        match colTypes with
        | [] => throw (.elog "wrong number of tlist entries")
        | colType :: colTypes =>
            compareTlistDatatypes tlist colTypes
              (if utils.exprType tle.expr ≠ colType then
                Function.update differentTypes tle.resno true
              else differentTypes)

/-- The checks of `subquery_is_pushdown_safe` that are made of the top query and of
component queries alike: LIMIT and SKYLINE OF. -/
def refusesQuals (subquery : Query E R J) : Bool :=
  if subquery.limitOffset.isSome || subquery.limitCount.isSome then true
  else if subquery.skylineClause.isSome then true
  else false

/-- `subquery_is_pushdown_safe` for a component of the operation `topop`. -/
def componentIsPushdownSafe (subquery : Subquery E R J) (topop : SetOperationTree)
    (differentTypes : Nat → Bool) : Except Fault (Bool × (Nat → Bool)) :=
  if refusesQuals subquery.toQuery then return (false, differentTypes)
  else if subquery.setOperations.isSome then return (false, differentTypes)
  else
    match topop with
    | .setOperationStmt _ _ _ _ colTypes => do
        return (true, ← compareTlistDatatypes utils subquery.targetList colTypes differentTypes)
    | _ => throw (.assertion "topop && IsA(topop, SetOperationStmt)")

/-- `recurse_pushdown_safe`. -/
def recursePushdownSafe (topop : SetOperationTree)
    (rtable : List (RangeTblEntry (Subquery E R J) X)) :
    SetOperationTree → (Nat → Bool) → Except Fault (Bool × (Nat → Bool))
  | .rangeTblRef rtindex, differentTypes => do
      let subquery ← fetchSubquery rtindex rtable
      componentIsPushdownSafe utils subquery topop differentTypes
  | .setOperationStmt op _ larg rarg _, differentTypes =>
      if op = .except then return (false, differentTypes)
      else do
        let (safe, differentTypes) ← recursePushdownSafe topop rtable larg differentTypes
        if safe then recursePushdownSafe topop rtable rarg differentTypes
        else return (false, differentTypes)
  | .other nodeTag, _ => throw (.elog s!"unrecognized node type: {nodeTag}")

/-- `subquery_is_pushdown_safe` for the top query. -/
def subqueryIsPushdownSafe (subquery : TopQuery E R X J) (differentTypes : Nat → Bool) :
    Except Fault (Bool × (Nat → Bool)) :=
  if refusesQuals subquery.toQuery then return (false, differentTypes)
  else
    match subquery.setOperations with
    | none => return (true, differentTypes)
    | some topop => recursePushdownSafe utils topop subquery.rtable topop differentTypes

/-! ## Which quals are safe -/

/-- The tests of `qual_is_pushdown_safe` on an output column: DISTINCT, functions that
return sets, volatile functions. -/
def outputIsPushdownSafe (distinctClause : List SortClause) (tle : TargetEntry E) : Bool :=
  if !distinctClause.isEmpty && !targetIsInSortList catalog tle invalidOid distinctClause then false
  else if utils.expressionReturnsSet tle.expr then false
  else if utils.containVolatileFunctions tle.expr then false
  else true

/-- The loop of `qual_is_pushdown_safe` over the Vars of the qual. -/
def varsArePushdownSafe (subquery : Query E R J) (rti : Nat) (differentTypes : Nat → Bool) :
    List Var → List Nat → Except Fault Bool
  | [], _ => return true
  | var :: vars, tested => do
      assertThat (var.varno == rti) "var->varno == rti"
      if var.varattno = 0 then return false
      else if var.varattno ∈ tested then varsArePushdownSafe subquery rti differentTypes vars tested
      else if differentTypes var.varattno then return false
      else
        match getTleByResno subquery.targetList var.varattno with
        | none => throw (.assertion "tle != NULL")
        | some tle => do
            assertThat (!tle.resjunk) "!tle->resjunk"
            if outputIsPushdownSafe utils catalog subquery.distinctClause tle then
              varsArePushdownSafe subquery rti differentTypes vars (var.varattno :: tested)
            else return false

/-- `qual_is_pushdown_safe`. -/
def qualIsPushdownSafe (subquery : Query E R J) (rti : Nat) (qual : E)
    (differentTypes : Nat → Bool) : Except Fault Bool :=
  if utils.containSubplans qual then return false
  else varsArePushdownSafe utils catalog subquery rti differentTypes (utils.pullVarClause qual) []

/-! ## Pushing -/

/-- `make_and_qual`, for a second qual that is there. -/
def makeAndQual (qual1 : Option E) (qual2 : E) : E :=
  match qual1 with
  | none => qual2
  | some qual1 => utils.makeAndclause [qual1, qual2]

/-- The query groups its rows. -/
def Query.isGrouped (query : Query E R J) : Bool :=
  query.hasAggs || !query.groupClause.isEmpty || query.havingQual.isSome

/-- The end of `subquery_push_qual`: the qual goes to HAVING or to WHERE. -/
def attachQual (subquery : Query E R J) (rti : Nat) (qual : E) : Query E R J :=
  let qual := utils.resolveNew qual rti subquery.targetList
  if subquery.isGrouped then
    { subquery with havingQual := some (makeAndQual utils subquery.havingQual qual) }
  else { subquery with quals := some (makeAndQual utils subquery.quals qual) }

/-- `subquery_push_qual` for a component query. -/
def componentPushQual (rti : Nat) (qual : E) (subquery : Subquery E R J) : Subquery E R J :=
  { subquery with toQuery := attachQual utils subquery.toQuery rti qual }

/-- The range table with another subquery at an index. -/
def replaceSubquery {Q : Type} (rtindex : Nat) (subquery : Q) (rtable : List (RangeTblEntry Q X)) :
    List (RangeTblEntry Q X) :=
  rtable.modify (rtindex - 1) fun rte => { rte with subquery := some subquery }

/-- `recurse_push_qual`. -/
def recursePushQual (rti : Nat) (qual : E) :
    SetOperationTree → List (RangeTblEntry (Subquery E R J) X) →
      Except Fault (List (RangeTblEntry (Subquery E R J) X))
  | .rangeTblRef rtindex, rtable => do
      let subquery ← fetchSubquery rtindex rtable
      return replaceSubquery rtindex (componentPushQual utils rti qual subquery) rtable
  | .setOperationStmt _ _ larg rarg _, rtable => do
      recursePushQual rti qual rarg (← recursePushQual rti qual larg rtable)
  | .other nodeTag, _ => throw (.elog s!"unrecognized node type: {nodeTag}")

/-- `subquery_push_qual` for the top query. -/
def subqueryPushQual (subquery : TopQuery E R X J) (rti : Nat) (qual : E) :
    Except Fault (TopQuery E R X J) :=
  match subquery.setOperations with
  | some setOperations => do
      let rtable ← recursePushQual utils rti qual setOperations subquery.rtable
      return { subquery with rtable }
  | none => return { subquery with toQuery := attachQual utils subquery.toQuery rti qual }

/-- The condition in `set_subquery_pathlist` for pushing a clause down. -/
def restrictionIsPushdownSafe (subquery : Query E R J) (rti : Nat) (rinfo : RestrictInfo E)
    (differentTypes : Nat → Bool) : Except Fault Bool :=
  if rinfo.pseudoconstant then return false
  else qualIsPushdownSafe utils catalog subquery rti rinfo.clause differentTypes

/-- The loop of `set_subquery_pathlist` over the restriction clauses: the subquery, and the
clauses that stay in the upper query. -/
def pushRestrictions (rti : Nat) (differentTypes : Nat → Bool) :
    List (RestrictInfo E) → TopQuery E R X J →
      Except Fault (TopQuery E R X J × List (RestrictInfo E))
  | [], subquery => return (subquery, [])
  | rinfo :: rest, subquery => do
      if ← restrictionIsPushdownSafe utils catalog subquery.toQuery rti rinfo differentTypes then
        pushRestrictions rti differentTypes rest
          (← subqueryPushQual utils subquery rti rinfo.clause)
      else do
        let (subquery, upperrestrictlist) ← pushRestrictions rti differentTypes rest subquery
        return (subquery, rinfo :: upperrestrictlist)

/-- The part of `set_subquery_pathlist` before the subquery is planned. -/
def setSubqueryPathlist (rti : Nat) (subquery : TopQuery E R X J)
    (baserestrictinfo : List (RestrictInfo E)) :
    Except Fault (TopQuery E R X J × List (RestrictInfo E)) :=
  if baserestrictinfo.isEmpty then return (subquery, baserestrictinfo)
  else do
    let (safe, differentTypes) ← subqueryIsPushdownSafe utils subquery fun _ => false
    if safe then pushRestrictions utils catalog rti differentTypes baserestrictinfo subquery
    else return (subquery, baserestrictinfo)

end Safe

end PgSkyline
