import PgSkyline.Deparse.Query

/-!
# The rule deparser

Translation of `get_query_def`, `get_select_query_def`, `get_basic_select_query`,
`get_values_def`, `get_target_list` and `get_rule_sortgroupclause`
(`utils/adt/ruleutils.c`) for a SELECT without set operations, and of
`has_distinct_on_clause` (`optimizer/util/clauses.c`).  How expressions and the FROM
list are printed is a parameter.
-/

namespace PgSkyline

variable {E R J D α : Type}

/-- The part of `deparse_context` that changes. -/
structure DeparseContext where
  buf : String
  indentLevel : Int

/-- A routine that appends to the text of the context. -/
abbrev Deparser :=
  StateT DeparseContext (Except Fault)

/-- The routines for expressions and names. -/
structure RuleUtils (E R J : Type) where
  /-- `PRETTY_INDENT`. -/
  prettyIndent : Bool
  /-- `get_variable`, for an expression that is a `Var`; it returns the column name. -/
  getVariable : R → E → Option (Deparser (Option String))
  getRuleExpr : R → E → Bool → Deparser Unit
  /-- `get_const_expr` with an explicit cast, for an expression that is a `Const`. -/
  getConstExpr : R → E → Option (Deparser Unit)
  /-- Is the expression a `Const` that is NULL? -/
  constisnull : E → Bool
  processIndirection : R → E → Deparser E
  /-- The VALUES lists, if the FROM list is a single VALUES entry. -/
  valuesLists : R → J → Option (List (List E))
  /-- `get_from_clause` with the prefix " FROM ". -/
  getFromClause : R → J → Deparser Unit
  exprType : E → Oid
  generateOperatorName : Oid → Oid → Except Fault String
  quoteIdentifier : String → String
  /-- The alias of a range table entry. -/
  aliasname : R → Nat → String

/-- `appendStringInfoString`. -/
def appendString (text : String) : Deparser Unit :=
  modify fun context => { context with buf := context.buf ++ text }

/-- `PRETTYINDENT_STD`. -/
def prettyindentStd : Int := 8

/-- The loops over a list with `sep`. -/
def separated (body : α → Deparser Unit) : String → List α → Deparser Unit
  | _, [] => return ()
  | sep, item :: rest => do
      appendString sep
      body item
      separated body ", " rest

/-- `targetIsInSortList`. -/
def targetIsInSortList (catalog : Catalog D) (tle : TargetEntry E) (sortop : Oid)
    (sortList : List SortClause) : Bool :=
  tle.ressortgroupref != 0 && sortList.any fun scl =>
    scl.tleSortGroupRef == tle.ressortgroupref &&
      (sortop == invalidOid || sortop == scl.sortop || sortop == catalog.getCommutator scl.sortop)

/-- The loop of `has_distinct_on_clause`. -/
def hasDistinctOn (catalog : Catalog D) (distinctClause sortClause : List SortClause) :
    List (TargetEntry E) → Bool
  | [] => false
  | tle :: rest =>
      if tle.ressortgroupref = 0 then
        if tle.resjunk then hasDistinctOn catalog distinctClause sortClause rest else true
      else if targetIsInSortList catalog tle invalidOid distinctClause then
        if tle.resjunk then true else hasDistinctOn catalog distinctClause sortClause rest
      else if !tle.resjunk then true
      else if targetIsInSortList catalog tle invalidOid sortClause then true
      else hasDistinctOn catalog distinctClause sortClause rest

/-- `has_distinct_on_clause`. -/
def hasDistinctOnClause (catalog : Catalog D) (query : Query E R J) : Bool :=
  if query.distinctClause.isEmpty then false
  else hasDistinctOn catalog query.distinctClause query.sortClause query.targetList

section Deparse

variable (ruleutils : RuleUtils E R J) (catalog : Catalog D)

/-- `appendContextKeyword`. -/
def appendContextKeyword (str : String) (indentBefore indentAfter indentPlus : Int) :
    Deparser Unit :=
  if ruleutils.prettyIndent then
    modify fun context =>
      let indentLevel := context.indentLevel + indentBefore
      let spaces := String.ofList (List.replicate (max indentLevel 0 + indentPlus).toNat ' ')
      { buf := context.buf ++ "\n" ++ spaces ++ str
        indentLevel := max (indentLevel + indentAfter) 0 }
  else appendString str

/-- `get_rule_sortgroupclause` with `force_colno` off. -/
def getRuleSortgroupclause (rtable : R) (targetList : List (TargetEntry E)) (srt : SortClause) :
    Deparser E := do
  let tle ← (getSortgroupclauseTle srt targetList : Except Fault (TargetEntry E))
  match ruleutils.getConstExpr rtable tle.expr with
  | some getConstExpr => getConstExpr
  | none => ruleutils.getRuleExpr rtable tle.expr true
  return tle.expr

/-- The columns of a row of a VALUES list. -/
def getValuesRow (rtable : R) : Bool → List E → Deparser Unit
  | _, [] => return ()
  | firstCol, col :: rest => do
      if !firstCol then appendString ","
      let col ← ruleutils.processIndirection rtable col
      ruleutils.getRuleExpr rtable col false
      getValuesRow rtable false rest

/-- `get_values_def`. -/
def getValuesDef (rtable : R) (valuesLists : List (List E)) : Deparser Unit := do
  appendString "VALUES "
  separated (fun sublist => do
    appendString "("
    getValuesRow ruleutils rtable true sublist
    appendString ")") "" valuesLists

/-- The name of the `colno`-th result column. -/
def resultColumnName (resultDesc : Option (List String)) (colno : Nat) (tle : TargetEntry E) :
    Option String :=
  match resultDesc with
  | some attnames => if colno ≤ attnames.length then attnames[colno - 1]? else tle.resname
  | none => tle.resname

/-- The expression of an entry of the target list; returns the name it has without AS. -/
def getTargetExpr (rtable : R) (expr : E) : Deparser (Option String) :=
  match ruleutils.getVariable rtable expr with
  | some getVariable => getVariable
  | none => do
      ruleutils.getRuleExpr rtable expr true
      return some "?column?"

/-- An entry of the target list with its AS name. -/
def getTargetEntry (rtable : R) (colname : Option String) (expr : E) : Deparser Unit := do
  let attname ← getTargetExpr ruleutils rtable expr
  match colname with
  | none => return ()
  | some colname =>
      if attname = some colname then return ()
      else appendString (" AS " ++ ruleutils.quoteIdentifier colname)

/-- `get_target_list`. -/
def getTargetList (rtable : R) (resultDesc : Option (List String)) :
    String → Nat → List (TargetEntry E) → Deparser Unit
  | _, _, [] => return ()
  | sep, colno, tle :: rest =>
      if tle.resjunk then getTargetList rtable resultDesc sep colno rest
      else do
        appendString sep
        getTargetEntry ruleutils rtable (resultColumnName resultDesc (colno + 1) tle) tle.expr
        getTargetList rtable resultDesc ", " (colno + 1) rest

/-- An item of the DISTINCT or GROUP BY clause. -/
def getGroupItem (rtable : R) (targetList : List (TargetEntry E)) (srt : SortClause) :
    Deparser Unit := do
  let _ ← getRuleSortgroupclause ruleutils rtable targetList srt

/-- The DISTINCT clause. -/
def getDistinctClause (query : Query E R J) : Deparser Unit :=
  if query.distinctClause.isEmpty then return ()
  else if hasDistinctOnClause catalog query then do
    appendString " DISTINCT ON ("
    separated (getGroupItem ruleutils query.rtable query.targetList) "" query.distinctClause
    appendString ")"
  else appendString " DISTINCT"

/-- The GROUP BY clause. -/
def getGroupClause (query : Query E R J) : Deparser Unit :=
  if query.groupClause.isEmpty then return ()
  else do
    appendContextKeyword ruleutils " GROUP BY " (-prettyindentStd) prettyindentStd 1
    separated (getGroupItem ruleutils query.rtable query.targetList) "" query.groupClause

/-- A clause with one expression. -/
def getQualClause (rtable : R) (keyword : String) (indentPlus : Int) (qual : Option E) :
    Deparser Unit :=
  match qual with
  | none => return ()
  | some qual => do
      appendContextKeyword ruleutils keyword (-prettyindentStd) prettyindentStd indentPlus
      ruleutils.getRuleExpr rtable qual false

/-- `get_basic_select_query`. -/
def getBasicSelectQuery (query : Query E R J) (resultDesc : Option (List String)) :
    Deparser Unit := do
  if ruleutils.prettyIndent then
    modify fun context =>
      { buf := context.buf ++ " ", indentLevel := context.indentLevel + prettyindentStd }
  match ruleutils.valuesLists query.rtable query.fromlist with
  | some valuesLists => getValuesDef ruleutils query.rtable valuesLists
  | none => do
      appendString "SELECT"
      getDistinctClause ruleutils catalog query
      getTargetList ruleutils query.rtable resultDesc " " 0 query.targetList
      ruleutils.getFromClause query.rtable query.fromlist
      getQualClause ruleutils query.rtable " WHERE " 1 query.quals
      getGroupClause ruleutils query
      getQualClause ruleutils query.rtable " HAVING " 0 query.havingQual

/-- The direction of an ORDER BY item. -/
def getSortDirection (srt : SortClause) (sortcoltype : Oid) : Deparser Unit := do
  if catalog.ltOpr sortcoltype = some srt.sortop then
    if srt.nullsFirst then appendString " NULLS FIRST"
  else if catalog.gtOpr sortcoltype = some srt.sortop then
    appendString " DESC"
    if !srt.nullsFirst then appendString " NULLS LAST"
  else
    let name ← (ruleutils.generateOperatorName srt.sortop sortcoltype : Except Fault String)
    appendString (" USING " ++ name)
    appendString (if srt.nullsFirst then " NULLS FIRST" else " NULLS LAST")

/-- An item of the ORDER BY clause. -/
def getSortItem (rtable : R) (targetList : List (TargetEntry E)) (srt : SortClause) :
    Deparser Unit := do
  let sortexpr ← getRuleSortgroupclause ruleutils rtable targetList srt
  getSortDirection ruleutils catalog srt (ruleutils.exprType sortexpr)

/-- The ORDER BY clause. -/
def getSortClause (query : Query E R J) : Deparser Unit :=
  if query.sortClause.isEmpty then return ()
  else do
    appendContextKeyword ruleutils " ORDER BY " (-prettyindentStd) prettyindentStd 1
    separated (getSortItem ruleutils catalog query.rtable query.targetList) "" query.sortClause

/-- The LIMIT clause. -/
def getLimitCount (rtable : R) (limitCount : Option E) : Deparser Unit :=
  match limitCount with
  | none => return ()
  | some limitCount => do
      appendContextKeyword ruleutils " LIMIT " (-prettyindentStd) prettyindentStd 0
      if ruleutils.constisnull limitCount then appendString "ALL"
      else ruleutils.getRuleExpr rtable limitCount false

/-- The FOR UPDATE and FOR SHARE clauses. -/
def getRowMarks (rtable : R) : List RowMarkClause → Deparser Unit
  | [] => return ()
  | rc :: rest => do
      appendContextKeyword ruleutils (if rc.forUpdate then " FOR UPDATE" else " FOR SHARE")
        (-prettyindentStd) prettyindentStd 0
      appendString (" OF " ++ ruleutils.quoteIdentifier (ruleutils.aliasname rtable rc.rti))
      if rc.noWait then appendString " NOWAIT"
      getRowMarks rtable rest

/-- `get_select_query_def`. -/
def getSelectQueryDef (query : Query E R J) (resultDesc : Option (List String)) :
    Deparser Unit := do
  getBasicSelectQuery ruleutils catalog query resultDesc
  getSortClause ruleutils catalog query
  getQualClause ruleutils query.rtable " OFFSET " 0 query.limitOffset
  getLimitCount ruleutils query.rtable query.limitCount
  getRowMarks ruleutils query.rtable query.rowMarks

/-- The text that `get_query_def` writes. -/
def getQueryDef (query : Query E R J) (resultDesc : Option (List String)) (startIndent : Int) :
    Except Fault String := do
  let (_, context) ← (getSelectQueryDef ruleutils catalog query resultDesc).run ⟨"", startIndent⟩
  return context.buf

end Deparse

end PgSkyline
