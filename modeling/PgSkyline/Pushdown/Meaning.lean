import PgSkyline.Dominance.Reference
import PgSkyline.Lib.Bags
import PgSkyline.Planner.GroupingPlanner
import PgSkyline.Pushdown.Checks

/-!
# The results of a query

What a query returns, as a bag: the rows of FROM that pass WHERE, grouped and passed
through HAVING, the skyline of their outputs, one row of each DISTINCT group, and as
many of them as LIMIT allows.  A tree of set operations combines the results of its
components, converted to the column types of each operation.

Values are equal if they are the same.  As SKYLINE OF, DISTINCT ON and LIMIT leave it
open which of several rows is returned, a query has a set of results.
-/

namespace PgSkyline

variable {E R X J S D : Type}

/-- A row of a result: a value for each attribute number. -/
abbrev ResultRow (D : Type) := Nat → Option D

/-- What the clauses of a query mean; `S` is a row of FROM or a group of such rows. -/
structure QueryMeaning (E R X J S D : Type) where
  /-- The rows of FROM, for a component query and for a top query. -/
  componentRows : R → J → List S
  topRows : List (RangeTblEntry (Subquery E R J) X) → J → List S
  /-- A condition of WHERE or HAVING is true. -/
  holds : E → S → Bool
  value : E → S → Option D
  groupRows : List SortClause → List (TargetEntry E) → List S → List S
  /-- The outputs for a row, several if the target list has functions that return sets. -/
  targetRows : List (TargetEntry E) → S → List (ResultRow D)
  /-- The first row comes before the second one in the order of ORDER BY. -/
  sortsBefore : List SortClause → List (TargetEntry E) → ResultRow D → ResultRow D → Prop
  limitValue : E → Option Nat
  /-- The conversion of a value to another type. -/
  convert : Oid → Oid → D → D
  /-- A qual of the upper query is true of an output row. -/
  qualHolds : E → ResultRow D → Bool

namespace QueryMeaning

variable (meaning : QueryMeaning E R X J S D)

/-- What is known of the expression functions of the server. -/
structure Sound (meaning : QueryMeaning E R X J S D) (utils : ClauseUtils E) : Prop where
  andclause : ∀ quals s,
    meaning.holds (utils.makeAndclause quals) s = quals.all fun qual => meaning.holds qual s
  /-- A qual without subplans and volatile functions reads its Vars and nothing else. -/
  reads : ∀ qual x y, utils.containSubplans qual = false →
    utils.containVolatileFunctions qual = false →
    (∀ var ∈ utils.pullVarClause qual, var.varattno ≠ 0 ∧ x var.varattno = y var.varattno) →
    meaning.qualHolds qual x = meaning.qualHolds qual y
  /-- The expressions of the target list take the place of the Vars. -/
  resolveNew : ∀ qual rti tlist s, utils.containSubplans qual = false →
    utils.containVolatileFunctions qual = false →
    (∀ var ∈ utils.pullVarClause qual, var.varno = rti ∧ var.varattno ≠ 0 ∧
      (getTleByResno tlist var.varattno).isSome = true) →
    meaning.holds (utils.resolveNew qual rti tlist) s =
      meaning.qualHolds qual fun resno =>
        (getTleByResno tlist resno).bind fun tle => meaning.value tle.expr s
  targetRows : ∀ tlist s row resno tle, row ∈ meaning.targetRows tlist s →
    getTleByResno tlist resno = some tle → utils.expressionReturnsSet tle.expr = false →
    utils.containVolatileFunctions tle.expr = false → row resno = meaning.value tle.expr s
  irrefl : ∀ sortClause tlist x, ¬ meaning.sortsBefore sortClause tlist x x
  trans : ∀ sortClause tlist x y z, meaning.sortsBefore sortClause tlist x y →
    meaning.sortsBefore sortClause tlist y z → meaning.sortsBefore sortClause tlist x z

/-! ## A single query -/

/-- The row passes a qual that may be missing. -/
def passes (qual : Option E) (s : S) : Bool :=
  qual.all fun qual => meaning.holds qual s

/-- The outputs for the rows of FROM, before SKYLINE OF. -/
def selectRows {R' : Type} (rows : List S) (query : Query E R' J) : List (ResultRow D) :=
  let kept := rows.filter (meaning.passes query.quals)
  let groups :=
    if query.isGrouped then
      (meaning.groupRows query.groupClause query.targetList kept).filter
        (meaning.passes query.havingQual)
    else kept
  groups.flatMap (meaning.targetRows query.targetList)

section Finish

variable (catalog : Catalog D) {R' : Type} (query : Query E R' J)

/-- What SKYLINE OF leaves of the rows. -/
def SkylineRows (rows out : Multiset (ResultRow D)) : Prop :=
  match query.skylineClause with
  | none => out = rows
  | some clause => ∃ (cols : List (SkylineCol D)) (input result : List (ResultRow D)),
      makeSkylineCols catalog query.targetList clause.skylineOfList = .ok cols ∧
        rows = ↑input ∧ out = ↑result ∧
        IsSkyline (fun row : ResultRow D => row) cols clause.skylineDistinct input result

/-- The rows agree on the columns of DISTINCT. -/
def SameOn (x y : ResultRow D) : Prop :=
  ∀ tle ∈ query.targetList, targetIsInSortList catalog tle invalidOid query.distinctClause = true →
    x tle.resno = y tle.resno

open Classical in
/-- What DISTINCT leaves of the rows: the first one, in the order of ORDER BY, of those that
agree on its columns. -/
def DistinctRows (rows out : Multiset (ResultRow D)) : Prop :=
  if query.distinctClause.isEmpty then out = rows
  else Bags.Representatives (SameOn catalog query)
    (meaning.sortsBefore query.sortClause query.targetList) rows out

/-- What LIMIT leaves of the rows. -/
def LimitRows (rows out : Multiset (ResultRow D)) : Prop :=
  if query.limitOffset.isNone && query.limitCount.isNone then out = rows
  else ∃ ordered : List (ResultRow D), rows = ↑ordered ∧
    ordered.Pairwise (fun x y => ¬ meaning.sortsBefore query.sortClause query.targetList y x) ∧
    out = ↑(execLimit ((query.limitOffset.bind meaning.limitValue).getD 0)
      (query.limitCount.bind meaning.limitValue) ordered)

/-- The row without its junk columns. -/
def visibleRow (tlist : List (TargetEntry E)) (row : ResultRow D) : ResultRow D := fun resno =>
  match getTleByResno tlist resno with
  | none => none
  | some tle => if tle.resjunk then none else row resno

/-- What the query makes of its outputs. -/
def finish (rows : Multiset (ResultRow D)) : Set (Multiset (ResultRow D)) :=
  { out | ∃ best distinct limited, SkylineRows catalog query rows best ∧
      meaning.DistinctRows catalog query best distinct ∧
      meaning.LimitRows query distinct limited ∧
      out = limited.map (visibleRow query.targetList) }

end Finish

/-! ## Set operations -/

section SetOperations

variable (catalog : Catalog D) (utils : ClauseUtils E)
  (rtable : List (RangeTblEntry (Subquery E R J) X))

/-- The results of a component query, which has no set operations of its own. -/
def componentResults (subquery : Subquery E R J) : Set (Multiset (ResultRow D)) :=
  meaning.finish catalog subquery.toQuery
    ↑(meaning.selectRows (meaning.componentRows subquery.rtable subquery.fromlist) subquery.toQuery)

/-- The operation on bags. -/
def bagOperation : SetOperation → Bags.Operation
  | .union => .union
  | .intersect => .intersection
  | .except => .difference

/-- The column types of a node of the tree. -/
def columnTypes : SetOperationTree → List Oid
  | .rangeTblRef rtindex =>
      match fetchSubquery rtindex rtable with
      | .ok subquery => targetTypes utils subquery.targetList
      | .error _ => []
  | .setOperationStmt _ _ _ _ colTypes => colTypes
  | .other _ => []

/-- The row with its columns converted to other types. -/
def convertRow (types colTypes : List Oid) (row : ResultRow D) : ResultRow D
  | 0 => row 0
  | resno + 1 =>
      match types[resno]?, colTypes[resno]? with
      | some type, some colType =>
          if type = colType then row (resno + 1)
          else (row (resno + 1)).map (meaning.convert type colType)
      | _, _ => row (resno + 1)

open Classical in
/-- The results of a node of the tree. -/
noncomputable def treeResults : SetOperationTree → Set (Multiset (ResultRow D))
  | .rangeTblRef rtindex =>
      match fetchSubquery rtindex rtable with
      | .ok subquery => meaning.componentResults catalog subquery
      | .error _ => ∅
  | .setOperationStmt op all larg rarg colTypes =>
      { out | ∃ left ∈ treeResults larg, ∃ right ∈ treeResults rarg,
          out = (if all then (bagOperation op).all else (bagOperation op).distinct)
            (left.map (meaning.convertRow (columnTypes utils rtable larg) colTypes))
            (right.map (meaning.convertRow (columnTypes utils rtable rarg) colTypes)) }
  | .other _ => ∅

/-- The results of the query that is checked. -/
noncomputable def results (subquery : TopQuery E R X J) : Set (Multiset (ResultRow D)) :=
  match subquery.setOperations with
  | none => meaning.finish catalog subquery.toQuery
      ↑(meaning.selectRows (meaning.topRows subquery.rtable subquery.fromlist) subquery.toQuery)
  | some setOperations =>
      { out | ∃ rows ∈ meaning.treeResults catalog utils subquery.rtable setOperations,
          out ∈ meaning.finish catalog subquery.toQuery rows }

end SetOperations

end QueryMeaning

end PgSkyline
