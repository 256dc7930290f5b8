import PgSkyline.Parser.Meaning
import PgSkyline.QueryPlan.Result

/-!
# From the clause as written to the rows

The columns that a clause is transformed into compare the rows as its items ask, and every
plan for these columns returns their skyline.  So what the plan returns are the best rows by
the criteria of the items.
-/

namespace PgSkyline

open Comparison Pipeline

variable {N E D R EC Row : Type}

/-! ## The best rows -/

/-- No row of the input is better. -/
def IsBest (eval : E → Row → Option D) (criteria : List (Criterion E D)) (input : List Row)
    (x : Row) : Prop :=
  ∀ y ∈ input, ¬ IsBetterRow eval criteria y x

/-- The rows are equally good by every criterion. -/
def EquallyGood (eval : E → Row → Option D) (criteria : List (Criterion E D)) (x y : Row) : Prop :=
  ∀ criterion ∈ criteria, criterion.Equal (eval criterion.expr x) (eval criterion.expr y)

open Classical in
/-- The best rows of the input; for DISTINCT one of those that are equally good. -/
def BestRows (eval : E → Row → Option D) (criteria : List (Criterion E D)) (distinct : Bool)
    (input result : List Row) : Prop :=
  match distinct with
  | false => result.Perm (input.filter fun x => decide (IsBest eval criteria input x))
  | true =>
      (∀ y ∈ result, y ∈ input ∧ IsBest eval criteria input y) ∧
        ∀ x ∈ input, IsBest eval criteria input x →
          result.countP (fun y => decide (EquallyGood eval criteria x y)) = 1

/-- A skyline whose columns compare as the criteria ask consists of the best rows. -/
theorem IsSkyline.bestRows {eval : E → Row → Option D} {criteria : List (Criterion E D)}
    {slotGetattr : Row → Nat → Option D} {cols : List (SkylineCol D)} {distinct : Bool}
    {input result : List Row} (skyline : IsSkyline slotGetattr cols distinct input result)
    (dominates : ∀ x y, Dominates slotGetattr cols x y ↔ IsBetterRow eval criteria x y)
    (allEq : ∀ x y, AllEq slotGetattr cols x y ↔ EquallyGood eval criteria x y) :
    BestRows eval criteria distinct input result := by
  classical
  have best : ∀ x, Undominated slotGetattr cols input x ↔ IsBest eval criteria input x := by
    intro x
    simp only [Undominated, IsBest, dominates]
  cases distinct with
  | false =>
      have same : (input.filter fun x => decide (Undominated slotGetattr cols input x)) =
          input.filter fun x => decide (IsBest eval criteria input x) :=
        List.filter_congr fun x _ => decide_eq_decide.mpr (best x)
      rw [BestRows, ← same]
      exact skyline
  | true =>
      rcases skyline with ⟨sound, complete⟩
      constructor
      · intro y mem
        exact ⟨(sound y mem).1, (best y).mp (sound y mem).2⟩
      · intro x mem isBest
        rw [← complete x mem ((best x).mpr isBest)]
        exact List.countP_congr fun y _ => by simp [allEq]

/-! ## Reading the columns of a clause -/

section Columns

variable {catalog : Catalog D} {tlist : List (TargetEntry E)} {items : List SkylineOf}
  {cols : List (SkylineCol D)} {eval : E → Row → Option D} {slotGetattr : Row → Nat → Option D}

/-- A column has the number of an entry of the target list. -/
theorem exists_entry_of_col (colsMade : makeSkylineCols catalog tlist items = .ok cols)
    {col : SkylineCol D} (mem : col ∈ cols) : ∃ tle ∈ tlist, col.skylineColIdx = tle.resno := by
  rcases (mem_of_mapM_eq_ok colsMade col).mp mem with ⟨item, _, made⟩
  rw [makeSkylineCol, bind_eq_ok_iff] at made
  rcases made with ⟨tle, found, made⟩
  rw [bind_eq_ok_iff] at made
  rcases made with ⟨⟨compareOpFn, compareFlags⟩, _, made⟩
  cases made
  refine ⟨tle, ?_, rfl⟩
  rw [getSkylineclauseTle] at found
  split at found
  · rename_i entry search
    cases found
    exact List.mem_of_find?_eq_some search
  · cases found

/-- The values of a row in the columns are those of the expressions. -/
theorem resultAttr_eq_slotGetattr
    (computes : ∀ tle ∈ tlist, ∀ row, slotGetattr row tle.resno = eval tle.expr row)
    {tle : TargetEntry E} (mem : tle ∈ tlist) (row : Row) :
    resultAttr eval tlist row tle.resno = slotGetattr row tle.resno := by
  rw [resultAttr]
  cases search : tlist.find? fun other => other.resno == tle.resno with
  | none =>
      have absent := List.find?_eq_none.mp search tle mem
      simp at absent
  | some other =>
      have same : other.resno = tle.resno := by simpa using List.find?_some search
      rw [Option.bind_some, ← computes other (List.mem_of_find?_eq_some search) row, same]

theorem compare_resultAttr (colsMade : makeSkylineCols catalog tlist items = .ok cols)
    (computes : ∀ tle ∈ tlist, ∀ row, slotGetattr row tle.resno = eval tle.expr row)
    {col : SkylineCol D} (mem : col ∈ cols) (x y : Row) :
    col.compare slotGetattr x y = col.compare (resultAttr eval tlist) x y := by
  rcases exists_entry_of_col colsMade mem with ⟨tle, tleMem, isResno⟩
  rw [SkylineCol.compare, SkylineCol.compare, isResno, resultAttr_eq_slotGetattr computes tleMem,
    resultAttr_eq_slotGetattr computes tleMem]

private theorem dominates_resultAttr_iff (colsMade : makeSkylineCols catalog tlist items = .ok cols)
    (computes : ∀ tle ∈ tlist, ∀ row, slotGetattr row tle.resno = eval tle.expr row) (x y : Row) :
    Dominates slotGetattr cols x y ↔ Dominates (resultAttr eval tlist) cols x y := by
  have same := fun col (mem : col ∈ cols) => compare_resultAttr colsMade computes mem x y
  rw [dominates_iff_noWorse_and_exists, dominates_iff_noWorse_and_exists, NoWorse, NoWorse]
  apply and_congr
  · exact forall₂_congr fun col mem => by rw [same col mem]
  · exact exists_congr fun col => and_congr_right fun mem => by rw [same col mem]

private theorem allEq_resultAttr_iff (colsMade : makeSkylineCols catalog tlist items = .ok cols)
    (computes : ∀ tle ∈ tlist, ∀ row, slotGetattr row tle.resno = eval tle.expr row) (x y : Row) :
    AllEq slotGetattr cols x y ↔ AllEq (resultAttr eval tlist) cols x y := by
  rw [allEq_iff_forall, allEq_iff_forall]
  exact forall₂_congr fun col mem => by rw [compare_resultAttr colsMade computes mem x y]

end Columns

/-! ## The whole query -/

/-- The plan for a query returns the best rows by the criteria that the items of its
SKYLINE OF clause ask for, in the order of ORDER BY, cut down by DISTINCT and LIMIT. -/
theorem groupingPlanner_returns_bestRows [DecidableEq E] [DecidableEq EC] [LE R] [DecidableLE R]
    [LT R] [DecidableLT R] (env : ExecEnv (EC → Option D) D R) (catalog : Catalog D)
    (typeOrder order : Oid → D → D → Int) (orders : catalog.Orders typeOrder)
    (families : FamilyOrders catalog order) (analysis : ExprAnalysis N E)
    (toText : ∀ expr, analysis.exprType (analysis.coerceToText expr) = textOid)
    (resolveUnknown : Bool) (sbc : SkylineOfClause N) (pstate pstate' : ParseState E)
    (wellFormed : pstate.WellFormed) (refsUnique : RefsUnique pstate.targetlist)
    (clause : SkylineClause)
    (ok : transformSkylineClause catalog analysis resolveUnknown sbc pstate =
      .ok (clause, pstate'))
    (eval : E → (EC → Option D) → Option D)
    (computes : ∀ tle ∈ pstate'.targetlist, ∀ row,
      env.slotGetattr row tle.resno = eval tle.expr row)
    (root : PlannerInfo E EC) (lawful : root.Lawful order)
    (reads : ReadsClasses catalog root pstate'.targetlist clause.skylineOfList env.slotGetattr)
    (query : UpperQuery (EC → Option D) EC) (currentPathkeys : List (PathKey EC))
    (nodes : List (UpperNode (EC → Option D) D EC)) (input : List (EC → Option D))
    (plannedOn : PlannedOn env catalog order root pstate'.targetlist clause.skylineOfList
      clause.skylineDistinct query currentPathkeys nodes input) :
    ∃ written kept,
      sbc.skylineOfList.mapM (itemCriterion catalog typeOrder analysis resolveUnknown
        pstate.targetlist) = some written ∧
      KeepsCriteria catalog written kept ∧
      (∀ out, ComputeInTurn env order id nodes input out →
        ∃ result, BestRows eval kept sbc.skylineDistinct input result ∧
          (query.sortClause = true → SortedByPathkeys order query.sortPathkeys result) ∧
          out = query.finish result) ∧
      ((∀ node ∈ nodes, node.Initializes env) →
        ∃ out, ComputeInTurn env order id nodes input out) := by
  rcases transformSkylineClause_transformed orders toText wellFormed refsUnique ok with
    ⟨sameDistinct, written, kept, each, transformed⟩
  rcases transformed.exists_cols with ⟨cols, colsMade, compares⟩
  rcases plannedOn.exists_below families lawful reads colsMade with ⟨below, rfl, sound, total⟩
  refine ⟨written, kept, each, transformed.keeps, ?_, ?_⟩
  · intro out inTurn
    rcases inTurn_append_iff.mp inTurn with ⟨result, belowStage, finish⟩
    rcases sound result belowStage with ⟨skyline, sorted⟩
    rw [sameDistinct] at skyline
    refine ⟨result, ?_, sorted, computeInTurn_finishNodes_iff.mp finish⟩
    apply skyline.bestRows
    · intro x y
      rw [dominates_resultAttr_iff colsMade computes]
      exact dominates_iff_isBetterRow (compares eval) x y
    · intro x y
      rw [allEq_resultAttr_iff colsMade computes]
      exact allEq_iff_equal (compares eval) x y
  · intro initializes
    rcases total initializes with ⟨result, belowStage⟩
    exact ⟨query.finish result, inTurn_append_iff.mpr
      ⟨result, belowStage, computeInTurn_finishNodes_iff.mpr rfl⟩⟩

/-- The select list `a, b, f` before the clause. -/
def selectABF : ParseState Nat :=
  ⟨4, [⟨1, 1, some "a", 0, false⟩, ⟨2, 2, some "b", 0, false⟩, ⟨3, 3, some "f", 0, false⟩]⟩

/-- `SKYLINE OF a MIN, 2 MIN WITH SFS SLOTS=1 EF`. -/
def sfsClause : SkylineOfClause Nat :=
  ⟨false, [⟨.columnRef ["a"], .min, .default, []⟩, ⟨.aConst (.integer 2), .min, .default, []⟩],
    [⟨"sfs", .integer 1⟩, ⟨"slots", .integer 1⟩, ⟨"ef", .integer 1⟩]⟩

private theorem selectABF_wellFormed : selectABF.WellFormed :=
  ⟨by decide, by decide⟩

private theorem refsUnique_selectABF : RefsUnique selectABF.targetlist := by
  intro at₁ at₂ tle₁ tle₂ first _ marked _
  have unmarked : ∀ tle ∈ selectABF.targetlist, tle.ressortgroupref = 0 := by decide
  exact absurd (unmarked tle₁ (List.mem_of_getElem? first)) marked

/-- The plan with an elimination filter and LIMIT 1 returns one of the best rows. -/
theorem groupingPlanner_returns_bestRows_limited :
    let input := [rowABF 2 1 0, rowABF 1 2 0, rowABF 2 2 0]
    ∃ written kept : List (Criterion Nat Int),
      sfsClause.skylineOfList.mapM (itemCriterion integerCatalog (fun _ => intCompare)
        literalAnalysis true selectABF.targetlist) = some written ∧
      KeepsCriteria integerCatalog written kept ∧
      (∀ out, ComputeInTurn columnEnv (fun _ => intCompare) id (sfsPlan (some (0, some 1))) input
          out →
        ∃ result, BestRows (fun column row => row (column, [1976])) kept false input result ∧
          SortedByPathkeys (fun _ => intCompare) [ascending 1] result ∧ out = result.take 1) ∧
      ∃ out, ComputeInTurn columnEnv (fun _ => intCompare) id (sfsPlan (some (0, some 1))) input
        out := by
  intro input
  have computes : ∀ tle ∈ targetsABF, ∀ row,
      columnEnv.slotGetattr row tle.resno = row (tle.expr, [1976]) := by
    intro tle mem row
    simp only [targetsABF, List.mem_cons, List.not_mem_nil, or_false] at mem
    rcases mem with rfl | rfl | rfl <;> rfl
  rcases groupingPlanner_returns_bestRows columnEnv integerCatalog (fun _ => intCompare)
    (fun _ => intCompare) orders_integerCatalog familyOrders_integerCatalog literalAnalysis
    exprType_coerceToText true sfsClause selectABF ⟨4, targetsABF⟩ selectABF_wellFormed
    refsUnique_selectABF ⟨false, minAB, sfsClause.skylineOfOptions⟩ rfl
    (fun column row => row (column, [1976])) computes columnInfo columnInfo_lawful
    readsClasses_minAB (sfsQuery (some (0, some 1))) [] _ input
    (plannedOn_sfsPlan (some (0, some 1)) input) with ⟨written, kept, each, keeps, sound, total⟩
  refine ⟨written, kept, each, keeps, ?_, total sfsPlan_initializes⟩
  intro out inTurn
  rcases sound out inTurn with ⟨result, best, sorted, outEq⟩
  exact ⟨result, best, sorted rfl, outEq⟩

end PgSkyline
