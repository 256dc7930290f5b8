import PgSkyline.Pushdown.Core
import PgSkyline.Parser.Written

/-!
# What the checks promise

A subquery that passes `subquery_is_pushdown_safe` has neither LIMIT nor SKYLINE OF, and
its components have the types of the operation on the columns that are not marked.  A
qual that passes `qual_is_pushdown_safe` reads only outputs that are computed from the
columns of DISTINCT.
-/

namespace PgSkyline

variable {E R X J D : Type} {utils : ClauseUtils E} {catalog : Catalog D}

/-! ## Quals -/

/-- A visible column that passes the tests on output columns. -/
def OutputIsSafe (utils : ClauseUtils E) (catalog : Catalog D) (query : Query E R J)
    (resno : Nat) : Prop :=
  resno ≠ 0 ∧ ∃ tle, getTleByResno query.targetList resno = some tle ∧ tle.resjunk = false ∧
    outputIsPushdownSafe utils catalog query.distinctClause tle = true

/-- What is known of an output that passes. -/
theorem outputIsPushdownSafe_iff {distinctClause : List SortClause} {tle : TargetEntry E} :
    outputIsPushdownSafe utils catalog distinctClause tle = true ↔
      (distinctClause.isEmpty = false →
        targetIsInSortList catalog tle invalidOid distinctClause = true) ∧
      utils.expressionReturnsSet tle.expr = false ∧
      utils.containVolatileFunctions tle.expr = false := by
  unfold outputIsPushdownSafe
  cases distinctClause.isEmpty <;>
    cases targetIsInSortList catalog tle invalidOid distinctClause <;>
    cases utils.expressionReturnsSet tle.expr <;>
    cases utils.containVolatileFunctions tle.expr <;> simp

private theorem varsArePushdownSafe_spec {query : Query E R J} {rti : Nat}
    {differentTypes : Nat → Bool} {vars : List Var} {tested : List Nat}
    (testedSafe : ∀ resno ∈ tested, differentTypes resno = false ∧
      OutputIsSafe utils catalog query resno)
    (safe : varsArePushdownSafe utils catalog query rti differentTypes vars tested = .ok true) :
    ∀ var ∈ vars, var.varno = rti ∧ differentTypes var.varattno = false ∧
      OutputIsSafe utils catalog query var.varattno := by
  induction vars generalizing tested with
  | nil => simp
  | cons var vars ih =>
      rw [varsArePushdownSafe, bind_eq_ok_iff] at safe
      rcases safe with ⟨_, ofRel, safe⟩
      have varno : var.varno = rti := by
        by_contra other
        rw [beq_false_of_ne other] at ofRel
        simp at ofRel
      have goal : ∀ tested', (∀ resno ∈ tested', differentTypes resno = false ∧
          OutputIsSafe utils catalog query resno) → var.varattno ∈ tested' →
          varsArePushdownSafe utils catalog query rti differentTypes vars tested' = .ok true →
          ∀ v ∈ var :: vars, v.varno = rti ∧ differentTypes v.varattno = false ∧
            OutputIsSafe utils catalog query v.varattno := by
        intro tested' testedSafe' inTested safe' v mem
        rcases List.mem_cons.mp mem with rfl | mem
        · exact ⟨varno, testedSafe' _ inTested⟩
        · exact ih testedSafe' safe' v mem
      split at safe
      · simp at safe
      · rename_i nonzero
        split at safe
        · rename_i inTested
          exact goal tested testedSafe inTested safe
        · split at safe
          · simp at safe
          · rename_i sameType
            split at safe
            · simp at safe
            · rename_i tle found
              rcases (bind_eq_ok_iff _ _ _).mp safe with ⟨_, visibleTle, safe⟩
              have notJunk : tle.resjunk = false := by
                cases junk : tle.resjunk with
                | false => rfl
                | true => simp [junk] at visibleTle
              split at safe
              · rename_i output
                refine goal _ ?_ List.mem_cons_self safe
                intro resno mem
                rcases List.mem_cons.mp mem with rfl | mem
                · exact ⟨by simpa using sameType, nonzero, tle, found, notJunk, output⟩
                · exact testedSafe resno mem
              · simp at safe

/-- A safe qual. -/
theorem qualIsPushdownSafe_spec {query : Query E R J} {rti : Nat} {qual : E}
    {differentTypes : Nat → Bool}
    (safe : qualIsPushdownSafe utils catalog query rti qual differentTypes = .ok true) :
    utils.containSubplans qual = false ∧
      ∀ var ∈ utils.pullVarClause qual, var.varno = rti ∧ differentTypes var.varattno = false ∧
        OutputIsSafe utils catalog query var.varattno := by
  unfold qualIsPushdownSafe at safe
  split at safe
  · simp at safe
  · rename_i noSubplans
    exact ⟨by simpa using noSubplans, varsArePushdownSafe_spec (by simp) safe⟩

/-! ## Subqueries -/

/-- Neither LIMIT nor SKYLINE OF. -/
structure TakesQuals (query : Query E R J) : Prop where
  limitOffset : query.limitOffset = none
  limitCount : query.limitCount = none
  skylineClause : query.skylineClause = none

theorem takesQuals_iff {query : Query E R J} : refusesQuals query = false ↔ TakesQuals query := by
  unfold refusesQuals
  constructor
  · intro takes
    split at takes
    · simp at takes
    · split at takes
      · simp at takes
      · simp_all only [Bool.not_eq_true, Bool.or_eq_false_iff, Option.isSome_eq_false_iff,
          Option.isNone_iff_eq_none]
        constructor <;> simp_all
  · rintro ⟨offset, count, skyline⟩
    simp [offset, count, skyline]

/-- The leaves of the tree. -/
def SetOperationTree.leaves : SetOperationTree → List Nat
  | .rangeTblRef rtindex => [rtindex]
  | .setOperationStmt _ _ larg rarg _ => larg.leaves ++ rarg.leaves
  | .other _ => []

/-- The column types of an operation. -/
def SetOperationTree.colTypes : SetOperationTree → List Oid
  | .setOperationStmt _ _ _ _ colTypes => colTypes
  | _ => []

/-- The types of the visible columns. -/
def targetTypes (utils : ClauseUtils E) (tlist : List (TargetEntry E)) : List Oid :=
  (visible tlist).map fun tle => utils.exprType tle.expr

/-- The columns whose types differ are marked. -/
theorem compareTlistDatatypes_spec {tlist : List (TargetEntry E)} {colTypes : List Oid}
    {differentTypes marked : Nat → Bool}
    (compared : compareTlistDatatypes utils tlist colTypes differentTypes = .ok marked) :
    (∀ resno, marked resno = false → differentTypes resno = false) ∧
      List.Forall₂ (fun tle colType => marked tle.resno = false →
        utils.exprType tle.expr = colType) (visible tlist) colTypes := by
  induction tlist generalizing colTypes differentTypes with
  | nil =>
      cases colTypes with
      | nil =>
          cases compared
          exact ⟨fun _ => id, .nil⟩
      | cons colType colTypes => simp [compareTlistDatatypes] at compared
  | cons tle tlist ih =>
      unfold compareTlistDatatypes at compared
      split at compared
      · rename_i junk
        rw [show visible (tle :: tlist) = visible tlist by simp [visible, junk]]
        exact ih compared
      · rename_i notJunk
        rw [show visible (tle :: tlist) = tle :: visible tlist by simp [visible, notJunk]]
        cases colTypes with
        | nil => simp at compared
        | cons colType colTypes =>
            rcases ih compared with ⟨unmarked, sameTypes⟩
            constructor
            · intro resno notMarked
              have before := unmarked resno notMarked
              split at before
              · by_cases here : resno = tle.resno
                · simp [here] at before
                · simpa [Function.update_of_ne here] using before
              · exact before
            · refine .cons (fun notMarked => ?_) sameTypes
              by_contra differ
              have before := unmarked tle.resno notMarked
              rw [if_pos differ, Function.update_self] at before
              cases before

/-- What is known of a component that passes. -/
structure ComponentTakesQuals (utils : ClauseUtils E) (colTypes : List Oid) (marked : Nat → Bool)
    (subquery : Subquery E R J) : Prop where
  takes : TakesQuals subquery.toQuery
  setOperations : subquery.setOperations = none
  types : List.Forall₂ (fun tle colType => marked tle.resno = false →
    utils.exprType tle.expr = colType) (visible subquery.targetList) colTypes

theorem ComponentTakesQuals.mono {colTypes : List Oid} {marked marked' : Nat → Bool}
    {subquery : Subquery E R J} (passed : ComponentTakesQuals utils colTypes marked subquery)
    (more : ∀ resno, marked' resno = false → marked resno = false) :
    ComponentTakesQuals utils colTypes marked' subquery :=
  ⟨passed.takes, passed.setOperations,
    passed.types.imp fun _ _ same notMarked => same (more _ notMarked)⟩

private theorem componentIsPushdownSafe_spec {subquery : Subquery E R J} {topop : SetOperationTree}
    {differentTypes marked : Nat → Bool}
    (safe : componentIsPushdownSafe utils subquery topop differentTypes = .ok (true, marked)) :
    (∀ resno, marked resno = false → differentTypes resno = false) ∧
      ComponentTakesQuals utils topop.colTypes marked subquery := by
  unfold componentIsPushdownSafe at safe
  split at safe
  · simp at safe
  · rename_i takes
    split at safe
    · simp at safe
    · rename_i single
      split at safe
      · rcases (bind_eq_ok_iff _ _ _).mp safe with ⟨marked', compared, result⟩
        cases result
        rcases compareTlistDatatypes_spec compared with ⟨unmarked, sameTypes⟩
        exact ⟨unmarked, takesQuals_iff.mp (by simpa using takes), by simpa using single, sameTypes⟩
      · simp at safe

/-- All components of a tree that passes have passed. -/
theorem recursePushdownSafe_spec {topop tree : SetOperationTree}
    {rtable : List (RangeTblEntry (Subquery E R J) X)} {differentTypes marked : Nat → Bool}
    (safe : recursePushdownSafe utils topop rtable tree differentTypes = .ok (true, marked)) :
    (∀ resno, marked resno = false → differentTypes resno = false) ∧
      ∀ rtindex ∈ tree.leaves, ∃ subquery, fetchSubquery rtindex rtable = .ok subquery ∧
        ComponentTakesQuals utils topop.colTypes marked subquery := by
  induction tree generalizing differentTypes marked with
  | rangeTblRef rtindex =>
      rcases (bind_eq_ok_iff _ _ _).mp safe with ⟨subquery, fetched, passed⟩
      rcases componentIsPushdownSafe_spec passed with ⟨unmarked, takes⟩
      exact ⟨unmarked, by simpa [SetOperationTree.leaves] using ⟨subquery, fetched, takes⟩⟩
  | setOperationStmt op all larg rarg colTypes leftIh rightIh =>
      rw [recursePushdownSafe] at safe
      split at safe
      · simp at safe
      · rcases (bind_eq_ok_iff _ _ _).mp safe with ⟨⟨leftSafe, between⟩, left, right⟩
        cases leftSafe with
        | false => simp at right
        | true =>
            rcases leftIh left with ⟨leftUnmarked, leftTakes⟩
            rcases rightIh right with ⟨rightUnmarked, rightTakes⟩
            refine ⟨fun resno notMarked => leftUnmarked resno (rightUnmarked resno notMarked), ?_⟩
            intro rtindex mem
            rcases List.mem_append.mp mem with mem | mem
            · rcases leftTakes rtindex mem with ⟨subquery, fetched, takes⟩
              exact ⟨subquery, fetched, takes.mono rightUnmarked⟩
            · exact rightTakes rtindex mem
  | other nodeTag => simp [recursePushdownSafe] at safe

/-- What is known of a query that passes. -/
theorem subqueryIsPushdownSafe_spec {subquery : TopQuery E R X J}
    {differentTypes marked : Nat → Bool}
    (safe : subqueryIsPushdownSafe utils subquery differentTypes = .ok (true, marked)) :
    TakesQuals subquery.toQuery ∧ ∀ topop, subquery.setOperations = some topop →
      ∀ rtindex ∈ topop.leaves, ∃ component, fetchSubquery rtindex subquery.rtable = .ok component ∧
        ComponentTakesQuals utils topop.colTypes marked component := by
  unfold subqueryIsPushdownSafe at safe
  split at safe
  · simp at safe
  · rename_i takes
    refine ⟨takesQuals_iff.mp (by simpa using takes), fun topop operations => ?_⟩
    rw [operations] at safe
    exact (recursePushdownSafe_spec safe).2

end PgSkyline
