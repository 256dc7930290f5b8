import PgSkyline.Deparse.RuleUtils
import PgSkyline.Parser.Result

/-!
# The text of a query does not show its skyline

The deparser never looks at the skyline clause, and it passes over the target entries
that only the clause uses.  So every query shares its text with a query that has
another skyline.
-/

namespace PgSkyline

variable {S N E R J D : Type}

/-! ## A query without its skyline clause -/

/-- The numbers that the items of the other clauses refer to. -/
def Query.refsInUse (query : Query E R J) : List Nat :=
  (query.sortClause ++ query.groupClause ++ query.distinctClause).map SortClause.tleSortGroupRef

/-- The entry that is left if only these numbers are in use: a number out of use is
taken back, and a junk entry goes with it. -/
def TargetEntry.keptFor (refs : List Nat) (tle : TargetEntry E) : Option (TargetEntry E) :=
  if tle.ressortgroupref ∈ refs then some tle
  else if tle.resjunk then none
  else some { tle with ressortgroupref := 0 }

/-- The query without its SKYLINE OF clause and what the target list has for it alone. -/
def Query.withoutSkyline (query : Query E R J) : Query E R J :=
  { query with
    targetList := query.targetList.filterMap (TargetEntry.keptFor query.refsInUse)
    skylineClause := none }

section Kept

variable {refs : List Nat} {tle : TargetEntry E}

theorem TargetEntry.keptFor_of_mem (inUse : tle.ressortgroupref ∈ refs) :
    tle.keptFor refs = some tle :=
  if_pos inUse

theorem TargetEntry.keptFor_of_junk (notInUse : tle.ressortgroupref ∉ refs)
    (junk : tle.resjunk = true) : tle.keptFor refs = none := by
  rw [keptFor, if_neg notInUse, if_pos junk]

theorem TargetEntry.keptFor_of_not_junk (notInUse : tle.ressortgroupref ∉ refs)
    (notJunk : ¬ tle.resjunk = true) :
    tle.keptFor refs = some { tle with ressortgroupref := 0 } := by
  rw [keptFor, if_neg notInUse, if_neg notJunk]

/-- The entry of a number in use is kept. -/
theorem find?_kept {ref : Nat} (nonzero : 0 ∉ refs) (inUse : ref ∈ refs)
    (tlist : List (TargetEntry E)) :
    (tlist.filterMap (TargetEntry.keptFor refs)).find? (fun tle => tle.ressortgroupref == ref) =
      tlist.find? fun tle => tle.ressortgroupref == ref := by
  induction tlist with
  | nil => rfl
  | cons tle rest ih =>
      by_cases used : tle.ressortgroupref ∈ refs
      · rw [List.filterMap_cons_some (TargetEntry.keptFor_of_mem used), List.find?_cons,
          List.find?_cons, ih]
      · have apart : tle.ressortgroupref ≠ ref := fun same => used (same ▸ inUse)
        rw [List.find?_cons_of_neg (by simpa using apart)]
        by_cases junk : tle.resjunk = true
        · rw [List.filterMap_cons_none (TargetEntry.keptFor_of_junk used junk), ih]
        · have apartZero : 0 ≠ ref := fun same => nonzero (same ▸ inUse)
          rw [List.filterMap_cons_some (TargetEntry.keptFor_of_not_junk used junk),
            List.find?_cons_of_neg (by simpa using apartZero), ih]

theorem getSortgroupclauseTle_kept {item : SortClause} (nonzero : 0 ∉ refs)
    (inUse : item.tleSortGroupRef ∈ refs) (tlist : List (TargetEntry E)) :
    getSortgroupclauseTle item (tlist.filterMap (TargetEntry.keptFor refs)) =
      getSortgroupclauseTle item tlist := by
  rw [getSortgroupclauseTle, getSortgroupclauseTle, find?_kept nonzero inUse]

/-- The deparser passes over the entries that are dropped. -/
theorem getTargetList_kept (ruleutils : RuleUtils E R J) (rtable : R)
    (resultDesc : Option (List String)) (sep : String) (colno : Nat)
    (tlist : List (TargetEntry E)) :
    getTargetList ruleutils rtable resultDesc sep colno
        (tlist.filterMap (TargetEntry.keptFor refs)) =
      getTargetList ruleutils rtable resultDesc sep colno tlist := by
  induction tlist generalizing sep colno with
  | nil => rfl
  | cons tle rest ih =>
      by_cases used : tle.ressortgroupref ∈ refs
      · rw [List.filterMap_cons_some (TargetEntry.keptFor_of_mem used)]
        simp only [getTargetList, ih]
      · by_cases junk : tle.resjunk = true
        · rw [List.filterMap_cons_none (TargetEntry.keptFor_of_junk used junk), ih, getTargetList,
            if_pos junk]
        · rw [List.filterMap_cons_some (TargetEntry.keptFor_of_not_junk used junk)]
          simp only [getTargetList, ih]
          rfl

theorem targetIsInSortList_eq_false (catalog : Catalog D) {sortList : List SortClause}
    (itemsInUse : ∀ item ∈ sortList, item.tleSortGroupRef ∈ refs)
    (notInUse : tle.ressortgroupref ∉ refs) :
    targetIsInSortList catalog tle invalidOid sortList = false := by
  simp only [targetIsInSortList, Bool.and_eq_false_iff, List.any_eq_false]
  right
  intro item mem
  have apart : item.tleSortGroupRef ≠ tle.ressortgroupref :=
    fun same => notInUse (same ▸ itemsInUse item mem)
  simp [apart]

/-- So does `has_distinct_on_clause`. -/
theorem hasDistinctOn_kept (catalog : Catalog D) {distinctClause sortClause : List SortClause}
    (distinctInUse : ∀ item ∈ distinctClause, item.tleSortGroupRef ∈ refs)
    (sortInUse : ∀ item ∈ sortClause, item.tleSortGroupRef ∈ refs)
    (tlist : List (TargetEntry E)) :
    hasDistinctOn catalog distinctClause sortClause
        (tlist.filterMap (TargetEntry.keptFor refs)) =
      hasDistinctOn catalog distinctClause sortClause tlist := by
  induction tlist with
  | nil => rfl
  | cons tle rest ih =>
      by_cases used : tle.ressortgroupref ∈ refs
      · rw [List.filterMap_cons_some (TargetEntry.keptFor_of_mem used)]
        simp only [hasDistinctOn, ih]
      · have notDistinct := targetIsInSortList_eq_false catalog distinctInUse used
        have notSorted := targetIsInSortList_eq_false catalog sortInUse used
        by_cases junk : tle.resjunk = true
        · rw [List.filterMap_cons_none (TargetEntry.keptFor_of_junk used junk), ih, hasDistinctOn,
            notDistinct, notSorted]
          simp [junk]
        · rw [List.filterMap_cons_some (TargetEntry.keptFor_of_not_junk used junk)]
          simp [hasDistinctOn, notDistinct, junk]

end Kept

/-! ## The text -/

theorem separated_congr {α : Type} {body body' : α → Deparser Unit} {items : List α}
    (same : ∀ item ∈ items, body item = body' item) (sep : String) :
    separated body sep items = separated body' sep items := by
  induction items generalizing sep with
  | nil => rfl
  | cons item rest ih =>
      rw [separated, separated, same item List.mem_cons_self,
        ih fun item mem => same item (List.mem_cons_of_mem _ mem)]

section Text

variable {query : Query E R J} {item : SortClause}

theorem Query.sort_mem_refsInUse (mem : item ∈ query.sortClause) :
    item.tleSortGroupRef ∈ query.refsInUse :=
  List.mem_map_of_mem (List.mem_append_left _ (List.mem_append_left _ mem))

theorem Query.group_mem_refsInUse (mem : item ∈ query.groupClause) :
    item.tleSortGroupRef ∈ query.refsInUse :=
  List.mem_map_of_mem (List.mem_append_left _ (List.mem_append_right _ mem))

theorem Query.distinct_mem_refsInUse (mem : item ∈ query.distinctClause) :
    item.tleSortGroupRef ∈ query.refsInUse :=
  List.mem_map_of_mem (List.mem_append_right _ mem)

private theorem hasDistinctOnClause_withoutSkyline (catalog : Catalog D) (query : Query E R J) :
    hasDistinctOnClause catalog query.withoutSkyline = hasDistinctOnClause catalog query := by
  have loop : hasDistinctOn catalog query.distinctClause query.sortClause
      query.withoutSkyline.targetList =
      hasDistinctOn catalog query.distinctClause query.sortClause query.targetList :=
    hasDistinctOn_kept catalog (fun _ => Query.distinct_mem_refsInUse)
      (fun _ => Query.sort_mem_refsInUse) query.targetList
  rw [hasDistinctOnClause, hasDistinctOnClause, ← loop]
  rfl

variable (nonzero : 0 ∉ query.refsInUse) (ruleutils : RuleUtils E R J) (catalog : Catalog D)

include nonzero

theorem getRuleSortgroupclause_withoutSkyline (inUse : item.tleSortGroupRef ∈ query.refsInUse) :
    getRuleSortgroupclause ruleutils query.rtable query.withoutSkyline.targetList item =
      getRuleSortgroupclause ruleutils query.rtable query.targetList item := by
  have entry : getSortgroupclauseTle item query.withoutSkyline.targetList =
      getSortgroupclauseTle item query.targetList :=
    getSortgroupclauseTle_kept nonzero inUse query.targetList
  rw [getRuleSortgroupclause, getRuleSortgroupclause, entry]

theorem getGroupItem_withoutSkyline (inUse : item.tleSortGroupRef ∈ query.refsInUse) :
    getGroupItem ruleutils query.rtable query.withoutSkyline.targetList item =
      getGroupItem ruleutils query.rtable query.targetList item := by
  rw [getGroupItem, getGroupItem, getRuleSortgroupclause_withoutSkyline nonzero ruleutils inUse]

private theorem getDistinctClause_withoutSkyline :
    getDistinctClause ruleutils catalog query.withoutSkyline =
      getDistinctClause ruleutils catalog query := by
  have items : ∀ srt ∈ query.distinctClause,
      getGroupItem ruleutils query.rtable query.withoutSkyline.targetList srt =
        getGroupItem ruleutils query.rtable query.targetList srt :=
    fun _ mem => getGroupItem_withoutSkyline nonzero ruleutils (Query.distinct_mem_refsInUse mem)
  rw [getDistinctClause, getDistinctClause, hasDistinctOnClause_withoutSkyline,
    ← separated_congr items]
  rfl

private theorem getGroupClause_withoutSkyline :
    getGroupClause ruleutils query.withoutSkyline = getGroupClause ruleutils query := by
  have items : ∀ srt ∈ query.groupClause,
      getGroupItem ruleutils query.rtable query.withoutSkyline.targetList srt =
        getGroupItem ruleutils query.rtable query.targetList srt :=
    fun _ mem => getGroupItem_withoutSkyline nonzero ruleutils (Query.group_mem_refsInUse mem)
  rw [getGroupClause, getGroupClause, ← separated_congr items]
  rfl

private theorem getSortClause_withoutSkyline :
    getSortClause ruleutils catalog query.withoutSkyline =
      getSortClause ruleutils catalog query := by
  have items : ∀ srt ∈ query.sortClause,
      getSortItem ruleutils catalog query.rtable query.withoutSkyline.targetList srt =
        getSortItem ruleutils catalog query.rtable query.targetList srt := by
    intro srt mem
    rw [getSortItem, getSortItem,
      getRuleSortgroupclause_withoutSkyline nonzero ruleutils (Query.sort_mem_refsInUse mem)]
  rw [getSortClause, getSortClause, ← separated_congr items]
  rfl

/-- The deparser writes nothing for the skyline clause. -/
theorem getQueryDef_withoutSkyline (resultDesc : Option (List String)) (startIndent : Int) :
    getQueryDef ruleutils catalog query.withoutSkyline resultDesc startIndent =
      getQueryDef ruleutils catalog query resultDesc startIndent := by
  have distinct := getDistinctClause_withoutSkyline nonzero ruleutils catalog
  have group := getGroupClause_withoutSkyline nonzero ruleutils
  have sort := getSortClause_withoutSkyline nonzero ruleutils catalog
  have targets : getTargetList ruleutils query.rtable resultDesc " " 0
      query.withoutSkyline.targetList =
      getTargetList ruleutils query.rtable resultDesc " " 0 query.targetList :=
    getTargetList_kept ruleutils query.rtable resultDesc " " 0 query.targetList
  rw [getQueryDef, getQueryDef, getSelectQueryDef, getSelectQueryDef, getBasicSelectQuery,
    getBasicSelectQuery, distinct, group, sort, ← targets]
  rfl

end Text

/-! ## Equal skylines -/

/-- The items are equal up to the numbers of the target entries. -/
structure SameItem (firstList secondList : List (TargetEntry E)) (first second : SkylineOf) :
    Prop where
  expr : (getSkylineclauseTle first firstList).map TargetEntry.expr =
    (getSkylineclauseTle second secondList).map TargetEntry.expr
  restype : first.restype = second.restype
  skylineop : first.skylineop = second.skylineop
  nullsFirst : first.nullsFirst = second.nullsFirst
  skylineofDir : first.skylineofDir = second.skylineofDir

/-- The skyline clauses are equal up to the numbers of the target entries. -/
def SameSkylineClause (first second : Query E R J) : Prop :=
  match first.skylineClause, second.skylineClause with
  | none, none => True
  | some firstClause, some secondClause =>
      firstClause.skylineDistinct = secondClause.skylineDistinct ∧
        List.Forall₂ (SameItem first.targetList second.targetList) firstClause.skylineOfList
          secondClause.skylineOfList ∧
        firstClause.skylineOfOptions = secondClause.skylineOfOptions
  | _, _ => False

private theorem sameSkylineClause_withoutSkyline_iff (query : Query E R J) :
    SameSkylineClause query query.withoutSkyline ↔ query.skylineClause = none := by
  cases clause : query.skylineClause <;> simp [SameSkylineClause, Query.withoutSkyline, clause]

/-- Both queries have a skyline clause, and the clauses are equal up to the numbers of
the target entries. -/
def EqualClauses (first second : Query E R J) : Prop :=
  ∃ firstClause secondClause, first.skylineClause = some firstClause ∧
    second.skylineClause = some secondClause ∧
    firstClause.skylineDistinct = secondClause.skylineDistinct ∧
    List.Forall₂ (SameItem first.targetList second.targetList) firstClause.skylineOfList
      secondClause.skylineOfList ∧
    firstClause.skylineOfOptions = secondClause.skylineOfOptions

private theorem sameSkylineClause_iff (first second : Query E R J) :
    SameSkylineClause first second ↔
      (first.skylineClause = none ∧ second.skylineClause = none) ∨ EqualClauses first second := by
  rw [SameSkylineClause]
  cases firstClause : first.skylineClause <;> cases secondClause : second.skylineClause <;>
    simp [EqualClauses, firstClause, secondClause]

/-! ## Target lists for a further clause -/

/-- The second target list has reference numbers above the bound on some entries that
had none, and possibly a junk entry for the expression. -/
inductive Marked (bound : Nat) (expr : E) : List (TargetEntry E) → List (TargetEntry E) → Prop
  | nil : Marked bound expr [] []
  | junk {resno ref : Nat} {resname : Option String} : bound < ref →
      Marked bound expr [] [⟨expr, resno, resname, ref, true⟩]
  | keep {tle : TargetEntry E} {first second : List (TargetEntry E)} :
      Marked bound expr first second → Marked bound expr (tle :: first) (tle :: second)
  | mark {tle : TargetEntry E} {ref : Nat} {first second : List (TargetEntry E)} :
      tle.ressortgroupref = 0 → bound < ref → Marked bound expr first second →
      Marked bound expr (tle :: first) ({ tle with ressortgroupref := ref } :: second)

namespace Marked

variable {bound : Nat} {expr : E} {first second : List (TargetEntry E)}

theorem refl (tlist : List (TargetEntry E)) : Marked bound expr tlist tlist := by
  induction tlist with
  | nil => exact .nil
  | cons tle rest ih => exact .keep ih

/-- A new junk entry. -/
theorem append (tlist : List (TargetEntry E)) {resno ref : Nat} {resname : Option String}
    (above : bound < ref) :
    Marked bound expr tlist (tlist ++ [⟨expr, resno, resname, ref, true⟩]) := by
  induction tlist with
  | nil => exact .junk above
  | cons tle rest ih => exact .keep ih

/-- A number for an entry that had none. -/
theorem set {tlist : List (TargetEntry E)} {pos : Nat} {tle : TargetEntry E} {ref : Nat}
    (atPos : tlist[pos]? = some tle) (unmarked : tle.ressortgroupref = 0) (above : bound < ref) :
    Marked bound expr tlist (tlist.set pos { tle with ressortgroupref := ref }) := by
  induction tlist generalizing pos with
  | nil => cases atPos
  | cons head rest ih =>
      cases pos with
      | zero =>
          cases atPos
          exact .mark unmarked above (refl rest)
      | succ pos => exact .keep (ih atPos)

/-- With the numbers up to the bound in use, the same entries are left. -/
theorem kept_eq (marked : Marked bound expr first second) {refs : List Nat}
    (inUse : ∀ ref ∈ refs, ref ≠ 0 ∧ ref ≤ bound) :
    second.filterMap (TargetEntry.keptFor refs) = first.filterMap (TargetEntry.keptFor refs) := by
  have above : ∀ {ref : Nat}, bound < ref → ref ∉ refs :=
    fun above mem => absurd (inUse _ mem).2 (Nat.not_le.mpr above)
  have zero : 0 ∉ refs := fun mem => (inUse 0 mem).1 rfl
  induction marked with
  | nil => rfl
  | junk isAbove =>
      exact List.filterMap_cons_none (TargetEntry.keptFor_of_junk (above isAbove) rfl)
  | keep _ ih => rw [List.filterMap_cons, List.filterMap_cons, ih]
  | @mark tle ref _ _ unmarked isAbove _ ih =>
      have notInUse : tle.ressortgroupref ∉ refs := by
        rwa [unmarked]
      have same : TargetEntry.keptFor refs { tle with ressortgroupref := ref } =
          tle.keptFor refs := by
        rw [TargetEntry.keptFor, TargetEntry.keptFor, if_neg (above isAbove), if_neg notInUse]
      rw [List.filterMap_cons, List.filterMap_cons, same, ih]

private theorem getSortgroupclauseTle_eq (marked : Marked bound expr first second)
    {item : SortClause}
    (nonzero : item.tleSortGroupRef ≠ 0) (inUse : item.tleSortGroupRef ≤ bound) :
    getSortgroupclauseTle item second = getSortgroupclauseTle item first := by
  have zero : 0 ∉ [item.tleSortGroupRef] := by simpa using Ne.symm nonzero
  have bounded : ∀ ref ∈ [item.tleSortGroupRef], ref ≠ 0 ∧ ref ≤ bound := by
    simp [nonzero, inUse]
  have same := marked.kept_eq bounded
  rw [← getSortgroupclauseTle_kept zero List.mem_cons_self second, same,
    getSortgroupclauseTle_kept zero List.mem_cons_self]

/-- An aggregate is in the one list exactly if it is in the other. -/
theorem any_eq (marked : Marked bound expr first second) {p : E → Bool} (not : p expr = false) :
    (second.any fun tle => p tle.expr) = first.any fun tle => p tle.expr := by
  induction marked with
  | nil => rfl
  | junk _ => simp [not]
  | keep _ ih => rw [List.any_cons, List.any_cons, ih]
  | mark _ _ _ ih => rw [List.any_cons, List.any_cons, ih]

end Marked

/-! ## Analysis of a query with a further clause -/

/-- A constant expression of a type that can be ordered. -/
structure SortableConstant (catalog : Catalog D) (analysis : SelectAnalysis S N E R J) (node : N)
    (expr : E) : Prop where
  transformExpr : analysis.transformExpr (.other node) = .ok expr
  known : analysis.exprType expr ≠ unknownOid
  sortable : ∃ sortop, catalog.ltOpr (analysis.exprType expr) = some sortop
  noAggs : analysis.checkExprHasAggs expr = false
  /-- No variable of it is ungrouped. -/
  grouped : ∀ groupClauses, analysis.checkUngroupedColumns groupClauses expr = .ok ()

/-- `SKYLINE OF expr MIN`. -/
def minimumOf (node : N) : SkylineOfClause N :=
  ⟨false, [⟨.other node, .min, .default, []⟩], []⟩

section Analysis

variable {catalog : Catalog D} {analysis : SelectAnalysis S N E R J} {node : N} {expr : E}

theorem refsUpTo_of_clauses (clauses : Clauses E R J) {item : SortClause}
    (mem : item ∈ clauses.sortClause ++ clauses.groupClause ++ clauses.distinctClause) :
    item.tleSortGroupRef ≠ 0 ∧ item.tleSortGroupRef ≤ maxRef clauses.pstate.targetlist :=
  ⟨(clauses.refs item mem).1, le_maxRef (clauses.refs item mem).2⟩

private theorem mapM_congr {α β : Type} {f g : α → Except Fault β} {items : List α}
    (same : ∀ item ∈ items, f item = g item) : items.mapM f = items.mapM g := by
  induction items with
  | nil => rfl
  | cons item rest ih =>
      rw [List.mapM_cons, List.mapM_cons, same item List.mem_cons_self,
        ih fun item mem => same item (List.mem_cons_of_mem _ mem)]

private theorem checkUngroupedTargets_of_marked
    (constant : SortableConstant catalog analysis node expr)
    {bound : Nat} {first second : List (TargetEntry E)} (marked : Marked bound expr first second)
    {groupClauses : List E} (checked : checkUngroupedTargets analysis groupClauses first = .ok ()) :
    checkUngroupedTargets analysis groupClauses second = .ok () := by
  induction marked with
  | nil => rfl
  | junk _ =>
      rw [checkUngroupedTargets, constant.grouped]
      rfl
  | keep _ ih =>
      rw [checkUngroupedTargets, bind_eq_ok_iff] at checked ⊢
      rcases checked with ⟨_, head, rest⟩
      exact ⟨_, head, ih rest⟩
  | mark _ _ _ ih =>
      rw [checkUngroupedTargets, bind_eq_ok_iff] at checked ⊢
      rcases checked with ⟨_, head, rest⟩
      exact ⟨_, head, ih rest⟩

/-- The rest of the analysis with another skyline clause and target list. -/
theorem finishSelectStmt_change {others : S} {clauses : Clauses E R J}
    {skylineClause : Option SkylineClause} {targetList : List (TargetEntry E)} {query : Query E R J}
    (finished : finishSelectStmt analysis others clauses skylineClause targetList = .ok query) :
    query.targetList = targetList ∧ query.skylineClause = skylineClause ∧
      query.sortClause ++ query.groupClause ++ query.distinctClause =
        clauses.sortClause ++ clauses.groupClause ++ clauses.distinctClause ∧
      ∀ (skylineClause' : Option SkylineClause) (targetList' : List (TargetEntry E)),
        queryHasAggs analysis clauses targetList' = queryHasAggs analysis clauses targetList →
        (∀ hasAggs, checkAggregates analysis clauses targetList hasAggs = .ok () →
          checkAggregates analysis clauses targetList' hasAggs = .ok ()) →
        finishSelectStmt analysis others clauses skylineClause' targetList' =
          .ok { query with targetList := targetList', skylineClause := skylineClause' } := by
  rw [finishSelectStmt, bind_eq_ok_iff] at finished
  rcases finished with ⟨limitOffset, offsetOk, finished⟩
  rw [bind_eq_ok_iff] at finished
  rcases finished with ⟨limitCount, countOk, finished⟩
  rw [bind_eq_ok_iff] at finished
  rcases finished with ⟨_, checked, finished⟩
  rw [bind_eq_ok_iff] at finished
  rcases finished with ⟨rowMarks, locked, finished⟩
  cases finished
  refine ⟨rfl, rfl, rfl, ?_⟩
  intro skylineClause' targetList' sameAggs keepsChecked
  simp only [finishSelectStmt, offsetOk, countOk, sameAggs, keepsChecked _ checked, locked, ok_bind,
    pure_eq_ok]

variable {clauses : Clauses E R J} {second : List (TargetEntry E)}
  (marked : Marked (maxRef clauses.pstate.targetlist) expr clauses.pstate.targetlist second)

include marked

private theorem checkGroupExprs_eq :
    clauses.groupClause.mapM (checkGroupExpr analysis second) =
      clauses.groupClause.mapM (checkGroupExpr analysis clauses.pstate.targetlist) := by
  apply mapM_congr
  intro item mem
  have inUse := refsUpTo_of_clauses clauses
    (List.mem_append_left _ (List.mem_append_right _ mem))
  rw [checkGroupExpr, checkGroupExpr, marked.getSortgroupclauseTle_eq inUse.1 inUse.2]

private theorem parseCheckAggregates_of_marked
    (constant : SortableConstant catalog analysis node expr)
    (checked : parseCheckAggregates analysis clauses clauses.pstate.targetlist = .ok ()) :
    parseCheckAggregates analysis clauses second = .ok () := by
  rw [parseCheckAggregates] at checked ⊢
  split at checked
  · cases checked
  · split at checked
    · cases checked
    · rename_i noWhereAggs noJoinAggs
      rw [if_neg noWhereAggs, if_neg noJoinAggs, checkGroupExprs_eq marked]
      rw [bind_eq_ok_iff] at checked ⊢
      rcases checked with ⟨groupClauses, groups, checked⟩
      rw [bind_eq_ok_iff] at checked
      rcases checked with ⟨_, targets, having⟩
      refine ⟨groupClauses, groups, ?_⟩
      rw [bind_eq_ok_iff]
      exact ⟨_, checkUngroupedTargets_of_marked constant marked targets, having⟩

private theorem checkAggregates_of_marked (constant : SortableConstant catalog analysis node expr)
    {hasAggs : Bool}
    (checked : checkAggregates analysis clauses clauses.pstate.targetlist hasAggs = .ok ()) :
    checkAggregates analysis clauses second hasAggs = .ok () := by
  rw [checkAggregates] at checked ⊢
  split at checked
  · rename_i needed
    rw [if_pos needed]
    exact parseCheckAggregates_of_marked marked constant checked
  · rename_i notNeeded
    rw [if_neg notNeeded]
    rfl

end Analysis

section SkylineOf

variable [DecidableEq E] {catalog : Catalog D} {analysis : SelectAnalysis S N E R J} {node : N}
  {expr : E}

omit [DecidableEq E] in
/-- `addTargetToSkylineList` for the constant, which has an entry of the target list. -/
theorem addTarget_constant (constant : SortableConstant catalog analysis node expr)
    {targetlist : List (TargetEntry E)} {pos : Nat} {tle : TargetEntry E}
    (atPos : targetlist[pos]? = some tle) (found : tle.expr = expr) :
    ∃ skylineof : SkylineOf,
      addTargetWith (targetIsInSkylineList catalog) catalog analysis.toExprAnalysis true
        ⟨.other node, .min, .default, []⟩ pos [] targetlist =
      .ok ([skylineof], targetlist.set pos
        { tle with ressortgroupref := assignSortGroupRef tle targetlist }) := by
  rcases constant.sortable with ⟨sortop, sortable⟩
  have resolved : resolveUnknownTarget analysis.toExprAnalysis true tle =
      (tle, analysis.exprType expr) := by
    rw [resolveUnknownTarget, found, if_neg fun unknown => constant.known unknown.1]
  have unchanged : targetlist.set pos tle = targetlist := by
    rcases List.getElem?_eq_some_iff.mp atPos with ⟨inRange, rfl⟩
    exact List.set_getElem_self inRange
  have notInList : targetIsInSkylineList catalog tle sortop [] = false := by
    rw [targetIsInSkylineList, List.any_nil, Bool.and_false]
  refine ⟨⟨assignSortGroupRef tle targetlist, analysis.exprType expr, sortop, false, .min⟩, ?_⟩
  simp [addTargetWith, atPos, resolved, unchanged, determineSkylineop, Catalog.orderingOperOpid,
    sortable, notInList, SkylineOfNulls.nullsFirst]

omit [DecidableEq E] in
/-- The entry of the constant gets a number, if it does not have one. -/
theorem marked_set_assign {targetlist : List (TargetEntry E)} {pos : Nat} {tle : TargetEntry E}
    (atPos : targetlist[pos]? = some tle) :
    Marked (maxRef targetlist) expr targetlist
      (targetlist.set pos { tle with ressortgroupref := assignSortGroupRef tle targetlist }) := by
  by_cases unmarked : tle.ressortgroupref = 0
  · rw [assignSortGroupRef, if_neg (not_not_intro unmarked)]
    exact .set atPos unmarked (Nat.lt_succ_self _)
  · rw [assignSortGroupRef, if_pos unmarked]
    rcases List.getElem?_eq_some_iff.mp atPos with ⟨inRange, rfl⟩
    rw [List.set_getElem_self inRange]
    exact .refl targetlist

/-- The constant is found in the target list or added to it. -/
theorem findExpr_constant (constant : SortableConstant catalog analysis node expr)
    (pstate : ParseState E) :
    ∃ (pos : Nat) (pstate' : ParseState E) (tle : TargetEntry E),
      findExpr analysis.toExprAnalysis (.other node) pstate = .ok (pos, pstate') ∧
      pstate'.targetlist[pos]? = some tle ∧ tle.expr = expr ∧
      Marked (maxRef pstate.targetlist) expr pstate.targetlist (pstate'.targetlist.set pos
        { tle with ressortgroupref := assignSortGroupRef tle pstate'.targetlist }) := by
  cases search : pstate.targetlist.findIdx? fun tle => decide (expr = tle.expr) with
  | some pos =>
      rcases List.findIdx?_eq_some_iff_getElem.mp search with ⟨inRange, found, _⟩
      have atPos := List.getElem?_eq_getElem inRange
      refine ⟨pos, pstate, _, ?_, atPos, (of_decide_eq_true found).symm, marked_set_assign atPos⟩
      rw [findExpr, constant.transformExpr, ok_bind, search]
      rfl
  | none =>
      let added : TargetEntry E := ⟨expr, pstate.pNextResno, none, 0, true⟩
      have sameMax : maxRef (pstate.targetlist ++ [added]) = maxRef pstate.targetlist := by
        simp [maxRef, maxRefStep, added]
      refine ⟨pstate.targetlist.length, ⟨pstate.pNextResno + 1, pstate.targetlist ++ [added]⟩,
        added,
        ?_, List.getElem?_concat_length, rfl, ?_⟩
      · rw [findExpr, constant.transformExpr, ok_bind, search]
        rfl
      · have unmarked : ¬ added.ressortgroupref ≠ 0 := not_not_intro rfl
        simp only [assignSortGroupRef, unmarked, if_false, sameMax, List.set_append_right,
          Nat.le_refl, Nat.sub_self, List.set_cons_zero]
        exact .append pstate.targetlist (Nat.lt_succ_self _)

private theorem transformSkylineOf_constant (constant : SortableConstant catalog analysis node expr)
    (pstate : ParseState E) :
    ∃ (clause : SkylineClause) (pstate' : ParseState E),
      transformSkylineOf catalog analysis (some (minimumOf node)) pstate =
        .ok (some clause, pstate') ∧
      Marked (maxRef pstate.targetlist) expr pstate.targetlist pstate'.targetlist := by
  rcases findExpr_constant constant pstate with
    ⟨pos, pstate', tle, found, atPos, isConstant, marked⟩
  rcases addTarget_constant constant atPos isConstant with ⟨skylineof, added⟩
  have entry : findTargetlistEntry analysis.toExprAnalysis (.other node) pstate =
      .ok (pos, pstate') := found
  refine ⟨⟨false, [skylineof], []⟩, { pstate' with targetlist := _ }, ?_, marked⟩
  simp only [transformSkylineOf, transformSkylineClause, transformClauseWith, minimumOf,
    transformItemsWith, entry, added, ok_bind, pure_eq_ok]

/-- Only the flag of DISTINCT depends on DISTINCT. -/
theorem transformSkylineOf_distinct {sbc : SkylineOfClause N} {pstate pstate' : ParseState E}
    {skylineClause : Option SkylineClause}
    (transformed : transformSkylineOf catalog analysis (some sbc) pstate =
      .ok (skylineClause, pstate')) (distinct : Bool) :
    ∃ clause, skylineClause = some clause ∧ clause.skylineDistinct = sbc.skylineDistinct ∧
      transformSkylineOf catalog analysis (some { sbc with skylineDistinct := distinct }) pstate =
        .ok (some { clause with skylineDistinct := distinct }, pstate') := by
  rw [transformSkylineOf, bind_eq_ok_iff] at transformed
  rcases transformed with ⟨⟨clause, final⟩, transformed, equal⟩
  cases equal
  rw [transformSkylineClause, transformClauseWith, bind_eq_ok_iff] at transformed
  rcases transformed with ⟨⟨resultlist, last⟩, items, equal⟩
  cases equal
  refine ⟨_, rfl, rfl, ?_⟩
  simp only [transformSkylineOf, transformSkylineClause, transformClauseWith, items, ok_bind,
    pure_eq_ok]

end SkylineOf

/-! ## Equal texts and equal skylines -/

section Text

variable [DecidableEq E] {catalog : Catalog D} {analysis : SelectAnalysis S N E R J}
  {query : Query E R J}

/-- The items of an analysed query refer to entries of the target list. -/
theorem zero_notMem_refsInUse {stmt : SelectStmt S N}
    (analysed : transformSelectStmt catalog analysis stmt = .ok query) : 0 ∉ query.refsInUse := by
  rw [transformSelectStmt, bind_eq_ok_iff] at analysed
  rcases analysed with ⟨clauses, _, analysed⟩
  rw [bind_eq_ok_iff] at analysed
  rcases analysed with ⟨_, _, finished⟩
  rw [Query.refsInUse, (finishSelectStmt_change finished).2.2.1]
  intro mem
  rcases List.mem_map.mp mem with ⟨item, itemMem, zero⟩
  exact (clauses.refs item itemMem).1 zero

/-- Another query that differs in the skyline clause only, and has another skyline. -/
structure Lookalike (query other : Query E R J) : Prop where
  withoutSkyline : other.withoutSkyline = query.withoutSkyline
  differ : ¬ SameSkylineClause query other

/-- With DISTINCT put in or left out the rest is the same. -/
theorem exists_lookalike_distinct {others : S} {sbc : SkylineOfClause N}
    (analysed : transformSelectStmt catalog analysis ⟨others, some sbc⟩ = .ok query) :
    ∃ (stmt : SelectStmt S N) (other : Query E R J),
      transformSelectStmt catalog analysis stmt = .ok other ∧ Lookalike query other := by
  rw [transformSelectStmt, bind_eq_ok_iff] at analysed
  rcases analysed with ⟨clauses, transformed, analysed⟩
  rw [bind_eq_ok_iff] at analysed
  rcases analysed with ⟨⟨skylineClause, pstate⟩, skyline, finished⟩
  rcases transformSkylineOf_distinct skyline (!sbc.skylineDistinct) with
    ⟨clause, rfl, sameDistinct, otherSkyline⟩
  let otherClause : SkylineClause := { clause with skylineDistinct := !sbc.skylineDistinct }
  rcases finishSelectStmt_change finished with ⟨sameTargets, hasClause, _, change⟩
  have otherFinished := change (some otherClause) pstate.targetlist rfl fun _ checked => checked
  refine ⟨⟨others, some { sbc with skylineDistinct := !sbc.skylineDistinct }⟩,
    { query with targetList := pstate.targetlist, skylineClause := some otherClause }, ?_, ?_, ?_⟩
  · simp only [transformSelectStmt, transformed, otherSkyline, ok_bind]
    exact otherFinished
  · rw [← sameTargets]
    rfl
  · intro same
    rw [SameSkylineClause, hasClause] at same
    have flipped : clause.skylineDistinct = !sbc.skylineDistinct := same.1
    rw [sameDistinct] at flipped
    cases h : sbc.skylineDistinct <;> rw [h] at flipped <;> cases flipped

/-- With a skyline of a constant the rest is the same. -/
theorem exists_lookalike_constant {node : N} {expr : E}
    (constant : SortableConstant catalog analysis node expr) {others : S}
    (analysed : transformSelectStmt catalog analysis ⟨others, none⟩ = .ok query) :
    ∃ (stmt : SelectStmt S N) (other : Query E R J),
      transformSelectStmt catalog analysis stmt = .ok other ∧ Lookalike query other := by
  rw [transformSelectStmt, bind_eq_ok_iff] at analysed
  rcases analysed with ⟨clauses, transformed, analysed⟩
  rw [transformSkylineOf, pure_eq_ok, ok_bind] at analysed
  rcases transformSkylineOf_constant constant clauses.pstate with ⟨clause, pstate', skyline, marked⟩
  rcases finishSelectStmt_change analysed with ⟨sameTargets, noClause, sameItems, change⟩
  have finished := change (some clause) pstate'.targetlist
    (congrArg (clauses.hasAggs || ·) (marked.any_eq constant.noAggs))
    fun _ checked => checkAggregates_of_marked marked constant checked
  refine ⟨⟨others, some (minimumOf node)⟩,
    { query with targetList := pstate'.targetlist, skylineClause := some clause }, ?_, ?_, ?_⟩
  · simp only [transformSelectStmt, transformed, skyline, ok_bind]
    exact finished
  · have inUse : ∀ ref ∈ query.refsInUse, ref ≠ 0 ∧ ref ≤ maxRef clauses.pstate.targetlist := by
      rw [Query.refsInUse, sameItems]
      intro ref mem
      rcases List.mem_map.mp mem with ⟨item, itemMem, rfl⟩
      exact refsUpTo_of_clauses clauses itemMem
    rw [← sameTargets] at marked inUse
    simp only [Query.withoutSkyline, ← marked.kept_eq inUse]
    rfl
  · intro same
    rw [SameSkylineClause, noClause] at same
    exact same

variable (ruleutils : RuleUtils E R J) (resultDesc : Option (List String)) (startIndent : Int)

/-- The text of a query never determines the skyline: another query has it, too. -/
theorem exists_lookalike {node : N} {expr : E}
    (constant : SortableConstant catalog analysis node expr) {stmt : SelectStmt S N}
    (analysed : transformSelectStmt catalog analysis stmt = .ok query) :
    ∃ (stmt' : SelectStmt S N) (other : Query E R J),
      transformSelectStmt catalog analysis stmt' = .ok other ∧ Lookalike query other ∧
      getQueryDef ruleutils catalog other resultDesc startIndent =
        getQueryDef ruleutils catalog query resultDesc startIndent := by
  have found : ∃ (stmt' : SelectStmt S N) (other : Query E R J),
      transformSelectStmt catalog analysis stmt' = .ok other ∧ Lookalike query other := by
    rcases stmt with ⟨others, _ | sbc⟩
    · exact exists_lookalike_constant constant analysed
    · exact exists_lookalike_distinct analysed
  rcases found with ⟨stmt', other, otherAnalysed, lookalike⟩
  refine ⟨stmt', other, otherAnalysed, lookalike, ?_⟩
  rw [← getQueryDef_withoutSkyline (zero_notMem_refsInUse otherAnalysed),
    lookalike.withoutSkyline, getQueryDef_withoutSkyline (zero_notMem_refsInUse analysed)]

/-- Both queries have the text. -/
def HaveText (ruleutils : RuleUtils E R J) (catalog : Catalog D)
    (resultDesc : Option (List String)) (startIndent : Int) (first second : Query E R J)
    (text : String) : Prop :=
  getQueryDef ruleutils catalog first resultDesc startIndent = .ok text ∧
    getQueryDef ruleutils catalog second resultDesc startIndent = .ok text

/-- A common text of two queries shows that their skylines are equal exactly if the
rest has different texts anyway, neither query has a skyline clause, or the clauses are
equal.  What the text of a query stands for is the query without its clause, and that
has the skyline of the query exactly if there was no clause. -/
theorem getQueryDef_keepsSkyline_iff (ruleutils : RuleUtils E R J) (catalog : Catalog D)
    (analysis : SelectAnalysis S N E R J) (resultDesc : Option (List String)) (startIndent : Int)
    (firstStmt secondStmt : SelectStmt S N) (first second : Query E R J)
    (firstAnalysed : transformSelectStmt catalog analysis firstStmt = .ok first)
    (secondAnalysed : transformSelectStmt catalog analysis secondStmt = .ok second) :
    ((∀ text, HaveText ruleutils catalog resultDesc startIndent first second text →
        SameSkylineClause first second) ↔
      (∀ text, ¬ HaveText ruleutils catalog resultDesc startIndent first.withoutSkyline
        second.withoutSkyline text) ∨
      (first.skylineClause = none ∧ second.skylineClause = none) ∨ EqualClauses first second) ∧
    getQueryDef ruleutils catalog first.withoutSkyline resultDesc startIndent =
      getQueryDef ruleutils catalog first resultDesc startIndent ∧
    (SameSkylineClause first first.withoutSkyline ↔ first.skylineClause = none) := by
  have firstText := getQueryDef_withoutSkyline (zero_notMem_refsInUse firstAnalysed) ruleutils
    catalog resultDesc startIndent
  have secondText := getQueryDef_withoutSkyline (zero_notMem_refsInUse secondAnalysed) ruleutils
    catalog resultDesc startIndent
  refine ⟨?_, firstText, sameSkylineClause_withoutSkyline_iff first⟩
  simp only [HaveText, firstText, secondText, ← sameSkylineClause_iff]
  rw [← not_exists, ← imp_iff_not_or, exists_imp]

end Text

/-! ### `SELECT a, b FROM t` -/

/-- The queries `SELECT a, b FROM t` with any skyline clause. -/
def selectABAnalysis : SelectAnalysis Unit Nat Nat String Unit where
  toExprAnalysis := integerAnalysis
  transformClauses _ := .ok {
    pstate := selectAB
    rtable := "t"
    fromlist := ()
    quals := none
    havingQual := none
    sortClause := []
    groupClause := []
    distinctClause := []
    hasAggs := false
    refs := fun _ mem => by cases mem }
  transformLimitOffset _ := .ok none
  transformLimitCount _ := .ok none
  transformLockingClause _ _ _ := .ok []
  checkExprHasAggs _ := false
  joinHasAggs _ := false
  checkUngroupedColumns _ _ := .ok ()

/-- The columns 1 and 2, and the constant expression. -/
def exprText (expr : Nat) : String :=
  if expr = 1 then "a" else if expr = 2 then "b" else "1 + 1"

def plainRuleUtils : RuleUtils Nat String Unit where
  prettyIndent := false
  getVariable _ column :=
    if column = 1 ∨ column = 2 then
      some do
        appendString (exprText column)
        return some (exprText column)
    else none
  getRuleExpr _ expr _ := appendString (exprText expr)
  getConstExpr _ _ := none
  constisnull _ := false
  processIndirection _ expr := return expr
  valuesLists _ _ := none
  getFromClause rtable _ := appendString (" FROM " ++ rtable)
  exprType _ := 23
  generateOperatorName _ _ := .error (.elog "cache lookup failed for operator")
  quoteIdentifier name := name
  aliasname rtable _ := rtable

/-- The text does not tell a query with `SKYLINE OF a MIN` from one without. -/
theorem getQueryDef_keepsSkyline_selectAB :
    ∃ first second : Query Nat String Unit,
      transformSelectStmt integerCatalog selectABAnalysis
        ⟨(), some ⟨false, [⟨.columnRef ["a"], .min, .default, []⟩], []⟩⟩ = .ok first ∧
      transformSelectStmt integerCatalog selectABAnalysis ⟨(), none⟩ = .ok second ∧
      ¬ ∀ text, HaveText plainRuleUtils integerCatalog none 0 first second text →
        SameSkylineClause first second := by
  refine ⟨_, _, rfl, rfl, ?_⟩
  intro determines
  rcases (getQueryDef_keepsSkyline_iff plainRuleUtils integerCatalog selectABAnalysis none 0
    ⟨(), some ⟨false, [⟨.columnRef ["a"], .min, .default, []⟩], []⟩⟩ ⟨(), none⟩ _ _ rfl
    rfl).1.mp determines with apart | noClause | equal
  · exact apart "SELECT a, b FROM t" ⟨rfl, rfl⟩
  · cases noClause.1
  · rcases equal with ⟨_, _, _, second, _⟩
    cases second

/-- `SKYLINE OF a MIN` and `SKYLINE OF a MAX` have the same text. -/
theorem getQueryDef_minMax_same :
    ∃ first second : Query Nat String Unit,
      transformSelectStmt integerCatalog selectABAnalysis
        ⟨(), some ⟨false, [⟨.columnRef ["a"], .min, .default, []⟩], []⟩⟩ = .ok first ∧
      transformSelectStmt integerCatalog selectABAnalysis
        ⟨(), some ⟨false, [⟨.columnRef ["a"], .max, .default, []⟩], []⟩⟩ = .ok second ∧
      first.rtable = second.rtable ∧ first.fromlist = second.fromlist ∧
      getQueryDef plainRuleUtils integerCatalog first none 0 = .ok "SELECT a, b FROM t" ∧
      getQueryDef plainRuleUtils integerCatalog second none 0 = .ok "SELECT a, b FROM t" ∧
      ¬ SameSkylineClause first second := by
  refine ⟨_, _, rfl, rfl, rfl, rfl, rfl, rfl, ?_⟩
  intro same
  cases same.2.1 with
  | cons item _ => cases item.skylineop

private theorem sortableConstant_selectAB :
    SortableConstant integerCatalog selectABAnalysis 3 3 where
  transformExpr := rfl
  known := by decide
  sortable := ⟨97, rfl⟩
  noAggs := rfl
  grouped := fun _ => rfl

/-- A query without a skyline clause shares its text, too. -/
theorem exists_lookalike_selectAB :
    ∃ (stmt : SelectStmt Unit Nat) (query other : Query Nat String Unit),
      transformSelectStmt integerCatalog selectABAnalysis ⟨(), none⟩ = .ok query ∧
      transformSelectStmt integerCatalog selectABAnalysis stmt = .ok other ∧
      Lookalike query other := by
  rcases exists_lookalike_constant sortableConstant_selectAB
    (show transformSelectStmt integerCatalog selectABAnalysis ⟨(), none⟩ = .ok _ from rfl) with
    ⟨stmt, other, analysed, lookalike⟩
  exact ⟨stmt, _, other, rfl, analysed, lookalike⟩

end PgSkyline
