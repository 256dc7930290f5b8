import PgSkyline.Dominance.Columns
import PgSkyline.Parser.Duplicates

/-!
# What the duplicate test changes

`targetIsInSkylineList` drops a later item on a target whose operator equals or
commutes with that of an earlier one.  The dominance verdict stays the same
exactly if the first item on the target already decides what the later one would:
it is a DIFF item, or both compare in the same direction with the same NULLS
placement and neither is DIFF.
-/

namespace PgSkyline

open Comparison

variable {N E D : Type}

/-! ## Columns of items -/

/-- Two items on one target have columns with one attribute and one compare
function, and the reversals show in the operators. -/
structure ColumnsOn (catalog : Catalog D) (tlist : List (TargetEntry E)) (ref : Nat) (lt gt : Oid)
    (cmpfunc : D → D → Int) (resno : Nat) : Prop where
  pair : catalog.OrderingPair lt gt cmpfunc
  resno_mem : ∃ tle ∈ tlist, tle.ressortgroupref = ref ∧ tle.resno = resno
  column : ∀ item : SkylineOf, item.tleSortGroupRef = ref →
    item.skylineop = lt ∨ item.skylineop = gt → ∃ desc,
      makeSkylineCol catalog tlist item =
        .ok ⟨resno, cmpfunc, ⟨desc, item.nullsFirst⟩, item.skylineofDir⟩ ∧
      (item.skylineop = gt ↔ desc = true)

private theorem columnsOn_of_hasRef {catalog : Catalog D} {tlist : List (TargetEntry E)} {ref : Nat}
    {lt gt : Oid} {cmpfunc : D → D → Int} (pair : catalog.OrderingPair lt gt cmpfunc)
    (hasRef : HasRef tlist ref) : ∃ resno, ColumnsOn catalog tlist ref lt gt cmpfunc resno := by
  rcases List.mem_map.mp hasRef with ⟨other, otherMem, otherRef⟩
  have isSome : (tlist.find? fun tle => tle.ressortgroupref == ref).isSome := by
    rw [List.find?_isSome]
    exact ⟨other, otherMem, by simpa using otherRef⟩
  rcases Option.isSome_iff_exists.mp isSome with ⟨tle, found⟩
  refine ⟨tle.resno, pair, ⟨tle, List.mem_of_find?_eq_some found, by
    simpa using List.find?_some found, rfl⟩, ?_⟩
  intro item sameRef ofPair
  rcases pair.selectSortFunction_of_mem ofPair item.nullsFirst with ⟨desc, selected, reversed⟩
  refine ⟨desc, ?_, reversed⟩
  simp only [makeSkylineCol, getSkylineclauseTle, sameRef, found, selected, ok_bind, pure_eq_ok]

/-! ## Later items on a target -/

/-- The support function of the operator tells some two values apart. -/
def Catalog.TellsApart (catalog : Catalog D) (opno : Oid) : Prop :=
  ∃ cmpfunc reverse, catalog.getCompareFunctionForOrderingOp opno = .ok (some (cmpfunc, reverse)) ∧
    ∃ a b, cmpfunc a b ≠ 0

/-- The first item on each target decides what later ones on it would. -/
def FirstItemsDecide (catalog : Catalog D) (items : List SkylineOf) : Prop :=
  ∀ later ∈ items, ∀ first, firstOn items later.tleSortGroupRef = some first →
    first.skylineofDir = .diff ∨
      (later.skylineofDir ≠ .diff ∧ later.nullsFirst = first.nullsFirst ∧
        (later.skylineop = first.skylineop ∨ ¬ catalog.TellsApart first.skylineop))

/-- If no values are told apart, the reversal does not matter. -/
theorem inlineApply_congr_desc {compFunction : D → D → Int}
    (noneApart : ∀ a b, compFunction a b = 0) (desc desc' nullsFirst : Bool) (a b : Option D) :
    inlineApplyCompareFunction compFunction ⟨desc, nullsFirst⟩ a b =
      inlineApplyCompareFunction compFunction ⟨desc', nullsFirst⟩ a b := by
  cases a <;> cases b <;> simp [inlineApplyCompareFunction, noneApart]

/-- What follows for the flags of a later column if it goes along with the first. -/
theorem flags_of_goes_along [Nonempty D] {cmpfunc : D → D → Int} {first later : SkFlags}
    {isDiff : Prop}
    (less : ∀ a b, inlineApplyCompareFunction cmpfunc first a b < 0 →
      (isDiff → inlineApplyCompareFunction cmpfunc later a b = 0) ∧
        inlineApplyCompareFunction cmpfunc later a b ≤ 0)
    (greater : ∀ a b, 0 < inlineApplyCompareFunction cmpfunc first a b →
      0 ≤ inlineApplyCompareFunction cmpfunc later a b) :
    ¬ isDiff ∧ later.nullsFirst = first.nullsFirst ∧
      (later.desc = first.desc ∨ ∀ a b, cmpfunc a b = 0) := by
  rcases first with ⟨desc, nullsFirst⟩
  rcases later with ⟨descLater, nullsFirstLater⟩
  rcases (inferInstance : Nonempty D) with ⟨datum⟩
  -- A NULL against a value decides the NULLS placement and that the item is not DIFF.
  have placement : ¬ isDiff ∧ nullsFirstLater = nullsFirst := by
    cases nullsFirst with
    | true =>
        have goes := less none (some datum) (by simp [inlineApplyCompareFunction])
        cases nullsFirstLater <;> simp [inlineApplyCompareFunction] at goes ⊢
        exact goes
    | false =>
        have goes := less (some datum) none (by simp [inlineApplyCompareFunction])
        cases nullsFirstLater <;> simp [inlineApplyCompareFunction] at goes ⊢
        exact goes
  refine ⟨placement.1, placement.2, ?_⟩
  -- Two values told apart decide the reversal.
  by_cases sameDesc : descLater = desc
  · exact Or.inl sameDesc
  · right
    intro a b
    have goesLess := less (some a) (some b)
    have goesGreater := greater (some a) (some b)
    cases desc <;> cases descLater <;> simp [inlineApplyCompareFunction] at *
    · omega
    · omega

theorem Catalog.OrderingPair.tellsApart_iff {catalog : Catalog D} {lt gt opno : Oid}
    {cmpfunc : D → D → Int} (pair : catalog.OrderingPair lt gt cmpfunc)
    (ofPair : opno = lt ∨ opno = gt) : catalog.TellsApart opno ↔ ∃ a b, cmpfunc a b ≠ 0 := by
  have found : ∃ reverse,
      catalog.getCompareFunctionForOrderingOp opno = .ok (some (cmpfunc, reverse)) := by
    rcases pair.family with ⟨opfamily, opcintype, less, greater, proc⟩
    rcases ofPair with rfl | rfl
    · exact ⟨false, by simp only [Catalog.getCompareFunctionForOrderingOp, less, proc]; rfl⟩
    · exact ⟨true, by simp only [Catalog.getCompareFunctionForOrderingOp, greater, proc]; rfl⟩
  rcases found with ⟨reverse, found⟩
  constructor
  · rintro ⟨other, otherReverse, otherFound, a, b, apart⟩
    rw [found, Except.ok.injEq, Option.some.injEq, Prod.mk.injEq] at otherFound
    exact ⟨a, b, by rwa [otherFound.1]⟩
  · rintro ⟨a, b, apart⟩
    exact ⟨cmpfunc, reverse, found, a, b, apart⟩

section Verdicts

variable {catalog : Catalog D} {tlist : List (TargetEntry E)} {kept full : List SkylineOf}
  {keptCols fullCols : List (SkylineCol D)}

/-- The target of each item has its columns. -/
theorem exists_columnsOn (keeps : KeepsFirst kept full tlist)
    (operators : ColumnOperators catalog full) {item : SkylineOf} (itemMem : item ∈ full) :
    ∃ lt gt cmpfunc resno, ColumnsOn catalog tlist item.tleSortGroupRef lt gt cmpfunc resno ∧
      ∀ other ∈ full, other.tleSortGroupRef = item.tleSortGroupRef →
        other.skylineop = lt ∨ other.skylineop = gt := by
  rcases operators item.tleSortGroupRef with ⟨lt, gt, cmpfunc, pair, ofPair⟩
  rcases columnsOn_of_hasRef pair (keeps.hasRef item itemMem) with ⟨resno, columns⟩
  exact ⟨lt, gt, cmpfunc, resno, columns, ofPair⟩

theorem exists_makeSkylineCols (keeps : KeepsFirst kept full tlist)
    (operators : ColumnOperators catalog full) {items : List SkylineOf} (subset : items ⊆ full) :
    ∃ cols, makeSkylineCols catalog tlist items = .ok cols := by
  apply exists_mapM_eq_ok
  intro item itemMem
  rcases exists_columnsOn keeps operators (subset itemMem) with
    ⟨lt, gt, cmpfunc, resno, columns, ofPair⟩
  rcases columns.column item rfl (ofPair item (subset itemMem) rfl) with ⟨desc, made, _⟩
  exact ⟨_, made⟩

theorem KeepsFirst.subset (keeps : KeepsFirst kept full tlist) : kept ⊆ full :=
  fun item keptMem => (firstOn_spec ((keeps.mem_iff item).mp keptMem)).1

private theorem exists_firstOn {item : SkylineOf} (itemMem : item ∈ full) :
    ∃ first, firstOn full item.tleSortGroupRef = some first := by
  apply Option.ne_none_iff_exists'.mp
  intro noneFound
  exact firstOn_eq_none_iff.mp noneFound item itemMem rfl

variable (keeps : KeepsFirst kept full tlist) (operators : ColumnOperators catalog full)
  (keptMade : makeSkylineCols catalog tlist kept = .ok keptCols)
  (fullMade : makeSkylineCols catalog tlist full = .ok fullCols)

include keeps operators keptMade fullMade

/-- If the first items decide, dropping the others keeps every verdict. -/
theorem verdict_eq_of_firstItemsDecide (decide : FirstItemsDecide catalog full) {T : Type}
    (slotGetattr : T → Nat → Option D) (x y : T) :
    execSkylineIsDominating slotGetattr keptCols x y =
      execSkylineIsDominating slotGetattr fullCols x y := by
  have keptIff := mem_of_mapM_eq_ok keptMade
  have fullIff := mem_of_mapM_eq_ok fullMade
  apply verdict_eq_of_decided
  · intro col colMem
    rcases (fullIff col).mp colMem with ⟨later, laterMem, made⟩
    rcases exists_firstOn laterMem with ⟨first, found⟩
    rcases firstOn_spec found with ⟨firstMem, sameRef⟩
    have firstKept : first ∈ kept := (keeps.mem_iff first).mpr (by rw [sameRef, found])
    rcases exists_columnsOn keeps operators laterMem with
      ⟨lt, gt, cmpfunc, resno, columns, ofPair⟩
    have ofFirst := ofPair first firstMem sameRef
    rcases columns.column later rfl (ofPair later laterMem rfl) with ⟨desc, madeLater, reversed⟩
    rcases columns.column first sameRef ofFirst with ⟨descFirst, madeFirst, reversedFirst⟩
    rw [made, Except.ok.injEq] at madeLater
    refine ⟨_, (keptIff _).mpr ⟨first, firstKept, madeFirst⟩, ?_, ?_⟩
    · intro equal
      rw [madeLater]
      exact inlineApply_eq_zero_of_imp (fun _ _ => id) equal _
    · intro ordinary
      rcases decide later laterMem first found with diff | ⟨ordinaryLater, sameNulls, sameOrder⟩
      · exact absurd diff ordinary
      · rw [madeLater]
        refine ⟨ordinaryLater, ?_⟩
        rw [SkylineCol.compare, SkylineCol.compare, sameNulls]
        rcases sameOrder with sameOp | noneApart
        · have sameDesc : desc = descFirst := by
            rw [sameOp] at reversed
            exact Bool.eq_iff_iff.mpr (reversed.symm.trans reversedFirst)
          rw [sameDesc]
        · rw [columns.pair.tellsApart_iff ofFirst] at noneApart
          apply inlineApply_congr_desc
          intro a b
          by_contra apart
          exact noneApart ⟨a, b, apart⟩
  · intro col colMem
    rcases (keptIff col).mp colMem with ⟨item, itemMem, made⟩
    exact (fullIff col).mpr ⟨item, keeps.subset itemMem, made⟩

/-- If dropping the others keeps every verdict, the first items decide. -/
theorem firstItemsDecide_of_verdict_eq [Nonempty D]
    (resnoNodup : (tlist.map TargetEntry.resno).Nodup)
    (same : ∀ x y : Nat → Option D,
      execSkylineIsDominating (fun row => row) keptCols x y =
        execSkylineIsDominating (fun row => row) fullCols x y) :
    FirstItemsDecide catalog full := by
  intro later laterMem first found
  have keptIff := mem_of_mapM_eq_ok keptMade
  have fullIff := mem_of_mapM_eq_ok fullMade
  rcases firstOn_spec found with ⟨firstMem, sameRef⟩
  have firstKept : first ∈ kept := (keeps.mem_iff first).mpr (by rw [sameRef, found])
  rcases exists_columnsOn keeps operators laterMem with ⟨lt, gt, cmpfunc, resno, columns, ofPair⟩
  have ofFirst := ofPair first firstMem sameRef
  rcases columns.column later rfl (ofPair later laterMem rfl) with ⟨desc, madeLater, reversed⟩
  rcases columns.column first sameRef ofFirst with ⟨descFirst, madeFirst, reversedFirst⟩
  -- No other item kept has a column on the attribute.
  have single : ∀ other ∈ keptCols, other.skylineColIdx = resno →
      other = ⟨resno, cmpfunc, ⟨descFirst, first.nullsFirst⟩, first.skylineofDir⟩ := by
    intro other otherMem atResno
    rcases (keptIff other).mp otherMem with ⟨item, itemMem, made⟩
    have itemFull := keeps.subset itemMem
    rcases exists_columnsOn keeps operators itemFull with
      ⟨lt', gt', cmpfunc', resno', columns', ofPair'⟩
    rcases columns'.column item rfl (ofPair' item itemFull rfl) with ⟨desc', made', _⟩
    rw [made, Except.ok.injEq] at made'
    rcases columns.resno_mem with ⟨tle, tleMem, tleRef, tleResno⟩
    rcases columns'.resno_mem with ⟨tle', tleMem', tleRef', tleResno'⟩
    have sameTle := List.inj_on_of_nodup_map resnoNodup tleMem' tleMem
      (by rw [tleResno, tleResno', ← atResno, made'])
    have sameItemRef : item.tleSortGroupRef = later.tleSortGroupRef := by
      rw [← tleRef', sameTle, tleRef]
    have isFirst := (keeps.mem_iff item).mp itemMem
    rw [sameItemRef, found, Option.some.injEq] at isFirst
    rw [← isFirst, madeFirst, Except.ok.injEq] at made
    exact made.symm
  have deciderMem := (keptIff _).mpr ⟨first, firstKept, madeFirst⟩
  have colMem := (fullIff _).mpr ⟨later, laterMem, madeLater⟩
  by_cases diff : first.skylineofDir = .diff
  · exact Or.inl diff
  · right
    have lessGoes := fun a b => @noWorse_of_verdict_eq D keptCols fullCols _ _ deciderMem single
      diff same colMem rfl a b
    have greaterGoes := fun a b => @noBetter_of_verdict_eq D keptCols fullCols _ _ deciderMem
      single diff same colMem rfl a b
    rcases flags_of_goes_along lessGoes greaterGoes with ⟨ordinary, sameNulls, sameOrder⟩
    refine ⟨ordinary, sameNulls, ?_⟩
    rw [columns.pair.tellsApart_iff ofFirst]
    rcases sameOrder with sameDesc | noneApart
    · left
      have ofLater := ofPair later laterMem rfl
      simp only at sameDesc
      rw [sameDesc, ← reversedFirst] at reversed
      rcases ofLater with isLt | isGt
      · rcases ofFirst with firstLt | firstGt
        · rw [isLt, firstLt]
        · rw [reversed.mpr firstGt, firstGt]
      · rw [reversed.mp isGt, isGt]
    · right
      rintro ⟨a, b, apart⟩
      exact apart (noneApart a b)

end Verdicts

/-! ## The exact condition -/

/-- `transformSkylineClause` preserves the dominance verdict exactly if the first item
on each target decides what the dropped ones would. -/
theorem transformSkylineClause_verdict_iff [DecidableEq E] [Nonempty D] (catalog : Catalog D)
    (analysis : ExprAnalysis N E) (resolveUnknown : Bool) (sbc : SkylineOfClause N)
    (pstate pstate' : ParseState E) (wellFormed : pstate.WellFormed) (full : SkylineClause)
    (everyItem : transformEveryItem catalog analysis resolveUnknown sbc pstate =
      .ok (full, pstate'))
    (operators : ColumnOperators catalog full.skylineOfList) :
    ∃ clause cols fullCols,
      transformSkylineClause catalog analysis resolveUnknown sbc pstate = .ok (clause, pstate') ∧
      makeSkylineCols catalog pstate'.targetlist clause.skylineOfList = .ok cols ∧
      makeSkylineCols catalog pstate'.targetlist full.skylineOfList = .ok fullCols ∧
      ((∀ x y : Nat → Option D,
          execSkylineIsDominating (fun row => row) cols x y =
            execSkylineIsDominating (fun row => row) fullCols x y) ↔
        FirstItemsDecide catalog full.skylineOfList) := by
  rw [transformEveryItem, transformClauseWith, bind_eq_ok_iff] at everyItem
  rcases everyItem with ⟨⟨fullList, last⟩, run, made⟩
  cases made
  have empty : KeepsFirst [] [] pstate.targetlist := ⟨by simp [firstOn], by simp, by simp⟩
  rcases transformItemsWith_keepsFirst run operators wellFormed empty with
    ⟨lastWellFormed, kept, runKept, keeps⟩
  rcases exists_makeSkylineCols keeps operators keeps.subset with ⟨cols, colsMade⟩
  rcases exists_makeSkylineCols keeps operators (List.Subset.refl _) with ⟨fullCols, fullMade⟩
  refine ⟨⟨sbc.skylineDistinct, kept, sbc.skylineOfOptions⟩, cols, fullCols, ?_, colsMade,
    fullMade, ?_⟩
  · rw [transformSkylineClause, transformClauseWith, runKept]
    rfl
  · constructor
    · exact firstItemsDecide_of_verdict_eq keeps operators colsMade fullMade
        lastWellFormed.resno_nodup
    · exact fun decides x y =>
        verdict_eq_of_firstItemsDecide keeps operators colsMade fullMade decides _ x y

/-- A clause the reference rejects has no result. -/
theorem transformSkylineClause_error [DecidableEq E] {catalog : Catalog D}
    {analysis : ExprAnalysis N E} {resolveUnknown : Bool} {sbc : SkylineOfClause N}
    {pstate : ParseState E} {fault : Fault}
    (rejected : transformEveryItem catalog analysis resolveUnknown sbc pstate = .error fault) :
    transformSkylineClause catalog analysis resolveUnknown sbc pstate = .error fault := by
  unfold transformEveryItem transformClauseWith at rejected
  unfold transformSkylineClause transformClauseWith
  cases run : transformItemsWith (fun _ _ _ => false) catalog analysis resolveUnknown
      sbc.skylineOfList [] pstate with
  | error other =>
      rw [transformItemsWith_error run]
      simpa [run] using rejected
  | ok result => simp [run] at rejected

/-! ## Integer columns -/

/-- The operators `<` (97) and `>` (521) of the family `integer_ops` on `int4` (23). -/
def integerCatalog : Catalog Int where
  ltOpr argtype := if argtype = 23 then some 97 else none
  gtOpr argtype := if argtype = 23 then some 521 else none
  compatibleOperOpid op arg :=
    if op = ["<"] ∧ arg = 23 then .ok 97
    else if op = [">"] ∧ arg = 23 then .ok 521
    else .error (.elog "operator does not exist")
  getOrderingOpProperties opno :=
    if opno = 97 then some ⟨1976, 23, .less⟩
    else if opno = 521 then some ⟨1976, 23, .greater⟩
    else none
  getOpfamilyProc opfamily opcintype :=
    if opfamily = 1976 ∧ opcintype = 23 then some intCompare else none
  getOpfamilyEquality opfamily opcintype :=
    if opfamily = 1976 ∧ opcintype = 23 then some 96 else none
  getMergejoinOpfamilies opno := if opno = 96 then [1976] else []
  getCommutator opno := if opno = 97 then 521 else if opno = 521 then 97 else invalidOid
  formatTypeBe _ := "integer"

private theorem orderingPair_integerCatalog : integerCatalog.OrderingPair 97 521 intCompare :=
  ⟨⟨1976, 23, rfl, rfl, rfl⟩, rfl, rfl⟩

/-- Expressions are integer columns, known by their number. -/
def integerAnalysis : ExprAnalysis Nat Nat where
  transformExpr
    | .other column => .ok column
    | _ => .error (.elog "column does not exist")
  exprType _ := 23
  coerceToText column := column

/-- `SELECT a, b`. -/
def selectAB : ParseState Nat :=
  ⟨3, [⟨1, 1, some "a", 0, false⟩, ⟨2, 2, some "b", 0, false⟩]⟩

theorem selectAB_wellFormed : selectAB.WellFormed :=
  ⟨by decide, by decide⟩

theorem columnOperators_integer {items : List SkylineOf}
    (integer : ∀ item ∈ items, item.skylineop = 97 ∨ item.skylineop = 521) :
    ColumnOperators integerCatalog items :=
  fun _ => ⟨97, 521, intCompare, orderingPair_integerCatalog, fun item itemMem _ =>
    integer item itemMem⟩

/-- `SKYLINE OF a MIN, b MAX, a USING <`: the third item is dropped for good. -/
theorem transformSkylineClause_verdict_iff_minUsing :
    let sbc : SkylineOfClause Nat :=
      ⟨false, [⟨.columnRef ["a"], .min, .default, []⟩, ⟨.aConst (.integer 2), .max, .default, []⟩,
        ⟨.other 1, .using, .last, ["<"]⟩], []⟩
    ∃ full pstate',
      transformEveryItem integerCatalog integerAnalysis true sbc selectAB = .ok (full, pstate') ∧
      full.skylineOfList.length = 3 ∧
      ∃ clause cols fullCols,
        transformSkylineClause integerCatalog integerAnalysis true sbc selectAB =
          .ok (clause, pstate') ∧
        makeSkylineCols integerCatalog pstate'.targetlist clause.skylineOfList = .ok cols ∧
        makeSkylineCols integerCatalog pstate'.targetlist full.skylineOfList = .ok fullCols ∧
        ((∀ x y : Nat → Option Int,
            execSkylineIsDominating (fun row => row) cols x y =
              execSkylineIsDominating (fun row => row) fullCols x y) ↔
          FirstItemsDecide integerCatalog full.skylineOfList) :=
  ⟨_, _, rfl, rfl, transformSkylineClause_verdict_iff integerCatalog integerAnalysis true _
    selectAB _ selectAB_wellFormed _ rfl (columnOperators_integer (by decide))⟩

/-- `SKYLINE OF a MIN, a MAX`: the MAX item is dropped because `>` commutes with `<`,
and the tuple 1 comes to dominate the tuple 2. -/
theorem transformSkylineClause_minMax_differs :
    let sbc : SkylineOfClause Nat :=
      ⟨false, [⟨.columnRef ["a"], .min, .default, []⟩, ⟨.columnRef ["a"], .max, .default, []⟩], []⟩
    ∃ clause full pstate' cols fullCols,
      selectAB.WellFormed ∧
      transformSkylineClause integerCatalog integerAnalysis true sbc selectAB =
        .ok (clause, pstate') ∧
      transformEveryItem integerCatalog integerAnalysis true sbc selectAB = .ok (full, pstate') ∧
      ColumnOperators integerCatalog full.skylineOfList ∧
      makeSkylineCols integerCatalog pstate'.targetlist clause.skylineOfList = .ok cols ∧
      makeSkylineCols integerCatalog pstate'.targetlist full.skylineOfList = .ok fullCols ∧
      execSkylineIsDominating (fun row : Nat → Option Int => row) cols (rowWith 1 (some 1))
        (rowWith 1 (some 2)) = .firstDominates ∧
      execSkylineIsDominating (fun row : Nat → Option Int => row) fullCols (rowWith 1 (some 1))
        (rowWith 1 (some 2)) = .incomparable :=
  ⟨_, _, _, _, _, selectAB_wellFormed, rfl, rfl, columnOperators_integer (by decide), rfl, rfl,
    by decide, by decide⟩

end PgSkyline
