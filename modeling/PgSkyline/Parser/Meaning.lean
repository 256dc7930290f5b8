import PgSkyline.Parser.Written
import PgSkyline.Parser.Result
import PgSkyline.Dominance.Reference

/-!
# The columns of a clause are the items as written

What `transformSkylineClause` and `make_skyline` make of a clause compares the rows of
the result exactly as the items ask for on the rows of the FROM clause.
-/

namespace PgSkyline

open Comparison

variable {N E D Row : Type}

/-! ## What an item asks for -/

/-- The `<` and the `>` operator of a type go by the order of the type. -/
structure Catalog.Orders (catalog : Catalog D) (order : Oid → D → D → Int) : Prop where
  lt : ∀ {argtype opno}, catalog.ltOpr argtype = some opno →
    catalog.getCompareFunctionForOrderingOp opno = .ok (some (order argtype, false))
  gt : ∀ {argtype opno}, catalog.gtOpr argtype = some opno →
    catalog.getCompareFunctionForOrderingOp opno = .ok (some (order argtype, true))
  invalid : catalog.getOrderingOpProperties invalidOid = none

/-- What an item asks for: its expression, the operator and the order it goes by,
whether large values and NULLs are preferred, and the direction. -/
structure Criterion (E D : Type) where
  expr : E
  skylineop : Oid
  order : D → D → Int
  largest : Bool
  nullsFirst : Bool
  skylineofDir : SkylineOfDir

/-- The operator and the order of an item on a type, and whether large values are
preferred: MIN and MAX go by the order of the type, USING by that of the operator. -/
def itemOrder (catalog : Catalog D) (order : Oid → D → D → Int) (item : SkylineOfExpr N)
    (argtype : Oid) : Option (Oid × (D → D → Int) × Bool) :=
  match item.skylineofDir with
  | .default | .min | .diff =>
      (catalog.ltOpr argtype).map fun opno => (opno, order argtype, false)
  | .max => (catalog.gtOpr argtype).map fun opno => (opno, order argtype, true)
  | .using =>
      match catalog.compatibleOperOpid item.useOp argtype with
      | .error _ => none
      | .ok opno =>
          match catalog.getCompareFunctionForOrderingOp opno with
          | .ok (some (cmpfunc, reverse)) => some (opno, cmpfunc, reverse)
          | _ => none

/-- What an item asks for in a query with this select list. -/
def itemCriterion (catalog : Catalog D) (order : Oid → D → D → Int) (analysis : ExprAnalysis N E)
    (resolveUnknown : Bool) (tlist : List (TargetEntry E)) (item : SkylineOfExpr N) :
    Option (Criterion E D) :=
  (itemExpr analysis tlist item.node).bind fun named =>
    let expr := resolveUnknownExpr analysis resolveUnknown named
    (itemOrder catalog order item (analysis.exprType expr)).map fun (skylineop, order, largest) =>
      ⟨expr, skylineop, order, largest, item.skylineofNulls.nullsFirst largest,
        item.skylineofDir⟩

namespace Criterion

/-- The first value is better. -/
def Prefers (criterion : Criterion E D) : Option D → Option D → Prop
  | none, none => False
  | none, some _ => criterion.nullsFirst = true
  | some _, none => criterion.nullsFirst = false
  | some a, some b =>
      if criterion.largest then 0 < criterion.order a b else criterion.order a b < 0

/-- The values are equally good. -/
def Equal (criterion : Criterion E D) : Option D → Option D → Prop
  | none, none => True
  | some a, some b => criterion.order a b = 0
  | _, _ => False

end Criterion

/-- Row `x` is at least as good as row `y` by all criteria, equal by DIFF, and better by one. -/
def IsBetterRow (eval : E → Row → Option D) (criteria : List (Criterion E D)) (x y : Row) : Prop :=
  (∀ criterion ∈ criteria, criterion.Equal (eval criterion.expr x) (eval criterion.expr y) ∨
    criterion.skylineofDir ≠ .diff ∧
      criterion.Prefers (eval criterion.expr x) (eval criterion.expr y)) ∧
  ∃ criterion ∈ criteria, criterion.Prefers (eval criterion.expr x) (eval criterion.expr y)

/-- The value of an attribute in the row of the result that a row of the FROM clause makes. -/
def resultAttr (eval : E → Row → Option D) (tlist : List (TargetEntry E)) (row : Row)
    (attno : Nat) : Option D :=
  (tlist.find? fun tle => tle.resno == attno).bind fun tle => eval tle.expr row

/-! ## Columns that compare as an item asks -/

/-- The column compares the results as the criterion compares the rows. -/
structure Compares (eval : E → Row → Option D) (tlist : List (TargetEntry E))
    (criterion : Criterion E D) (col : SkylineCol D) : Prop where
  value : ∀ row, resultAttr eval tlist row col.skylineColIdx = eval criterion.expr row
  compareOpFn : col.compareOpFn = criterion.order
  compareFlags : col.compareFlags = ⟨criterion.largest, criterion.nullsFirst⟩
  skylineOfDir : col.skylineOfDir = criterion.skylineofDir

namespace Compares

variable {eval : E → Row → Option D} {tlist : List (TargetEntry E)} {criterion : Criterion E D}
  {col : SkylineCol D}

theorem compare_eq_zero_iff (compares : Compares eval tlist criterion col) (x y : Row) :
    col.compare (resultAttr eval tlist) x y = 0 ↔
      criterion.Equal (eval criterion.expr x) (eval criterion.expr y) := by
  rw [SkylineCol.compare, compares.value, compares.value, compares.compareOpFn,
    compares.compareFlags]
  cases eval criterion.expr x <;> cases eval criterion.expr y <;>
    cases criterion.largest <;> cases criterion.nullsFirst <;>
    simp [inlineApplyCompareFunction, Criterion.Equal]

theorem compare_neg_iff (compares : Compares eval tlist criterion col) (x y : Row) :
    col.compare (resultAttr eval tlist) x y < 0 ↔
      criterion.Prefers (eval criterion.expr x) (eval criterion.expr y) := by
  rw [SkylineCol.compare, compares.value, compares.value, compares.compareOpFn,
    compares.compareFlags]
  cases eval criterion.expr x <;> cases eval criterion.expr y <;>
    cases largest : criterion.largest <;> cases nulls : criterion.nullsFirst <;>
    simp [inlineApplyCompareFunction, Criterion.Prefers, largest, nulls]

end Compares

section Rows

variable {eval : E → Row → Option D} {tlist : List (TargetEntry E)}
  {criteria : List (Criterion E D)} {cols : List (SkylineCol D)}
  (each : List.Forall₂ (Compares eval tlist) criteria cols)

include each

theorem forall_criteria_iff {P : Criterion E D → Prop} {Q : SkylineCol D → Prop}
    (same : ∀ criterion col, Compares eval tlist criterion col → (P criterion ↔ Q col)) :
    (∀ criterion ∈ criteria, P criterion) ↔ ∀ col ∈ cols, Q col := by
  induction each with
  | nil => simp
  | cons compares _ ih =>
      rw [List.forall_mem_cons, List.forall_mem_cons, same _ _ compares, ih]

/-- The dominance test on results compares the rows as the criteria ask. -/
theorem dominates_iff_isBetterRow (x y : Row) :
    Dominates (resultAttr eval tlist) cols x y ↔ IsBetterRow eval criteria x y := by
  rw [dominates_iff_noWorse_and_exists, IsBetterRow]
  apply and_congr
  · apply (forall_criteria_iff each _).symm
    intro criterion col compares
    rw [← compares.compare_eq_zero_iff, ← compares.compare_neg_iff, ← compares.skylineOfDir]
    by_cases diff : col.skylineOfDir = .diff <;> simp [diff] <;> omega
  · rw [← not_iff_not]
    simp only [not_exists, not_and]
    apply (forall_criteria_iff each _).symm
    intro criterion col compares
    rw [compares.compare_neg_iff]

theorem allEq_iff_equal (x y : Row) :
    AllEq (resultAttr eval tlist) cols x y ↔ ∀ criterion ∈ criteria,
      criterion.Equal (eval criterion.expr x) (eval criterion.expr y) := by
  rw [allEq_iff_forall]
  apply (forall_criteria_iff each _).symm
  intro criterion col compares
  rw [compares.compare_eq_zero_iff]

end Rows

/-! ## Target list entries of items -/

/-- An entry of the target list stands for the criterion in the clause. -/
structure Stands (tlist : List (TargetEntry E)) (criterion : Criterion E D)
    (skylineof : SkylineOf) : Prop where
  skylineop : skylineof.skylineop = criterion.skylineop
  nullsFirst : skylineof.nullsFirst = criterion.nullsFirst
  skylineofDir : skylineof.skylineofDir = criterion.skylineofDir
  ref_ne_zero : skylineof.tleSortGroupRef ≠ 0
  entry : ∃ tle ∈ tlist, tle.ressortgroupref = skylineof.tleSortGroupRef ∧
    tle.expr = criterion.expr

/-- No two entries have the same reference number. -/
def RefsUnique (tlist : List (TargetEntry E)) : Prop :=
  ∀ ⦃at₁ at₂ : Nat⦄ ⦃tle₁ tle₂ : TargetEntry E⦄, tlist[at₁]? = some tle₁ →
    tlist[at₂]? = some tle₂ → tle₁.ressortgroupref ≠ 0 →
    tle₁.ressortgroupref = tle₂.ressortgroupref → at₁ = at₂

theorem RefsUnique.eq_of_mem {tlist : List (TargetEntry E)} (unique : RefsUnique tlist)
    {first second : TargetEntry E} (firstMem : first ∈ tlist) (secondMem : second ∈ tlist)
    (marked : first.ressortgroupref ≠ 0)
    (same : first.ressortgroupref = second.ressortgroupref) : first = second := by
  rcases List.getElem?_of_mem firstMem with ⟨at₁, firstAt⟩
  rcases List.getElem?_of_mem secondMem with ⟨at₂, secondAt⟩
  have here := unique firstAt secondAt marked same
  subst here
  exact Option.some.inj (firstAt.symm.trans secondAt)

theorem RefsUnique.append_unmarked {tlist : List (TargetEntry E)} (unique : RefsUnique tlist)
    {tle : TargetEntry E} (unmarked : tle.ressortgroupref = 0) :
    RefsUnique (tlist ++ [tle]) := by
  have old : ∀ {pos : Nat} {entry : TargetEntry E}, (tlist ++ [tle])[pos]? = some entry →
      entry.ressortgroupref ≠ 0 → tlist[pos]? = some entry := by
    intro pos entry atPos marked
    rw [List.getElem?_append] at atPos
    split at atPos
    · exact atPos
    · have isNew := List.mem_singleton.mp (List.mem_of_getElem? atPos)
      exact absurd (isNew ▸ unmarked) marked
  intro at₁ at₂ first second firstAt secondAt marked same
  exact unique (old firstAt marked) (old secondAt (same ▸ marked)) marked same

/-- `addTargetToSkylineList` overwrites the entry of the item: the expression is resolved,
and a new reference number is one that no entry has. -/
structure Resolves (analysis : ExprAnalysis N E) (resolveUnknown : Bool)
    (tlist : List (TargetEntry E)) (old new : TargetEntry E) : Prop where
  same : SameTarget analysis resolveUnknown old new
  expr : new.expr = resolveUnknownExpr analysis resolveUnknown old.expr
  ref : new.ressortgroupref = old.ressortgroupref ∨
    old.ressortgroupref = 0 ∧ ¬ HasRef tlist new.ressortgroupref

namespace Resolves

variable {analysis : ExprAnalysis N E} {resolveUnknown : Bool} {tlist : List (TargetEntry E)}
  {pos : Nat} {old new : TargetEntry E}

theorem refsUnique (resolves : Resolves analysis resolveUnknown tlist old new)
    (atPos : tlist[pos]? = some old) (unique : RefsUnique tlist) :
    RefsUnique (tlist.set pos new) := by
  have inRange := (List.getElem?_eq_some_iff.mp atPos).1
  -- An entry with the number of the new one is the new one.
  have isNew : ∀ {index : Nat} {tle : TargetEntry E}, tlist[index]? = some tle →
      new.ressortgroupref ≠ 0 → tle.ressortgroupref = new.ressortgroupref → pos = index := by
    intro index tle atIndex marked same
    rcases resolves.ref with kept | ⟨_, fresh⟩
    · exact unique atPos atIndex (kept ▸ marked) (by rw [same, kept])
    · exact absurd (List.mem_map.mpr ⟨tle, List.mem_of_getElem? atIndex, same⟩) fresh
  intro at₁ at₂ first second firstAt secondAt marked same
  by_cases here₁ : pos = at₁
  · subst here₁
    rw [List.getElem?_set_self inRange, Option.some.injEq] at firstAt
    subst firstAt
    by_cases here₂ : pos = at₂
    · exact here₂
    · rw [List.getElem?_set_ne here₂] at secondAt
      exact isNew secondAt marked same.symm
  · rw [List.getElem?_set_ne here₁] at firstAt
    by_cases here₂ : pos = at₂
    · subst here₂
      rw [List.getElem?_set_self inRange, Option.some.injEq] at secondAt
      subst secondAt
      exact (isNew firstAt (same ▸ marked) same).symm
    · rw [List.getElem?_set_ne here₂] at secondAt
      exact unique firstAt secondAt marked same

theorem wellFormed (resolves : Resolves analysis resolveUnknown tlist old new)
    (atPos : tlist[pos]? = some old) {pNextResno : Nat}
    (wellFormed : (⟨pNextResno, tlist⟩ : ParseState E).WellFormed) :
    (⟨pNextResno, tlist.set pos new⟩ : ParseState E).WellFormed := by
  have sameResno : (tlist.set pos new).map TargetEntry.resno = tlist.map TargetEntry.resno :=
    map_set_of_eq atPos resolves.same.resno
  constructor
  · intro tle tleMem
    have resnoMem := List.mem_map_of_mem (f := TargetEntry.resno) tleMem
    rw [sameResno] at resnoMem
    rcases List.mem_map.mp resnoMem with ⟨other, otherMem, same⟩
    rw [← same]
    exact wellFormed.resno_lt other otherMem
  · simp only [sameResno]
    exact wellFormed.resno_nodup

/-- What stands for a criterion already goes on to. -/
theorem stands (resolves : Resolves analysis resolveUnknown tlist old new)
    (atPos : tlist[pos]? = some old) {criterion : Criterion E D} {skylineof : SkylineOf}
    (resolved : resolveUnknownExpr analysis resolveUnknown criterion.expr = criterion.expr)
    (stands : Stands tlist criterion skylineof) :
    Stands (tlist.set pos new) criterion skylineof := by
  rcases List.getElem?_eq_some_iff.mp atPos with ⟨inRange, isOld⟩
  rcases stands.entry with ⟨tle, tleMem, sameRef, sameExpr⟩
  rcases List.getElem?_of_mem tleMem with ⟨index, atIndex⟩
  refine ⟨stands.skylineop, stands.nullsFirst, stands.skylineofDir, stands.ref_ne_zero, ?_⟩
  by_cases here : pos = index
  · subst here
    rw [atPos, Option.some.injEq] at atIndex
    subst atIndex
    refine ⟨new, List.mem_set inRange new, ?_, ?_⟩
    · rcases resolves.ref with kept | ⟨unmarked, _⟩
      · rw [kept, sameRef]
      · exact absurd (sameRef ▸ unmarked) stands.ref_ne_zero
    · rw [resolves.expr, sameExpr, resolved]
  · have stays : (tlist.set pos new)[index]? = some tle := by
      rw [List.getElem?_set_ne here, atIndex]
    exact ⟨tle, List.mem_of_getElem? stays, sameRef, sameExpr⟩

end Resolves

/-! ## One item -/

/-- The operator of an item goes by the order that the item asks for. -/
theorem determineSkylineop_spec {catalog : Catalog D} {order : Oid → D → D → Int}
    (orders : catalog.Orders order) {item : SkylineOfExpr N} {restype skylineop : Oid}
    {reverse : Bool}
    (chosen : determineSkylineop catalog restype item.skylineofDir item.useOp =
      .ok (skylineop, reverse)) :
    ∃ cmpfunc, itemOrder catalog order item restype = some (skylineop, cmpfunc, reverse) ∧
      catalog.getCompareFunctionForOrderingOp skylineop = .ok (some (cmpfunc, reverse)) := by
  have byLess : (do return (← catalog.orderingOperOpid restype, false)) =
      (.ok (skylineop, reverse) : Except Fault _) →
      catalog.ltOpr restype = some skylineop ∧ reverse = false := by
    intro chosen
    cases less : catalog.ltOpr restype with
    | none => simp [Catalog.orderingOperOpid, less] at chosen
    | some opno => simpa [Catalog.orderingOperOpid, less, eq_comm] using chosen
  have byGreater : (do return (← catalog.reverseOrderingOperOpid restype, true)) =
      (.ok (skylineop, reverse) : Except Fault _) →
      catalog.gtOpr restype = some skylineop ∧ reverse = true := by
    intro chosen
    cases greater : catalog.gtOpr restype with
    | none => simp [Catalog.reverseOrderingOperOpid, greater] at chosen
    | some opno => simpa [Catalog.reverseOrderingOperOpid, greater, eq_comm] using chosen
  rcases item with ⟨node, dir, nulls, useOp⟩
  cases dir with
  | default | min | diff =>
      rcases byLess chosen with ⟨less, rfl⟩
      exact ⟨order restype, by simp [itemOrder, less], orders.lt less⟩
  | max =>
      rcases byGreater chosen with ⟨greater, rfl⟩
      exact ⟨order restype, by simp [itemOrder, greater], orders.gt greater⟩
  | _ =>
      simp only [determineSkylineop, bind_eq_ok_iff] at chosen
      rcases chosen with ⟨_, _, opno, compatible, found, properties, chosen⟩
      cases found with
      | none => cases chosen
      | some cmpfunc =>
          rcases cmpfunc with ⟨cmpfunc, isReverse⟩
          cases chosen
          exact ⟨cmpfunc, by simp [itemOrder, compatible, properties], properties⟩

/-- The item is kept under a new number in the clause, or its entry has an item with the
same operator or the commutator. -/
inductive KeptOrDropped (catalog : Catalog D) (restype : Oid) (criterion : Criterion E D)
    (ref : Nat) (resultlist : List SkylineOf) : List SkylineOf → Prop where
  | kept (marked : ref ≠ 0) : KeptOrDropped catalog restype criterion ref resultlist
      (resultlist ++ [⟨ref, restype, criterion.skylineop, criterion.nullsFirst,
        criterion.skylineofDir⟩])
  | dropped {skylineof : SkylineOf} (present : skylineof ∈ resultlist)
      (marked : ref ≠ 0) (sameRef : skylineof.tleSortGroupRef = ref)
      (sameOp : criterion.skylineop = skylineof.skylineop ∨
        criterion.skylineop = catalog.getCommutator skylineof.skylineop) :
      KeptOrDropped catalog restype criterion ref resultlist resultlist

section Item

variable {catalog : Catalog D} {order : Oid → D → D → Int} (orders : catalog.Orders order)
  {analysis : ExprAnalysis N E} {resolveUnknown : Bool}
  (toText : ∀ expr, analysis.exprType (analysis.coerceToText expr) = textOid)

/-- A criterion of the query: its operator orders and its expression is resolved. -/
structure Criterion.Lawful (catalog : Catalog D) (analysis : ExprAnalysis N E)
    (resolveUnknown : Bool) (criterion : Criterion E D) : Prop where
  ordering : catalog.getCompareFunctionForOrderingOp criterion.skylineop =
    .ok (some (criterion.order, criterion.largest))
  resolved : resolveUnknownExpr analysis resolveUnknown criterion.expr = criterion.expr

include orders toText

private theorem addTargetToSkylineList_spec {tlist : List (TargetEntry E)} {item : SkylineOfExpr N}
    {expr : E} (names : itemExpr analysis tlist item.node = some expr) {pos : Nat}
    {resultlist resultlist' : List SkylineOf} {targetlist targetlist' : List (TargetEntry E)}
    {entry : TargetEntry E} (atPos : targetlist[pos]? = some entry)
    (sameExpr : resolveUnknownExpr analysis resolveUnknown entry.expr =
      resolveUnknownExpr analysis resolveUnknown expr)
    (added : addTargetWith (targetIsInSkylineList catalog) catalog analysis resolveUnknown item
      pos resultlist targetlist = .ok (resultlist', targetlist')) :
    ∃ criterion restype new,
      itemCriterion catalog order analysis resolveUnknown tlist item = some criterion ∧
      criterion.Lawful catalog analysis resolveUnknown ∧ new.expr = criterion.expr ∧
      targetlist' = targetlist.set pos new ∧
      Resolves analysis resolveUnknown targetlist entry new ∧
      KeptOrDropped catalog restype criterion new.ressortgroupref resultlist resultlist' := by
  simp only [addTargetWith, atPos, resolveUnknownTarget_eq toText, sameExpr] at added
  rw [bind_eq_ok_iff] at added
  rcases added with ⟨⟨skylineop, reverse⟩, chosen, added⟩
  rcases determineSkylineop_spec orders chosen with ⟨cmpfunc, asks, ordering⟩
  have ordersBy : skylineop ≠ invalidOid := by
    rintro rfl
    simp [Catalog.getCompareFunctionForOrderingOp, orders.invalid] at ordering
  have idem : resolveUnknownExpr analysis resolveUnknown
      (resolveUnknownExpr analysis resolveUnknown expr) =
      resolveUnknownExpr analysis resolveUnknown expr := resolveUnknownExpr_idem toText expr
  generalize resolvedIs : resolveUnknownExpr analysis resolveUnknown expr = resolved at *
  have criterionIs : itemCriterion catalog order analysis resolveUnknown tlist item =
      some ⟨resolved, skylineop, cmpfunc, reverse, item.skylineofNulls.nullsFirst reverse,
        item.skylineofDir⟩ := by
    simp only [itemCriterion, names, Option.bind_some, resolvedIs, asks, Option.map_some]
  refine ⟨⟨resolved, skylineop, cmpfunc, reverse, item.skylineofNulls.nullsFirst reverse,
    item.skylineofDir⟩, analysis.exprType resolved, ?_⟩
  generalize updatedIs : ({ entry with expr := resolved } : TargetEntry E) = updated at *
  have same : SameTarget analysis resolveUnknown entry updated := by
    subst updatedIs
    exact ⟨rfl, rfl, rfl, idem.trans sameExpr.symm⟩
  have sameRef : updated.ressortgroupref = entry.ressortgroupref := by rw [← updatedIs]
  have isResolved : updated.expr = resolved := by rw [← updatedIs]
  split at added
  · rename_i present
    cases added
    refine ⟨updated, criterionIs, ⟨ordering, idem⟩, isResolved, rfl,
      ⟨same, isResolved.trans sameExpr.symm, Or.inl sameRef⟩, ?_⟩
    simp only [targetIsInSkylineList, Bool.and_eq_true, bne_iff_ne, List.any_eq_true, beq_iff_eq,
      Bool.or_eq_true] at present
    rcases present with ⟨marked, skylineof, itemMem, itemRef, sameOp⟩
    refine .dropped itemMem marked itemRef ?_
    rcases sameOp with (invalid | same) | commutes
    · exact absurd invalid ordersBy
    · exact Or.inl same
    · exact Or.inr commutes
  · cases added
    rw [List.set_set]
    refine ⟨{ updated with
        ressortgroupref := assignSortGroupRef updated (targetlist.set pos updated) },
      criterionIs, ⟨ordering, idem⟩, isResolved, by rw [← updatedIs],
      ⟨⟨same.resno, same.resname, same.resjunk, same.expr⟩, isResolved.trans sameExpr.symm, ?_⟩,
      .kept (assignSortGroupRef_ne_zero updated (targetlist.set pos updated))⟩
    by_cases marked : updated.ressortgroupref = 0
    · refine Or.inr ⟨sameRef.symm.trans marked, fun hasRef => ?_⟩
      apply not_hasRef_assignSortGroupRef marked (targetlist.set pos updated)
      rw [HasRef, map_set_of_eq atPos sameRef]
      exact hasRef
    · exact Or.inl ((assignSortGroupRef_of_ne_zero marked _).trans sameRef)

end Item

/-! ## The whole clause -/

/-- Every criterion is kept, or one on the same expression is that goes by the same
operator or its commutator. -/
structure KeepsCriteria (catalog : Catalog D) (written kept : List (Criterion E D)) : Prop where
  sublist : kept.Sublist written
  present : ∀ criterion ∈ written, ∃ other ∈ kept, other.expr = criterion.expr ∧
    (criterion.skylineop = other.skylineop ∨
      criterion.skylineop = catalog.getCommutator other.skylineop)

namespace KeepsCriteria

variable {catalog : Catalog D} {written kept : List (Criterion E D)} {criterion : Criterion E D}

theorem keep (keeps : KeepsCriteria catalog written kept) :
    KeepsCriteria catalog (written ++ [criterion]) (kept ++ [criterion]) where
  sublist := keeps.sublist.append (.refl _)
  present := by
    intro asked askedMem
    rcases List.mem_append.mp askedMem with old | new
    · rcases keeps.present asked old with ⟨other, otherMem, stands⟩
      exact ⟨other, List.mem_append_left _ otherMem, stands⟩
    · rw [List.mem_singleton.mp new]
      exact ⟨criterion, List.mem_append_right _ List.mem_cons_self, rfl, Or.inl rfl⟩

theorem drop (keeps : KeepsCriteria catalog written kept) {other : Criterion E D}
    (otherMem : other ∈ kept) (sameExpr : other.expr = criterion.expr)
    (sameOp : criterion.skylineop = other.skylineop ∨
      criterion.skylineop = catalog.getCommutator other.skylineop) :
    KeepsCriteria catalog (written ++ [criterion]) kept where
  sublist := keeps.sublist.trans (List.sublist_append_left _ _)
  present := by
    intro asked askedMem
    rcases List.mem_append.mp askedMem with old | new
    · exact keeps.present asked old
    · rw [List.mem_singleton.mp new]
      exact ⟨other, otherMem, sameExpr, sameOp⟩

end KeepsCriteria

/-- Between two items of the loop: the clause so far stands for the criteria `kept` of
those `written`, and the select list shows the columns it had. -/
structure Transformed (catalog : Catalog D) (analysis : ExprAnalysis N E) (resolveUnknown : Bool)
    (tlist : List (TargetEntry E)) (written kept : List (Criterion E D))
    (resultlist : List SkylineOf) (pstate : ParseState E) : Prop where
  sameColumns : SameColumns analysis resolveUnknown tlist pstate.targetlist
  wellFormed : pstate.WellFormed
  refsUnique : RefsUnique pstate.targetlist
  lawful : ∀ criterion ∈ kept, criterion.Lawful catalog analysis resolveUnknown
  stands : List.Forall₂ (Stands pstate.targetlist) kept resultlist
  keeps : KeepsCriteria catalog written kept

namespace Transformed

variable {catalog : Catalog D} {analysis : ExprAnalysis N E} {resolveUnknown : Bool}
  {tlist : List (TargetEntry E)} {written kept : List (Criterion E D)}
  {resultlist : List SkylineOf} {pstate pstate' : ParseState E}

private theorem grow (transformed : Transformed catalog analysis resolveUnknown tlist written kept
      resultlist pstate)
    (grows : Grows pstate.targetlist pstate'.targetlist) (wellFormed : pstate'.WellFormed) :
    Transformed catalog analysis resolveUnknown tlist written kept resultlist pstate' := by
  generalize targetlistIs : pstate'.targetlist = targetlist at grows
  have subset : pstate.targetlist ⊆ targetlist := by
    cases grows with
    | same => exact List.Subset.refl _
    | junk tle => exact List.subset_append_left _ _
  refine ⟨?_, wellFormed, ?_, transformed.lawful, ?_, transformed.keeps⟩
  · rw [targetlistIs]
    cases grows with
    | same => exact transformed.sameColumns
    | junk tle _ isJunk => exact transformed.sameColumns.trans (.append_junk isJunk)
  · rw [targetlistIs]
    cases grows with
    | same => exact transformed.refsUnique
    | junk tle unmarked => exact transformed.refsUnique.append_unmarked unmarked
  · rw [targetlistIs]
    refine transformed.stands.imp fun criterion skylineof stands => ?_
    rcases stands.entry with ⟨tle, tleMem, found⟩
    exact ⟨stands.skylineop, stands.nullsFirst, stands.skylineofDir, stands.ref_ne_zero,
      tle, subset tleMem, found⟩

/-- What `addTargetToSkylineList` does to the clause. -/
theorem add (transformed : Transformed catalog analysis resolveUnknown tlist written kept
      resultlist pstate)
    {pos : Nat} {entry new : TargetEntry E} (atPos : pstate.targetlist[pos]? = some entry)
    (resolves : Resolves analysis resolveUnknown pstate.targetlist entry new)
    {criterion : Criterion E D} (lawful : criterion.Lawful catalog analysis resolveUnknown)
    (newExpr : new.expr = criterion.expr) {restype : Oid} {resultlist' : List SkylineOf}
    (outcome : KeptOrDropped catalog restype criterion new.ressortgroupref resultlist
      resultlist') :
    ∃ kept', Transformed catalog analysis resolveUnknown tlist (written ++ [criterion]) kept'
      resultlist' { pstate with targetlist := pstate.targetlist.set pos new } := by
  have sameColumns := transformed.sameColumns.trans (.set atPos resolves.same)
  have wellFormed := resolves.wellFormed atPos transformed.wellFormed
  have refsUnique := resolves.refsUnique atPos transformed.refsUnique
  have newMem : new ∈ pstate.targetlist.set pos new :=
    List.mem_set (List.getElem?_eq_some_iff.mp atPos).1 new
  have stands : List.Forall₂ (Stands (pstate.targetlist.set pos new)) kept resultlist := by
    have both := (List.forall₂_and_left kept resultlist).mpr
      ⟨fun criterion mem => (transformed.lawful criterion mem).resolved, transformed.stands⟩
    exact both.imp fun criterion skylineof each => resolves.stands atPos each.1 each.2
  cases outcome with
  | kept marked =>
      refine ⟨kept ++ [criterion], sameColumns, wellFormed, refsUnique, ?_, ?_,
        transformed.keeps.keep⟩
      · intro asked askedMem
        rcases List.mem_append.mp askedMem with old | isNew
        · exact transformed.lawful asked old
        · rwa [List.mem_singleton.mp isNew]
      · exact List.rel_append stands
          (.cons ⟨rfl, rfl, rfl, marked, new, newMem, rfl, newExpr⟩ .nil)
  | @dropped skylineof present marked sameRef sameOp =>
      refine ⟨kept, sameColumns, wellFormed, refsUnique, transformed.lawful, stands, ?_⟩
      -- The entry of the earlier item is the one just overwritten.
      rcases List.getElem_of_mem present with ⟨index, inRange, rfl⟩
      have inKept : index < kept.length := stands.length_eq ▸ inRange
      have earlier := stands.get inKept inRange
      rcases earlier.entry with ⟨tle, tleMem, tleRef, tleExpr⟩
      have isNew := refsUnique.eq_of_mem tleMem newMem (tleRef ▸ earlier.ref_ne_zero)
        (tleRef.trans sameRef)
      apply transformed.keeps.drop (List.get_mem kept ⟨index, inKept⟩)
      · rw [← tleExpr, isNew, newExpr]
      · rw [← earlier.skylineop]
        exact sameOp

end Transformed

/-- A search that only one entry answers finds it. -/
theorem find?_eq_some_of_unique {tlist : List (TargetEntry E)} {p : TargetEntry E → Bool}
    {tle : TargetEntry E} (tleMem : tle ∈ tlist) (answers : p tle = true)
    (unique : ∀ other ∈ tlist, p other = true → other = tle) : tlist.find? p = some tle := by
  cases found : tlist.find? p with
  | none => exact absurd answers (List.find?_eq_none.mp found tle tleMem)
  | some other =>
      rw [unique other (List.mem_of_find?_eq_some found) (List.find?_some found)]

/-- The column of an item that stands for a criterion. -/
theorem Stands.exists_col {catalog : Catalog D} {tlist : List (TargetEntry E)}
    {criterion : Criterion E D} {skylineof : SkylineOf}
    (stands : Stands tlist criterion skylineof) (refsUnique : RefsUnique tlist)
    (resnoNodup : (tlist.map TargetEntry.resno).Nodup)
    (ordering : catalog.getCompareFunctionForOrderingOp criterion.skylineop =
      .ok (some (criterion.order, criterion.largest))) :
    ∃ col, makeSkylineCol catalog tlist skylineof = .ok col ∧
      ∀ {Row : Type} (eval : E → Row → Option D), Compares eval tlist criterion col := by
  rcases stands.entry with ⟨tle, tleMem, sameRef, sameExpr⟩
  have byRef : tlist.find? (fun tle => tle.ressortgroupref == skylineof.tleSortGroupRef) =
      some tle := by
    apply find?_eq_some_of_unique tleMem (by simp [sameRef])
    intro other otherMem answers
    have otherRef : other.ressortgroupref = skylineof.tleSortGroupRef := by simpa using answers
    exact refsUnique.eq_of_mem otherMem tleMem (otherRef ▸ stands.ref_ne_zero)
      (otherRef.trans sameRef.symm)
  have byResno : tlist.find? (fun other => other.resno == tle.resno) = some tle := by
    apply find?_eq_some_of_unique tleMem (by simp)
    intro other otherMem answers
    exact List.inj_on_of_nodup_map resnoNodup otherMem tleMem (by simpa using answers)
  refine ⟨⟨tle.resno, criterion.order, ⟨criterion.largest, criterion.nullsFirst⟩,
    criterion.skylineofDir⟩, ?_, fun eval => ⟨fun row => ?_, rfl, rfl, rfl⟩⟩
  · simp only [makeSkylineCol, getSkylineclauseTle, byRef, Catalog.selectSortFunction,
      stands.skylineop, ordering, ok_bind, pure_eq_ok, stands.nullsFirst, stands.skylineofDir]
  · rw [resultAttr, byResno, Option.bind_some, sameExpr]

section Clause

variable [DecidableEq E] {catalog : Catalog D} {order : Oid → D → D → Int}
  (orders : catalog.Orders order) {analysis : ExprAnalysis N E} {resolveUnknown : Bool}
  (toText : ∀ expr, analysis.exprType (analysis.coerceToText expr) = textOid)

include orders toText

/-- The loop of `transformSkylineClause`: induction on the items, with the clause so far. -/
theorem transformItems_transformed {tlist : List (TargetEntry E)} {items : List (SkylineOfExpr N)}
    {written kept : List (Criterion E D)} {resultlist resultlist' : List SkylineOf}
    {pstate pstate' : ParseState E}
    (transformed : Transformed catalog analysis resolveUnknown tlist written kept resultlist
      pstate)
    (run : transformItemsWith (targetIsInSkylineList catalog) catalog analysis resolveUnknown items
      resultlist pstate = .ok (resultlist', pstate')) :
    ∃ later kept',
      items.mapM (itemCriterion catalog order analysis resolveUnknown tlist) = some later ∧
      Transformed catalog analysis resolveUnknown tlist (written ++ later) kept' resultlist'
        pstate' := by
  induction items generalizing written kept resultlist pstate with
  | nil =>
      cases run
      exact ⟨[], kept, rfl, by rwa [List.append_nil]⟩
  | cons item items ih =>
      rcases transformItemsWith_cons_eq_ok run with
        ⟨pos, found, resultlist₁, targetlist₁, find, add, rest⟩
      rcases findTargetlistEntry_itemExpr transformed.sameColumns find with
        ⟨grows, entry, expr, atPos, names, sameExpr⟩
      have grown := transformed.grow grows (findTargetlistEntry_spec find transformed.wellFormed).1
      rcases addTargetToSkylineList_spec orders toText names atPos sameExpr add with
        ⟨criterion, restype, new, asks, lawful, newExpr, rfl, resolves, outcome⟩
      rcases grown.add atPos resolves lawful newExpr outcome with ⟨kept₁, added⟩
      rcases ih added rest with ⟨later, kept', each, final⟩
      refine ⟨criterion :: later, kept', ?_, ?_⟩
      · rw [List.mapM_cons, asks, Option.bind_eq_bind, Option.bind_some, each]
        rfl
      · rwa [List.append_assoc] at final

omit [DecidableEq E] orders toText in
/-- The columns of the clause compare as the criteria ask. -/
theorem Transformed.exists_cols {tlist : List (TargetEntry E)}
    {written kept : List (Criterion E D)} {resultlist : List SkylineOf} {pstate : ParseState E}
    (transformed : Transformed catalog analysis resolveUnknown tlist written kept resultlist
      pstate) :
    ∃ cols, makeSkylineCols catalog pstate.targetlist resultlist = .ok cols ∧
      ∀ {Row : Type} (eval : E → Row → Option D),
        List.Forall₂ (Compares eval pstate.targetlist) kept cols := by
  have both := (List.forall₂_and_left kept resultlist).mpr
    ⟨fun criterion mem => (transformed.lawful criterion mem).ordering, transformed.stands⟩
  have refsUnique := transformed.refsUnique
  have resnoNodup := transformed.wellFormed.resno_nodup
  clear transformed
  induction both with
  | nil => exact ⟨[], rfl, fun eval => .nil⟩
  | cons each _ ih =>
      rcases each.2.exists_col refsUnique resnoNodup each.1 with ⟨col, made, compares⟩
      rcases ih with ⟨cols, colsMade, comparesRest⟩
      refine ⟨col :: cols, ?_, fun eval => .cons (compares eval) (comparesRest eval)⟩
      rw [makeSkylineCols, List.mapM_cons, made, ok_bind]
      rw [makeSkylineCols] at colsMade
      rw [colsMade]
      rfl

theorem transformSkylineClause_transformed {sbc : SkylineOfClause N}
    {pstate pstate' : ParseState E} (wellFormed : pstate.WellFormed)
    (refsUnique : RefsUnique pstate.targetlist) {clause : SkylineClause}
    (ok : transformSkylineClause catalog analysis resolveUnknown sbc pstate =
      .ok (clause, pstate')) :
    clause.skylineDistinct = sbc.skylineDistinct ∧ ∃ written kept,
      sbc.skylineOfList.mapM
        (itemCriterion catalog order analysis resolveUnknown pstate.targetlist) = some written ∧
      Transformed catalog analysis resolveUnknown pstate.targetlist written kept
        clause.skylineOfList pstate' := by
  rw [transformSkylineClause, transformClauseWith, bind_eq_ok_iff] at ok
  rcases ok with ⟨⟨resultlist, last⟩, run, made⟩
  cases made
  have start : Transformed catalog analysis resolveUnknown pstate.targetlist [] [] [] pstate :=
    ⟨.refl _, wellFormed, refsUnique, by simp, .nil, ⟨List.Sublist.refl _, by simp⟩⟩
  rcases transformItems_transformed orders toText start run with ⟨written, kept, each, final⟩
  exact ⟨rfl, written, kept, each, final⟩

/-- `transformSkylineClause` says in columns what the items ask for: a row of the result
dominates another exactly if it is better by the criteria kept, and a criterion is dropped
only for one that is kept on the same expression with its operator or the commutator. -/
theorem transformSkylineClause_means {sbc : SkylineOfClause N} {pstate pstate' : ParseState E}
    (wellFormed : pstate.WellFormed) (refsUnique : RefsUnique pstate.targetlist)
    {clause : SkylineClause}
    (ok : transformSkylineClause catalog analysis resolveUnknown sbc pstate =
      .ok (clause, pstate')) :
    SameColumns analysis resolveUnknown pstate.targetlist pstate'.targetlist ∧
    ∃ written kept cols,
      sbc.skylineOfList.mapM
        (itemCriterion catalog order analysis resolveUnknown pstate.targetlist) = some written ∧
      KeepsCriteria catalog written kept ∧
      makeSkylineCols catalog pstate'.targetlist clause.skylineOfList = .ok cols ∧
      ∀ {Row : Type} (eval : E → Row → Option D) (x y : Row),
        (Dominates (resultAttr eval pstate'.targetlist) cols x y ↔ IsBetterRow eval kept x y) ∧
        (AllEq (resultAttr eval pstate'.targetlist) cols x y ↔ ∀ criterion ∈ kept,
          criterion.Equal (eval criterion.expr x) (eval criterion.expr y)) := by
  rcases transformSkylineClause_transformed orders toText wellFormed refsUnique ok with
    ⟨_, written, kept, each, final⟩
  rcases final.exists_cols with ⟨cols, colsMade, compares⟩
  exact ⟨final.sameColumns, written, kept, cols, each, final.keeps, colsMade, fun eval x y =>
    ⟨dominates_iff_isBetterRow (compares eval) x y, allEq_iff_equal (compares eval) x y⟩⟩

end Clause

/-! ## Integer columns and literals -/

theorem orders_integerCatalog : integerCatalog.Orders fun _ => intCompare where
  lt := by
    intro argtype opno less
    by_cases integer : argtype = 23
    · simp only [integerCatalog, if_pos integer, Option.some.injEq] at less
      subst less
      rfl
    · simp [integerCatalog, integer] at less
  gt := by
    intro argtype opno greater
    by_cases integer : argtype = 23
    · simp only [integerCatalog, if_pos integer, Option.some.injEq] at greater
      subst greater
      rfl
    · simp [integerCatalog, integer] at greater
  invalid := rfl

/-- Expressions below 100 are integer columns, below 200 UNKNOWN literals, the others
literals of type TEXT. -/
def literalAnalysis : ExprAnalysis Nat Nat where
  transformExpr
    | .other expr => .ok expr
    | _ => .error (.elog "column does not exist")
  exprType expr := if expr < 100 then 23 else if expr < 200 then unknownOid else textOid
  coerceToText expr := expr + 200

theorem exprType_coerceToText (expr : Nat) :
    literalAnalysis.exprType (literalAnalysis.coerceToText expr) = textOid := by
  have notColumn : ¬ expr + 200 < 100 := by omega
  have notUnknown : ¬ expr + 200 < 200 := by omega
  simp only [literalAnalysis, if_neg notColumn, if_neg notUnknown]

private theorem refsUnique_selectAB : RefsUnique selectAB.targetlist := by
  intro at₁ at₂ tle₁ tle₂ first _ marked _
  have unmarked : ∀ tle ∈ selectAB.targetlist, tle.ressortgroupref = 0 := by decide
  exact absurd (unmarked tle₁ (List.mem_of_getElem? first)) marked

/-- `SELECT a, b ... SKYLINE OF a MIN, 2 MAX, a USING >, c DIFF`: the third item is dropped
for the first, and the last makes a junk entry. -/
theorem transformSkylineClause_means_junk :
    let sbc : SkylineOfClause Nat :=
      ⟨false, [⟨.columnRef ["a"], .min, .default, []⟩, ⟨.aConst (.integer 2), .max, .last, []⟩,
        ⟨.other 1, .using, .default, [">"]⟩, ⟨.other 3, .diff, .default, []⟩], []⟩
    ∃ clause pstate',
      transformSkylineClause integerCatalog literalAnalysis true sbc selectAB =
        .ok (clause, pstate') ∧
      clause.skylineOfList.length = 3 ∧ pstate'.targetlist.length = 3 ∧
      SameColumns literalAnalysis true selectAB.targetlist pstate'.targetlist ∧
      ∃ written kept cols,
        sbc.skylineOfList.mapM (itemCriterion integerCatalog (fun _ => intCompare)
          literalAnalysis true selectAB.targetlist) = some written ∧
        KeepsCriteria integerCatalog written kept ∧
        makeSkylineCols integerCatalog pstate'.targetlist clause.skylineOfList = .ok cols ∧
        ∀ {Row : Type} (eval : Nat → Row → Option Int) (x y : Row),
          (Dominates (resultAttr eval pstate'.targetlist) cols x y ↔ IsBetterRow eval kept x y) ∧
          (AllEq (resultAttr eval pstate'.targetlist) cols x y ↔ ∀ criterion ∈ kept,
            criterion.Equal (eval criterion.expr x) (eval criterion.expr y)) :=
  ⟨_, _, rfl, rfl, rfl, transformSkylineClause_means orders_integerCatalog exprType_coerceToText
    selectAB_wellFormed refsUnique_selectAB rfl⟩

end PgSkyline
