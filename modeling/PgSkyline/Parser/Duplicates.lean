import PgSkyline.Parser.Clause
import Mathlib.Data.List.Nodup

/-!
# The items the duplicate test keeps

The transformation that drops duplicates and the one that keeps every item build
the same target list.  If the operators of each column are the two members of one
family, the items kept are the first ones on each target.
-/

namespace PgSkyline

variable {N E D : Type}

/-! ## Target lists -/

/-- Attribute numbers are unique, and the next one is unused. -/
structure ParseState.WellFormed (pstate : ParseState E) : Prop where
  resno_lt : ∀ tle ∈ pstate.targetlist, tle.resno < pstate.pNextResno
  resno_nodup : (pstate.targetlist.map TargetEntry.resno).Nodup

/-- Some entry of the target list has the reference number. -/
def HasRef (tlist : List (TargetEntry E)) (ref : Nat) : Prop :=
  ref ∈ tlist.map TargetEntry.ressortgroupref

/-- Overwriting an entry by one with the same field keeps the list of the fields. -/
theorem map_set_of_eq {A B : Type} {f : A → B} {items : List A} {pos : Nat} {old new : A}
    (atPos : items[pos]? = some old) (same : f new = f old) :
    (items.set pos new).map f = items.map f := by
  rcases List.getElem?_eq_some_iff.mp atPos with ⟨inRange, rfl⟩
  rw [List.map_set, same]
  apply List.ext_getElem?
  intro other
  rcases Decidable.em (pos = other) with rfl | apart
  · simp [inRange]
  · simp [apart]

private theorem le_foldl_maxRefStep (tlist : List (TargetEntry E)) (start : Nat) :
    start ≤ tlist.foldl maxRefStep start := by
  induction tlist generalizing start with
  | nil => exact Nat.le_refl start
  | cons tle rest ih =>
      apply Nat.le_trans _ (ih (maxRefStep start tle))
      unfold maxRefStep
      split <;> omega

private theorem le_foldl_maxRefStep_of_mem {tlist : List (TargetEntry E)} {tle : TargetEntry E}
    (tleMem : tle ∈ tlist) (start : Nat) :
    tle.ressortgroupref ≤ tlist.foldl maxRefStep start := by
  induction tlist generalizing start with
  | nil => simp at tleMem
  | cons first rest ih =>
      rcases List.mem_cons.mp tleMem with rfl | restMem
      · apply Nat.le_trans _ (le_foldl_maxRefStep rest (maxRefStep start tle))
        unfold maxRefStep
        split <;> omega
      · exact ih restMem _

theorem le_maxRef {tlist : List (TargetEntry E)} {ref : Nat} (hasRef : HasRef tlist ref) :
    ref ≤ maxRef tlist := by
  rcases List.mem_map.mp hasRef with ⟨tle, tleMem, rfl⟩
  exact le_foldl_maxRefStep_of_mem tleMem 0

theorem assignSortGroupRef_ne_zero (tle : TargetEntry E) (tlist : List (TargetEntry E)) :
    assignSortGroupRef tle tlist ≠ 0 := by
  unfold assignSortGroupRef
  split <;> omega

theorem assignSortGroupRef_of_ne_zero {tle : TargetEntry E} (marked : tle.ressortgroupref ≠ 0)
    (tlist : List (TargetEntry E)) : assignSortGroupRef tle tlist = tle.ressortgroupref :=
  if_pos marked

/-- A new reference number is one no entry has. -/
theorem not_hasRef_assignSortGroupRef {tle : TargetEntry E} (unmarked : tle.ressortgroupref = 0)
    (tlist : List (TargetEntry E)) : ¬ HasRef tlist (assignSortGroupRef tle tlist) := by
  intro hasRef
  have le := le_maxRef hasRef
  rw [assignSortGroupRef, if_neg (not_not_intro unmarked)] at le
  omega

/-- The search finds an entry and at most appends a new one. -/
theorem findTargetlistEntry_spec [DecidableEq E] {analysis : ExprAnalysis N E} {node : Node N}
    {pstate pstate' : ParseState E} {pos : Nat}
    (found : findTargetlistEntry analysis node pstate = .ok (pos, pstate'))
    (wellFormed : pstate.WellFormed) :
    pstate'.WellFormed ∧ pstate.targetlist <+: pstate'.targetlist := by
  have ofExpr : findExpr analysis node pstate = .ok (pos, pstate') →
      pstate'.WellFormed ∧ pstate.targetlist <+: pstate'.targetlist := by
    intro found
    rw [findExpr, bind_eq_ok_iff] at found
    rcases found with ⟨expr, _, found⟩
    cases index : pstate.targetlist.findIdx? fun tle => decide (expr = tle.expr) with
    | some old =>
        simp only [index, pure_eq_ok, Except.ok.injEq, Prod.mk.injEq] at found
        rw [← found.2]
        exact ⟨wellFormed, List.prefix_rfl⟩
    | none =>
        simp only [index, pure_eq_ok, Except.ok.injEq, Prod.mk.injEq] at found
        rw [← found.2]
        refine ⟨⟨?_, ?_⟩, List.prefix_append _ _⟩
        · intro tle tleMem
          rcases List.mem_append.mp tleMem with old | new
          · exact Nat.lt_succ_of_lt (wellFormed.resno_lt tle old)
          · rw [List.mem_singleton.mp new]
            exact Nat.lt_succ_self _
        · rw [List.map_append, List.nodup_append]
          refine ⟨wellFormed.resno_nodup, List.nodup_singleton _, ?_⟩
          intro resno old new newMem equal
          rcases List.mem_map.mp old with ⟨tle, tleMem, rfl⟩
          have less := wellFormed.resno_lt tle tleMem
          have next := List.mem_singleton.mp newMem
          simp only at next
          omega
  match node, found with
  | .columnRef [], found => exact ofExpr found
  | .columnRef [name], found =>
      simp only [findTargetlistEntry] at found
      rw [bind_eq_ok_iff] at found
      rcases found with ⟨hit, _, found⟩
      cases hit with
      | none => exact ofExpr found
      | some old =>
          cases found
          exact ⟨wellFormed, List.prefix_rfl⟩
  | .columnRef (_ :: _ :: _), found => exact ofExpr found
  | .aConst (.integer targetPos), found =>
      simp only [findTargetlistEntry] at found
      cases position : findPosition targetPos pstate.targetlist 0 0 with
      | none => simp [position] at found
      | some old =>
          simp only [position, Except.ok.injEq, Prod.mk.injEq] at found
          rw [← found.2]
          exact ⟨wellFormed, List.prefix_rfl⟩
  | .aConst (.float _), found => cases found
  | .aConst (.string _), found => cases found
  | .other _, found => exact ofExpr found

theorem marked_of_targetIsInSkylineList {catalog : Catalog D} {tle : TargetEntry E}
    {skylineop : Oid} {skylineList : List SkylineOf}
    (present : targetIsInSkylineList catalog tle skylineop skylineList = true) :
    tle.ressortgroupref ≠ 0 := by
  simp only [targetIsInSkylineList, Bool.and_eq_true, bne_iff_ne] at present
  exact present.1

/-! ## One item -/

theorem resolveUnknownTarget_fields (analysis : ExprAnalysis N E) (resolveUnknown : Bool)
    (tle : TargetEntry E) :
    (resolveUnknownTarget analysis resolveUnknown tle).1.resno = tle.resno ∧
      (resolveUnknownTarget analysis resolveUnknown tle).1.ressortgroupref =
        tle.ressortgroupref := by
  unfold resolveUnknownTarget
  dsimp only
  split <;> exact ⟨rfl, rfl⟩

/-- What `addTargetToSkylineList` adds for a target list entry, and the target list
it leaves behind, whether or not the item is dropped. -/
structure Adds (targetlist targetlist' : List (TargetEntry E)) (tle : TargetEntry E)
    (skylineof : SkylineOf) : Prop where
  entry : ∃ pos entry, targetlist[pos]? = some entry ∧ entry.resno = tle.resno ∧
    entry.ressortgroupref = tle.ressortgroupref ∧
    targetlist' = targetlist.set pos { tle with ressortgroupref := skylineof.tleSortGroupRef }
  ref_ne_zero : skylineof.tleSortGroupRef ≠ 0
  ref_marked : tle.ressortgroupref ≠ 0 → skylineof.tleSortGroupRef = tle.ressortgroupref
  ref_fresh : tle.ressortgroupref = 0 → ¬ HasRef targetlist skylineof.tleSortGroupRef

/-- One item with and without the duplicate test. -/
theorem addTargetWith_spec {catalog : Catalog D} {analysis : ExprAnalysis N E}
    {resolveUnknown : Bool} {item : SkylineOfExpr N} {pos : Nat} {full full' : List SkylineOf}
    {targetlist targetlist' : List (TargetEntry E)}
    (added : addTargetWith (fun _ _ _ => false) catalog analysis resolveUnknown item pos full
      targetlist = .ok (full', targetlist')) :
    ∃ tle skylineof, full' = full ++ [skylineof] ∧ Adds targetlist targetlist' tle skylineof ∧
      ∀ (isInList : DuplicateTest E) (kept : List SkylineOf),
        (isInList tle skylineof.skylineop kept = true → tle.ressortgroupref ≠ 0) →
        addTargetWith isInList catalog analysis resolveUnknown item pos kept targetlist =
          .ok (if isInList tle skylineof.skylineop kept then kept else kept ++ [skylineof],
            targetlist') := by
  unfold addTargetWith at added ⊢
  cases atPos : targetlist[pos]? with
  | none => simp [atPos] at added
  | some entry =>
      simp only [atPos] at added ⊢
      rcases resolveUnknownTarget_fields analysis resolveUnknown entry with ⟨sameResno, sameRef⟩
      generalize resolveUnknownTarget analysis resolveUnknown entry = resolved at *
      rcases resolved with ⟨tle, restype⟩
      cases operator : determineSkylineop catalog restype item.skylineofDir item.useOp with
      | error fault => simp [operator] at added
      | ok chosen =>
          rcases chosen with ⟨skylineop, reverse⟩
          simp only [operator, ok_bind, Bool.false_eq_true, if_false, pure_eq_ok, Except.ok.injEq,
            Prod.mk.injEq, List.set_set] at added ⊢
          rcases added with ⟨rfl, rfl⟩
          refine ⟨tle, _, rfl, ⟨⟨pos, entry, atPos, sameResno.symm, sameRef.symm, rfl⟩,
            assignSortGroupRef_ne_zero tle _, fun marked => assignSortGroupRef_of_ne_zero marked _,
            fun unmarked hasRef => ?_⟩, ?_⟩
          · apply not_hasRef_assignSortGroupRef unmarked (targetlist.set pos tle)
            rwa [HasRef, map_set_of_eq atPos sameRef]
          · intro isInList kept marked
            by_cases present : isInList tle skylineop kept = true
            · simp only [present, if_true, assignSortGroupRef_of_ne_zero (marked present)]
            · simp only [present]
              rfl

/-- An item is rejected before the duplicate test. -/
theorem addTargetWith_error {catalog : Catalog D} {analysis : ExprAnalysis N E}
    {resolveUnknown : Bool} {item : SkylineOfExpr N} {pos : Nat} {full : List SkylineOf}
    {targetlist : List (TargetEntry E)} {fault : Fault}
    (rejected : addTargetWith (fun _ _ _ => false) catalog analysis resolveUnknown item pos full
      targetlist = .error fault) (isInList : DuplicateTest E) (kept : List SkylineOf) :
    addTargetWith isInList catalog analysis resolveUnknown item pos kept targetlist =
      .error fault := by
  unfold addTargetWith at rejected ⊢
  cases atPos : targetlist[pos]? with
  | none => simpa only [atPos] using rejected
  | some entry =>
      simp only [atPos] at rejected ⊢
      generalize resolveUnknownTarget analysis resolveUnknown entry = resolved at *
      cases operator : determineSkylineop catalog resolved.2 item.skylineofDir item.useOp with
      | error fault => simpa [operator] using rejected
      | ok chosen => simp [operator] at rejected

namespace Adds

variable {targetlist targetlist' : List (TargetEntry E)} {tle : TargetEntry E}
  {skylineof : SkylineOf}

theorem map_resno (adds : Adds targetlist targetlist' tle skylineof) :
    targetlist'.map TargetEntry.resno = targetlist.map TargetEntry.resno := by
  rcases adds.entry with ⟨pos, entry, atPos, sameResno, _, rfl⟩
  exact map_set_of_eq atPos sameResno.symm

private theorem hasRef_self (adds : Adds targetlist targetlist' tle skylineof) :
    HasRef targetlist' skylineof.tleSortGroupRef := by
  rcases adds.entry with ⟨pos, entry, atPos, _, _, rfl⟩
  rcases List.getElem?_eq_some_iff.mp atPos with ⟨inRange, _⟩
  apply List.mem_map.mpr
  exact ⟨_, List.mem_set inRange _, rfl⟩

/-- Reference numbers in use stay in use. -/
theorem hasRef (adds : Adds targetlist targetlist' tle skylineof) {ref : Nat}
    (used : ref ≠ 0) (hasRef : HasRef targetlist ref) : HasRef targetlist' ref := by
  by_cases marked : tle.ressortgroupref = 0
  · rcases adds.entry with ⟨pos, entry, atPos, _, sameRef, rfl⟩
    rcases List.mem_map.mp hasRef with ⟨other, otherMem, rfl⟩
    rcases List.getElem?_of_mem otherMem with ⟨at', otherAt⟩
    have apart : pos ≠ at' := by
      rintro rfl
      rw [atPos, Option.some.injEq] at otherAt
      exact used (by rw [← otherAt, sameRef, marked])
    apply List.mem_map.mpr
    exact ⟨other, List.mem_of_getElem? (by rw [List.getElem?_set_ne apart, otherAt]), rfl⟩
  · have sameMarked := adds.ref_marked marked
    rcases adds.entry with ⟨pos, entry, atPos, _, sameRef, rfl⟩
    rw [HasRef, map_set_of_eq atPos (by rw [sameRef, sameMarked])]
    exact hasRef

end Adds

/-! ## The items kept -/

/-- The first item on a target. -/
def firstOn (items : List SkylineOf) (ref : Nat) : Option SkylineOf :=
  items.find? fun item => item.tleSortGroupRef == ref

theorem firstOn_spec {items : List SkylineOf} {ref : Nat} {first : SkylineOf}
    (found : firstOn items ref = some first) : first ∈ items ∧ first.tleSortGroupRef = ref :=
  ⟨List.mem_of_find?_eq_some found, by simpa using List.find?_some found⟩

theorem firstOn_eq_none_iff {items : List SkylineOf} {ref : Nat} :
    firstOn items ref = none ↔ ∀ item ∈ items, item.tleSortGroupRef ≠ ref := by
  simp [firstOn]

private theorem firstOn_append_singleton (items : List SkylineOf) (item : SkylineOf) (ref : Nat) :
    firstOn (items ++ [item]) ref =
      (firstOn items ref).or (if item.tleSortGroupRef = ref then some item else none) := by
  unfold firstOn
  rw [List.find?_append]
  by_cases same : item.tleSortGroupRef = ref <;> simp [same]

/-- `kept` holds the first item of `full` on each target, and the targets of all
items are in the target list. -/
structure KeepsFirst (kept full : List SkylineOf) (tlist : List (TargetEntry E)) : Prop where
  mem_iff : ∀ item, item ∈ kept ↔ firstOn full item.tleSortGroupRef = some item
  ref_ne_zero : ∀ item ∈ full, item.tleSortGroupRef ≠ 0
  hasRef : ∀ item ∈ full, HasRef tlist item.tleSortGroupRef

/-- The operators on each target are the two members of one btree family. -/
def ColumnOperators (catalog : Catalog D) (items : List SkylineOf) : Prop :=
  ∀ ref, ∃ lt gt cmpfunc, catalog.OrderingPair lt gt cmpfunc ∧
    ∀ item ∈ items, item.tleSortGroupRef = ref → item.skylineop = lt ∨ item.skylineop = gt

theorem ColumnOperators.eq_or_commutator {catalog : Catalog D} {items : List SkylineOf}
    (operators : ColumnOperators catalog items) {first later : SkylineOf}
    (firstMem : first ∈ items) (laterMem : later ∈ items)
    (same : first.tleSortGroupRef = later.tleSortGroupRef) :
    later.skylineop = first.skylineop ∨
      later.skylineop = catalog.getCommutator first.skylineop := by
  rcases operators later.tleSortGroupRef with ⟨lt, gt, cmpfunc, pair, ofPair⟩
  exact pair.eq_or_commutator (ofPair first firstMem same) (ofPair later laterMem rfl)

namespace KeepsFirst

variable {catalog : Catalog D} {kept full : List SkylineOf}
  {targetlist targetlist' : List (TargetEntry E)} {tle : TargetEntry E} {skylineof : SkylineOf}

/-- The duplicate test answers whether the target has an item already. -/
theorem targetIsInSkylineList_iff (keeps : KeepsFirst kept full targetlist)
    (adds : Adds targetlist targetlist' tle skylineof)
    (operators : ColumnOperators catalog (full ++ [skylineof])) :
    targetIsInSkylineList catalog tle skylineof.skylineop kept = true ↔
      firstOn full skylineof.tleSortGroupRef ≠ none := by
  constructor
  · intro present
    simp only [targetIsInSkylineList, Bool.and_eq_true, bne_iff_ne, List.any_eq_true,
      beq_iff_eq] at present
    rcases present with ⟨marked, item, keptMem, sameRef, _⟩
    have itemMem := (firstOn_spec ((keeps.mem_iff item).mp keptMem)).1
    intro noneFound
    apply firstOn_eq_none_iff.mp noneFound item itemMem
    rw [adds.ref_marked marked, sameRef]
  · intro found
    rcases Option.ne_none_iff_exists'.mp found with ⟨first, found⟩
    rcases firstOn_spec found with ⟨firstMem, sameRef⟩
    have marked : tle.ressortgroupref ≠ 0 := by
      intro unmarked
      apply adds.ref_fresh unmarked
      rw [← sameRef]
      exact keeps.hasRef first firstMem
    have operator := operators.eq_or_commutator (List.mem_append_left [skylineof] firstMem)
      (List.mem_append_right full List.mem_cons_self) sameRef
    simp only [targetIsInSkylineList, Bool.and_eq_true, bne_iff_ne, List.any_eq_true, beq_iff_eq,
      Bool.or_eq_true]
    refine ⟨marked, first, (keeps.mem_iff first).mpr ?_, ?_, ?_⟩
    · rw [sameRef, found]
    · rw [sameRef, adds.ref_marked marked]
    · rcases operator with same | commutes
      · exact Or.inl (Or.inr same)
      · exact Or.inr commutes

/-- One item. -/
theorem add (keeps : KeepsFirst kept full targetlist)
    (adds : Adds targetlist targetlist' tle skylineof)
    (operators : ColumnOperators catalog (full ++ [skylineof])) :
    KeepsFirst
      (if targetIsInSkylineList catalog tle skylineof.skylineop kept then kept
        else kept ++ [skylineof])
      (full ++ [skylineof]) targetlist' := by
  have present := keeps.targetIsInSkylineList_iff adds operators
  constructor
  · intro item
    rw [firstOn_append_singleton]
    by_cases isPresent : targetIsInSkylineList catalog tle skylineof.skylineop kept = true
    · rw [if_pos isPresent, keeps.mem_iff]
      cases found : firstOn full item.tleSortGroupRef with
      | some first => simp
      | none =>
          have apart : skylineof.tleSortGroupRef ≠ item.tleSortGroupRef := by
            intro same
            rw [← same] at found
            exact present.mp isPresent found
          simp [apart]
    · have noneFound := not_not.mp (mt present.mpr isPresent)
      rw [if_neg isPresent, List.mem_append, keeps.mem_iff, List.mem_singleton]
      cases found : firstOn full item.tleSortGroupRef with
      | some first =>
          have apart : item ≠ skylineof := by
            rintro rfl
            rw [noneFound] at found
            cases found
          simp [apart]
      | none =>
          by_cases same : item = skylineof
          · simp [same]
          · by_cases sameRef : skylineof.tleSortGroupRef = item.tleSortGroupRef
            · simp [same, sameRef, Ne.symm same]
            · simp [same, sameRef]
  · intro item itemMem
    rcases List.mem_append.mp itemMem with old | new
    · exact keeps.ref_ne_zero item old
    · rw [List.mem_singleton.mp new]
      exact adds.ref_ne_zero
  · intro item itemMem
    rcases List.mem_append.mp itemMem with old | new
    · exact adds.hasRef (keeps.ref_ne_zero item old) (keeps.hasRef item old)
    · rw [List.mem_singleton.mp new]
      exact adds.hasRef_self

theorem of_prefix (keeps : KeepsFirst kept full targetlist)
    (isPrefix : targetlist <+: targetlist') : KeepsFirst kept full targetlist' where
  mem_iff := keeps.mem_iff
  ref_ne_zero := keeps.ref_ne_zero
  hasRef item itemMem := by
    rcases List.mem_map.mp (keeps.hasRef item itemMem) with ⟨tle, tleMem, sameRef⟩
    exact List.mem_map.mpr ⟨tle, isPrefix.subset tleMem, sameRef⟩

end KeepsFirst

/-! ## The whole list -/

section Run

variable [DecidableEq E] {catalog : Catalog D} {analysis : ExprAnalysis N E}
  {resolveUnknown : Bool} {items : List (SkylineOfExpr N)}

/-- The two parts of one round of the loop. -/
theorem transformItemsWith_cons_eq_ok {isInList : DuplicateTest E} {item : SkylineOfExpr N}
    {resultlist full : List SkylineOf} {pstate pstate' : ParseState E}
    (run : transformItemsWith isInList catalog analysis resolveUnknown (item :: items) resultlist
      pstate = .ok (full, pstate')) :
    ∃ pos found resultlist' targetlist,
      findTargetlistEntry analysis item.node pstate = .ok (pos, found) ∧
      addTargetWith isInList catalog analysis resolveUnknown item pos resultlist
        found.targetlist = .ok (resultlist', targetlist) ∧
      transformItemsWith isInList catalog analysis resolveUnknown items resultlist'
        { found with targetlist := targetlist } = .ok (full, pstate') := by
  rw [transformItemsWith, bind_eq_ok_iff] at run
  rcases run with ⟨⟨pos, found⟩, find, run⟩
  rw [bind_eq_ok_iff] at run
  rcases run with ⟨⟨resultlist', targetlist⟩, add, run⟩
  exact ⟨pos, found, resultlist', targetlist, find, add, run⟩

private theorem subset_of_transformItemsWith {full full' : List SkylineOf}
    {pstate pstate' : ParseState E}
    (run : transformItemsWith (fun _ _ _ => false) catalog analysis resolveUnknown items full
      pstate = .ok (full', pstate')) : full ⊆ full' := by
  induction items generalizing full pstate with
  | nil =>
      cases run
      exact List.Subset.refl _
  | cons item items ih =>
      rcases transformItemsWith_cons_eq_ok run with ⟨pos, found, later, targetlist, _, add, rest⟩
      rcases addTargetWith_spec add with ⟨tle, skylineof, rfl, _, _⟩
      exact List.Subset.trans (List.subset_append_left full [skylineof]) (ih rest)

/-- A clause that the reference rejects is rejected with the same error. -/
theorem transformItemsWith_error {full : List SkylineOf} {pstate : ParseState E} {fault : Fault}
    (rejected : transformItemsWith (fun _ _ _ => false) catalog analysis resolveUnknown items full
      pstate = .error fault) (kept : List SkylineOf) :
    transformItemsWith (targetIsInSkylineList catalog) catalog analysis resolveUnknown items kept
      pstate = .error fault := by
  induction items generalizing kept full pstate with
  | nil => cases rejected
  | cons item items ih =>
      rw [transformItemsWith] at rejected ⊢
      cases find : findTargetlistEntry analysis item.node pstate with
      | error other => simpa [find] using rejected
      | ok found =>
          rcases found with ⟨pos, found⟩
          simp only [find, ok_bind] at rejected ⊢
          cases add : addTargetWith (fun _ _ _ => false) catalog analysis resolveUnknown item pos
              full found.targetlist with
          | error other =>
              rw [addTargetWith_error add]
              simpa [add] using rejected
          | ok added =>
              rcases added with ⟨full', targetlist⟩
              rcases addTargetWith_spec add with ⟨tle, skylineof, _, _, withTest⟩
              have addKept := withTest (targetIsInSkylineList catalog) kept
                marked_of_targetIsInSkylineList
              simp only [add, ok_bind] at rejected
              rw [addKept, ok_bind]
              exact ih rejected _

/-- Whatever the reference transforms, `transformSkylineClause` transforms with the
same target list, keeping the first item on each target. -/
theorem transformItemsWith_keepsFirst {kept full full' : List SkylineOf}
    {pstate pstate' : ParseState E}
    (run : transformItemsWith (fun _ _ _ => false) catalog analysis resolveUnknown items full
      pstate = .ok (full', pstate'))
    (operators : ColumnOperators catalog full') (wellFormed : pstate.WellFormed)
    (keeps : KeepsFirst kept full pstate.targetlist) :
    pstate'.WellFormed ∧ ∃ kept',
      transformItemsWith (targetIsInSkylineList catalog) catalog analysis resolveUnknown items
        kept pstate = .ok (kept', pstate') ∧ KeepsFirst kept' full' pstate'.targetlist := by
  induction items generalizing kept full pstate with
  | nil =>
      cases run
      exact ⟨wellFormed, kept, rfl, keeps⟩
  | cons item items ih =>
      rcases transformItemsWith_cons_eq_ok run with ⟨pos, found, later, targetlist, find, add, rest⟩
      rcases findTargetlistEntry_spec find wellFormed with ⟨foundWellFormed, isPrefix⟩
      rcases addTargetWith_spec add with ⟨tle, skylineof, rfl, adds, withTest⟩
      have reached := subset_of_transformItemsWith rest
      have operatorsHere : ColumnOperators catalog (full ++ [skylineof]) := by
        intro ref
        rcases operators ref with ⟨lt, gt, cmpfunc, pair, ofPair⟩
        exact ⟨lt, gt, cmpfunc, pair, fun item itemMem => ofPair item (reached itemMem)⟩
      have keepsHere := (keeps.of_prefix isPrefix).add adds operatorsHere
      have addKept := withTest (targetIsInSkylineList catalog) kept
        marked_of_targetIsInSkylineList
      have nextWellFormed : ParseState.WellFormed { found with targetlist := targetlist } := by
        constructor
        · intro tle tleMem
          have resnoMem := List.mem_map_of_mem (f := TargetEntry.resno) tleMem
          rw [adds.map_resno] at resnoMem
          rcases List.mem_map.mp resnoMem with ⟨old, oldMem, same⟩
          rw [← same]
          exact foundWellFormed.resno_lt old oldMem
        · simp only [adds.map_resno]
          exact foundWellFormed.resno_nodup
      rcases ih rest nextWellFormed keepsHere with ⟨lastWellFormed, kept', runKept, last⟩
      refine ⟨lastWellFormed, kept', ?_, last⟩
      rw [transformItemsWith, find, ok_bind]
      dsimp only
      rw [addKept, ok_bind]
      exact runKept

end Run

end PgSkyline
