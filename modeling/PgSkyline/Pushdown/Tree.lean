import PgSkyline.Pushdown.Component

/-!
# A qual inside a tree of set operations

The qual is attached to every component.  As it reads no column that is converted on the
way up, the operations combine the kept rows of the components to the kept rows of the
whole tree.
-/

namespace PgSkyline

variable {E R X J S D : Type}

/-! ## Column types -/

/-- The visible entries of a target list are numbered from 1. -/
def Numbered (tlist : List (TargetEntry E)) : Prop :=
  ∀ index tle, (visible tlist)[index]? = some tle →
    tle.resno = index + 1 ∧ getTleByResno tlist (index + 1) = some tle

/-- Lists that are related throughout are related at each position. -/
theorem exists_of_forall₂ {α β : Type} {rel : α → β → Prop} {as : List α} {bs : List β}
    (all : List.Forall₂ rel as bs) {index : Nat} {b : β} (atIndex : bs[index]? = some b) :
    ∃ a, as[index]? = some a ∧ rel a b := by
  induction all generalizing index with
  | nil => simp at atIndex
  | cons first _ ih =>
      cases index with
      | zero =>
          cases atIndex
          exact ⟨_, rfl, first⟩
      | succ index => exact ih atIndex

section CommonType

variable {types : TypeUtils} {context : String}

/-- Of equal types the common type is this type. -/
theorem selectCommonType_self {colType : Oid} (known : colType ≠ unknownOid) :
    selectCommonType types context [colType, colType] = .ok colType := by
  simp [selectCommonType, known]

private theorem selectCommonType_ne_unknown {typeids : List Oid} {colType : Oid}
    (selected : selectCommonType types context typeids = .ok colType) : colType ≠ unknownOid := by
  cases typeids with
  | nil => cases selected
  | cons ptype typeids =>
      rw [selectCommonType] at selected
      split at selected
      · rename_i same
        cases selected
        exact same.1
      · rcases (bind_eq_ok_iff _ _ _).mp selected with ⟨last, _, result⟩
        cases result
        split
        · simp [textOid, unknownOid]
        · assumption

variable {lcoltypes rcoltypes colTypes : List Oid}

theorem mapM_of_mergeColTypes
    (merged : mergeColTypes types context lcoltypes rcoltypes = .ok colTypes) :
    (lcoltypes.zip rcoltypes).mapM
      (fun pair => selectCommonType types context [pair.1, pair.2]) = .ok colTypes := by
  unfold mergeColTypes at merged
  split at merged
  · cases merged
  · exact merged

private theorem exists_of_mergeColTypes {colType : Oid}
    (merged : mergeColTypes types context lcoltypes rcoltypes = .ok colTypes)
    (mem : colType ∈ colTypes) :
    ∃ typeids, selectCommonType types context typeids = .ok colType := by
  rcases (mem_of_mapM_eq_ok (mapM_of_mergeColTypes merged) colType).mp mem with
    ⟨pair, _, selected⟩
  exact ⟨_, selected⟩

/-- Where both arguments have one type the operation has it. -/
theorem getElem?_mergeColTypes {index : Nat} {colType : Oid}
    (merged : mergeColTypes types context lcoltypes rcoltypes = .ok colTypes)
    (known : colType ≠ unknownOid) (left : lcoltypes[index]? = some colType)
    (right : rcoltypes[index]? = some colType) : colTypes[index]? = some colType := by
  have pair : (lcoltypes.zip rcoltypes)[index]? = some (colType, colType) :=
    List.getElem?_zip_eq_some.mpr ⟨left, right⟩
  rcases getElem?_of_mapM_eq_ok (mapM_of_mergeColTypes merged) pair with
    ⟨result, atIndex, selected⟩
  rw [selectCommonType_self known] at selected
  cases selected
  exact atIndex

end CommonType

namespace QueryMeaning

variable {meaning : QueryMeaning E R X J S D} {utils : ClauseUtils E} {catalog : Catalog D}
  {rtable rtable' : List (RangeTblEntry (Subquery E R J) X)} {tree : SetOperationTree}

section Types

variable (utils) (rtable)

/-- Every operation has the column types that `transformSetOperationTree` gives it. -/
def TypesMerged (types : TypeUtils) : SetOperationTree → Prop
  | .rangeTblRef _ => True
  | .setOperationStmt op _ larg rarg colTypes =>
      mergeColTypes types op.context (columnTypes utils rtable larg)
          (columnTypes utils rtable rarg) = .ok colTypes ∧
        TypesMerged types larg ∧ TypesMerged types rarg
  | .other _ => False

/-- The column has the type at every node of the tree. -/
def TypeThroughout (index : Nat) (colType : Oid) : SetOperationTree → Prop
  | .rangeTblRef rtindex => (columnTypes utils rtable (.rangeTblRef rtindex))[index]? = some colType
  | .setOperationStmt _ _ larg rarg colTypes =>
      colTypes[index]? = some colType ∧ TypeThroughout index colType larg ∧
        TypeThroughout index colType rarg
  | .other _ => False

end Types

theorem TypeThroughout.columnTypes {index : Nat} {colType : Oid}
    (throughout : TypeThroughout utils rtable index colType tree) :
    (QueryMeaning.columnTypes utils rtable tree)[index]? = some colType := by
  cases tree with
  | rangeTblRef rtindex => exact throughout
  | setOperationStmt op all larg rarg colTypes => exact throughout.1
  | other nodeTag => exact throughout.elim

/-- The type of a column is never left unknown. -/
theorem TypesMerged.ne_unknown {types : TypeUtils} (merged : TypesMerged utils rtable types tree)
    {index : Nat} {colType : Oid} (atTop : tree.colTypes[index]? = some colType) :
    colType ≠ unknownOid := by
  cases tree with
  | setOperationStmt op all larg rarg colTypes =>
      rcases exists_of_mergeColTypes merged.1 (List.mem_of_getElem? atTop) with ⟨typeids, selected⟩
      exact selectCommonType_ne_unknown selected
  | rangeTblRef _ | other _ => simp [SetOperationTree.colTypes] at atTop

/-- A type that all components have, the operations have too. -/
theorem typeThroughout_of_leaves {types : TypeUtils} {index : Nat} {colType : Oid}
    (merged : TypesMerged utils rtable types tree) (known : colType ≠ unknownOid)
    (leaves : ∀ rtindex ∈ tree.leaves,
      (columnTypes utils rtable (.rangeTblRef rtindex))[index]? = some colType) :
    TypeThroughout utils rtable index colType tree := by
  induction tree with
  | rangeTblRef rtindex => exact leaves rtindex (by simp [SetOperationTree.leaves])
  | setOperationStmt op all larg rarg colTypes leftIh rightIh =>
      rcases merged with ⟨here, leftMerged, rightMerged⟩
      have left := leftIh leftMerged fun rtindex mem => leaves rtindex (List.mem_append_left _ mem)
      have right := rightIh rightMerged
        fun rtindex mem => leaves rtindex (List.mem_append_right _ mem)
      exact ⟨getElem?_mergeColTypes here known left.columnTypes right.columnTypes, left, right⟩
  | other nodeTag => exact merged.elim

/-! ## Results -/

/-- The column has the same type throughout the tree. -/
def Unconverted (utils : ClauseUtils E) (rtable : List (RangeTblEntry (Subquery E R J) X))
    (tree : SetOperationTree) (resno : Nat) : Prop :=
  ∃ index colType, resno = index + 1 ∧ TypeThroughout utils rtable index colType tree

/-- The condition reads columns that are not converted. -/
def ReadsUnconverted (utils : ClauseUtils E) (rtable : List (RangeTblEntry (Subquery E R J) X))
    (tree : SetOperationTree) (q : ResultRow D → Bool) : Prop :=
  ∀ x y, (∀ resno, Unconverted utils rtable tree resno → x resno = y resno) → q x = q y

/-- What becomes of a component that gets the condition. -/
structure Pushed (meaning : QueryMeaning E R X J S D) (catalog : Catalog D)
    (q : ResultRow D → Bool) (first second : Subquery E R J) : Prop where
  same : SameOutput first.toQuery second.toQuery
  setOperations : second.setOperations = first.setOperations
  results : meaning.componentResults catalog second =
    keep q '' meaning.componentResults catalog first

/-- A component is there in both range tables, in the second one with the condition. -/
def PushedAt (meaning : QueryMeaning E R X J S D) (catalog : Catalog D)
    (rtable rtable' : List (RangeTblEntry (Subquery E R J) X)) (q : ResultRow D → Bool)
    (rtindex : Nat) : Prop :=
  ∃ first second, fetchSubquery rtindex rtable = .ok first ∧
    fetchSubquery rtindex rtable' = .ok second ∧ Pushed meaning catalog q first second

variable {q : ResultRow D → Bool}

private theorem keep_keep (q : ResultRow D → Bool) (results : Set (Multiset (ResultRow D))) :
    keep q '' (keep q '' results) = keep q '' results := by
  rw [← Set.image_comp]
  refine Set.image_congr fun rows _ => ?_
  simp [keep]

theorem Pushed.trans {first second third : Subquery E R J}
    (left : Pushed meaning catalog q first second)
    (right : Pushed meaning catalog q second third) :
    Pushed meaning catalog q first third :=
  ⟨left.same.trans right.same, right.setOperations.trans left.setOperations, by
    rw [right.results, left.results, keep_keep]⟩

private theorem convertRow_keeps {types colTypes : List Oid} {index : Nat} {colType : Oid}
    (type : types[index]? = some colType) (sameType : colTypes[index]? = some colType)
    (row : ResultRow D) : meaning.convertRow types colTypes row (index + 1) = row (index + 1) := by
  simp only [convertRow, type, sameType, if_true]

theorem keep_map {f : ResultRow D → ResultRow D} (same : ∀ row, q (f row) = q row)
    (rows : Multiset (ResultRow D)) : (keep q rows).map f = keep q (rows.map f) := by
  rw [keep, keep, Multiset.filter_map]
  simp only [Function.comp_def, same]

theorem columnTypes_eq_of_pushed
    (pushed : ∀ rtindex ∈ tree.leaves, PushedAt meaning catalog rtable rtable' q rtindex) :
    columnTypes utils rtable' tree = columnTypes utils rtable tree := by
  cases tree with
  | rangeTblRef rtindex =>
      rcases pushed rtindex (by simp [SetOperationTree.leaves]) with
        ⟨first, second, fetched, fetched', same⟩
      simp only [columnTypes, fetched, fetched', same.same.targetList]
  | setOperationStmt op all larg rarg colTypes => rfl
  | other nodeTag => rfl

/-- The types are still those of parse analysis. -/
theorem TypesMerged.of_pushed {types : TypeUtils} (merged : TypesMerged utils rtable types tree)
    (pushed : ∀ rtindex ∈ tree.leaves, PushedAt meaning catalog rtable rtable' q rtindex) :
    TypesMerged utils rtable' types tree := by
  induction tree with
  | rangeTblRef leaf => trivial
  | setOperationStmt op all larg rarg colTypes leftIh rightIh =>
      have leftPushed := fun rtindex mem => pushed rtindex (List.mem_append_left _ mem)
      have rightPushed := fun rtindex mem => pushed rtindex (List.mem_append_right _ mem)
      rcases merged with ⟨here, leftMerged, rightMerged⟩
      rw [TypesMerged, columnTypes_eq_of_pushed leftPushed, columnTypes_eq_of_pushed rightPushed]
      exact ⟨here, leftIh leftMerged leftPushed, rightIh rightMerged rightPushed⟩
  | other nodeTag => exact merged.elim

/-- An argument of the operation: the condition reads only columns that are not converted in
it, nor on the way to the operation. -/
theorem ReadsUnconverted.argument (meaning : QueryMeaning E R X J S D) {op : SetOperation}
    {all : Bool} {larg rarg arg : SetOperationTree} {colTypes : List Oid}
    (reads : ReadsUnconverted utils rtable (.setOperationStmt op all larg rarg colTypes) q)
    (throughout : ∀ {index colType},
      TypeThroughout utils rtable index colType (.setOperationStmt op all larg rarg colTypes) →
        TypeThroughout utils rtable index colType arg) :
    ReadsUnconverted utils rtable arg q ∧
      ∀ row, q (meaning.convertRow (columnTypes utils rtable arg) colTypes row) = q row := by
  constructor
  · intro x y same
    refine reads x y fun resno unconverted => ?_
    rcases unconverted with ⟨index, colType, rfl, node⟩
    exact same _ ⟨index, colType, rfl, throughout node⟩
  · intro row
    refine reads _ _ fun resno unconverted => ?_
    rcases unconverted with ⟨index, colType, rfl, node⟩
    exact convertRow_keeps (throughout node).columnTypes node.1 row

/-- The operations keep a condition that both arguments have. -/
theorem keep_operation [DecidableEq (ResultRow D)] (op : SetOperation) (all : Bool)
    (first second : Multiset (ResultRow D)) :
    (if all then (bagOperation op).all else (bagOperation op).distinct) (keep q first)
        (keep q second) =
      keep q ((if all then (bagOperation op).all else (bagOperation op).distinct) first
        second) := by
  cases all with
  | true => exact Bags.filter_all _ (bagOperation op) first second
  | false => exact Bags.filter_distinct _ (bagOperation op) first second

/-- The tree over the components with the condition returns the rows with the condition. -/
theorem treeResults_keep (reads : ReadsUnconverted utils rtable tree q)
    (pushed : ∀ rtindex ∈ tree.leaves, PushedAt meaning catalog rtable rtable' q rtindex) :
    meaning.treeResults catalog utils rtable' tree =
      keep q '' meaning.treeResults catalog utils rtable tree := by
  classical
  induction tree with
  | rangeTblRef rtindex =>
      rcases pushed rtindex (by simp [SetOperationTree.leaves]) with
        ⟨first, second, fetched, fetched', same⟩
      simp only [treeResults, fetched, fetched', same.results]
  | setOperationStmt op all larg rarg colTypes leftIh rightIh =>
      have leftPushed := fun rtindex mem => pushed rtindex (List.mem_append_left _ mem)
      have rightPushed := fun rtindex mem => pushed rtindex (List.mem_append_right _ mem)
      rcases reads.argument meaning fun node => node.2.1 with ⟨leftReads, leftSame⟩
      rcases reads.argument meaning fun node => node.2.2 with ⟨rightReads, rightSame⟩
      rw [treeResults, treeResults, columnTypes_eq_of_pushed leftPushed,
        columnTypes_eq_of_pushed rightPushed, leftIh leftReads leftPushed,
        rightIh rightReads rightPushed]
      ext out
      simp only [Set.mem_ofPred_eq, Set.mem_image]
      constructor
      · rintro ⟨_, ⟨first, firstMem, rfl⟩, _, ⟨second, secondMem, rfl⟩, rfl⟩
        refine ⟨_, ⟨first, firstMem, second, secondMem, rfl⟩, ?_⟩
        rw [keep_map leftSame, keep_map rightSame, keep_operation]
      · rintro ⟨_, ⟨first, firstMem, second, secondMem, rfl⟩, rfl⟩
        refine ⟨_, ⟨first, firstMem, rfl⟩, _, ⟨second, secondMem, rfl⟩, ?_⟩
        rw [keep_map leftSame, keep_map rightSame, keep_operation]
  | other nodeTag => simp [treeResults]

end QueryMeaning

end PgSkyline
