import PgSkyline.Nodes.Plan
import Mathlib.Algebra.Ring.Int.Defs

/-!
# Copying plan trees

Translation of `nodes/copyfuncs.c` for plan trees with skyline nodes and for the
options in them.  `copyObject` has a case for `T_Skyline` but none for
`T_ElimFilter`, so a plan tree can be copied exactly if it has no elimination filter.
-/

namespace PgSkyline

variable {O U E D F : Type}

/-- The copy functions for the nodes of other types. -/
structure CopyFuncs (O U : Type) where
  copyOther : O → Except Fault O
  /-- The own fields of a plan node of another type. -/
  copyPlanNode : U → Except Fault U

/-- The copy functions that were there before are correct. -/
structure CopyFuncs.Correct (copyFuncs : CopyFuncs O U) : Prop where
  copyOther : ∀ node, copyFuncs.copyOther node = .ok node
  copyPlanNode : ∀ node, copyFuncs.copyPlanNode node = .ok node

section Copy

variable (copyFuncs : CopyFuncs O U)

/-- `COPY_POINTER_FIELD`, with the size in elements. -/
def copyPointerField {α : Type} (size : Nat) (source : List α) : Except Fault (List α) :=
  if source.length < size then throw .invalidRead else return source.take size

mutual

/-- `copyObject` for the nodes of parse trees. -/
def copyNode : NodePtr O → Except Fault (NodePtr O)
  | .null => return .null
  | .value value => return .value value
  | .list elements => return .list (← copyList elements)
  | .intList elements => return .intList elements
  | .oidList elements => return .oidList elements
  | .skylineClause skylineDistinct skylineOfList skylineOfOptions => do
      let skylineOfList ← copyNode skylineOfList
      let skylineOfOptions ← copyNode skylineOfOptions
      return .skylineClause skylineDistinct skylineOfList skylineOfOptions
  | .skylineOf tleSortGroupRef restype skylineop nullsFirst skylineofDir =>
      return .skylineOf tleSortGroupRef restype skylineop nullsFirst skylineofDir
  | .skylineOption name value => return .skylineOption name (← copyNode value)
  | .aConst val typename => return .aConst val (← copyNode typename)
  | .typeName names typeid timezone setof pctType typmods typemod arrayBounds location => do
      let names ← copyNode names
      let typmods ← copyNode typmods
      let arrayBounds ← copyNode arrayBounds
      return .typeName names typeid timezone setof pctType typmods typemod arrayBounds location
  | .other node => return .other (← copyFuncs.copyOther node)

/-- `_copyList`. -/
def copyList : List (NodePtr O) → Except Fault (List (NodePtr O))
  | [] => return []
  | element :: rest => return (← copyNode element) :: (← copyList rest)

end

/-- `CopyPlanFields` without the subtrees. -/
def copyPlanFields (plan : Plan O F) : Except Fault (Plan O F) := do
  let targetlist ← copyNode copyFuncs plan.targetlist
  let qual ← copyNode copyFuncs plan.qual
  let initPlan ← copyNode copyFuncs plan.initPlan
  return { plan with targetlist, qual, initPlan }

/-- The part of `_copySkyline` behind `CopyPlanFields`. -/
def copySkylineFields (node : SkylineNode O F) : Except Fault (SkylineNode O F) := do
  let skylineColIdx ← copyPointerField node.numCols node.skylineColIdx
  let skylineOfOperators ← copyPointerField node.numCols node.skylineOfOperators
  let nullsFirst ← copyPointerField node.numCols node.nullsFirst
  let skylineOfDir ← copyPointerField node.numCols node.skylineOfDir
  let colFlags ← copyPointerField node.numCols node.colFlags
  let colMin ← copyPointerField node.numCols node.colMin
  let colScale ← copyPointerField node.numCols node.colScale
  let colCoerceFunc ← copyPointerField node.numCols node.colCoerceFunc
  let skylineOfOptions ← copyNode copyFuncs node.skylineOfOptions
  return {
    skylineDistinct := node.skylineDistinct
    numCols := node.numCols
    flags := node.flags
    skylineColIdx
    skylineOfOperators
    nullsFirst
    skylineOfDir
    colFlags
    colMin
    colScale
    colCoerceFunc
    skylineOfOptions
    skylineMethod := node.skylineMethod }

/-- `elog(ERROR, "unrecognized node type: %d")` for `T_ElimFilter`. -/
def unrecognizedElimFilter : Fault :=
  .elog "unrecognized node type: 121"

mutual

/-- `copyObject` for plan nodes, with `_copySkyline` for the tag `T_Skyline`. -/
def copyObject : PlanPtr O U F → Except Fault (PlanPtr O U F)
  | .null => return .null
  | .upstream node plan lefttree righttree subplans => do
      let plan ← copyPlanFields copyFuncs plan
      let lefttree ← copyObject lefttree
      let righttree ← copyObject righttree
      let node ← copyFuncs.copyPlanNode node
      let subplans ← copySubplans subplans
      return .upstream node plan lefttree righttree subplans
  | .skyline .skyline plan lefttree righttree node => do
      let plan ← copyPlanFields copyFuncs plan
      let lefttree ← copyObject lefttree
      let righttree ← copyObject righttree
      let node ← copySkylineFields copyFuncs node
      -- `makeNode(Skyline)` sets this tag
      return .skyline .skyline plan lefttree righttree node
  | .skyline .elimFilter _ _ _ _ => throw unrecognizedElimFilter

/-- `_copyList` for a list of plan nodes. -/
def copySubplans : List (PlanPtr O U F) → Except Fault (List (PlanPtr O U F))
  | [] => return []
  | subplan :: rest => return (← copyObject subplan) :: (← copySubplans rest)

end

end Copy

/-! ## The fields -/

section Correct

variable {copyFuncs : CopyFuncs O U}

theorem copyPointerField_eq {α : Type} {size : Nat} {source : List α}
    (allocated : source.length = size) : copyPointerField size source = .ok source := by
  rw [copyPointerField, if_neg (by omega), ← allocated, List.take_length]
  rfl

mutual

theorem copyNode_eq (correct : copyFuncs.Correct) (node : NodePtr O) :
    copyNode copyFuncs node = .ok node := by
  cases node with
  | null | value | intList | oidList | skylineOf => rw [copyNode, pure_eq_ok]
  | list elements => rw [copyNode, copyList_eq correct elements, ok_bind, pure_eq_ok]
  | skylineClause skylineDistinct skylineOfList skylineOfOptions =>
      rw [copyNode, copyNode_eq correct skylineOfList, ok_bind,
        copyNode_eq correct skylineOfOptions, ok_bind, pure_eq_ok]
  | skylineOption name value => rw [copyNode, copyNode_eq correct value, ok_bind, pure_eq_ok]
  | aConst val typename => rw [copyNode, copyNode_eq correct typename, ok_bind, pure_eq_ok]
  | typeName names typeid timezone setof pctType typmods typemod arrayBounds location =>
      rw [copyNode, copyNode_eq correct names, ok_bind, copyNode_eq correct typmods, ok_bind,
        copyNode_eq correct arrayBounds, ok_bind, pure_eq_ok]
  | other node => rw [copyNode, correct.copyOther, ok_bind, pure_eq_ok]

theorem copyList_eq (correct : copyFuncs.Correct) (elements : List (NodePtr O)) :
    copyList copyFuncs elements = .ok elements := by
  cases elements with
  | nil => rw [copyList, pure_eq_ok]
  | cons element rest =>
      rw [copyList, copyNode_eq correct element, ok_bind, copyList_eq correct rest, ok_bind,
        pure_eq_ok]

end

theorem copyPlanFields_eq (correct : copyFuncs.Correct) (plan : Plan O F) :
    copyPlanFields copyFuncs plan = .ok plan := by
  simp only [copyPlanFields, copyNode_eq correct, ok_bind, pure_eq_ok]

/-- `_copySkyline` copies every field. -/
theorem copySkylineFields_eq (correct : copyFuncs.Correct) {node : SkylineNode O F}
    (allocated : node.Allocated) : copySkylineFields copyFuncs node = .ok node := by
  simp only [copySkylineFields, copyPointerField_eq allocated.skylineColIdx,
    copyPointerField_eq allocated.skylineOfOperators, copyPointerField_eq allocated.nullsFirst,
    copyPointerField_eq allocated.skylineOfDir, copyPointerField_eq allocated.colFlags,
    copyPointerField_eq allocated.colMin, copyPointerField_eq allocated.colScale,
    copyPointerField_eq allocated.colCoerceFunc, copyNode_eq correct, ok_bind, pure_eq_ok]

/-! ## The trees -/

/-- What `copyObject` does with a tree: it stops at an elimination filter. -/
def CopiedOrUnrecognized (copyFuncs : CopyFuncs O U) (tree : PlanPtr O U F) : Prop :=
  copyObject copyFuncs tree =
    if tree.hasElimFilter = true then .error unrecognizedElimFilter else .ok tree

private theorem copySubplans_eq {subplans : List (PlanPtr O U F)}
    (each : ∀ subplan ∈ subplans, CopiedOrUnrecognized copyFuncs subplan) :
    copySubplans copyFuncs subplans =
      if anyElimFilter subplans = true then .error unrecognizedElimFilter else .ok subplans := by
  induction subplans with
  | nil => rfl
  | cons subplan rest ih =>
      have first := each subplan List.mem_cons_self
      have later := ih fun subplan mem => each subplan (List.mem_cons_of_mem _ mem)
      rw [copySubplans, first, later, anyElimFilter]
      cases subplan.hasElimFilter <;> cases anyElimFilter rest <;> rfl

private theorem copiedOrUnrecognized_upstream (correct : copyFuncs.Correct) (node : U)
    (plan : Plan O F) {lefttree righttree : PlanPtr O U F} {subplans : List (PlanPtr O U F)}
    (left : CopiedOrUnrecognized copyFuncs lefttree)
    (right : CopiedOrUnrecognized copyFuncs righttree)
    (each : ∀ subplan ∈ subplans, CopiedOrUnrecognized copyFuncs subplan) :
    CopiedOrUnrecognized copyFuncs (.upstream node plan lefttree righttree subplans) := by
  rw [CopiedOrUnrecognized, copyObject, copyPlanFields_eq correct, ok_bind, left, right,
    correct.copyPlanNode, copySubplans_eq each, PlanPtr.hasElimFilter]
  cases lefttree.hasElimFilter <;> cases righttree.hasElimFilter <;>
    cases anyElimFilter subplans <;> rfl

private theorem copiedOrUnrecognized_skyline (correct : copyFuncs.Correct) (plan : Plan O F)
    {lefttree : PlanPtr O U F} {node : SkylineNode O F} (allocated : node.Allocated)
    (left : CopiedOrUnrecognized copyFuncs lefttree) :
    CopiedOrUnrecognized copyFuncs (.skyline .skyline plan lefttree .null node) := by
  rw [CopiedOrUnrecognized, copyObject, copyPlanFields_eq correct, ok_bind, left, copyObject,
    copySkylineFields_eq correct allocated, PlanPtr.hasElimFilter]
  cases lefttree.hasElimFilter <;> rfl

variable [Zero F] [One F] [Add F] [Sub F] [Div F] [LT F] [DecidableLT F]
  {stats : PlannerStats E D F}

theorem copiedOrUnrecognized_of_planned (correct : copyFuncs.Correct) {tree : PlanPtr O U F}
    (planned : Planned stats tree) : CopiedOrUnrecognized copyFuncs tree := by
  induction planned with
  | null => rfl
  | upstream _ _ _ left right each =>
      exact copiedOrUnrecognized_upstream correct _ _ left right each
  | makeSkyline _ made left =>
      rcases makeSkylinePlan_eq_ok made with ⟨node, allocated, rfl⟩
      exact copiedOrUnrecognized_skyline correct _ allocated left
  | makeElimfilter _ made _ =>
      rcases makeElimfilterPlan_eq_ok made with ⟨node, _, rfl⟩
      rfl

/-! ## The trees of `grouping_planner` -/

section PlanSkyline

variable {targetList : List (TargetEntry E)} {below : BelowSkyline O U F} {plan : Plan O F}
  {clause : SkylineClause} {hasMatchingPath : Bool} {resultPlan tree : PlanPtr O U F}

omit [Zero F] [One F] [Add F] [Sub F] [Div F] [LT F] [DecidableLT F] in
/-- A sort or materialize node may be put on top of a tree. -/
theorem belowSkyline_tree_eq (skylineMethod : SkylineMethod) (filtered : PlanPtr O U F) :
    below.tree skylineMethod hasMatchingPath filtered = filtered ∨
      ∃ node nodePlan, below.tree skylineMethod hasMatchingPath filtered =
        .upstream node nodePlan filtered .null [] := by
  rw [BelowSkyline.tree]
  split_ifs
  · exact .inl rfl
  · exact .inr ⟨_, _, rfl⟩
  · exact .inr ⟨_, _, rfl⟩
  · exact .inl rfl

/-- The elimination filter is there exactly if the clause has the option "ef". -/
theorem filteredTree_eq_ok {filtered : PlanPtr O U F}
    (made : filteredTree stats targetList below clause resultPlan = .ok filtered) :
    (findOption clause.skylineOfOptions "ef" = none ∧ filtered = resultPlan) ∨
      ((findOption clause.skylineOfOptions "ef").isSome = true ∧
        makeElimfilterPlan stats targetList below.elimFilterPlan resultPlan clause =
          .ok filtered) := by
  rw [filteredTree, bind_eq_ok_iff] at made
  rcases made with ⟨useElimFilter, optionRead, made⟩
  rw [skylineOptionGetInt] at optionRead
  cases found : findOption clause.skylineOfOptions "ef" with
  | none =>
      rw [found] at optionRead
      cases optionRead
      cases made
      exact .inl ⟨rfl, rfl⟩
  | some value =>
      rw [found] at optionRead
      cases value with
      | integer value =>
          cases optionRead
          exact .inr ⟨rfl, made⟩
      | float text => cases optionRead
      | string text => cases optionRead

theorem planSkylineTree_eq_ok
    (made : planSkylineTree stats targetList below plan clause hasMatchingPath resultPlan =
      .ok tree) :
    ∃ filtered skylineMethod, filteredTree stats targetList below clause resultPlan = .ok filtered ∧
      makeSkylinePlan stats targetList plan (below.tree skylineMethod hasMatchingPath filtered)
        clause skylineMethod = .ok tree := by
  rw [planSkylineTree, bind_eq_ok_iff] at made
  rcases made with ⟨skylineMethod, _, made⟩
  rw [bind_eq_ok_iff] at made
  rcases made with ⟨filtered, filteredMade, made⟩
  exact ⟨filtered, skylineMethod, filteredMade, made⟩

theorem planned_planSkylineTree (planned : Planned stats resultPlan)
    (made : planSkylineTree stats targetList below plan clause hasMatchingPath resultPlan =
      .ok tree) : Planned stats tree := by
  rcases planSkylineTree_eq_ok made with ⟨filtered, skylineMethod, filter, skyline⟩
  have plannedFiltered : Planned stats filtered := by
    rcases filteredTree_eq_ok filter with ⟨_, rfl⟩ | ⟨_, filter⟩
    · exact planned
    · exact .makeElimfilter planned filter
  apply Planned.makeSkyline _ skyline
  rcases belowSkyline_tree_eq skylineMethod filtered with same | ⟨node, nodePlan, above⟩
  · rw [same]
    exact plannedFiltered
  · rw [above]
    apply Planned.upstream plannedFiltered .null
    intro subplan mem
    cases mem

/-- The nodes for a skyline clause have an elimination filter exactly if the clause has
the option "ef". -/
theorem hasElimFilter_planSkylineTree
    (made : planSkylineTree stats targetList below plan clause hasMatchingPath resultPlan =
      .ok tree) :
    tree.hasElimFilter =
      ((findOption clause.skylineOfOptions "ef").isSome || resultPlan.hasElimFilter) := by
  rcases planSkylineTree_eq_ok made with ⟨filtered, skylineMethod, filter, skyline⟩
  rcases makeSkylinePlan_eq_ok skyline with ⟨node, _, rfl⟩
  have sameBelow : (below.tree skylineMethod hasMatchingPath filtered).hasElimFilter =
      filtered.hasElimFilter := by
    rcases belowSkyline_tree_eq skylineMethod filtered with same | ⟨node, nodePlan, above⟩
    · rw [same]
    · rw [above]
      simp [PlanPtr.hasElimFilter, anyElimFilter]
  have ofFiltered : filtered.hasElimFilter =
      ((findOption clause.skylineOfOptions "ef").isSome || resultPlan.hasElimFilter) := by
    rcases filteredTree_eq_ok filter with ⟨none, rfl⟩ | ⟨found, filter⟩
    · rw [none, Option.isSome_none, Bool.false_or]
    · rcases makeElimfilterPlan_eq_ok filter with ⟨_, _, rfl⟩
      rw [found, Bool.true_or]
      rfl
  rw [← ofFiltered, ← sameBelow]
  simp [PlanPtr.hasElimFilter]

/-- The plan of a skyline query over a plan that can be copied can be copied exactly if
the clause does not have the option "ef". -/
theorem copyObject_planSkylineTree_eq (correct : copyFuncs.Correct)
    (planned : Planned stats resultPlan) (noFilter : resultPlan.hasElimFilter = false)
    (made : planSkylineTree stats targetList below plan clause hasMatchingPath resultPlan =
      .ok tree) :
    copyObject copyFuncs tree =
      if (findOption clause.skylineOfOptions "ef").isSome = true then .error unrecognizedElimFilter
      else .ok tree := by
  rw [copiedOrUnrecognized_of_planned correct (planned_planSkylineTree planned made),
    hasElimFilter_planSkylineTree made, noFilter, Bool.or_false]

end PlanSkyline

/-! ## The exact condition -/

/-- `copyObject` returns an equal tree exactly if the tree has no elimination filter. -/
theorem copyObject_eq_self_iff (copyFuncs : CopyFuncs O U) (correct : copyFuncs.Correct)
    (stats : PlannerStats E D F) (tree : PlanPtr O U F) (planned : Planned stats tree) :
    copyObject copyFuncs tree = .ok tree ↔ tree.hasElimFilter = false := by
  rw [copiedOrUnrecognized_of_planned correct planned]
  cases tree.hasElimFilter with
  | false => exact iff_of_true rfl rfl
  | true =>
      constructor
      · intro copied
        cases copied
      · intro none
        cases none

end Correct

/-! ### `SKYLINE OF` one column over a sequential scan -/

def noStats : PlannerStats Unit Unit Int where
  findCoercionPathway := fun _ => .none
  getVariableRange := fun _ _ => none
  oidFunctionCall1 := fun _ => id
  datumGetFloat8 := fun _ => 0

def plainCopies : CopyFuncs Empty String where
  copyOther := Empty.elim
  copyPlanNode := .ok

private theorem plainCopies_correct : plainCopies.Correct where
  copyOther := fun node => node.elim
  copyPlanNode := fun _ => rfl

def plainPlan : Plan Empty Int :=
  ⟨0, 0, 1, 4, .null, .null, .null, [], []⟩

def seqScanTree : PlanPtr Empty String Int :=
  .upstream "SeqScan" plainPlan .null .null []

/-- The plan of `SKYLINE OF a MIN` with these options. -/
def planOneColumn (skylineOfOptions : List SkylineOption) :
    Except Fault (PlanPtr Empty String Int) :=
  planSkylineTree noStats [⟨(), 1, none, 1, false⟩]
    ⟨plainPlan, ("Sort", plainPlan), ("Material", plainPlan)⟩ plainPlan
    ⟨false, [⟨1, 23, 97, false, .min⟩], skylineOfOptions⟩ false seqScanTree

private theorem planned_seqScanTree : Planned noStats seqScanTree := by
  apply Planned.upstream .null .null
  intro subplan mem
  cases mem

/-- Without an elimination filter the plan is copied. -/
theorem copyObject_eq_self_iff_sfs :
    ∃ tree, planOneColumn [⟨"sfs", .integer 1⟩] = .ok tree ∧
      copyObject plainCopies tree = .ok tree := by
  refine ⟨_, rfl, ?_⟩
  have planned := planned_planSkylineTree planned_seqScanTree
    (rfl : planOneColumn [⟨"sfs", .integer 1⟩] = .ok _)
  apply (copyObject_eq_self_iff plainCopies plainCopies_correct noStats _ planned).mpr
  rfl

/-- With an elimination filter it is not. -/
theorem copyObject_elimFilter_unrecognized :
    ∃ tree, planOneColumn [⟨"ef", .integer 1⟩, ⟨"sfs", .integer 1⟩] = .ok tree ∧
      copyObject plainCopies tree = .error (.elog "unrecognized node type: 121") :=
  ⟨_, rfl, rfl⟩

end PgSkyline
