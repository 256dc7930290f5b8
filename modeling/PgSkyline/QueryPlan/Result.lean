import PgSkyline.Planner.Result
import PgSkyline.QueryPlan.Computes
import PgSkyline.QueryPlan.PathOrder

/-!
# The result of a plan

`grouping_planner` picks a method by the clause, its options and the order of the path,
and puts an elimination filter, a sort or a materialization below it.  Whatever it picks,
the plan computes the skyline, and so any two plans for one clause agree.
-/

namespace PgSkyline

open Comparison Covering Pipeline Resumable TupleWindowState

variable {E D R EC : Type}

/-! ## The nodes of a plan -/

section Shape

variable {catalog : Catalog D} {targetList : List (TargetEntry E)} {haveStats : Bool}
  {clause : SkylineClause}

/-- The node carries the clause. -/
structure Carries (catalog : Catalog D) (targetList : List (TargetEntry E)) (clause : SkylineClause)
    (node : Skyline D) : Prop where
  cols : makeSkylineCols catalog targetList clause.skylineOfList = .ok node.cols
  distinct : node.skylineDistinct = clause.skylineDistinct
  options : node.skylineOfOptions = clause.skylineOfOptions

theorem makeSkyline_carries {skylineMethod : SkylineMethod} {node : Skyline D}
    (made : makeSkyline catalog targetList haveStats clause skylineMethod = .ok node) :
    Carries catalog targetList clause node := by
  rcases (bind_eq_ok_iff _ _ _).mp made with ⟨cols, colsMade, nodeEq⟩
  cases nodeEq
  exact ⟨colsMade, rfl, rfl⟩

theorem Carries.cols_eq {node : Skyline D} (carries : Carries catalog targetList clause node)
    {cols : List (SkylineCol D)}
    (made : makeSkylineCols catalog targetList clause.skylineOfList = .ok cols) :
    node.cols = cols :=
  Except.ok.inj (carries.cols.symm.trans made)

/-- Without the option "ef" there is no filter, with it there is one. -/
theorem planElimFilter_spec {nodes : List (UpperNode (EC → Option D) D EC)}
    (planned : planElimFilter catalog targetList haveStats clause = .ok nodes) :
    nodes = [] ∨ ∃ node, nodes = [.elimFilter node] ∧ Carries catalog targetList clause node := by
  rcases (bind_eq_ok_iff _ _ _).mp planned with ⟨useElimFilter, _, chosen⟩
  cases useElimFilter with
  | none =>
      cases chosen
      exact Or.inl rfl
  | some _ =>
      rcases (bind_eq_ok_iff _ _ _).mp chosen with ⟨node, made, result⟩
      cases result
      exact Or.inr ⟨node, rfl, makeSkyline_carries made⟩

end Shape

/-! ## What a clause needs of the path -/

section Fits

variable [DecidableEq EC] (env : ExecEnv (EC → Option D) D R)
  (entries : List (SkylineCol D × PathKey EC)) (skylinePathkeys currentPathkeys : List (PathKey EC))

/-- The order in which a method that needs one finds its input. -/
def inputPathkeys : List (PathKey EC) :=
  if (skylinePathkeysContainedIn skylinePathkeys currentPathkeys).1 then currentPathkeys
  else skylinePathkeys

/-- What the skyline node of a plan needs of the columns, of the path below it and of the
options. -/
structure NodeFits (input : List (EC → Option D)) (node : Skyline D) : Prop where
  /-- The one-dimensional methods know no groups. -/
  ordinary : node.skylineMethod = .oneDim ∨ node.skylineMethod = .oneDimDistinct →
    ∀ col ∈ node.cols, col.skylineOfDir ≠ .diff
  /-- The method for duplicates looks at a value even if there is none. -/
  assigned : node.skylineMethod = .oneDim →
    (∀ col ∈ node.cols, env.typbyval col.skylineColIdx = true) ∨ input ≠ []
  /-- The skyline keys come first in a path that is taken for presorted. -/
  lead : node.skylineMethod = .twoDimPresort ∨ node.skylineMethod = .sfs →
    (skylinePathkeysContainedIn skylinePathkeys currentPathkeys).1 = true →
      SkylineKeysLead entries currentPathkeys
  /-- The presorted method needs the groups together. -/
  groups : node.skylineMethod = .twoDimPresort →
    GroupKeysLead entries (inputPathkeys skylinePathkeys currentPathkeys)
  /-- The window has room for a tuple. -/
  capacity : node.skylineMethod = .blockNestedLoop ∨ node.skylineMethod = .sfs →
    ∀ windowSize windowSlots, WindowOptions env node windowSize windowSlots →
      HasCapacity windowSize windowSlots

end Fits

/-! ## The stages of a plan -/

section Stages

variable [LE R] [DecidableLE R] [LT R] [DecidableLT R] {env : ExecEnv (EC → Option D) D R}
  {order : Oid → D → D → Int} {catalog : Catalog D} {tlist : List (TargetEntry E)}
  {haveStats : Bool} {clause : SkylineClause} {input between : List (EC → Option D)}

/-- What a filter passes on covers its input. -/
theorem covers_of_filter {node : Skyline D} (fits : FilterFits node)
    (computes :
      (.elimFilter node : UpperNode (EC → Option D) D EC).Computes env order id input between) :
    Covers (NodeBeats env node) between input ∧ between.Sublist input := by
  rcases computes with ⟨drawn, state, last, init, drains⟩
  rcases fits.filters init with ⟨kept, last', drains', filters⟩
  rw [(drains.unique drains').1]
  exact ⟨filters.covers, filters.sublist⟩

/-- The same of the filter that may be planned for the clause of a node. -/
theorem covers_of_planElimFilter {node : Skyline D} (carries : Carries catalog tlist clause node)
    {filterNodes : List (UpperNode (EC → Option D) D EC)}
    (planned : planElimFilter catalog tlist haveStats clause = .ok filterNodes)
    (fits : ∀ filter, UpperNode.elimFilter filter ∈ filterNodes → FilterFits filter)
    (inTurn : ComputeInTurn env order id filterNodes input between) :
    Covers (NodeBeats env node) between input ∧ between.Sublist input := by
  rcases planElimFilter_spec planned with rfl | ⟨filter, rfl, filterCarries⟩
  · rw [ComputeInTurn, InTurn] at inTurn
    rw [inTurn]
    exact ⟨Covers.refl _ _, List.Sublist.refl _⟩
  · have same : NodeBeats env node = NodeBeats env filter := by
      rw [NodeBeats, NodeBeats, carries.cols_eq filterCarries.cols, carries.distinct,
        filterCarries.distinct]
    rw [same]
    exact covers_of_filter (fits filter List.mem_cons_self) (inTurn_singleton_iff.mp inTurn)

private theorem exists_planElimFilter {filterNodes : List (UpperNode (EC → Option D) D EC)}
    (planned : planElimFilter catalog tlist haveStats clause = .ok filterNodes)
    (fits : ∀ filter, UpperNode.elimFilter filter ∈ filterNodes → FilterFits filter)
    (initializes : ∀ filter ∈ filterNodes, filter.Initializes env) :
    ∃ between, ComputeInTurn env order id filterNodes input between := by
  rcases planElimFilter_spec planned with rfl | ⟨filter, rfl, _⟩
  · exact ⟨input, rfl⟩
  · rcases initializes _ List.mem_cons_self input with ⟨drawn, state, init⟩
    rcases (fits filter List.mem_cons_self).filters init with ⟨kept, last, drains, _⟩
    exact ⟨kept, inTurn_singleton_iff.mpr ⟨drawn, state, last, init, drains⟩⟩

/-- Every input can be sorted. -/
theorem exists_sort (lawful : ∀ opfamily, ThreeWay (order opfamily)) (keys : List (PathKey EC))
    (input : List (EC → Option D)) :
    ∃ sorted, (.sort keys : UpperNode (EC → Option D) D EC).Computes env order id input
      sorted := by
  have threeWay : ThreeWay (comparePathkeys (D := D) order keys) := by
    apply threeWay_lexicographic
    intro f fMem
    rcases List.mem_map.mp fMem with ⟨key, _, rfl⟩
    exact key.compare_threeWay lawful
  let le := fun x y : EC → Option D => decide (comparePathkeys order keys x y ≤ 0)
  refine ⟨input.mergeSort le, List.mergeSort_perm input le, ?_⟩
  have sorted : (input.mergeSort le).Pairwise (le · ·) := List.pairwise_mergeSort ?_ ?_ input
  · rw [List.map_id]
    exact sorted.imp of_decide_eq_true
  · intro x y z first second
    exact decide_eq_true (threeWay.trans x y z (of_decide_eq_true first) (of_decide_eq_true second))
  · intro x y
    have swapped := threeWay.swap x y
    simp only [le, Bool.or_eq_true, decide_eq_true_eq]
    omega

end Stages

/-! ## SKYLINE OF -/

section Below

variable [DecidableEq EC] [LE R] [DecidableLE R] [LT R] [DecidableLT R]
  {env : ExecEnv (EC → Option D) D R} {order : Oid → D → D → Int}
  {skylineMethod : SkylineMethod} {skylinePathkeys currentPathkeys : List (PathKey EC)}
  {between out : List (EC → Option D)}

/-- The nodes between the filter and the skyline node. -/
def belowNodes (skylineMethod : SkylineMethod) (hasMatchingPath : Bool)
    (skylinePathkeys : List (PathKey EC)) : List (UpperNode (EC → Option D) D EC) :=
  if decide (skylineMethod = .twoDimPresort ∨ skylineMethod = .sfs) && !hasMatchingPath then
    [.sort skylinePathkeys]
  else if decide (skylineMethod = .materializedNestedLoop) then [.material] else []

/-- They deliver their input, in the order that the method asks for. -/
theorem belowNodes_spec
    (inTurn : ComputeInTurn env order id (belowNodes skylineMethod
      (skylinePathkeysContainedIn skylinePathkeys currentPathkeys).1 skylinePathkeys) between out)
    (sorted : SortedByPathkeys order currentPathkeys (between.map id)) :
    out.Perm between ∧ (skylineMethod = .twoDimPresort ∨ skylineMethod = .sfs →
      SortedByPathkeys order (inputPathkeys skylinePathkeys currentPathkeys) out) := by
  unfold belowNodes at inTurn
  unfold inputPathkeys
  rw [List.map_id] at sorted
  cases contained : (skylinePathkeysContainedIn skylinePathkeys currentPathkeys).1 with
  | true =>
      simp only [contained, Bool.not_true, Bool.and_false, Bool.false_eq_true, if_false] at inTurn
      have same : out = between := by
        split at inTurn
        · exact inTurn_singleton_iff.mp inTurn
        · exact inTurn
      rw [same]
      exact ⟨List.Perm.refl _, fun _ => sorted⟩
  | false =>
      simp only [contained, Bool.not_false, Bool.and_true, decide_eq_true_eq] at inTurn
      by_cases presorted : skylineMethod = .twoDimPresort ∨ skylineMethod = .sfs
      · rw [if_pos presorted] at inTurn
        rcases inTurn_singleton_iff.mp inTurn with ⟨same, inOrder⟩
        rw [List.map_id] at inOrder
        exact ⟨same, fun _ => inOrder⟩
      · rw [if_neg presorted] at inTurn
        have same : out = between := by
          split at inTurn
          · exact inTurn_singleton_iff.mp inTurn
          · exact inTurn
        rw [same]
        exact ⟨List.Perm.refl _, fun isPresorted => absurd isPresorted presorted⟩

omit [DecidableEq EC] in
private theorem exists_belowNodes (lawful : ∀ opfamily, ThreeWay (order opfamily))
    (hasMatchingPath : Bool) (between : List (EC → Option D)) :
    ∃ out, ComputeInTurn env order id
      (belowNodes skylineMethod hasMatchingPath skylinePathkeys) between out := by
  unfold belowNodes
  split
  · rcases @exists_sort D R EC _ _ _ _ env order lawful skylinePathkeys between with ⟨out, computes⟩
    exact ⟨out, inTurn_singleton_iff.mpr computes⟩
  · split
    · exact ⟨between, inTurn_singleton_iff.mpr rfl⟩
    · exact ⟨between, rfl⟩

end Below

section Planned

variable [DecidableEq EC] {env : ExecEnv (EC → Option D) D R} {catalog : Catalog D}
  {order : Oid → D → D → Int}
  {root : PlannerInfo E EC} {tlist : List (TargetEntry E)} {haveStats : Bool}
  {clause : SkylineClause} {rawKeys currentPathkeys : List (PathKey EC)}
  {input between out : List (EC → Option D)} {node : Skyline D}
  (families : FamilyOrders catalog order) (lawful : root.Lawful order)
  (reads : ReadsClasses catalog root tlist clause.skylineOfList env.slotGetattr)
  (keysMade : makePathkeysForSkylineclause catalog root tlist clause.skylineOfList = .ok rawKeys)
  (canonical : root.Canonical currentPathkeys)

/-- The columns of a node with their path keys. -/
abbrev entriesOf (root : PlannerInfo E EC) (rawKeys : List (PathKey EC)) (node : Skyline D) :
    List (SkylineCol D × PathKey EC) :=
  node.cols.zip (rawKeys.map root.canonicalPathkey)

private theorem skylineKeysLead_canonicalizePathkeys
    (colsMade : makeSkylineCols catalog tlist clause.skylineOfList = .ok node.cols)
    (keysMade :
      makePathkeysForSkylineclause catalog root tlist clause.skylineOfList = .ok rawKeys) :
    SkylineKeysLead (entriesOf root rawKeys node) (canonicalizePathkeys root rawKeys) := by
  have seconds : (entriesOf root rawKeys node).map Prod.snd =
      rawKeys.map root.canonicalPathkey := by
    apply List.map_snd_zip
    rw [List.length_map, (zip_of_mapM_eq_ok colsMade keysMade).1]
  apply List.Pairwise.imp_of_mem _ (List.pairwise_of_forall fun _ _ => trivial)
  intro earlier later earlierMem _ _
  rcases exists_of_mem_canonicalizePathkeys earlierMem with ⟨raw, rawMem, keyEq⟩
  have isSecond : earlier ∈ (entriesOf root rawKeys node).map Prod.snd := by
    rw [seconds, keyEq]
    exact List.mem_map_of_mem rawMem
  rcases List.mem_map.mp isSecond with ⟨entry, entryMem, rfl⟩
  exact Or.inl ⟨entry, entryMem, rfl⟩

include families lawful reads keysMade canonical

/-- The input of a node that relies on its order has the order the method needs. -/
theorem ordered_input (carries : Carries catalog tlist clause node)
    (presorted : node.skylineMethod = .twoDimPresort ∨ node.skylineMethod = .sfs)
    (fits : NodeFits env (entriesOf root rawKeys node) (canonicalizePathkeys root rawKeys)
      currentPathkeys input node)
    (agree : ConstantsAgree root between)
    (sorted : SortedByPathkeys order
      (inputPathkeys (canonicalizePathkeys root rawKeys) currentPathkeys) between) :
    NoLaterDominates env.slotGetattr node.cols between ∧
      (node.skylineMethod = .twoDimPresort → node.cols.length ≤ 2 →
        ∃ before, Relays (NodeBeats env node) before between ∧ between.Pairwise before) := by
  have keyed := keyed_zip carries.cols keysMade families lawful reads
  have lawfulCols := lawfulCols_of_made carries.cols keysMade families reads
  have firsts := @map_fst_zip_canonical E D EC catalog root tlist _ node.cols rawKeys carries.cols
    keysMade
  have isCanonical : root.Canonical
      (inputPathkeys (canonicalizePathkeys root rawKeys) currentPathkeys) := by
    unfold inputPathkeys
    split
    · exact canonical
    · exact canonical_canonicalizePathkeys rawKeys
  have contained : (skylinePathkeysContainedIn (canonicalizePathkeys root rawKeys)
      (inputPathkeys (canonicalizePathkeys root rawKeys) currentPathkeys)).1 = true := by
    unfold inputPathkeys
    split
    · assumption
    · exact (skylinePathkeysContainedIn_fst_iff _ _).mpr (List.Subset.refl _)
  have represents := represents_zip carries.cols keysMade contained
  have lead : SkylineKeysLead (entriesOf root rawKeys node)
      (inputPathkeys (canonicalizePathkeys root rawKeys) currentPathkeys) := by
    unfold inputPathkeys
    split
    · rename_i relies
      exact fits.lead presorted relies
    · exact skylineKeysLead_canonicalizePathkeys carries.cols keysMade
  have lawfulFirsts : LawfulCols ((entriesOf root rawKeys node).map Prod.fst) := by rwa [firsts]
  constructor
  · have inOrder := noLaterDominates_of_skylineKeysLead keyed families.threeWay lawfulFirsts
      isCanonical represents lead agree sorted
    rwa [firsts] at inOrder
  · intro presort narrow
    have entriesNarrow : (entriesOf root rawKeys node).length ≤ 2 := by
      rwa [← List.length_map Prod.fst, firsts]
    have relaying := exists_relaying_order_of_skylineKeysLead keyed families.threeWay lawfulFirsts
      isCanonical represents lead agree sorted entriesNarrow (fits.groups presort)
      node.skylineDistinct
    rwa [firsts] at relaying

/-- The input of the node has what its method needs. -/
theorem methodFits_of_planned (carries : Carries catalog tlist clause node)
    (chosen : skylineChooseMethod clause.skylineOfList.length clause.skylineDistinct
      clause.skylineOfOptions
      (skylinePathkeysContainedIn (canonicalizePathkeys root rawKeys) currentPathkeys).1 =
        .ok node.skylineMethod)
    (fits : NodeFits env (entriesOf root rawKeys node) (canonicalizePathkeys root rawKeys)
      currentPathkeys input node)
    (covers : Covers (NodeBeats env node) between input)
    (agree : ConstantsAgree root between)
    (sorted : node.skylineMethod = .twoDimPresort ∨ node.skylineMethod = .sfs →
      SortedByPathkeys order (inputPathkeys (canonicalizePathkeys root rawKeys) currentPathkeys)
        between) : MethodFits env node between := by
  have width : node.cols.length = clause.skylineOfList.length :=
    length_of_mapM_eq_ok carries.cols
  have single : node.skylineMethod = .oneDim ∨ node.skylineMethod = .oneDimDistinct →
      ∃ col, node.cols = [col] ∧ col.skylineOfDir ≠ .diff := by
    intro oneDim
    have one := (skylineChooseMethod_oneDim chosen oneDim).1
    rw [← width] at one
    rcases List.length_eq_one_iff.mp one with ⟨col, colsEq⟩
    exact ⟨col, colsEq, fits.ordinary oneDim col (by simp [colsEq])⟩
  have reading : node.skylineMethod = .oneDim ∨ node.skylineMethod = .oneDimDistinct →
      node.skylineMethod = if node.skylineDistinct then .oneDimDistinct else .oneDim := by
    intro oneDim
    rw [carries.distinct]
    exact (skylineChooseMethod_oneDim chosen oneDim).2
  unfold MethodFits
  cases method : node.skylineMethod with
  | oneDim =>
      rcases single (Or.inl method) with ⟨col, colsEq, ordinary⟩
      have notDistinct := reading (Or.inl method)
      rw [method] at notDistinct
      refine ⟨by cases h : node.skylineDistinct <;> simp [h] at notDistinct ⊢, col, colsEq,
        ordinary,
        ?_⟩
      rcases fits.assigned method with byValue | nonempty
      · exact Or.inl (byValue col (by simp [colsEq]))
      · right
        rintro rfl
        rcases List.exists_mem_of_ne_nil input nonempty with ⟨x, mem⟩
        rcases covers.mem_or_beaten mem with kept | ⟨k, kept, _⟩ <;> simp at kept
  | oneDimDistinct =>
      rcases single (Or.inr method) with ⟨col, colsEq, ordinary⟩
      have isDistinct := reading (Or.inr method)
      rw [method] at isDistinct
      exact ⟨by cases h : node.skylineDistinct <;> simp [h] at isDistinct ⊢, col, colsEq, ordinary⟩
  | twoDimPresort =>
      have narrow : node.cols.length ≤ 2 := by
        rw [width]
        exact (eq_of_skylineChooseMethod chosen).2 method
      rcases ordered_input families lawful reads keysMade canonical carries (Or.inl method) fits
        agree (sorted (Or.inl method)) with ⟨inOrder, relays⟩
      exact ⟨inOrder, relays method narrow⟩
  | materializedNestedLoop => trivial
  | blockNestedLoop => exact fits.capacity (Or.inl method)
  | sfs =>
      have inOrder := (ordered_input families lawful reads keysMade canonical carries
        (Or.inr method) fits agree (sorted (Or.inr method))).1
      exact ⟨inOrder, fits.capacity (Or.inr method)⟩
  | elimFilter =>
      exact absurd method (known_of_skylineChooseMethod chosen).2
  | unknown =>
      exact absurd method (known_of_skylineChooseMethod chosen).1

variable [LE R] [DecidableLE R] [LT R] [DecidableLT R]

/-- The skyline nodes compute the skyline of their input. -/
theorem planSkyline_isSkyline {nodes : List (UpperNode (EC → Option D) D EC)}
    {after : List (PathKey EC)} {cols : List (SkylineCol D)}
    (colsMade : makeSkylineCols catalog tlist clause.skylineOfList = .ok cols)
    (planned : planSkyline catalog tlist haveStats clause (canonicalizePathkeys root rawKeys)
      currentPathkeys = .ok (nodes, after))
    (fits : ∀ node, UpperNode.skyline node ∈ nodes → NodeFits env (entriesOf root rawKeys node)
      (canonicalizePathkeys root rawKeys) currentPathkeys input node)
    (filterFits : ∀ node, UpperNode.elimFilter node ∈ nodes → FilterFits node)
    (agree : ConstantsAgree root input)
    (sorted : SortedByPathkeys order currentPathkeys input) :
    (∀ out, ComputeInTurn env order id nodes input out →
      IsSkyline env.slotGetattr cols clause.skylineDistinct input out) ∧
    ((∀ node ∈ nodes, node.Initializes env) →
      ∃ out, ComputeInTurn env order id nodes input out) := by
  rcases (bind_eq_ok_iff _ _ _).mp planned with ⟨skylineMethod, chosen, afterMethod⟩
  rcases (bind_eq_ok_iff _ _ _).mp afterMethod with ⟨filterNodes, filtered, afterFilter⟩
  rcases (bind_eq_ok_iff _ _ _).mp afterFilter with ⟨node, made, result⟩
  have carries := makeSkyline_carries made
  have method := makeSkyline_method made
  cases result
  subst method
  have nodeFits := fits node (by simp)
  have lawfulCols := lawfulCols_of_made carries.cols keysMade families reads
  rw [← carries.distinct, ← carries.cols_eq colsMade]
  -- What the nodes below the skyline node deliver.
  have delivered : ∀ between sortedInput,
      Covers (NodeBeats env node) between input ∧ between.Sublist input →
      ComputeInTurn env order id (belowNodes node.skylineMethod
        (skylinePathkeysContainedIn (canonicalizePathkeys root rawKeys) currentPathkeys).1
        (canonicalizePathkeys root rawKeys)) between sortedInput →
      Covers (NodeBeats env node) sortedInput input ∧ MethodFits env node sortedInput := by
    rintro between sortedInput ⟨covers, sublist⟩ inTurn
    rcases belowNodes_spec inTurn (SortedByPathkeys.sublist (by rwa [List.map_id]) sublist) with
      ⟨same, inOrder⟩
    have sortedCovers := covers.perm same.symm
    refine ⟨sortedCovers, methodFits_of_planned families lawful reads keysMade canonical carries
      chosen nodeFits sortedCovers ?_ inOrder⟩
    intro x xMem y yMem
    exact agree x (sortedCovers.mem_of_kept xMem) y (sortedCovers.mem_of_kept yMem)
  have filters := fun between => @covers_of_planElimFilter E D R EC _ _ _ _ env order catalog tlist
    haveStats clause input between node carries filterNodes filtered fun filter mem =>
      filterFits filter (by simp [mem])
  constructor
  · intro out inTurn
    rcases inTurn_append_iff.mp inTurn with ⟨sortedInput, below, skylineStage⟩
    rcases inTurn_append_iff.mp below with ⟨between, filterStage, belowStage⟩
    rcases inTurn_singleton_iff.mp skylineStage with ⟨drawn, state, last, init, drains⟩
    rcases delivered between sortedInput (filters between filterStage) belowStage with
      ⟨covers, methodFits⟩
    rcases methodFits.isSkyline lawfulCols init with ⟨out', last', drains', skyline⟩
    rw [(drains.unique drains').1]
    exact skyline.of_covers lawfulCols covers
  · intro initializes
    rcases @exists_planElimFilter E D R EC _ _ _ _ env order catalog tlist haveStats clause input
      filterNodes filtered (fun filter mem => filterFits filter (by simp [mem]))
      (fun filter mem => initializes filter (by simp [mem])) with ⟨between, filterStage⟩
    rcases @exists_belowNodes D R EC _ _ _ _ env order node.skylineMethod
      (canonicalizePathkeys root rawKeys) families.threeWay
      (skylinePathkeysContainedIn (canonicalizePathkeys root rawKeys) currentPathkeys).1 between
      with ⟨sortedInput, belowStage⟩
    rcases delivered between sortedInput (filters between filterStage) belowStage with
      ⟨_, methodFits⟩
    rcases initializes (.skyline node) (by simp) sortedInput with ⟨drawn, state, init⟩
    rcases methodFits.isSkyline lawfulCols init with ⟨out, last, drains, _⟩
    exact ⟨out, inTurn_append_iff.mpr ⟨sortedInput,
      inTurn_append_iff.mpr ⟨between, filterStage, belowStage⟩,
      inTurn_singleton_iff.mpr ⟨drawn, state, last, init, drains⟩⟩⟩

end Planned

/-! ## The whole query -/

/-- DISTINCT and LIMIT on the sorted result. -/
def UpperQuery.finish {T : Type} (query : UpperQuery T EC) (result : List T) : List T :=
  let distinctResult := (query.distinctClause.map (execUnique · result)).getD result
  (query.limitClause.map fun limit => execLimit limit.1 limit.2 distinctResult).getD distinctResult

/-- The nodes for DISTINCT and LIMIT. -/
abbrev finishNodes {T : Type} (query : UpperQuery T EC) : List (UpperNode T D EC) :=
  query.distinctClause.toList.map UpperNode.unique ++
    query.limitClause.toList.map fun limit => UpperNode.limit limit.1 limit.2

section Query

variable [DecidableEq EC] [LE R] [DecidableLE R] [LT R] [DecidableLT R]
  (env : ExecEnv (EC → Option D) D R) (catalog : Catalog D) (order : Oid → D → D → Int)
  (root : PlannerInfo E EC) (tlist : List (TargetEntry E)) (skylineOfList : List SkylineOf)
  (skylineDistinct : Bool)

/-- A query over an input, with the nodes that `grouping_planner` puts on the path it
comes from. -/
structure PlannedOn (query : UpperQuery (EC → Option D) EC) (currentPathkeys : List (PathKey EC))
    (nodes : List (UpperNode (EC → Option D) D EC)) (input : List (EC → Option D)) : Prop where
  clause : ∃ options, query.skylineClause = some ⟨skylineDistinct, skylineOfList, options⟩
  planned : ∃ haveStats queryPathkeys,
    groupingPlannerEnd catalog tlist haveStats query currentPathkeys = .ok (nodes, queryPathkeys)
  canonical : root.Canonical currentPathkeys
  agree : ConstantsAgree root input
  sorted : SortedByPathkeys order currentPathkeys input
  fits : ∃ rawKeys, makePathkeysForSkylineclause catalog root tlist skylineOfList = .ok rawKeys ∧
    query.skylinePathkeys = canonicalizePathkeys root rawKeys ∧
    ∀ node, UpperNode.skyline node ∈ nodes → NodeFits env (entriesOf root rawKeys node)
      (canonicalizePathkeys root rawKeys) currentPathkeys input node
  filterFits : ∀ node, UpperNode.elimFilter node ∈ nodes → FilterFits node

end Query

section Computed

variable {T : Type} [LE R] [DecidableLE R] [LT R] [DecidableLT R] {env : ExecEnv T D R}
  {order : Oid → D → D → Int} {row : T → EC → Option D} {query : UpperQuery T EC}
  {result out : List T}

/-- The nodes above the sort finish the query. -/
theorem computeInTurn_finishNodes_iff :
    ComputeInTurn env order row (finishNodes query) result out ↔ out = query.finish result := by
  unfold finishNodes UpperQuery.finish
  cases query.distinctClause <;> cases query.limitClause <;>
    simp [ComputeInTurn, InTurn, UpperNode.Computes]

end Computed

section OrderBy

variable [DecidableEq EC] [LE R] [DecidableLE R] [LT R] [DecidableLT R]
  {env : ExecEnv (EC → Option D) D R} {order : Oid → D → D → Int}
  {query : UpperQuery (EC → Option D) EC} {currentPathkeys after : List (PathKey EC)}
  {sortNodes : List (UpperNode (EC → Option D) D EC)} {between result : List (EC → Option D)}

/-- The sort step for ORDER BY only rearranges. -/
theorem perm_of_planSort (planned : planSort query currentPathkeys = (sortNodes, after))
    (inTurn : ComputeInTurn env order id sortNodes between result) : result.Perm between := by
  unfold planSort at planned
  split at planned
  · cases planned
    exact (inTurn_singleton_iff.mp inTurn).1
  · cases planned
    rw [ComputeInTurn, InTurn] at inTurn
    rw [inTurn]

private theorem exists_planSort (lawful : ∀ opfamily, ThreeWay (order opfamily))
    (planned : planSort query currentPathkeys = (sortNodes, after)) :
    ∃ result, ComputeInTurn env order id sortNodes between result := by
  unfold planSort at planned
  split at planned
  · cases planned
    rcases @exists_sort D R EC _ _ _ _ env order lawful query.sortPathkeys between with
      ⟨result, computes⟩
    exact ⟨result, inTurn_singleton_iff.mpr computes⟩
  · cases planned
    exact ⟨between, rfl⟩

end OrderBy

section Main

variable [DecidableEq EC] [LE R] [DecidableLE R] [LT R] [DecidableLT R]
  {env : ExecEnv (EC → Option D) D R} {catalog : Catalog D} {order : Oid → D → D → Int}
  {root : PlannerInfo E EC} {tlist : List (TargetEntry E)} {skylineOfList : List SkylineOf}
  {skylineDistinct : Bool} {cols : List (SkylineCol D)}
  {query : UpperQuery (EC → Option D) EC} {currentPathkeys : List (PathKey EC)}
  {nodes : List (UpperNode (EC → Option D) D EC)} {input : List (EC → Option D)}

/-- Below the nodes for DISTINCT and LIMIT the plan computes the skyline of its input, in
the order of ORDER BY. -/
theorem PlannedOn.exists_below (families : FamilyOrders catalog order) (lawful : root.Lawful order)
    (reads : ReadsClasses catalog root tlist skylineOfList env.slotGetattr)
    (colsMade : makeSkylineCols catalog tlist skylineOfList = .ok cols)
    (plannedOn : PlannedOn env catalog order root tlist skylineOfList skylineDistinct query
      currentPathkeys nodes input) :
    ∃ below, nodes = below ++ finishNodes query ∧
      (∀ result, ComputeInTurn env order id below input result →
        IsSkyline env.slotGetattr cols skylineDistinct input result ∧
          (query.sortClause = true → SortedByPathkeys order query.sortPathkeys result)) ∧
      ((∀ node ∈ nodes, node.Initializes env) →
        ∃ result, ComputeInTurn env order id below input result) := by
  rcases plannedOn with ⟨⟨options, clause⟩, ⟨haveStats, queryPathkeys, planned⟩, canonical, agree,
    sorted, ⟨rawKeys, keysMade, pathkeys, fits⟩, filterFits⟩
  rcases (bind_eq_ok_iff _ _ _).mp planned with ⟨⟨skylineNodes, afterSkyline⟩, skyline, result⟩
  cases sortStep : planSort (D := D) query afterSkyline with
  | mk sortNodes afterSort =>
  simp only [sortStep] at result
  cases result
  have establishes := @planSkylineClause_establishes (EC → Option D) D R E EC _ _ _ _ env order id
    afterSkyline skylineNodes catalog tlist haveStats _ query currentPathkeys skyline
  rcases @planSort_spec (EC → Option D) D R EC _ _ _ _ env order id queryPathkeys _ query
    afterSkyline sortNodes sortStep with ⟨sorts, contained⟩
  rw [planSkylineClause, clause, pathkeys] at skyline
  have skylines := planSkyline_isSkyline families lawful reads keysMade canonical colsMade skyline
    (fun node mem => fits node (by simp [mem])) (fun node mem => filterFits node (by simp [mem]))
    agree sorted
  refine ⟨skylineNodes ++ sortNodes, List.append_assoc _ _ _, ?_, ?_⟩
  · intro result inTurn
    have inputSorted : SortedByPathkeys order currentPathkeys (input.map id) := by
      rwa [List.map_id]
    have reported : SortedByPathkeys order queryPathkeys (result.map id) :=
      (establishes.append sorts) input result inputSorted inTurn.deliverInTurn
    rw [List.map_id] at reported
    rcases inTurn_append_iff.mp inTurn with ⟨between, skylineStage, sortStage⟩
    exact ⟨(skylines.1 between skylineStage).perm (perm_of_planSort sortStep sortStage),
      fun sortClause => reported.of_prefix (contained sortClause)⟩
  · intro initializes
    rcases skylines.2 fun node mem => initializes node (by simp [mem]) with ⟨between, skylineStage⟩
    rcases @exists_planSort D R EC _ _ _ _ _ env order query afterSkyline queryPathkeys sortNodes
      between families.threeWay sortStep with ⟨result, sortStage⟩
    exact ⟨result, inTurn_append_iff.mpr ⟨between, skylineStage, sortStage⟩⟩

end Main

/-- Whatever method, filter, sort and path are chosen for a query with SKYLINE OF, the plan
returns the skyline in the order of ORDER BY, cut down by DISTINCT and LIMIT. -/
theorem groupingPlanner_computes_skyline [DecidableEq EC] [LE R] [DecidableLE R] [LT R]
    [DecidableLT R] (env : ExecEnv (EC → Option D) D R) (catalog : Catalog D)
    (order : Oid → D → D → Int) (families : FamilyOrders catalog order) (root : PlannerInfo E EC)
    (lawful : root.Lawful order) (tlist : List (TargetEntry E)) (skylineOfList : List SkylineOf)
    (reads : ReadsClasses catalog root tlist skylineOfList env.slotGetattr)
    (cols : List (SkylineCol D))
    (colsMade : makeSkylineCols catalog tlist skylineOfList = .ok cols) (skylineDistinct : Bool)
    (query : UpperQuery (EC → Option D) EC) (currentPathkeys : List (PathKey EC))
    (nodes : List (UpperNode (EC → Option D) D EC)) (input : List (EC → Option D))
    (plannedOn : PlannedOn env catalog order root tlist skylineOfList skylineDistinct query
      currentPathkeys nodes input) :
    (∀ out, ComputeInTurn env order id nodes input out →
      ∃ result, IsSkyline env.slotGetattr cols skylineDistinct input result ∧
        (query.sortClause = true → SortedByPathkeys order query.sortPathkeys result) ∧
        out = query.finish result) ∧
    ((∀ node ∈ nodes, node.Initializes env) →
      ∃ out, ComputeInTurn env order id nodes input out) := by
  rcases plannedOn.exists_below families lawful reads colsMade with ⟨below, rfl, sound, total⟩
  constructor
  · intro out inTurn
    rcases inTurn_append_iff.mp inTurn with ⟨result, belowStage, finish⟩
    rcases sound result belowStage with ⟨skyline, sorted⟩
    exact ⟨result, skyline, sorted, computeInTurn_finishNodes_iff.mp finish⟩
  · intro initializes
    rcases total initializes with ⟨result, belowStage⟩
    exact ⟨query.finish result, inTurn_append_iff.mpr
      ⟨result, belowStage, computeInTurn_finishNodes_iff.mpr rfl⟩⟩

/-! ## `SKYLINE OF a MIN, b MIN` in two plans -/

/-- The columns of the clause. -/
def colsMinAB : List (SkylineCol Int) :=
  [⟨1, intCompare, ⟨false, false⟩, .min⟩, ⟨2, intCompare, ⟨false, false⟩, .min⟩]

/-- A node for the clause `WITH SFS, SLOTS=1, EF`. -/
def sfsNode (skylineMethod : SkylineMethod) : Skyline Int :=
  ⟨colsMinAB, false, [⟨"sfs", .integer 1⟩, ⟨"slots", .integer 1⟩, ⟨"ef", .integer 1⟩],
    skylineMethod, false⟩

/-- The query with this node, ORDER BY a, and a LIMIT. -/
def sfsQuery (limitClause : Option (Nat × Option Nat)) :
    UpperQuery (Nat × List Oid → Option Int) (Nat × List Oid) :=
  ⟨some ⟨false, minAB, (sfsNode .sfs).skylineOfOptions⟩, [ascending 1, ascending 2], true,
    [ascending 1], none, limitClause⟩

/-- Its plan without an index. -/
def sfsPlan (limitClause : Option (Nat × Option Nat)) :
    List (UpperNode (Nat × List Oid → Option Int) Int (Nat × List Oid)) :=
  [.elimFilter (sfsNode .elimFilter), .sort [ascending 1, ascending 2], .skyline (sfsNode .sfs)] ++
    finishNodes (sfsQuery limitClause)

theorem plannedOn_sfsPlan (limitClause : Option (Nat × Option Nat))
    (input : List (Nat × List Oid → Option Int)) :
    PlannedOn columnEnv integerCatalog (fun _ => intCompare) columnInfo targetsABF minAB false
      (sfsQuery limitClause) [] (sfsPlan limitClause) input where
  clause := ⟨_, rfl⟩
  planned := ⟨false, [ascending 1, ascending 2], rfl⟩
  canonical := ⟨List.nodup_nil, List.forall_mem_nil _⟩
  agree := by
    intro _ _ _ _ eclass redundant
    cases redundant
  sorted := List.pairwise_of_forall fun _ _ => Int.le_refl 0
  fits := by
    refine ⟨_, rfl, rfl, ?_⟩
    intro node mem
    have isNode : node = sfsNode .sfs := by
      cases limitClause <;> simpa [sfsPlan, finishNodes, sfsQuery] using mem
    subst isNode
    refine ⟨by simp [sfsNode], by simp [sfsNode], ?_, by simp [sfsNode], ?_⟩
    · intro _ relies
      cases relies
    · intro _ windowSize windowSlots options
      have known : WindowOptions columnEnv (sfsNode .sfs) 1024 1 := ⟨rfl, rfl, by decide⟩
      rcases known.unique options with ⟨rfl, rfl⟩
      decide
  filterFits := by
    intro node mem
    have isNode : node = sfsNode .elimFilter := by
      cases limitClause <;> simpa [sfsPlan, finishNodes, sfsQuery] using mem
    subst isNode
    intro windowSize windowSlots size slots
    cases size
    cases slots
    decide

/-- The same clause without options over an index on `(a, b, f)`. -/
def indexQuery : UpperQuery (Nat × List Oid → Option Int) (Nat × List Oid) :=
  ⟨some ⟨false, minAB, []⟩, [ascending 1, ascending 2], false, [], none, none⟩

def indexNode : Skyline Int :=
  ⟨colsMinAB, false, [], .twoDimPresort, false⟩

private theorem plannedOn_indexPlan (env : ExecEnv (Nat × List Oid → Option Int) Int Int)
    {input : List (Nat × List Oid → Option Int)}
    (sorted :
      SortedByPathkeys (fun _ => intCompare) [ascending 1, ascending 2, ascending 3] input) :
    PlannedOn env integerCatalog (fun _ => intCompare) columnInfo targetsABF minAB false
      indexQuery [ascending 1, ascending 2, ascending 3] [.skyline indexNode] input where
  clause := ⟨_, rfl⟩
  planned := ⟨false, [ascending 1, ascending 2, ascending 3], rfl⟩
  canonical := ⟨by decide, by decide⟩
  agree := by
    intro _ _ _ _ eclass redundant
    cases redundant
  sorted := sorted
  fits := by
    refine ⟨_, rfl, rfl, ?_⟩
    intro node mem
    have isNode : node = indexNode := by simpa using mem
    subst isNode
    refine ⟨by simp [indexNode], by simp [indexNode], ?_, ?_, by simp [indexNode]⟩
    · intro _ _
      decide
    · intro _
      decide
  filterFits := by simp

theorem sfsPlan_initializes :
    ∀ node ∈ sfsPlan (some (0, some 1)), node.Initializes columnEnv := by
  intro node mem
  simp only [sfsPlan, finishNodes, sfsQuery, Option.toList_none, Option.toList_some, List.map_nil,
    List.map_cons, List.cons_append, List.nil_append, List.mem_cons, List.not_mem_nil, or_false]
    at mem
  rcases mem with rfl | rfl | rfl | rfl
  · exact fun _ => ⟨0, _, rfl⟩
  · trivial
  · exact fun _ => ⟨0, _, rfl⟩
  · trivial

/-- With LIMIT 1 the plan returns the skyline row with the least `a`. -/
theorem groupingPlanner_computes_skyline_limited :
    let input := [rowABF 2 1 0, rowABF 1 2 0, rowABF 2 2 0]
    (∀ out, ComputeInTurn columnEnv (fun _ => intCompare) id (sfsPlan (some (0, some 1))) input
        out →
      ∃ result, IsSkyline columnEnv.slotGetattr colsMinAB false input result ∧
        SortedByPathkeys (fun _ => intCompare) [ascending 1] result ∧ out = result.take 1) ∧
    ∃ out, ComputeInTurn columnEnv (fun _ => intCompare) id (sfsPlan (some (0, some 1))) input
      out := by
  intro input
  rcases groupingPlanner_computes_skyline columnEnv integerCatalog (fun _ => intCompare)
    familyOrders_integerCatalog columnInfo columnInfo_lawful targetsABF minAB readsClasses_minAB
    colsMinAB rfl false (sfsQuery (some (0, some 1))) [] _ input
    (plannedOn_sfsPlan (some (0, some 1)) input) with ⟨sound, total⟩
  constructor
  · intro out inTurn
    rcases sound out inTurn with ⟨result, skyline, sorted, outEq⟩
    exact ⟨result, skyline, sorted rfl, outEq⟩
  · exact total sfsPlan_initializes

/-- Two plans for one clause agree, whatever their options, their paths, the order in which
they find the rows and the server they run on. -/
theorem groupingPlanner_plans_agree [DecidableEq EC] [LE R] [DecidableLE R] [LT R]
    [DecidableLT R] (env env' : ExecEnv (EC → Option D) D R)
    (sameReads : env'.slotGetattr = env.slotGetattr) (catalog : Catalog D)
    (order : Oid → D → D → Int) (families : FamilyOrders catalog order) (root : PlannerInfo E EC)
    (lawful : root.Lawful order) (tlist : List (TargetEntry E)) (skylineOfList : List SkylineOf)
    (reads : ReadsClasses catalog root tlist skylineOfList env.slotGetattr)
    (cols : List (SkylineCol D))
    (colsMade : makeSkylineCols catalog tlist skylineOfList = .ok cols) (skylineDistinct : Bool)
    (query query' : UpperQuery (EC → Option D) EC)
    (currentPathkeys currentPathkeys' : List (PathKey EC))
    (nodes nodes' : List (UpperNode (EC → Option D) D EC)) (input input' : List (EC → Option D))
    (sameInput : input'.Perm input)
    (plannedOn : PlannedOn env catalog order root tlist skylineOfList skylineDistinct query
      currentPathkeys nodes input)
    (plannedOn' : PlannedOn env' catalog order root tlist skylineOfList skylineDistinct query'
      currentPathkeys' nodes' input')
    (unfinished : query.distinctClause = none ∧ query.limitClause = none)
    (unfinished' : query'.distinctClause = none ∧ query'.limitClause = none)
    (out out' : List (EC → Option D)) (inTurn : ComputeInTurn env order id nodes input out)
    (inTurn' : ComputeInTurn env' order id nodes' input' out') :
    SameResult env.slotGetattr cols skylineDistinct out out' := by
  rcases plannedOn.exists_below families lawful reads colsMade with ⟨below, nodesEq, sound, _⟩
  rcases plannedOn'.exists_below families lawful (by rwa [sameReads]) colsMade with
    ⟨below', nodesEq', sound', _⟩
  simp only [finishNodes, unfinished, unfinished', Option.toList_none, List.map_nil,
    List.append_nil]
    at nodesEq nodesEq'
  subst nodesEq nodesEq'
  have skyline := (sound out inTurn).1
  have skyline' := (sound' out' inTurn').1
  rw [sameReads] at skyline'
  rcases plannedOn.fits with ⟨rawKeys, keysMade, _⟩
  have lawfulCols := lawfulCols_of_made colsMade keysMade families reads
  have rearranged := (Covers.refl (Beats env.slotGetattr cols skylineDistinct) input).perm
    sameInput.symm
  exact skyline.sameResult lawfulCols (skyline'.of_covers lawfulCols rearranged)

/-- The plan with the filter and the sort agrees with the one over the index, on a server
with less memory. -/
theorem groupingPlanner_plans_agree_index :
    let input := [rowABF 2 1 0, rowABF 1 2 0, rowABF 2 2 0]
    let indexInput := [rowABF 1 2 0, rowABF 2 1 0, rowABF 2 2 0]
    ∃ out out', ComputeInTurn columnEnv (fun _ => intCompare) id (sfsPlan none) input out ∧
      ComputeInTurn { columnEnv with workMem := 64 } (fun _ => intCompare) id
        [.skyline indexNode] indexInput out' ∧
      SameResult columnEnv.slotGetattr colsMinAB false out out' := by
  intro input indexInput
  have less : SortedByPathkeys (fun _ => intCompare) [ascending 1, ascending 2]
      [rowABF 1 2 0, rowABF 2 1 0] := List.pairwise_pair.mpr (by decide)
  have sorted : SortedByPathkeys (fun _ => intCompare)
      [ascending 1, ascending 2, ascending 3] indexInput := by
    simp only [indexInput, SortedByPathkeys, List.pairwise_cons, List.forall_mem_cons,
      List.Pairwise.nil, and_true]
    decide
  have inTurn : ComputeInTurn columnEnv (fun _ => intCompare) id (sfsPlan none) input
      [rowABF 1 2 0, rowABF 2 1 0] :=
    ⟨[rowABF 2 1 0, rowABF 1 2 0], computes_elimFilter_of_run 0 10 rfl rfl,
      [rowABF 1 2 0, rowABF 2 1 0], ⟨List.Perm.swap _ _ _, less⟩,
      [rowABF 1 2 0, rowABF 2 1 0], computes_skyline_of_run 0 12 rfl rfl, rfl⟩
  have inTurn' : ComputeInTurn { columnEnv with workMem := 64 } (fun _ => intCompare) id
      [.skyline indexNode] indexInput [rowABF 1 2 0, rowABF 2 1 0] :=
    inTurn_singleton_iff.mpr (computes_skyline_of_run 0 10 rfl rfl)
  exact ⟨_, _, inTurn, inTurn', groupingPlanner_plans_agree columnEnv
    { columnEnv with workMem := 64 } rfl integerCatalog _ familyOrders_integerCatalog columnInfo
    columnInfo_lawful targetsABF minAB readsClasses_minAB colsMinAB rfl false (sfsQuery none)
    indexQuery [] _ _ _ input indexInput (List.Perm.swap _ _ _) (plannedOn_sfsPlan none input)
    (plannedOn_indexPlan _ sorted) ⟨rfl, rfl⟩ ⟨rfl, rfl⟩ _ _ inTurn inTurn'⟩

end PgSkyline
