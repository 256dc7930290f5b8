import PgSkyline.InputOrder.Methods
import PgSkyline.Planner.GroupingPlanner
import PgSkyline.Planner.Result

/-!
# The order that the planner relies on

`grouping_planner` keeps `current_pathkeys` across a skyline node if the method
preserves the order of the tuples, leaves out the explicit sort for ORDER BY if
these path keys contain it, and reports them to the outer query level.
-/

namespace PgSkyline

open Pipeline Resumable TupleWindowState

variable {T D R E EC : Type} [LE R] [DecidableLE R] [LT R] [DecidableLT R]

/-! ## The nodes of the executor -/

section Methods

variable {env : ExecEnv T D R} {node : Skyline D} {input : List T} {drawn : Nat}
  {state : SkylineState T R}

theorem unwindowed_run_sublist {exec : Body Fault (SkylineState T R) T}
    {body : Body Fault (Scan T) T} {View : SkylineState T R → Scan T → Prop}
    (dispatch : execSkyline env node = exec) (simulates : Simulates exec body View)
    (consumes : ∀ scan pass, body scan = .ok pass → Consumes Scan.remaining scan pass)
    (view : View state (.start input)) (n : Nat) :
    (run (execSkyline env node) n state).1.Sublist input := by
  rw [dispatch, simulates.run_eq n view]
  exact Scan.run_sublist consumes (.start input) n

private theorem sortFilter_run_sublist (method : node.skylineMethod = .sfs)
    (init : execInitSkyline env node (OuterPlan.init input) drawn = .ok state) (n : Nat) :
    (run (execSkyline env node) n state).1.Sublist input := by
  rcases windowMethodStart_of_init (Or.inr method) init with ⟨policy, _, _, start⟩
  have keeps : SortFilter.KeepsFull env
      (begin env.negDblMax state.windowsize state.windowslots policy)
      (Pass.init (begin env.negDblMax state.windowsize state.windowslots policy) input drawn) := by
    constructor
    · exact balanced_begin _ _ _ _
    · exact SameLimits.refl _
    · rintro ⟨⟩
  rw [execSkyline_eq_sfs method, sortFilter_simulates.run_eq n start.sortFilter]
  exact SortFilter.run_sublist keeps n

/-- A method that preserves the order hands out a subsequence of its input. -/
theorem execSkyline_sublist (preserves : skylineMethodPreservesTupleOrder node.skylineMethod = true)
    (init : execInitSkyline env node (OuterPlan.init input) drawn = .ok state) (n : Nat) :
    (run (execSkyline env node) n state).1.Sublist input := by
  have atStart : ¬ node.skylineMethod.IsWindowed → AtStart state input ∧ state.resultSlot = none :=
    fun unwindowed => atStart_of_init unwindowed init
  unfold SkylineMethod.IsWindowed at atStart
  cases method : node.skylineMethod with
  | oneDim =>
      exact unwindowed_run_sublist (execSkyline_eq_oneDim method) oneDim_simulates
        Scan.oneDimPass_consumes
        (atStart (by simp [method])).1 n
  | oneDimDistinct =>
      exact unwindowed_run_sublist (execSkyline_eq_oneDimDistinct method) oneDimDistinct_simulates
        Scan.oneDimDistinctPass_consumes
        (atStart (by simp [method])) n
  | twoDimPresort =>
      exact unwindowed_run_sublist (execSkyline_eq_twoDimPresort method) presort_simulates
        Scan.presortPass_consumes
        (atStart (by simp [method])).1 n
  | materializedNestedLoop =>
      exact unwindowed_run_sublist (execSkyline_eq_materializedNestedLoop method)
        nestedLoop_simulates Scan.nestedLoopPass_consumes
        (atStart (by simp [method])).1 n
  | sfs => exact sortFilter_run_sublist method init n
  | elimFilter =>
      -- The filter is a node of its own; `ExecSkyline` does not run it.
      have fails : ∀ state : SkylineState T R,
          execSkyline env node state = .error (.assertion "0") := by
        intro state
        simp only [execSkyline, method]
      cases n with
      | zero => exact List.nil_sublist _
      | succ n =>
          rw [run, fails]
          exact List.nil_sublist _
  | blockNestedLoop | unknown =>
      rw [method] at preserves
      cases preserves

theorem execElimFilter_sublist
    (init : execInitElimFilter env node (OuterPlan.init input) drawn = .ok state) (n : Nat) :
    (run (execElimFilter env node) n state).1.Sublist input := by
  rcases ElimFilter.exists_window_of_init init with ⟨_, _, _, _, upcoming, _⟩
  have consumed := @ElimFilter.run_sublist T D R env node _ _ _ _ state n
  rwa [ElimFilter.remaining, upcoming] at consumed

end Methods

/-! ## The nodes of the planner -/

section Planner

variable {env : ExecEnv T D R} {order : Oid → D → D → Int} {row : T → EC → Option D}
  {input out : List T} {keys shorter : List (PathKey EC)}

omit [LE R] [DecidableLE R] [LT R] [DecidableLT R] in
/-- Part of the tuples in the same order are sorted in the same way. -/
theorem SortedByPathkeys.sublist (sorted : SortedByPathkeys order keys (input.map row))
    (sublist : out.Sublist input) : SortedByPathkeys order keys (out.map row) :=
  List.Pairwise.sublist (sublist.map row) sorted

omit [LE R] [DecidableLE R] [LT R] [DecidableLT R] in
/-- What is sorted by the path keys is sorted by the first of them. -/
theorem SortedByPathkeys.of_prefix (isPrefix : shorter <+: keys)
    {rows : List (EC → Option D)} (sorted : SortedByPathkeys order keys rows) :
    SortedByPathkeys order shorter rows :=
  List.Pairwise.imp (Comparison.lexicographic_nonpos_of_prefix (isPrefix.map _)) sorted

/-- The node keeps every order of its input. -/
def UpperNode.KeepsOrder : UpperNode T D EC → Prop
  | .sort _ => False
  | .skyline node => skylineMethodPreservesTupleOrder node.skylineMethod = true
  | _ => True

theorem UpperNode.KeepsOrder.sublist {node : UpperNode T D EC} (keepsOrder : node.KeepsOrder)
    (delivers : node.Delivers env order row input out) : out.Sublist input := by
  cases node with
  | elimFilter node =>
      rcases delivers with ⟨drawn, state, n, init, rfl⟩
      exact execElimFilter_sublist init n
  | sort pathkeys => exact keepsOrder.elim
  | material => exact delivers.sublist
  | skyline node =>
      rcases delivers with ⟨drawn, state, n, init, rfl⟩
      exact execSkyline_sublist keepsOrder init n
  | unique tuplesMatch => exact delivers.sublist.trans (List.destutter_sublist _ _)
  | limit offset count =>
      apply delivers.sublist.trans
      unfold execLimit
      split
      · exact List.drop_sublist _ _
      · exact (List.take_sublist _ _).trans (List.drop_sublist _ _)

private theorem sorted_of_sort {pathkeys : List (PathKey EC)}
    (delivers : (UpperNode.sort pathkeys).Delivers env order row input out) :
    SortedByPathkeys order pathkeys (out.map row) := by
  rcases delivers with ⟨sorted, _, inOrder, isPrefix⟩
  exact inOrder.sublist isPrefix.sublist

variable (env) (order) (row)

/-- From an input in one order the nodes deliver an output in another. -/
abbrev EstablishesOrder (before after : List (PathKey EC)) : List (UpperNode T D EC) → Prop :=
  Establishes (fun node input out => node.Delivers env order row input out)
    (fun input => SortedByPathkeys order before (input.map row))
    fun out => SortedByPathkeys order after (out.map row)

variable {env} {order} {row} {before after : List (PathKey EC)} {nodes : List (UpperNode T D EC)}

theorem establishes_of_keepsOrder (keepsOrder : ∀ node ∈ nodes, node.KeepsOrder) :
    EstablishesOrder env order row keys keys nodes :=
  establishes_of_keeps fun node mem _ _ delivers sorted =>
    sorted.sublist ((keepsOrder node mem).sublist delivers)

theorem establishes_sort (pathkeys : List (PathKey EC)) :
    EstablishesOrder env order row before pathkeys [.sort pathkeys] := by
  rintro input out _ ⟨handedOut, delivers, rfl⟩
  exact sorted_of_sort delivers

/-- Every output is sorted by no path keys. -/
theorem establishes_nil : EstablishesOrder env order row before [] nodes := by
  intro input out _ _
  exact List.pairwise_of_forall fun _ _ => Int.le_refl 0

/-! ## The end of `grouping_planner` -/

variable {catalog : Catalog D} {targetList : List (TargetEntry E)} {haveStats : Bool}

private theorem planElimFilter_keepsOrder {clause : SkylineClause}
    (planned : planElimFilter catalog targetList haveStats clause = .ok nodes) :
    ∀ node ∈ nodes, node.KeepsOrder := by
  rcases (bind_eq_ok_iff _ _ _).mp planned with ⟨useElimFilter, _, chosen⟩
  cases useElimFilter with
  | none =>
      cases chosen
      exact List.forall_mem_nil _
  | some _ =>
      rcases (bind_eq_ok_iff _ _ _).mp chosen with ⟨node, _, made⟩
      cases made
      exact List.forall_mem_singleton.mpr trivial

theorem makeSkyline_method {clause : SkylineClause} {skylineMethod : SkylineMethod}
    {node : Skyline D}
    (made : makeSkyline catalog targetList haveStats clause skylineMethod = .ok node) :
    node.skylineMethod = skylineMethod := by
  rcases (bind_eq_ok_iff _ _ _).mp made with ⟨cols, _, nodeEq⟩
  cases nodeEq
  rfl

variable [DecidableEq EC]

/-- The skyline nodes deliver the order that `current_pathkeys` says. -/
theorem planSkyline_establishes {clause : SkylineClause}
    {skylinePathkeys currentPathkeys : List (PathKey EC)}
    (planned : planSkyline catalog targetList haveStats clause skylinePathkeys currentPathkeys =
      .ok (nodes, after)) :
    EstablishesOrder env order row currentPathkeys after nodes := by
  rcases (bind_eq_ok_iff _ _ _).mp planned with ⟨skylineMethod, _, afterMethod⟩
  rcases (bind_eq_ok_iff _ _ _).mp afterMethod with ⟨elimFilter, filtered, afterFilter⟩
  rcases (bind_eq_ok_iff _ _ _).mp afterFilter with ⟨node, made, result⟩
  cases result
  by_cases preserves : skylineMethodPreservesTupleOrder skylineMethod = true
  · rw [if_pos preserves]
    have filterKeeps : EstablishesOrder env order row currentPathkeys currentPathkeys elimFilter :=
      establishes_of_keepsOrder (planElimFilter_keepsOrder filtered)
    have skylineKeeps : ∀ keys,
        EstablishesOrder env order row keys keys [UpperNode.skyline node] := by
      intro keys
      apply establishes_of_keepsOrder
      rw [List.forall_mem_singleton, UpperNode.KeepsOrder, makeSkyline_method made]
      exact preserves
    refine (filterKeeps.append ?_).append (skylineKeeps _)
    split
    · exact establishes_sort skylinePathkeys
    · split
      · exact establishes_of_keepsOrder (List.forall_mem_singleton.mpr trivial)
      · exact establishes_of_keepsOrder (List.forall_mem_nil _)
  · rw [if_neg preserves]
    exact establishes_nil

theorem planSkylineClause_establishes {query : UpperQuery T EC}
    {currentPathkeys : List (PathKey EC)}
    (planned : planSkylineClause catalog targetList haveStats query currentPathkeys =
      .ok (nodes, after)) :
    EstablishesOrder env order row currentPathkeys after nodes := by
  unfold planSkylineClause at planned
  cases clause : query.skylineClause with
  | none =>
      rw [clause] at planned
      cases planned
      exact establishes_of_keepsOrder (List.forall_mem_nil _)
  | some clause' =>
      rw [clause] at planned
      exact planSkyline_establishes planned

/-- Behind the sort step the path keys contain those of ORDER BY. -/
theorem planSort_spec (query : UpperQuery T EC) (currentPathkeys : List (PathKey EC))
    {sortNodes : List (UpperNode T D EC)}
    (planned : planSort query currentPathkeys = (sortNodes, after)) :
    EstablishesOrder env order row currentPathkeys after sortNodes ∧
      (query.sortClause = true → query.sortPathkeys <+: after) := by
  unfold planSort at planned
  split at planned
  · cases planned
    exact ⟨establishes_sort _, fun _ => List.prefix_refl _⟩
  · rename_i noSort
    cases planned
    refine ⟨establishes_of_keepsOrder (List.forall_mem_nil _), fun sortClause => ?_⟩
    rw [← pathkeysContainedIn_iff]
    simpa [sortClause] using noSort

/-- The final result has the reported order, and the order of ORDER BY. -/
theorem groupingPlannerEnd_establishes {query : UpperQuery T EC}
    {currentPathkeys queryPathkeys : List (PathKey EC)}
    (planned : groupingPlannerEnd catalog targetList haveStats query currentPathkeys =
      .ok (nodes, queryPathkeys)) :
    EstablishesOrder env order row currentPathkeys queryPathkeys nodes ∧
      (query.sortClause = true → query.sortPathkeys <+: queryPathkeys) := by
  rcases (bind_eq_ok_iff _ _ _).mp planned with ⟨⟨skylineNodes, betweenPathkeys⟩, skyline, result⟩
  cases sortStep : planSort (D := D) query betweenPathkeys with
  | mk sortNodes afterPathkeys =>
      rcases @planSort_spec T D R EC _ _ _ _ env order row afterPathkeys _ query betweenPathkeys
        sortNodes sortStep with ⟨sorts, contained⟩
      simp only [sortStep] at result
      cases result
      have skylines := @planSkylineClause_establishes T D R E EC _ _ _ _ env order row _ _ catalog
        targetList haveStats _ query currentPathkeys skyline
      have uniques : EstablishesOrder env order row queryPathkeys queryPathkeys
          (query.distinctClause.toList.map UpperNode.unique) := by
        apply establishes_of_keepsOrder
        intro node mem
        rcases List.mem_map.mp mem with ⟨_, _, rfl⟩
        trivial
      have limits : EstablishesOrder env order row queryPathkeys queryPathkeys
          (query.limitClause.toList.map fun limit => UpperNode.limit limit.1 limit.2) := by
        apply establishes_of_keepsOrder
        intro node mem
        rcases List.mem_map.mp mem with ⟨_, _, rfl⟩
        trivial
      exact ⟨((skylines.append sorts).append uniques).append limits, contained⟩

end Planner

/-- What the planner relies on: the methods that preserve the order, and the
elimination filter, hand out subsequences of their input, so the result of the plan
has the order reported in `query_pathkeys` and the order of ORDER BY, with or without
an explicit sort. -/
theorem groupingPlanner_tupleOrder [DecidableEq EC] (env : ExecEnv T D R) (catalog : Catalog D)
    (order : Oid → D → D → Int) (row : T → EC → Option D) (targetList : List (TargetEntry E))
    (haveStats : Bool) :
    (∀ (node : Skyline D) (input : List T) (drawn : Nat) (state : SkylineState T R),
      skylineMethodPreservesTupleOrder node.skylineMethod = true →
      execInitSkyline env node (OuterPlan.init input) drawn = .ok state →
      ∀ n, (run (execSkyline env node) n state).1.Sublist input) ∧
    (∀ (node : Skyline D) (input : List T) (drawn : Nat) (state : SkylineState T R),
      execInitElimFilter env node (OuterPlan.init input) drawn = .ok state →
      ∀ n, (run (execElimFilter env node) n state).1.Sublist input) ∧
    ∀ (query : UpperQuery T EC) (currentPathkeys queryPathkeys : List (PathKey EC))
      (nodes : List (UpperNode T D EC)),
      groupingPlannerEnd catalog targetList haveStats query currentPathkeys =
        .ok (nodes, queryPathkeys) →
      ∀ input out, SortedByPathkeys order currentPathkeys (input.map row) →
        DeliverInTurn env order row nodes input out →
        SortedByPathkeys order queryPathkeys (out.map row) ∧
          (query.sortClause = true → SortedByPathkeys order query.sortPathkeys (out.map row)) := by
  refine ⟨fun node input drawn state preserves init => execSkyline_sublist preserves init,
    fun node input drawn state init => execElimFilter_sublist init, ?_⟩
  intro query currentPathkeys queryPathkeys nodes planned input out sorted inTurn
  rcases @groupingPlannerEnd_establishes T D R E EC _ _ _ _ env order row nodes catalog targetList
    haveStats _ query currentPathkeys queryPathkeys planned with ⟨establishes, contained⟩
  have reported := establishes input out sorted inTurn
  exact ⟨reported, fun sortClause => reported.of_prefix (contained sortClause)⟩

/-- `SKYLINE OF a MIN, b MIN WITH SFS, SLOTS=1, EF ORDER BY a`: the second result comes
from a second pass, and no sort follows. -/
theorem groupingPlanner_tupleOrder_secondPass :
    let clause : SkylineClause :=
      ⟨false, minAB, [⟨"sfs", .integer 1⟩, ⟨"slots", .integer 1⟩, ⟨"ef", .integer 1⟩]⟩
    let query : UpperQuery (Nat × List Oid → Option Int) (Nat × List Oid) :=
      ⟨some clause, [ascending 1, ascending 2], true, [ascending 1], none, none⟩
    let cols : List (SkylineCol Int) :=
      [⟨1, Comparison.intCompare, ⟨false, false⟩, .min⟩,
        ⟨2, Comparison.intCompare, ⟨false, false⟩, .min⟩]
    let elimFilter : Skyline Int := ⟨cols, false, clause.skylineOfOptions, .elimFilter, false⟩
    let node : Skyline Int := ⟨cols, false, clause.skylineOfOptions, .sfs, false⟩
    let input := [rowABF 2 1 0, rowABF 1 2 0, rowABF 2 2 0]
    let out := [rowABF 1 2 0, rowABF 2 1 0]
    groupingPlannerEnd integerCatalog targetsABF false query [] =
        .ok ([.elimFilter elimFilter, .sort [ascending 1, ascending 2], .skyline node],
          [ascending 1, ascending 2]) ∧
      (∃ state, execInitSkyline columnEnv node (OuterPlan.init out) 0 = .ok state ∧
        ∀ n, (run (execSkyline columnEnv node) n state).1.Sublist out) ∧
      (∃ state, execInitElimFilter columnEnv elimFilter (OuterPlan.init input) 0 = .ok state ∧
        ∀ n, (run (execElimFilter columnEnv elimFilter) n state).1.Sublist input) ∧
      SortedByPathkeys (fun _ => Comparison.intCompare) [ascending 1, ascending 2] out ∧
      SortedByPathkeys (fun _ => Comparison.intCompare) [ascending 1] out := by
  intro clause query cols elimFilter node input out
  rcases groupingPlanner_tupleOrder columnEnv integerCatalog (fun _ => Comparison.intCompare) id
    targetsABF false with ⟨methods, filter, ordered⟩
  have inTurn : DeliverInTurn columnEnv (fun _ => Comparison.intCompare) id
      [.elimFilter elimFilter, .sort [ascending 1, ascending 2], .skyline node] input out := by
    refine ⟨[rowABF 2 1 0, rowABF 1 2 0], ⟨0, _, 10, rfl, rfl⟩, out, ⟨out, ?_, ?_, ?_⟩, out,
      ⟨0, _, 12, rfl, rfl⟩, rfl⟩
    · exact List.Perm.swap _ _ _
    · exact List.pairwise_pair.mpr (by decide)
    · exact List.prefix_refl _
  have planned : groupingPlannerEnd integerCatalog targetsABF false query [] =
      .ok ([.elimFilter elimFilter, .sort [ascending 1, ascending 2], .skyline node],
        [ascending 1, ascending 2]) := rfl
  have sorted := ordered query [] _ _ planned input out
    (List.pairwise_of_forall fun _ _ => Int.le_refl 0) inTurn
  exact ⟨planned, ⟨_, rfl, methods node out 0 _ rfl rfl⟩, ⟨_, rfl, filter elimFilter input 0 _ rfl⟩,
    sorted.1, sorted.2 rfl⟩

end PgSkyline
