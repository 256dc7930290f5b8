import PgSkyline.Lib.Comparison
import PgSkyline.Planner.Paths
import PgSkyline.Parser.Result

/-!
# When an ordinary query keeps its best path

For a query without a skyline clause the modified planner still looks for a
skyline path, and it drops the presorted path if that is the same one.  The best
path is then the cheapest-total path, although the unmodified planner would have
taken the presorted one.
-/

namespace PgSkyline

open Comparison

variable {P C F EC : Type} [LinearOrder C]
variable (table : PathTable P C EC) (costs : CostModel F C EC) (fraction : F)

/-! ## The cheapest path -/

/-- What two paths are compared by. -/
def costKey (path : PathCost C) : C ×ₗ C :=
  if costs.isWhole fraction then toLex (path.totalCost, path.startupCost)
  else toLex (costs.costAt fraction path, costs.costAt fraction path)

private theorem compareFractionalPathCosts_eq (path1 path2 : PathCost C) :
    compareFractionalPathCosts costs fraction path1 path2 =
      keyCompare (costKey costs fraction) path1 path2 := by
  unfold compareFractionalPathCosts keyCompare costKey
  by_cases whole : costs.isWhole fraction = true
  · simp only [whole, if_true, comparePathCosts, compareCosts, Prod.Lex.toLex_lt_toLex]
    rcases lt_trichotomy path1.totalCost path2.totalCost with less | equal | greater
    · simp [less]
    · simp [equal]
    · simp [greater, greater.not_gt, greater.ne']
  · simp only [whole, if_false, compareCosts, Prod.Lex.toLex_lt_toLex, Bool.false_eq_true]
    rcases lt_trichotomy (costs.costAt fraction path1) (costs.costAt fraction path2) with
      less | equal | greater
    · simp [less]
    · simp [equal]
    · simp [greater, greater.not_gt, greater.ne']

/-- The comparison of two paths at the tuple fraction. -/
def comparePaths (path1 path2 : P) : Int :=
  compareFractionalPathCosts costs fraction (table.cost path1) (table.cost path2)

theorem threeWay_comparePaths : ThreeWay (comparePaths table costs fraction) := by
  have sameFunction : comparePaths table costs fraction =
      keyCompare fun path => costKey costs fraction (table.cost path) := by
    funext path1 path2
    exact compareFractionalPathCosts_eq costs fraction _ _
  rw [sameFunction]
  exact threeWay_keyCompare _

variable [DecidableEq P]

/-- The first path is cheaper, or as cheap and earlier in the list. -/
def Precedes (paths : List P) (path1 path2 : P) : Prop :=
  comparePaths table costs fraction path1 path2 < 0 ∨
    comparePaths table costs fraction path1 path2 = 0 ∧ paths.idxOf path1 < paths.idxOf path2

/-- The path satisfies the condition, and no path that does precedes it. -/
def FirstCheapest (paths : List P) (accepts : P → Prop) (path : P) : Prop :=
  path ∈ paths ∧ accepts path ∧
    ∀ other ∈ paths, accepts other → ¬ Precedes table costs fraction paths other path

/-- The path found in the list, if there is one. -/
def Found (paths : List P) (accepts : P → Prop) : Option P → Prop
  | none => ∀ path ∈ paths, ¬ accepts path
  | some path => FirstCheapest table costs fraction paths accepts path

variable {table} {costs} {fraction} {paths : List P} {accepts : P → Prop}

theorem FirstCheapest.unique {path1 path2 : P}
    (first : FirstCheapest table costs fraction paths accepts path1)
    (second : FirstCheapest table costs fraction paths accepts path2) : path1 = path2 := by
  rcases first with ⟨mem1, accepted1, none1⟩
  rcases second with ⟨mem2, accepted2, none2⟩
  have notBefore := none1 path2 mem2 accepted2
  have notAfter := none2 path1 mem1 accepted1
  have swap := (threeWay_comparePaths table costs fraction).swap path1 path2
  simp only [Precedes, not_or, not_and, not_lt] at notBefore notAfter
  have equal : comparePaths table costs fraction path1 path2 = 0 := by omega
  have sameIndex : paths.idxOf path1 = paths.idxOf path2 :=
    Nat.le_antisymm (notBefore.2 (by omega)) (notAfter.2 equal)
  exact (List.idxOf_inj mem1).mp sameIndex

theorem Found.eq_some_iff {found : Option P}
    (isFound : Found table costs fraction paths accepts found) (path : P) :
    found = some path ↔ FirstCheapest table costs fraction paths accepts path := by
  constructor
  · rintro rfl
    exact isFound
  · intro cheapest
    cases found with
    | none => exact absurd cheapest.2.1 (isFound path cheapest.1)
    | some other => rw [FirstCheapest.unique isFound cheapest]

theorem precedes_append_iff {path1 path2 : P} (mem1 : path1 ∈ paths) (mem2 : path2 ∈ paths)
    (later : List P) :
    Precedes table costs fraction (paths ++ later) path1 path2 ↔
      Precedes table costs fraction paths path1 path2 := by
  rw [Precedes, Precedes, List.idxOf_append_of_mem mem1, List.idxOf_append_of_mem mem2]

/-- A path that was in the list already, or not acceptable, changes nothing. -/
theorem FirstCheapest.append {matched : P}
    (cheapest : FirstCheapest table costs fraction paths accepts matched) {path : P}
    (notBetter : accepts path → ¬ Precedes table costs fraction (paths ++ [path]) path matched) :
    FirstCheapest table costs fraction (paths ++ [path]) accepts matched := by
  rcases cheapest with ⟨mem, accepted, none⟩
  refine ⟨List.mem_append_left _ mem, accepted, fun other otherMem otherAccepted => ?_⟩
  rcases List.mem_append.mp otherMem with old | new
  · rw [precedes_append_iff old mem]
    exact none other old otherAccepted
  · rw [List.mem_singleton] at new
    subst new
    exact notBetter otherAccepted

/-- A path that costs no more precedes what is added behind it. -/
theorem FirstCheapest.not_precedes {matched : P}
    (cheapest : FirstCheapest table costs fraction paths accepts matched) {path : P}
    (keeps : comparePaths table costs fraction matched path ≤ 0) (accepted : accepts path) :
    ¬ Precedes table costs fraction (paths ++ [path]) path matched := by
  intro precedes
  rcases cheapest with ⟨matchedMem, _, none⟩
  by_cases old : path ∈ paths
  · exact none path old accepted ((precedes_append_iff old matchedMem _).mp precedes)
  · have swap := (threeWay_comparePaths table costs fraction).swap matched path
    have matchedIdx := List.idxOf_lt_length_of_mem matchedMem
    rcases precedes with cheaper | ⟨same, earlier⟩
    · omega
    · rw [List.idxOf_append_of_notMem old, List.idxOf_append_of_mem matchedMem] at earlier
      omega

/-- What does not precede a path costs more than one that costs less. -/
theorem FirstCheapest.lt_of_lt {matched : P}
    (cheapest : FirstCheapest table costs fraction paths accepts matched) {path : P}
    (cheaper : comparePaths table costs fraction path matched < 0) {other : P}
    (otherMem : other ∈ paths) (otherAccepted : accepts other) :
    comparePaths table costs fraction path other < 0 := by
  have threeWay := threeWay_comparePaths table costs fraction
  have notBefore := cheapest.2.2 other otherMem otherAccepted
  have swap := threeWay.swap matched other
  rw [Precedes, not_or, not_lt] at notBefore
  exact threeWay.trans_lt_of_lt_of_le cheaper (by omega)

/-- A new path that costs less than all acceptable ones is the first of the cheapest. -/
theorem firstCheapest_concat {path : P} (accepted : accepts path)
    (cheaper : ∀ other ∈ paths, accepts other → comparePaths table costs fraction path other < 0) :
    FirstCheapest table costs fraction (paths ++ [path]) accepts path := by
  have threeWay := threeWay_comparePaths table costs fraction
  refine ⟨List.mem_append_right _ (List.mem_singleton_self _), accepted, ?_⟩
  intro other otherMem otherAccepted
  rcases List.mem_append.mp otherMem with old | new
  · have less := cheaper other old otherAccepted
    have swap := threeWay.swap path other
    rw [Precedes, not_or, not_and]
    exact ⟨by omega, fun equal => by omega⟩
  · rw [List.mem_singleton] at new
    subst new
    simp [Precedes, threeWay.self]

/-- One pass of the loop over the paths. -/
theorem Found.concat {containedIn : List (PathKey EC) → Bool} {found : Option P}
    (isFound :
      Found table costs fraction paths (fun p => containedIn (table.pathkeys p) = true) found)
    (path : P) :
    Found table costs fraction (paths ++ [path]) (fun p => containedIn (table.pathkeys p) = true)
      (if found.any (fun matched => decide (compareFractionalPathCosts costs fraction
          (table.cost matched) (table.cost path) ≤ 0)) then found
      else if containedIn (table.pathkeys path) then some path else found) := by
  cases found with
  | none =>
      simp only [Option.any_none, Bool.false_eq_true, if_false]
      by_cases contained : containedIn (table.pathkeys path) = true
      · rw [if_pos contained]
        rw [Found]
        exact firstCheapest_concat contained fun other old accepted =>
          absurd accepted (isFound other old)
      · rw [if_neg contained]
        intro other otherMem
        rcases List.mem_append.mp otherMem with old | new
        · exact isFound other old
        · rw [List.mem_singleton.mp new]
          exact contained
  | some matched =>
      have cheapest : FirstCheapest table costs fraction paths
          (fun p => containedIn (table.pathkeys p) = true) matched := isFound
      simp only [Option.any_some, decide_eq_true_eq]
      by_cases keeps : comparePaths table costs fraction matched path ≤ 0
      · have keeps' := keeps
        unfold comparePaths at keeps'
        rw [if_pos keeps']
        exact cheapest.append (cheapest.not_precedes keeps)
      · have replaces := keeps
        unfold comparePaths at replaces
        rw [if_neg replaces]
        have swap := (threeWay_comparePaths table costs fraction).swap matched path
        by_cases contained : containedIn (table.pathkeys path) = true
        · rw [if_pos contained]
          have cheaper : comparePaths table costs fraction path matched < 0 := by omega
          rw [Found]
          exact firstCheapest_concat contained fun other old accepted =>
            cheapest.lt_of_lt cheaper old accepted
        · rw [if_neg contained]
          exact cheapest.append fun accepted => absurd accepted contained

/-- The loop over the paths finds the first cheapest one. -/
theorem getCheapestFractionalPath_found {containedIn : List (PathKey EC) → Bool} {found : Option P}
    (isFound :
      Found table costs fraction paths (fun p => containedIn (table.pathkeys p) = true) found)
    (rest : List P) :
    Found table costs fraction (paths ++ rest) (fun p => containedIn (table.pathkeys p) = true)
      (getCheapestFractionalPath table costs fraction containedIn rest found) := by
  induction rest generalizing paths found with
  | nil => rwa [List.append_nil]
  | cons path rest ih =>
      have next := ih (isFound.concat path)
      rw [List.append_assoc, List.singleton_append] at next
      rw [getCheapestFractionalPath]
      split
      · rename_i keeps
        rwa [if_pos keeps] at next
      · rename_i replaces
        rw [if_neg replaces] at next
        split
        · rename_i contained
          rwa [if_pos contained] at next
        · rename_i notContained
          rwa [if_neg notContained] at next

/-! ## The best path -/

variable [DecidableEq EC] (table) (costs) (fraction)

/-- What the cheapest-total path costs if the query needs this order. -/
def orderedCost (queryPathkeys : List (PathKey EC)) (cheapestpath : P) : PathCost C :=
  if queryPathkeys = [] ∨ pathkeysContainedIn queryPathkeys (table.pathkeys cheapestpath) then
    table.cost cheapestpath
  else costs.costSort queryPathkeys (table.cost cheapestpath).totalCost

/-- The first of the cheapest paths in the order of the query is not wanted, or
some path that has all its keys in another order precedes it. -/
def KeepsBestPath (finalRel : RelOptInfo P) (queryPathkeys : List (PathKey EC))
    (groupClause : Bool) (chooseHashedGrouping : P → Option P → Bool) : Prop :=
  ∀ path, FirstCheapest table costs fraction finalRel.pathlist
      (fun p => queryPathkeys <+: table.pathkeys p) path →
    path = finalRel.cheapestTotalPath ∨
    0 < compareFractionalPathCosts costs fraction (table.cost path)
      (orderedCost table costs queryPathkeys finalRel.cheapestTotalPath) ∨
    (groupClause && chooseHashedGrouping finalRel.cheapestTotalPath (some path)) = true ∨
    ∃ other ∈ finalRel.pathlist, queryPathkeys ⊆ table.pathkeys other ∧
      Precedes table costs fraction finalRel.pathlist other path

variable {table} {costs} {fraction}

private theorem sortedpath_eq_some_iff (queryPathkeys : List (PathKey EC)) (path : P) :
    getCheapestFractionalPathForPathkeys table costs paths queryPathkeys fraction = some path ↔
      FirstCheapest table costs fraction paths
        (fun p => queryPathkeys <+: table.pathkeys p) path := by
  have found := @getCheapestFractionalPath_found P C F EC _ table costs fraction _ []
    (pathkeysContainedIn queryPathkeys) none (fun _ mem => absurd mem List.not_mem_nil) paths
  simp only [pathkeysContainedIn_iff, List.nil_append] at found
  exact found.eq_some_iff path

private theorem skylinepath_eq_some_iff (queryPathkeys : List (PathKey EC)) (path : P) :
    getCheapestFractionalPathForSkylinePathkeys table costs paths queryPathkeys fraction =
        some path ↔
      FirstCheapest table costs fraction paths
        (fun p => queryPathkeys ⊆ table.pathkeys p) path := by
  have found := @getCheapestFractionalPath_found P C F EC _ table costs fraction _ []
    (fun keys => (skylinePathkeysContainedIn queryPathkeys keys).1) none
    (fun _ mem => absurd mem List.not_mem_nil) paths
  simp only [skylinePathkeysContainedIn_fst_iff, List.nil_append] at found
  exact found.eq_some_iff path

/-- The presorted path is the skyline path too, unless another one precedes it. -/
theorem skylinepath_eq_sortedpath_iff {queryPathkeys : List (PathKey EC)} {path : P}
    (sorted : FirstCheapest table costs fraction paths
      (fun p => queryPathkeys <+: table.pathkeys p) path) :
    getCheapestFractionalPathForSkylinePathkeys table costs paths queryPathkeys fraction =
        some path ↔
      ¬ ∃ other ∈ paths, queryPathkeys ⊆ table.pathkeys other ∧
        Precedes table costs fraction paths other path := by
  rw [skylinepath_eq_some_iff]
  constructor
  · rintro ⟨_, _, none⟩ ⟨other, mem, contained, precedes⟩
    exact none other mem contained precedes
  · intro none
    exact ⟨sorted.1, sorted.2.1.subset,
      fun other mem contained precedes => none ⟨other, mem, contained, precedes⟩⟩

omit [DecidableEq P] in
private theorem forgetLoser_of_loser {queryPathkeys : List (PathKey EC)}
    {cheapestpath presorted : P}
    (loser : 0 < compareFractionalPathCosts costs fraction (table.cost presorted)
      (orderedCost table costs queryPathkeys cheapestpath)) :
    forgetLoser table costs queryPathkeys fraction (pathkeysContainedIn queryPathkeys) cheapestpath
      (some presorted) = none :=
  if_pos loser

omit [DecidableEq P] in
theorem forgetLoser_of_not_loser {queryPathkeys : List (PathKey EC)} {cheapestpath presorted : P}
    (notLoser : ¬ 0 < compareFractionalPathCosts costs fraction (table.cost presorted)
      (orderedCost table costs queryPathkeys cheapestpath)) :
    forgetLoser table costs queryPathkeys fraction (pathkeysContainedIn queryPathkeys) cheapestpath
      (some presorted) = some presorted :=
  if_neg notLoser

omit [LinearOrder C] [DecidableEq P] [DecidableEq EC] in
/-- Without a skyline clause the presorted path is chosen unless it is dropped,
forgotten or beaten by hashed grouping. -/
theorem bestPath_none_eq (groupClause : Bool) (chooseHashedGrouping : P → Option P → Bool)
    (paths : QueryPaths P) :
    bestPath groupClause chooseHashedGrouping none paths =
      .ok (Upstream.bestPath groupClause chooseHashedGrouping
        (paths.cheapestPath, paths.sortedPath)) := by
  rcases paths with ⟨cheapestPath, sortedPath, skylinePath⟩
  simp only [bestPath, Upstream.bestPath, pure_eq_ok, ok_bind]
  cases sortedPath with
  | none => simp
  | some path =>
      by_cases hashed : (groupClause && chooseHashedGrouping cheapestPath (some path)) = true
      · simp only [hashed, if_true]
      · simp only [hashed, if_false, Bool.false_eq_true]

omit [LinearOrder C] [DecidableEq P] [DecidableEq EC] in
/-- A presorted path that is no loser is taken if there is no hashed grouping. -/
theorem upstream_bestPath_eq_iff {groupClause : Bool} {chooseHashedGrouping : P → Option P → Bool}
    {cheapestPath path : P} :
    Upstream.bestPath groupClause chooseHashedGrouping (cheapestPath, some path) = cheapestPath ↔
      path = cheapestPath ∨
        (groupClause && chooseHashedGrouping cheapestPath (some path)) = true := by
  simp only [Upstream.bestPath]
  by_cases hashed : (groupClause && chooseHashedGrouping cheapestPath (some path)) = true
  · simp [hashed]
  · simp [hashed]

/-- A query without a skyline clause gets the best path of the unmodified planner
exactly if its presorted path is not lost. -/
theorem bestPath_eq_upstream_iff (table : PathTable P C EC) (costs : CostModel F C EC)
    (tupleFraction : F) (finalRel : RelOptInfo P) (queryPathkeys : List (PathKey EC))
    (groupClause : Bool) (chooseHashedGrouping : P → Option P → Bool) :
    bestPath groupClause chooseHashedGrouping none
        (queryPlanner table costs finalRel queryPathkeys tupleFraction) =
      .ok (Upstream.bestPath groupClause chooseHashedGrouping
        (Upstream.queryPlanner table costs finalRel queryPathkeys tupleFraction)) ↔
    KeepsBestPath table costs tupleFraction finalRel queryPathkeys groupClause
      chooseHashedGrouping := by
  have sortedIff := @sortedpath_eq_some_iff P C F EC _ table costs tupleFraction _
    finalRel.pathlist _ queryPathkeys
  rw [bestPath_none_eq, Except.ok.injEq]
  simp only [KeepsBestPath, ← sortedIff, queryPlanner, Upstream.queryPlanner]
  generalize found : getCheapestFractionalPathForPathkeys table costs finalRel.pathlist
    queryPathkeys tupleFraction = sorted at sortedIff
  cases sorted with
  | none => simp [forgetLoser]
  | some path =>
      have lost := skylinepath_eq_sortedpath_iff ((sortedIff path).mp rfl)
      simp only [Option.some.injEq, forall_eq']
      by_cases cheapest : path = finalRel.cheapestTotalPath
      · simp [cheapest, forgetLoser]
      · simp only [cheapest, if_false, false_or]
        by_cases loser : 0 < compareFractionalPathCosts costs tupleFraction (table.cost path)
            (orderedCost table costs queryPathkeys finalRel.cheapestTotalPath)
        · -- Both planners forget the presorted path, whether or not it was dropped before.
          simp only [loser, true_or, iff_true]
          split
          · rw [forgetLoser_of_loser loser]
            rfl
          · rfl
        · rw [forgetLoser_of_not_loser loser]
          simp only [loser, false_or]
          by_cases dropped : some path = getCheapestFractionalPathForSkylinePathkeys table costs
              finalRel.pathlist queryPathkeys tupleFraction
          · have noOther := lost.mp dropped.symm
            rw [if_pos dropped, eq_comm]
            simp only [noOther, or_false]
            exact upstream_bestPath_eq_iff.trans (or_iff_right cheapest)
          · have other := not_not.mp (mt lost.mpr (Ne.symm dropped))
            rw [if_neg dropped, forgetLoser_of_not_loser loser]
            simp only [other, or_true]

/-! ## A lost index scan -/

inductive AccessPath where
  | seqScan
  | indexScan
  deriving DecidableEq, Repr

/-- The index scan costs a little more than the sequential scan, but is sorted. -/
def scanTable (sortKeys : List (PathKey Nat)) : PathTable AccessPath Nat Nat where
  cost
    | .seqScan => ⟨0, 100⟩
    | .indexScan => ⟨0, 120⟩
  pathkeys
    | .seqScan => []
    | .indexScan => sortKeys

def scanCosts : CostModel Unit Nat Nat where
  isWhole _ := true
  costAt _ cost := cost.totalCost
  costSort _ totalCost := ⟨totalCost + 50, totalCost + 60⟩

/-- `ORDER BY` a column with an index: the unmodified planner takes the index scan,
the modified one sorts the sequential scan. -/
theorem bestPath_losesIndexScan :
    let sortKeys : List (PathKey Nat) := [⟨1, 1976, .less, false⟩]
    let scans : List AccessPath := [.seqScan, .indexScan]
    let finalRel : RelOptInfo AccessPath := ⟨scans, .seqScan⟩
    setCheapest (scanTable sortKeys) scans = .ok .seqScan ∧
      Upstream.bestPath false (fun _ _ => false)
        (Upstream.queryPlanner (scanTable sortKeys) scanCosts finalRel sortKeys ()) = .indexScan ∧
      bestPath false (fun _ _ => false) none
        (queryPlanner (scanTable sortKeys) scanCosts finalRel sortKeys ()) = .ok .seqScan := by
  decide

end PgSkyline
