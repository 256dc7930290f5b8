import PgSkyline.Planner.Paths

/-!
# Useless path keys

Translation of `pathkeys_useful_for_ordering` and `truncate_useless_pathkeys` of
`optimizer/path/pathkeys.c`, and of the choice of `query_pathkeys` in
`grouping_planner` with the canonicalization in `query_planner`.

A path keeps only the first of its keys, as many as are of use for a merge join, for
the order of the result or for the skyline.  The number that the skyline test reports
is the length of the shortest prefix that still passes the test, so the skyline finds
a path after truncation exactly if it finds it before.
-/

namespace PgSkyline

variable {E EC : Type}

/-- The path keys that a query asks for. -/
structure RequestedPathkeys (EC : Type) where
  queryPathkeys : List (PathKey EC)
  groupPathkeys : List (PathKey EC)
  skylinePathkeys : List (PathKey EC)
  sortPathkeys : List (PathKey EC)

/-- Which of the clauses a query has. -/
structure OrderingClauses where
  groupClause : Bool
  skylineClause : Bool
  sortClause : Bool

/-- The choice of `query_pathkeys` in `grouping_planner`. -/
def RequestedPathkeys.chooseQueryPathkeys (parse : OrderingClauses)
    (requested : RequestedPathkeys EC) : RequestedPathkeys EC :=
  { requested with
    queryPathkeys :=
      if parse.groupClause then requested.groupPathkeys
      else if parse.skylineClause then requested.skylinePathkeys
      else if parse.sortClause then requested.sortPathkeys
      else [] }

section Canonical

variable [DecidableEq EC]

/-- What `query_planner` does to the path keys before it makes the paths. -/
def RequestedPathkeys.canonicalize (root : PlannerInfo E EC) (requested : RequestedPathkeys EC) :
    RequestedPathkeys EC where
  queryPathkeys := canonicalizePathkeys root requested.queryPathkeys
  groupPathkeys := canonicalizePathkeys root requested.groupPathkeys
  skylinePathkeys := canonicalizePathkeys root requested.skylinePathkeys
  sortPathkeys := canonicalizePathkeys root requested.sortPathkeys

/-- `pathkeys_useful_for_ordering`. -/
def pathkeysUsefulForOrdering (requested : RequestedPathkeys EC) (pathkeys : List (PathKey EC)) :
    Nat :=
  if requested.queryPathkeys = [] then 0
  else if pathkeys = [] then 0
  else if pathkeysContainedIn requested.queryPathkeys pathkeys then requested.queryPathkeys.length
  else
    match skylinePathkeysContainedIn requested.skylinePathkeys pathkeys with
    | (true, nuseful) => nuseful
    | (false, _) => 0

/-- `truncate_useless_pathkeys`; the number of keys of use for merge joins depends on
the other relations of the query and is a parameter. -/
def truncateUselessPathkeys (pathkeysUsefulForMerging : List (PathKey EC) → Nat)
    (requested : RequestedPathkeys EC) (pathkeys : List (PathKey EC)) : List (PathKey EC) :=
  let nuseful := pathkeysUsefulForMerging pathkeys
  let nuseful2 := pathkeysUsefulForOrdering requested pathkeys
  let nuseful := if nuseful < nuseful2 then nuseful2 else nuseful
  if nuseful = 0 then []
  else if nuseful = pathkeys.length then pathkeys
  else pathkeys.take nuseful

/-! ## The number the skyline test reports -/

/-- A key is found at the first place from which on every prefix has it. -/
theorem mem_take_iff_of_findPathkey {pathkey1 : PathKey EC} {keys2 : List (PathKey EC)}
    {idx found : Nat} (search : findPathkey pathkey1 keys2 idx = some found) (n : Nat) :
    pathkey1 ∈ keys2.take n ↔ found ≤ idx + n := by
  induction keys2 generalizing idx n with
  | nil => simp [findPathkey] at search
  | cons pathkey2 rest ih =>
      unfold findPathkey at search
      by_cases equal : pathkey1 = pathkey2
      · simp only [equal, if_true, Option.some.injEq] at search
        subst search
        cases n with
        | zero => simp
        | succ n =>
            have reached : idx + 1 ≤ idx + (n + 1) := by omega
            simp [equal, reached]
      · simp only [equal, if_false] at search
        have later := ih search
        cases n with
        | zero =>
            have absent := later 0
            simp only [List.take_zero, List.not_mem_nil, false_iff] at absent
            simp only [List.take_zero, List.not_mem_nil, false_iff]
            omega
        | succ n =>
            rw [List.take_succ_cons, List.mem_cons, later n]
            simp only [equal, false_or]
            omega

/-- The largest index seen is the length from which on a prefix contains every key
tested so far; the induction is on the keys that are still to be tested. -/
theorem le_iff_of_containedInLoop {keys1 keys2 : List (PathKey EC)} {maxidx nuseful : Nat}
    (contained : containedInLoop keys2 keys1 maxidx = (true, nuseful)) (n : Nat) :
    nuseful ≤ n ↔ maxidx ≤ n ∧ keys1 ⊆ keys2.take n := by
  induction keys1 generalizing maxidx with
  | nil =>
      simp only [containedInLoop, Prod.mk.injEq, true_and] at contained
      simp [contained]
  | cons pathkey1 rest ih =>
      unfold containedInLoop at contained
      cases search : findPathkey pathkey1 keys2 0 with
      | none => simp [search] at contained
      | some idx =>
          simp only [search] at contained
          have here := mem_take_iff_of_findPathkey search n
          rw [ih contained, List.cons_subset, here]
          split
          · constructor
            · rintro ⟨reached, subset⟩
              exact ⟨by omega, by omega, subset⟩
            · rintro ⟨_, reached, subset⟩
              exact ⟨by omega, subset⟩
          · constructor
            · rintro ⟨reached, subset⟩
              exact ⟨reached, by omega, subset⟩
            · rintro ⟨reached, _, subset⟩
              exact ⟨reached, subset⟩

theorem subset_take_iff {sky keys : List (PathKey EC)} {nuseful : Nat}
    (contained : skylinePathkeysContainedIn sky keys = (true, nuseful)) (n : Nat) :
    sky ⊆ keys.take n ↔ nuseful ≤ n := by
  rw [le_iff_of_containedInLoop contained n]
  simp

private theorem nuseful_le_length {sky keys : List (PathKey EC)} {nuseful : Nat}
    (contained : skylinePathkeysContainedIn sky keys = (true, nuseful)) :
    nuseful ≤ keys.length := by
  have passes : (skylinePathkeysContainedIn sky keys).1 = true := by rw [contained]
  rw [skylinePathkeysContainedIn_fst_iff] at passes
  rw [← subset_take_iff contained, List.take_length]
  exact passes

/-! ## Truncation -/

/-- The list after truncation is a prefix, cut where neither use has anything left. -/
theorem truncateUselessPathkeys_eq_take (pathkeysUsefulForMerging : List (PathKey EC) → Nat)
    (requested : RequestedPathkeys EC) (pathkeys : List (PathKey EC)) :
    truncateUselessPathkeys pathkeysUsefulForMerging requested pathkeys =
      pathkeys.take (max (pathkeysUsefulForMerging pathkeys)
        (pathkeysUsefulForOrdering requested pathkeys)) := by
  have larger : ∀ nuseful nuseful2 : Nat,
      (if nuseful < nuseful2 then nuseful2 else nuseful) = max nuseful nuseful2 := by
    intro nuseful nuseful2
    split <;> omega
  simp only [truncateUselessPathkeys, larger]
  split
  next none => rw [none, List.take_zero]
  next =>
    split
    next all => rw [all, List.take_length]
    next => rfl

section Useful

variable {requested : RequestedPathkeys EC} {pathkeys : List (PathKey EC)}

/-- A path in the requested order is worth all requested keys. -/
theorem length_le_usefulForOrdering (ordered : requested.queryPathkeys <+: pathkeys) :
    requested.queryPathkeys.length ≤ pathkeysUsefulForOrdering requested pathkeys := by
  unfold pathkeysUsefulForOrdering
  by_cases noOrder : requested.queryPathkeys = []
  · simp [noOrder]
  · have ordering : pathkeys ≠ [] := by
      rintro rfl
      exact noOrder (List.prefix_nil.mp ordered)
    have test := (pathkeysContainedIn_iff requested.queryPathkeys pathkeys).mpr ordered
    simp [noOrder, ordering, test]

/-- If the order is requested for a skyline, the keys that are kept contain the
skyline path keys wherever all keys do. -/
theorem subset_take_usefulForOrdering
    (forSkyline : requested.queryPathkeys = requested.skylinePathkeys)
    (contained : requested.skylinePathkeys ⊆ pathkeys) :
    requested.skylinePathkeys ⊆
      pathkeys.take (pathkeysUsefulForOrdering requested pathkeys) := by
  by_cases noOrder : requested.skylinePathkeys = []
  · simp [noOrder]
  · have ordering : pathkeys ≠ [] := by
      rintro rfl
      exact noOrder (List.subset_nil.mp contained)
    by_cases ordered : requested.queryPathkeys <+: pathkeys
    · have enough := length_le_usefulForOrdering ordered
      have kept := List.prefix_take_iff.mpr ⟨ordered, enough⟩
      rw [← forSkyline]
      exact kept.subset
    · have unordered : pathkeysContainedIn requested.queryPathkeys pathkeys = false := by
        rw [Bool.eq_false_iff, Ne, pathkeysContainedIn_iff]
        exact ordered
      have passes := (skylinePathkeysContainedIn_fst_iff _ _).mpr contained
      rw [forSkyline] at unordered
      cases test : skylinePathkeysContainedIn requested.skylinePathkeys pathkeys with
      | mk answer nuseful =>
          rw [test] at passes
          change answer = true at passes
          subst passes
          have useful : pathkeysUsefulForOrdering requested pathkeys = nuseful := by
            unfold pathkeysUsefulForOrdering
            simp [forSkyline, noOrder, ordering, unordered, test]
          rw [useful, subset_take_iff test]

variable (pathkeysUsefulForMerging : List (PathKey EC) → Nat)

private theorem subset_truncateUselessPathkeys_iff
    (forSkyline : requested.queryPathkeys = requested.skylinePathkeys) :
    requested.skylinePathkeys ⊆
        truncateUselessPathkeys pathkeysUsefulForMerging requested pathkeys ↔
      requested.skylinePathkeys ⊆ pathkeys := by
  rw [truncateUselessPathkeys_eq_take]
  constructor
  · intro contained
    exact List.Subset.trans contained (List.take_subset _ _)
  · intro contained
    have kept := subset_take_usefulForOrdering forSkyline contained
    exact List.Subset.trans kept (List.take_subset_take_left _ (Nat.le_max_right _ _))

private theorem prefix_truncateUselessPathkeys_iff :
    requested.queryPathkeys <+:
        truncateUselessPathkeys pathkeysUsefulForMerging requested pathkeys ↔
      requested.queryPathkeys <+: pathkeys := by
  rw [truncateUselessPathkeys_eq_take, List.prefix_take_iff]
  constructor
  · exact And.left
  · intro ordered
    have enough := length_le_usefulForOrdering ordered
    exact ⟨ordered, by omega⟩

end Useful

/-- The number that the skyline test reports is the length of the shortest prefix that
passes it, and without GROUP BY truncation changes neither the answer of the skyline
test nor whether the path has the requested order. -/
theorem truncateUselessPathkeys_keepsSkyline (root : PlannerInfo E EC) :
    (∀ (sky keys : List (PathKey EC)) (nuseful : Nat),
      skylinePathkeysContainedIn sky keys = (true, nuseful) →
        (keys.take nuseful).length = nuseful ∧
        (skylinePathkeysContainedIn sky (keys.take nuseful)).1 = true ∧
        ∀ shorter, shorter <+: keys → shorter.length < nuseful →
          (skylinePathkeysContainedIn sky shorter).1 = false) ∧
    ∀ (parse : OrderingClauses) (asked : RequestedPathkeys EC)
      (pathkeysUsefulForMerging : List (PathKey EC) → Nat) (keys : List (PathKey EC)),
      parse.groupClause = false → parse.skylineClause = true →
        let requested := (asked.chooseQueryPathkeys parse).canonicalize root
        let truncated := truncateUselessPathkeys pathkeysUsefulForMerging requested keys
        requested.queryPathkeys = requested.skylinePathkeys ∧
        (skylinePathkeysContainedIn requested.skylinePathkeys truncated).1 =
          (skylinePathkeysContainedIn requested.skylinePathkeys keys).1 ∧
        pathkeysContainedIn requested.queryPathkeys truncated =
          pathkeysContainedIn requested.queryPathkeys keys := by
  constructor
  · intro sky keys nuseful contained
    have inBounds := nuseful_le_length contained
    refine ⟨by simp [inBounds], ?_, ?_⟩
    · rw [skylinePathkeysContainedIn_fst_iff, subset_take_iff contained]
    · intro shorter isPrefix short
      rw [Bool.eq_false_iff, Ne, skylinePathkeysContainedIn_fst_iff,
        List.prefix_iff_eq_take.mp isPrefix, subset_take_iff contained]
      omega
  · intro parse asked pathkeysUsefulForMerging keys noGroup skyline
    have forSkyline : ((asked.chooseQueryPathkeys parse).canonicalize root).queryPathkeys =
        ((asked.chooseQueryPathkeys parse).canonicalize root).skylinePathkeys := by
      simp [RequestedPathkeys.canonicalize, RequestedPathkeys.chooseQueryPathkeys, noGroup,
        skyline]
    refine ⟨forSkyline, ?_, ?_⟩
    · rw [Bool.eq_iff_iff, skylinePathkeysContainedIn_fst_iff, skylinePathkeysContainedIn_fst_iff]
      exact subset_truncateUselessPathkeys_iff pathkeysUsefulForMerging forSkyline
    · rw [Bool.eq_iff_iff, pathkeysContainedIn_iff, pathkeysContainedIn_iff]
      exact prefix_truncateUselessPathkeys_iff pathkeysUsefulForMerging

end Canonical

/-- Classes that are numbers and never redundant. -/
def numberedClasses : PlannerInfo Unit Nat where
  getEclassForSortExpr _ _ _ := 0
  ecMerged eclass := eclass
  ecOpfamilies _ := [1976]
  ecHasConst _ := false
  ecBelowOuterJoin _ := false

/-- The ascending key on a class. -/
def ascendingKey (eclass : Nat) : PathKey Nat :=
  ⟨eclass, 1976, .less, false⟩

/-- Of an index on `(a, c, b, a, d)` the skyline of `b` and `a` keeps three keys. -/
theorem truncateUselessPathkeys_keepsSkyline_threeOfFive :
    let sky := [ascendingKey 2, ascendingKey 1]
    let keys := [1, 3, 2, 1, 4].map ascendingKey
    let requested : RequestedPathkeys Nat := ⟨sky, [], sky, [ascendingKey 4]⟩
    let truncated := [1, 3, 2].map ascendingKey
    ((keys.take 3).length = 3 ∧ (skylinePathkeysContainedIn sky (keys.take 3)).1 = true ∧
      ∀ shorter, shorter <+: keys → shorter.length < 3 →
        (skylinePathkeysContainedIn sky shorter).1 = false) ∧
    truncateUselessPathkeys (fun _ => 1) requested keys = truncated ∧
    (skylinePathkeysContainedIn sky truncated).1 = (skylinePathkeysContainedIn sky keys).1 ∧
    pathkeysContainedIn sky truncated = pathkeysContainedIn sky keys := by
  intro sky keys requested truncated
  refine ⟨(truncateUselessPathkeys_keepsSkyline numberedClasses).1 sky keys 3 (by decide),
    by decide, ?_⟩
  exact ((truncateUselessPathkeys_keepsSkyline numberedClasses).2 ⟨false, true, true⟩
    ⟨[], [], sky, [ascendingKey 4]⟩ (fun _ => 1) keys rfl rfl).2

end PgSkyline
