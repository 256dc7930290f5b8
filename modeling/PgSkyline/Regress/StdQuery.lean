import PgSkyline.Dominance.Reference
import PgSkyline.Fault
import PgSkyline.Lib.ThreeValued

/-!
# The reference query of the regression test

`slregress.pl` compares a query with SKYLINE OF with a query without it, which selects
the rows for which no other row is at least as good everywhere and better somewhere.
SQL compares with NULL differently from a sort, so the two agree as long as NULLs do
not decide what is dominated.
-/

namespace PgSkyline

open ThreeValued

variable {T D : Type}

/-! ## The query -/

/-- The comparison operators that `std_query` writes. -/
inductive SqlOp where
  | le
  | lt
  | ge
  | gt
  | eq
  deriving DecidableEq, Repr

/-- What an operator says about the result of the compare function of its type. -/
def SqlOp.holds (cmp : Int) : SqlOp → Bool
  | .le => cmp ≤ 0
  | .lt => cmp < 0
  | .ge => 0 ≤ cmp
  | .gt => 0 < cmp
  | .eq => cmp = 0

theorem SqlOp.holds_iff (cmp : Int) (op : SqlOp) : SqlOp.holds cmp op = true ↔
    match op with
    | .le => cmp ≤ 0
    | .lt => cmp < 0
    | .ge => 0 ≤ cmp
    | .gt => 0 < cmp
    | .eq => cmp = 0 := by
  cases op <;> exact decide_eq_true_iff

/-- The arrays `@le`, `@lt` and `@eq` of conditions `r1.$attr op r.$attr`. -/
structure StdQuery where
  le : List (SqlOp × Nat)
  lt : List (SqlOp × Nat)
  eq : List (SqlOp × Nat)
  deriving DecidableEq, Repr

/-- The body of the loop over the specifications `$attr $dir`. -/
def StdQuery.push (query : StdQuery) (spec : Nat × SkylineOfDir) : Except Fault StdQuery :=
  match spec.2 with
  | .min => return { query with
      le := query.le ++ [(.le, spec.1)], lt := query.lt ++ [(.lt, spec.1)] }
  | .max => return { query with
      le := query.le ++ [(.ge, spec.1)], lt := query.lt ++ [(.gt, spec.1)] }
  | .diff => return { query with eq := query.eq ++ [(.eq, spec.1)] }
  | .default | .using => throw (.elog "error skyline direction is not supported")

/-- `std_query`.  Without a column in direction `min` or `max` the text it makes is not a
query, as `@lt` is empty. -/
def stdQuery (specs : List (Nat × SkylineOfDir)) : Except Fault StdQuery :=
  specs.foldlM StdQuery.push ⟨[], [], []⟩

section Meaning

variable (slotGetattr : T → Nat → Option D) (compare : Nat → D → D → Int)

/-- A condition on a row of `r1` and one of `r`; it is unknown if an operand is NULL. -/
def condition (r1 r : T) (entry : SqlOp × Nat) : Truth :=
  match slotGetattr r1 entry.2, slotGetattr r entry.2 with
  | some datum1, some datum => some (entry.1.holds (compare entry.2 datum1 datum))
  | _, _ => none

/-- `$where`. -/
def StdQuery.whereClause (query : StdQuery) (r1 r : T) : Truth :=
  conjunction (allOf ((query.le ++ query.eq).map (condition slotGetattr compare r1 r)))
    (anyOf (query.lt.map (condition slotGetattr compare r1 r)))

/-- The rows of `select … from … r where not exists (select * from … r1 where …)`. -/
def StdQuery.select (query : StdQuery) (input : List T) : List T :=
  input.filter fun r => !input.any fun r1 =>
    query.whereClause slotGetattr compare r1 r == some true

end Meaning

/-! ## The columns of the other query -/

/-- The column of one specification: MAX sorts in the reverse direction of the same type. -/
def columnOf (compare : Nat → D → D → Int) (nullsFirst : Nat → Bool)
    (spec : Nat × SkylineOfDir) : SkylineCol D :=
  ⟨spec.1, compare spec.1, ⟨spec.2 == .max, nullsFirst spec.1⟩, spec.2⟩

/-- The columns of `skyline of (r.$attr) $dir, …`. -/
def columnsOf (compare : Nat → D → D → Int) (nullsFirst : Nat → Bool)
    (specs : List (Nat × SkylineOfDir)) : List (SkylineCol D) :=
  specs.map (columnOf compare nullsFirst)

/-- The row has no NULL in a column of the clause. -/
def NullFree (slotGetattr : T → Nat → Option D) (specs : List (Nat × SkylineOfDir)) (row : T) :
    Prop :=
  ∀ spec ∈ specs, (slotGetattr row spec.1).isSome

instance (slotGetattr : T → Nat → Option D) (specs : List (Nat × SkylineOfDir)) (row : T) :
    Decidable (NullFree slotGetattr specs row) :=
  inferInstanceAs (Decidable (∀ spec ∈ specs, _))

/-- The condition for being at least as good in a column. -/
def atLeast (spec : Nat × SkylineOfDir) : SqlOp × Nat :=
  match spec.2 with
  | .min => (.le, spec.1)
  | .max => (.ge, spec.1)
  | .diff | .default | .using => (.eq, spec.1)

/-- The condition for being better in a column. -/
def better (spec : Nat × SkylineOfDir) : Option (SqlOp × Nat) :=
  match spec.2 with
  | .min => some (.lt, spec.1)
  | .max => some (.gt, spec.1)
  | .diff | .default | .using => none

/-- The query asks of every column what it has to ask, in some order. -/
structure Asks (specs : List (Nat × SkylineOfDir)) (query : StdQuery) : Prop where
  supported : ∀ spec ∈ specs, spec.2 = .min ∨ spec.2 = .max ∨ spec.2 = .diff
  everywhere : (query.le ++ query.eq).Perm (specs.map atLeast)
  somewhere : query.lt = specs.filterMap better

theorem Asks.push {specs : List (Nat × SkylineOfDir)} {query query' : StdQuery}
    (asks : Asks specs query) {spec : Nat × SkylineOfDir} (pushed : query.push spec = .ok query') :
    Asks (specs ++ [spec]) query' := by
  rcases spec with ⟨attr, dir⟩
  have inserted : ∀ entry, (query.le ++ [entry] ++ query.eq).Perm
      (specs.map atLeast ++ [entry]) := by
    intro entry
    rw [List.append_assoc]
    have moved : (query.le ++ ([entry] ++ query.eq)).Perm (query.le ++ (query.eq ++ [entry])) :=
      List.perm_append_comm.append_left _
    rw [← List.append_assoc query.le query.eq] at moved
    exact moved.trans (asks.everywhere.append_right _)
  have supported : (dir = .min ∨ dir = .max ∨ dir = .diff) →
      ∀ spec ∈ specs ++ [(attr, dir)], spec.2 = .min ∨ spec.2 = .max ∨ spec.2 = .diff := by
    intro known spec mem
    rcases List.mem_append.mp mem with old | new
    · exact asks.supported spec old
    · rw [List.mem_singleton.mp new]
      exact known
  cases dir with
  | min =>
      cases pushed
      exact ⟨supported (Or.inl rfl), by simpa [atLeast] using inserted (.le, attr),
        by simp [asks.somewhere, better]⟩
  | max =>
      cases pushed
      exact ⟨supported (Or.inr (Or.inl rfl)), by simpa [atLeast] using inserted (.ge, attr),
        by simp [asks.somewhere, better]⟩
  | diff =>
      cases pushed
      refine ⟨supported (Or.inr (Or.inr rfl)), ?_, by simp [asks.somewhere, better]⟩
      simpa [atLeast] using asks.everywhere.append_right [(SqlOp.eq, attr)]
  | _ => cases pushed

private theorem asks_of_stdQuery {specs : List (Nat × SkylineOfDir)} {query : StdQuery}
    (made : stdQuery specs = .ok query) : Asks specs query := by
  have general : ∀ (rest done : List (Nat × SkylineOfDir)) (start : StdQuery), Asks done start →
      rest.foldlM StdQuery.push start = .ok query → Asks (done ++ rest) query := by
    intro rest
    induction rest with
    | nil =>
        intro done start asks folded
        cases folded
        simpa using asks
    | cons spec rest ih =>
        intro done start asks folded
        rw [List.foldlM_cons] at folded
        rcases (bind_eq_ok_iff _ _ _).mp folded with ⟨next, pushed, folded⟩
        have continued := ih (done ++ [spec]) next (asks.push pushed) folded
        rwa [List.append_assoc] at continued
  exact general specs [] ⟨[], [], []⟩ ⟨by simp, List.Perm.refl _, rfl⟩ made

/-! ## What the condition says -/

section Dominance

variable {slotGetattr : T → Nat → Option D} {compare : Nat → D → D → Int}
  {nullsFirst : Nat → Bool} {specs : List (Nat × SkylineOfDir)} {query : StdQuery} {r1 r : T}

private theorem condition_eq_true_iff (entry : SqlOp × Nat) :
    condition slotGetattr compare r1 r entry = some true ↔
      ∃ datum1 datum, slotGetattr r1 entry.2 = some datum1 ∧ slotGetattr r entry.2 = some datum ∧
        entry.1.holds (compare entry.2 datum1 datum) = true := by
  unfold condition
  cases slotGetattr r1 entry.2 <;> cases slotGetattr r entry.2 <;> simp

theorem compare_columnOf {spec : Nat × SkylineOfDir} {datum1 datum : D}
    (first : slotGetattr r1 spec.1 = some datum1) (second : slotGetattr r spec.1 = some datum) :
    (columnOf compare nullsFirst spec).compare slotGetattr r1 r =
      if spec.2 = .max then -compare spec.1 datum1 datum else compare spec.1 datum1 datum := by
  simp [columnOf, SkylineCol.compare, first, second, inlineApplyCompareFunction]

/-- Where there is no NULL, `<=`, `>=` and `=` say that a row is at least as good. -/
theorem condition_atLeast_iff (nullsFirst : Nat → Bool) {spec : Nat × SkylineOfDir}
    (supported : spec.2 = .min ∨ spec.2 = .max ∨ spec.2 = .diff) :
    condition slotGetattr compare r1 r (atLeast spec) = some true ↔
      ((slotGetattr r1 spec.1).isSome ∧ (slotGetattr r spec.1).isSome) ∧
        (spec.2 = .diff → (columnOf compare nullsFirst spec).compare slotGetattr r1 r = 0) ∧
        (columnOf compare nullsFirst spec).compare slotGetattr r1 r ≤ 0 := by
  have attr : (atLeast spec).2 = spec.1 := by
    unfold atLeast
    split <;> rfl
  rw [condition_eq_true_iff, attr]
  constructor
  · rintro ⟨datum1, datum, first, second, holds⟩
    rw [SqlOp.holds_iff] at holds
    refine ⟨⟨by simp [first], by simp [second]⟩, ?_⟩
    rw [compare_columnOf first second]
    rcases supported with dir | dir | dir <;> simp [atLeast, dir] at holds ⊢ <;> omega
  · rintro ⟨⟨first, second⟩, noWorse⟩
    rcases Option.isSome_iff_exists.mp first with ⟨datum1, first⟩
    rcases Option.isSome_iff_exists.mp second with ⟨datum, second⟩
    rw [compare_columnOf first second] at noWorse
    refine ⟨datum1, datum, first, second, (SqlOp.holds_iff _ _).mpr ?_⟩
    rcases supported with dir | dir | dir <;> simp [atLeast, dir] at noWorse ⊢ <;> omega

/-- Where there is no NULL, `<` and `>` say that a row is better. -/
theorem condition_better_iff {spec : Nat × SkylineOfDir} {entry : SqlOp × Nat}
    (asked : better spec = some entry) (first : (slotGetattr r1 spec.1).isSome)
    (second : (slotGetattr r spec.1).isSome) :
    condition slotGetattr compare r1 r entry = some true ↔
      (columnOf compare nullsFirst spec).compare slotGetattr r1 r < 0 := by
  rcases Option.isSome_iff_exists.mp first with ⟨datum1, first⟩
  rcases Option.isSome_iff_exists.mp second with ⟨datum, second⟩
  rw [compare_columnOf first second]
  unfold better at asked
  split at asked
  · rename_i dir
    cases asked
    simp [condition, first, second, SqlOp.holds_iff, dir]
  · rename_i dir
    cases asked
    simp [condition, first, second, SqlOp.holds_iff, dir]
  · cases asked
  · cases asked
  · cases asked

/-- `$where` is true of two rows without NULLs of which the first dominates the second. -/
theorem whereClause_eq_true_iff (nullsFirst : Nat → Bool) (asks : Asks specs query) :
    query.whereClause slotGetattr compare r1 r = some true ↔
      (NullFree slotGetattr specs r1 ∧ NullFree slotGetattr specs r) ∧
        Dominates slotGetattr (columnsOf compare nullsFirst specs) r1 r := by
  have everywhere : (∀ entry ∈ query.le ++ query.eq,
      condition slotGetattr compare r1 r entry = some true) ↔
      ∀ spec ∈ specs, condition slotGetattr compare r1 r (atLeast spec) = some true := by
    simp only [asks.everywhere.mem_iff, List.forall_mem_map]
  have noWorse : NoWorse slotGetattr (columnsOf compare nullsFirst specs) r1 r ↔
      ∀ spec ∈ specs,
        (spec.2 = .diff → (columnOf compare nullsFirst spec).compare slotGetattr r1 r = 0) ∧
          (columnOf compare nullsFirst spec).compare slotGetattr r1 r ≤ 0 := by
    simp only [NoWorse, columnsOf, List.forall_mem_map]
    exact Iff.rfl
  have somewhere :
      (∃ truth ∈ query.lt.map (condition slotGetattr compare r1 r), truth = some true) ↔
      ∃ entry ∈ specs.filterMap better, condition slotGetattr compare r1 r entry = some true := by
    rw [← asks.somewhere]
    simp only [List.mem_map, exists_exists_and_eq_and]
  rw [StdQuery.whereClause, conjunction_eq_true_iff, allOf_eq_true_iff, anyOf_eq_true_iff,
    List.forall_mem_map, somewhere, everywhere, dominates_iff_noWorse_and_exists, noWorse]
  constructor
  · rintro ⟨all, entry, entryMem, holds⟩
    have each := fun spec mem => (condition_atLeast_iff nullsFirst
      (asks.supported spec mem)).mp (all spec mem)
    rcases List.mem_filterMap.mp entryMem with ⟨spec, mem, asked⟩
    rcases each spec mem with ⟨⟨first, second⟩, _⟩
    refine ⟨⟨fun spec mem => (each spec mem).1.1, fun spec mem => (each spec mem).1.2⟩,
      fun spec mem => (each spec mem).2, columnOf compare nullsFirst spec,
      List.mem_map_of_mem mem, (condition_better_iff asked first second).mp holds⟩
  · rintro ⟨⟨first, second⟩, all, col, colMem, less⟩
    rcases List.mem_map.mp colMem with ⟨spec, mem, rfl⟩
    refine ⟨fun spec mem => (condition_atLeast_iff nullsFirst (asks.supported spec mem)).mpr
      ⟨⟨first spec mem, second spec mem⟩, all spec mem⟩, ?_⟩
    have notDiff : spec.2 ≠ .diff := by
      intro diff
      have equal := (all spec mem).1 diff
      omega
    rcases asks.supported spec mem with dir | dir | dir
    · have asked : better spec = some (.lt, spec.1) := by simp [better, dir]
      exact ⟨_, List.mem_filterMap.mpr ⟨spec, mem, asked⟩,
        (condition_better_iff asked (first spec mem) (second spec mem)).mpr less⟩
    · have asked : better spec = some (.gt, spec.1) := by simp [better, dir]
      exact ⟨_, List.mem_filterMap.mpr ⟨spec, mem, asked⟩,
        (condition_better_iff asked (first spec mem) (second spec mem)).mpr less⟩
    · exact absurd dir notDiff

end Dominance

/-! ## The comparison of the results -/

/-- The reference query returns the skyline exactly if every dominated row is without NULLs
and dominated by a row without NULLs.  On rows without NULLs every result of the other
query is therefore a rearrangement of what it returns. -/
theorem stdQuery_exact (slotGetattr : T → Nat → Option D) (compare : Nat → D → D → Int)
    (nullsFirst : Nat → Bool) (specs : List (Nat × SkylineOfDir)) (query : StdQuery)
    (made : stdQuery specs = .ok query) (input : List T) :
    (IsSkyline slotGetattr (columnsOf compare nullsFirst specs) false input
        (query.select slotGetattr compare input) ↔
      ∀ x ∈ input, ¬ Undominated slotGetattr (columnsOf compare nullsFirst specs) input x →
        NullFree slotGetattr specs x ∧ ∃ y ∈ input, NullFree slotGetattr specs y ∧
          Dominates slotGetattr (columnsOf compare nullsFirst specs) y x) ∧
    ((∀ x ∈ input, NullFree slotGetattr specs x) → ∀ out,
      IsSkyline slotGetattr (columnsOf compare nullsFirst specs) false input out ↔
        out.Perm (query.select slotGetattr compare input)) := by
  have asks := asks_of_stdQuery made
  have selected : ∀ x, x ∈ query.select slotGetattr compare input ↔ x ∈ input ∧
      ∀ y ∈ input, NullFree slotGetattr specs y → NullFree slotGetattr specs x →
        ¬ Dominates slotGetattr (columnsOf compare nullsFirst specs) y x := by
    intro x
    rw [StdQuery.select, List.mem_filter, Bool.not_eq_true', List.any_eq_false]
    simp only [beq_iff_eq, whereClause_eq_true_iff nullsFirst asks, not_and, and_imp]
  have criterion : IsSkyline slotGetattr (columnsOf compare nullsFirst specs) false input
        (query.select slotGetattr compare input) ↔
      ∀ x ∈ input, ¬ Undominated slotGetattr (columnsOf compare nullsFirst specs) input x →
        NullFree slotGetattr specs x ∧ ∃ y ∈ input, NullFree slotGetattr specs y ∧
          Dominates slotGetattr (columnsOf compare nullsFirst specs) y x := by
    constructor
    · intro skyline x inputMem dominated
      by_contra unnoticed
      have returned := (selected x).mpr ⟨inputMem, fun y yMem yFree xFree dominates =>
        unnoticed ⟨xFree, y, yMem, yFree, dominates⟩⟩
      exact dominated (skyline.undominated returned)
    · intro noticed
      apply List.Perm.of_eq
      apply List.filter_congr
      intro x inputMem
      rw [Bool.eq_iff_iff, decide_eq_true_eq]
      constructor
      · intro kept
        by_contra dominated
        rcases noticed x inputMem dominated with ⟨xFree, y, yMem, yFree, dominates⟩
        have returned : x ∈ query.select slotGetattr compare input :=
          List.mem_filter.mpr ⟨inputMem, kept⟩
        exact ((selected x).mp returned).2 y yMem yFree xFree dominates
      · intro undominated
        have returned := (selected x).mpr ⟨inputMem, fun y yMem _ _ => undominated y yMem⟩
        exact (List.mem_filter.mp returned).2
  refine ⟨criterion, fun nullFree out => ?_⟩
  have skyline := criterion.mpr fun x inputMem dominated => by
    simp only [Undominated, not_forall, not_not] at dominated
    rcases dominated with ⟨y, yMem, dominates⟩
    exact ⟨nullFree x inputMem, y, yMem, nullFree y yMem, dominates⟩
  exact ⟨fun other => List.Perm.trans other (List.Perm.symm skyline),
    fun same => List.Perm.trans same skyline⟩

/-- A NULL sorts behind all numbers, so that SKYLINE OF drops a row that the reference
query keeps. -/
theorem stdQuery_exact_null :
    let slotGetattr : List (Option Int) → Nat → Option Int := fun row attr => row[attr]?.join
    let specs := [(0, SkylineOfDir.min), (1, SkylineOfDir.max), (2, SkylineOfDir.diff)]
    let cols := columnsOf (fun _ => Comparison.intCompare) (fun _ => false) specs
    let input := [[some 1, some 2, some 0], [some 2, some 1, some 0], [none, some 2, some 0]]
    ∃ query, stdQuery specs = .ok query ∧
      query.select slotGetattr (fun _ => Comparison.intCompare) input =
        [[some 1, some 2, some 0], [none, some 2, some 0]] ∧
      ¬ IsSkyline slotGetattr cols false input
        (query.select slotGetattr (fun _ => Comparison.intCompare) input) := by
  intro slotGetattr specs cols input
  refine ⟨_, rfl, by decide, fun skyline => ?_⟩
  have noticed := (stdQuery_exact slotGetattr (fun _ => Comparison.intCompare) (fun _ => false)
    specs _ rfl input).1.mp skyline [none, some 2, some 0] (by decide) (by decide)
  exact absurd noticed.1 (by decide)

end PgSkyline
