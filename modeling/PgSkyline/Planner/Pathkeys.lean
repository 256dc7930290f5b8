import PgSkyline.Parser.Clause
import Mathlib.Data.List.Nodup

/-!
# Path keys of a skyline clause

Translation of `optimizer/path/pathkeys.c` as far as a skyline clause needs it:
making and canonicalizing path keys, and the test whether the order of a path
contains the skyline path keys.

The formation of equivalence classes (`optimizer/path/equivclass.c`) is a
parameter.  Canonical path keys are compared by pointer in the source; there is
one copy of each, so here they are compared by their fields.
-/

namespace PgSkyline

variable {E D EC : Type}

structure PathKey (EC : Type) where
  pkEclass : EC
  pkOpfamily : Oid
  pkStrategy : BTStrategy
  pkNullsFirst : Bool
  deriving DecidableEq, Repr

/-- The equivalence classes of a query. -/
structure PlannerInfo (E EC : Type) where
  /-- `get_eclass_for_sort_expr` for an expression, the operator's input type and the
  families of its equality. -/
  getEclassForSortExpr : E → Oid → List Oid → EC
  /-- The class at the end of the `ec_merged` chain. -/
  ecMerged : EC → EC
  ecOpfamilies : EC → List Oid
  ecHasConst : EC → Bool
  ecBelowOuterJoin : EC → Bool

/-- `EC_MUST_BE_REDUNDANT`. -/
def PlannerInfo.ecMustBeRedundant (root : PlannerInfo E EC) (eclass : EC) : Bool :=
  root.ecHasConst eclass && !root.ecBelowOuterJoin eclass

/-! ## Making path keys -/

/-- `get_sortgroupclause_expr` for a skyline item. -/
def getSortgroupclauseExpr (skylineof : SkylineOf) (targetList : List (TargetEntry E)) :
    Except Fault E :=
  match targetList.find? fun tle => tle.ressortgroupref == skylineof.tleSortGroupRef with
  | some tle => .ok tle.expr
  | none => .error (.elog "ORDER/GROUP BY expression not found in targetlist")

/-- `make_pathkey_from_sortinfo`, not canonicalizing. -/
def makePathkeyFromSortinfo (catalog : Catalog D) (root : PlannerInfo E EC) (expr : E)
    (orderingOp : Oid) (nullsFirst : Bool) : Except Fault (PathKey EC) :=
  match catalog.getOrderingOpProperties orderingOp with
  | none => .error (.elog s!"operator {orderingOp} is not a valid ordering operator")
  | some ⟨opfamily, opcintype, strategy⟩ =>
      match catalog.getOpfamilyEquality opfamily opcintype with
      | none => .error (.elog
          s!"could not find equality operator for ordering operator {orderingOp}")
      | some equalityOp =>
          let opfamilies := catalog.getMergejoinOpfamilies equalityOp
          if opfamilies.isEmpty then
            .error (.elog s!"could not find opfamilies for ordering operator {orderingOp}")
          else
            .ok ⟨root.getEclassForSortExpr expr opcintype opfamilies, opfamily, strategy,
              nullsFirst⟩

/-- The path key of one item. -/
def makeSkylinePathkey (catalog : Catalog D) (root : PlannerInfo E EC)
    (tlist : List (TargetEntry E)) (skylineof : SkylineOf) : Except Fault (PathKey EC) := do
  let sortkey ← getSortgroupclauseExpr skylineof tlist
  makePathkeyFromSortinfo catalog root sortkey skylineof.skylineop skylineof.nullsFirst

/-- `make_pathkeys_for_skylineclause` as `grouping_planner` calls it, before the
classes are merged. -/
def makePathkeysForSkylineclause (catalog : Catalog D) (root : PlannerInfo E EC)
    (tlist : List (TargetEntry E)) (skylineOfList : List SkylineOf) :
    Except Fault (List (PathKey EC)) :=
  skylineOfList.mapM (makeSkylinePathkey catalog root tlist)

variable [DecidableEq EC]

/-- `pathkey_is_redundant`. -/
def pathkeyIsRedundant (root : PlannerInfo E EC) (newPathkey : PathKey EC)
    (pathkeys : List (PathKey EC)) : Bool :=
  root.ecMustBeRedundant newPathkey.pkEclass ||
    pathkeys.any fun oldPathkey => decide (newPathkey.pkEclass = oldPathkey.pkEclass)

/-- The canonical path key: its class is the merged one. -/
def PlannerInfo.canonicalPathkey (root : PlannerInfo E EC) (pathkey : PathKey EC) : PathKey EC :=
  { pathkey with pkEclass := root.ecMerged pathkey.pkEclass }

/-- The loop of `canonicalize_pathkeys` with the list built so far. -/
def canonicalizeLoop (root : PlannerInfo E EC) :
    List (PathKey EC) → List (PathKey EC) → List (PathKey EC)
  | [], newPathkeys => newPathkeys
  | pathkey :: rest, newPathkeys =>
      let cpathkey := root.canonicalPathkey pathkey
      if root.ecMustBeRedundant cpathkey.pkEclass then canonicalizeLoop root rest newPathkeys
      else if !pathkeyIsRedundant root cpathkey newPathkeys then
        canonicalizeLoop root rest (newPathkeys ++ [cpathkey])
      else canonicalizeLoop root rest newPathkeys

/-- `canonicalize_pathkeys`. -/
def canonicalizePathkeys (root : PlannerInfo E EC) (pathkeys : List (PathKey EC)) :
    List (PathKey EC) :=
  canonicalizeLoop root pathkeys []

/-! ## Comparing path keys -/

/-- The index, counted from 1, at which `pathkey1` is found; `idx` keys are passed. -/
def findPathkey (pathkey1 : PathKey EC) : List (PathKey EC) → Nat → Option Nat
  | [], _ => none
  | pathkey2 :: rest, idx =>
      if pathkey1 = pathkey2 then some (idx + 1) else findPathkey pathkey1 rest (idx + 1)

/-- The outer loop of `skyline_pathkeys_contained_in`, with the largest index so far. -/
def containedInLoop (keys2 : List (PathKey EC)) : List (PathKey EC) → Nat → Bool × Nat
  | [], maxidx => (true, maxidx)
  | pathkey1 :: rest, maxidx =>
      match findPathkey pathkey1 keys2 0 with
      | some idx => containedInLoop keys2 rest (if maxidx < idx then idx else maxidx)
      | none => (false, maxidx)

/-- `skyline_pathkeys_contained_in`: the answer and `nuseful`. -/
def skylinePathkeysContainedIn (keys1 keys2 : List (PathKey EC)) : Bool × Nat :=
  containedInLoop keys2 keys1 0

/-! ## What canonicalization and the containment test say -/

theorem findPathkey_isSome_iff (pathkey1 : PathKey EC) (keys2 : List (PathKey EC)) (idx : Nat) :
    (findPathkey pathkey1 keys2 idx).isSome ↔ pathkey1 ∈ keys2 := by
  induction keys2 generalizing idx with
  | nil => simp [findPathkey]
  | cons pathkey2 rest ih =>
      unfold findPathkey
      by_cases equal : pathkey1 = pathkey2
      · simp [equal]
      · simp [equal, ih]

private theorem containedInLoop_fst_iff (keys1 keys2 : List (PathKey EC)) (maxidx : Nat) :
    (containedInLoop keys2 keys1 maxidx).1 = true ↔ keys1 ⊆ keys2 := by
  induction keys1 generalizing maxidx with
  | nil => simp [containedInLoop]
  | cons pathkey1 rest ih =>
      have found := findPathkey_isSome_iff pathkey1 keys2 0
      rw [containedInLoop, List.cons_subset, ← found]
      cases findPathkey pathkey1 keys2 0 with
      | none => simp
      | some idx => simp [ih]

/-- The test accepts exactly if each skyline path key is among the keys of the path. -/
theorem skylinePathkeysContainedIn_fst_iff (keys1 keys2 : List (PathKey EC)) :
    (skylinePathkeysContainedIn keys1 keys2).1 = true ↔ keys1 ⊆ keys2 :=
  containedInLoop_fst_iff keys1 keys2 0

/-- A canonical list has no class twice and none that must be redundant. -/
structure PlannerInfo.Canonical (root : PlannerInfo E EC) (pathkeys : List (PathKey EC)) :
    Prop where
  nodup : (pathkeys.map PathKey.pkEclass).Nodup
  not_redundant : ∀ pathkey ∈ pathkeys, root.ecMustBeRedundant pathkey.pkEclass = false

omit [DecidableEq EC] in
/-- In a canonical list a class has one key. -/
theorem PlannerInfo.Canonical.eq_of_pkEclass {root : PlannerInfo E EC}
    {pathkeys : List (PathKey EC)} (canonical : root.Canonical pathkeys)
    {first second : PathKey EC} (firstMem : first ∈ pathkeys) (secondMem : second ∈ pathkeys)
    (same : first.pkEclass = second.pkEclass) : first = second :=
  List.inj_on_of_nodup_map canonical.nodup firstMem secondMem same

variable {root : PlannerInfo E EC}

theorem pathkeyIsRedundant_eq_false_iff {newPathkey : PathKey EC} {pathkeys : List (PathKey EC)} :
    pathkeyIsRedundant root newPathkey pathkeys = false ↔
      root.ecMustBeRedundant newPathkey.pkEclass = false ∧
        newPathkey.pkEclass ∉ pathkeys.map PathKey.pkEclass := by
  simp only [pathkeyIsRedundant, Bool.or_eq_false_iff, List.any_eq_false, decide_eq_true_eq,
    List.mem_map, not_exists, not_and, ne_comm (a := newPathkey.pkEclass), ne_eq]

/-- A canonical list stays canonical when a key that is not redundant is added. -/
theorem PlannerInfo.Canonical.concat {newPathkeys : List (PathKey EC)} {cpathkey : PathKey EC}
    (canonical : root.Canonical newPathkeys)
    (notRedundant : pathkeyIsRedundant root cpathkey newPathkeys = false) :
    root.Canonical (newPathkeys ++ [cpathkey]) := by
  rcases pathkeyIsRedundant_eq_false_iff.mp notRedundant with ⟨free, absent⟩
  constructor
  · rw [List.map_append, List.nodup_append]
    refine ⟨canonical.nodup, List.nodup_singleton _, ?_⟩
    rintro eclass old _ new rfl
    rw [List.mem_singleton.mp new] at old
    exact absent old
  · intro key mem
    rcases List.mem_append.mp mem with old | new
    · exact canonical.not_redundant key old
    · rw [List.mem_singleton.mp new]
      exact free

/-- `result` comes from `newPathkeys` by adding canonical forms of `pathkeys`: it is canonical
and has the class of every key that need not be redundant. -/
structure Canonicalizes (root : PlannerInfo E EC)
    (pathkeys newPathkeys result : List (PathKey EC)) : Prop where
  canonical : root.Canonical result
  subset : newPathkeys ⊆ result
  sound : ∀ key ∈ result,
    key ∈ newPathkeys ∨ ∃ pathkey ∈ pathkeys, key = root.canonicalPathkey pathkey
  complete : ∀ pathkey ∈ pathkeys,
    root.ecMustBeRedundant (root.canonicalPathkey pathkey).pkEclass = true ∨
      (root.canonicalPathkey pathkey).pkEclass ∈ result.map PathKey.pkEclass

namespace Canonicalizes

variable {pathkey : PathKey EC} {rest newPathkeys result : List (PathKey EC)}

omit [DecidableEq EC] in
theorem skip (canonicalizes : Canonicalizes root rest newPathkeys result)
    (redundant : root.ecMustBeRedundant (root.canonicalPathkey pathkey).pkEclass = true ∨
      (root.canonicalPathkey pathkey).pkEclass ∈ newPathkeys.map PathKey.pkEclass) :
    Canonicalizes root (pathkey :: rest) newPathkeys result := by
  refine ⟨canonicalizes.canonical, canonicalizes.subset, ?_, ?_⟩
  · intro key mem
    rcases canonicalizes.sound key mem with old | ⟨other, otherMem, equal⟩
    · exact Or.inl old
    · exact Or.inr ⟨other, List.mem_cons_of_mem _ otherMem, equal⟩
  · intro other otherMem
    rcases List.mem_cons.mp otherMem with rfl | restMem
    · exact redundant.imp_right fun present => List.map_subset _ canonicalizes.subset present
    · exact canonicalizes.complete other restMem

omit [DecidableEq EC] in
theorem add (canonicalizes :
      Canonicalizes root rest (newPathkeys ++ [root.canonicalPathkey pathkey]) result) :
    Canonicalizes root (pathkey :: rest) newPathkeys result := by
  have subset := canonicalizes.subset
  refine ⟨canonicalizes.canonical, List.Subset.trans (List.subset_append_left _ _) subset, ?_, ?_⟩
  · intro key mem
    rcases canonicalizes.sound key mem with old | ⟨other, otherMem, equal⟩
    · rcases List.mem_append.mp old with older | new
      · exact Or.inl older
      · exact Or.inr ⟨pathkey, List.mem_cons_self, List.mem_singleton.mp new⟩
    · exact Or.inr ⟨other, List.mem_cons_of_mem _ otherMem, equal⟩
  · intro other otherMem
    rcases List.mem_cons.mp otherMem with rfl | restMem
    · right
      apply List.mem_map_of_mem
      exact subset (List.mem_append_right _ List.mem_cons_self)
    · exact canonicalizes.complete other restMem

end Canonicalizes

theorem canonicalizeLoop_spec (pathkeys newPathkeys : List (PathKey EC))
    (canonical : root.Canonical newPathkeys) :
    Canonicalizes root pathkeys newPathkeys (canonicalizeLoop root pathkeys newPathkeys) := by
  induction pathkeys generalizing newPathkeys with
  | nil => exact ⟨canonical, List.Subset.refl _, fun key mem => Or.inl mem, by simp⟩
  | cons pathkey rest ih =>
      unfold canonicalizeLoop
      by_cases mustBe : root.ecMustBeRedundant (root.canonicalPathkey pathkey).pkEclass = true
      · simp only [mustBe, if_true]
        exact (ih newPathkeys canonical).skip (Or.inl mustBe)
      · simp only [mustBe, Bool.false_eq_true, if_false]
        cases redundant :
            pathkeyIsRedundant root (root.canonicalPathkey pathkey) newPathkeys with
        | true =>
            simp only [Bool.not_true, Bool.false_eq_true, if_false]
            apply (ih newPathkeys canonical).skip
            by_contra absent
            have free := Bool.eq_false_iff.mpr mustBe
            rw [pathkeyIsRedundant_eq_false_iff.mpr ⟨free, fun mem => absent (Or.inr mem)⟩]
              at redundant
            cases redundant
        | false =>
            simp only [Bool.not_false, if_true]
            exact (ih _ (canonical.concat redundant)).add

theorem canonical_canonicalizePathkeys (pathkeys : List (PathKey EC)) :
    root.Canonical (canonicalizePathkeys root pathkeys) :=
  (canonicalizeLoop_spec pathkeys [] ⟨by simp, by simp⟩).canonical

theorem exists_of_mem_canonicalizePathkeys {pathkeys : List (PathKey EC)} {key : PathKey EC}
    (mem : key ∈ canonicalizePathkeys root pathkeys) :
    ∃ pathkey ∈ pathkeys, key = root.canonicalPathkey pathkey := by
  rcases (canonicalizeLoop_spec pathkeys [] ⟨by simp, by simp⟩).sound key mem with old | made
  · simp at old
  · exact made

theorem redundant_or_mem_canonicalizePathkeys {pathkeys : List (PathKey EC)} {pathkey : PathKey EC}
    (mem : pathkey ∈ pathkeys) :
    root.ecMustBeRedundant (root.canonicalPathkey pathkey).pkEclass = true ∨
      ∃ key ∈ canonicalizePathkeys root pathkeys,
        key.pkEclass = (root.canonicalPathkey pathkey).pkEclass := by
  rcases (canonicalizeLoop_spec pathkeys [] ⟨by simp, by simp⟩).complete pathkey mem with
    redundant | present
  · exact Or.inl redundant
  · exact Or.inr (List.mem_map.mp present)

end PgSkyline
