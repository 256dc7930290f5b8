import PgSkyline.Dominance.Core
import PgSkyline.Fault

/-!
# Ordering operators in the system catalogs

The questions parser and planner ask about an operator: is it the `<` or the `>`
of a btree operator family, which compare function belongs to the family, and
which operator is its commutator (`parser/parse_oper.c`,
`utils/cache/lsyscache.c`).  The catalogs themselves are a parameter.
-/

namespace PgSkyline

abbrev Oid := Nat

def invalidOid : Oid := 0

def textOid : Oid := 25

def unknownOid : Oid := 705

/-- The strategy numbers of the two ordering operators of a btree family. -/
inductive BTStrategy where
  | less
  | greater
  deriving DecidableEq, Repr

/-- What `get_ordering_op_properties` finds in `pg_amop`. -/
structure OrderingOp where
  opfamily : Oid
  opcintype : Oid
  strategy : BTStrategy
  deriving DecidableEq, Repr

/-- The catalogs as far as a skyline clause needs them. -/
structure Catalog (D : Type) where
  /-- The `<` operator of a type. -/
  ltOpr : Oid → Option Oid
  /-- The `>` operator of a type. -/
  gtOpr : Oid → Option Oid
  /-- The operator of this name for two arguments of a type. -/
  compatibleOperOpid : List String → Oid → Except Fault Oid
  getOrderingOpProperties : Oid → Option OrderingOp
  /-- The support function `BTORDER_PROC` of a family for a type. -/
  getOpfamilyProc : Oid → Oid → Option (D → D → Int)
  /-- The equality operator of a family for a type. -/
  getOpfamilyEquality : Oid → Oid → Option Oid
  /-- The btree families that have the operator as their equality. -/
  getMergejoinOpfamilies : Oid → List Oid
  getCommutator : Oid → Oid
  formatTypeBe : Oid → String

namespace Catalog

variable {D : Type} (catalog : Catalog D)

/-- `ordering_oper_opid`. -/
def orderingOperOpid (argtype : Oid) : Except Fault Oid :=
  match catalog.ltOpr argtype with
  | some oproid => .ok oproid
  | none =>
      let typeName := catalog.formatTypeBe argtype
      .error (.elog s!"could not identify an ordering operator for type {typeName}")

/-- `reverse_ordering_oper_opid`. -/
def reverseOrderingOperOpid (argtype : Oid) : Except Fault Oid :=
  match catalog.gtOpr argtype with
  | some oproid => .ok oproid
  | none =>
      let typeName := catalog.formatTypeBe argtype
      .error (.elog s!"could not identify an ordering operator for type {typeName}")

/-- `get_compare_function_for_ordering_op`: the compare function of the family and
whether its result has to be negated; `none` if the operator does not order. -/
def getCompareFunctionForOrderingOp (opno : Oid) :
    Except Fault (Option ((D → D → Int) × Bool)) :=
  match catalog.getOrderingOpProperties opno with
  | none => .ok none
  | some ⟨opfamily, opcintype, strategy⟩ =>
      match catalog.getOpfamilyProc opfamily opcintype with
      | none =>
          .error (.elog
            s!"missing support function 1({opcintype},{opcintype}) in opfamily {opfamily}")
      | some cmpfunc => .ok (some (cmpfunc, strategy == .greater))

/-- `SelectSortFunction`. -/
def selectSortFunction (sortOperator : Oid) (nullsFirst : Bool) :
    Except Fault ((D → D → Int) × SkFlags) := do
  match ← catalog.getCompareFunctionForOrderingOp sortOperator with
  | none => throw (.elog s!"operator {sortOperator} is not a valid ordering operator")
  | some (sortFunction, reverse) => return (sortFunction, ⟨reverse, nullsFirst⟩)

/-! ## The two operators of a family -/

/-- `lt` and `gt` are the less-than and the greater-than member of one btree family
with the compare function `cmpfunc`, and each other's commutators. -/
structure OrderingPair (lt gt : Oid) (cmpfunc : D → D → Int) : Prop where
  family : ∃ opfamily opcintype,
    catalog.getOrderingOpProperties lt = some ⟨opfamily, opcintype, .less⟩ ∧
      catalog.getOrderingOpProperties gt = some ⟨opfamily, opcintype, .greater⟩ ∧
      catalog.getOpfamilyProc opfamily opcintype = some cmpfunc
  commutator_lt : catalog.getCommutator lt = gt
  commutator_gt : catalog.getCommutator gt = lt

namespace OrderingPair

variable {catalog} {lt gt : Oid} {cmpfunc : D → D → Int}

private theorem selectSortFunction_lt (pair : catalog.OrderingPair lt gt cmpfunc)
    (nullsFirst : Bool) :
    catalog.selectSortFunction lt nullsFirst = .ok (cmpfunc, ⟨false, nullsFirst⟩) := by
  rcases pair.family with ⟨opfamily, opcintype, less, _, proc⟩
  simp only [selectSortFunction, getCompareFunctionForOrderingOp, less, proc]
  rfl

private theorem selectSortFunction_gt (pair : catalog.OrderingPair lt gt cmpfunc)
    (nullsFirst : Bool) :
    catalog.selectSortFunction gt nullsFirst = .ok (cmpfunc, ⟨true, nullsFirst⟩) := by
  rcases pair.family with ⟨opfamily, opcintype, _, greater, proc⟩
  simp only [selectSortFunction, getCompareFunctionForOrderingOp, greater, proc]
  rfl

/-- Both operators compare with the one function; they differ in the reversal. -/
theorem selectSortFunction_of_mem (pair : catalog.OrderingPair lt gt cmpfunc) {opno : Oid}
    (ofPair : opno = lt ∨ opno = gt) (nullsFirst : Bool) :
    ∃ desc, catalog.selectSortFunction opno nullsFirst = .ok (cmpfunc, ⟨desc, nullsFirst⟩) ∧
      (opno = gt ↔ desc = true) := by
  have apart : lt ≠ gt := by
    rintro rfl
    rcases pair.family with ⟨_, _, less, greater, _⟩
    simp [less] at greater
  rcases ofPair with rfl | rfl
  · exact ⟨false, pair.selectSortFunction_lt nullsFirst, by simp [apart]⟩
  · exact ⟨true, pair.selectSortFunction_gt nullsFirst, by simp⟩

/-- Any two operators of the pair are equal or commutators. -/
theorem eq_or_commutator (pair : catalog.OrderingPair lt gt cmpfunc) {first later : Oid}
    (ofFirst : first = lt ∨ first = gt) (ofLater : later = lt ∨ later = gt) :
    later = first ∨ later = catalog.getCommutator first := by
  rcases ofFirst with rfl | rfl
  · rw [pair.commutator_lt]
    exact ofLater
  · rw [pair.commutator_gt]
    exact ofLater.symm

end OrderingPair

end Catalog

end PgSkyline
