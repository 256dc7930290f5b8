import Mathlib.Data.List.Basic

/-!
# The dominance test

Translation of `inlineApplyCompareFunction` and `ExecSkylineIsDominating`
(`executor/nodeSkyline.c`) and of the result codes of `utils/skyline.h`.

A tuple is any type with a `slot_getattr`; a datum is `none` when it is NULL.
The statistics counters `cmps_tuples` and `cmps_fields` are left out.
-/

namespace PgSkyline

/-- The bits `SK_BT_DESC` and `SK_BT_NULLS_FIRST` of `sk_flags`. -/
structure SkFlags where
  desc : Bool
  nullsFirst : Bool
  deriving DecidableEq, Repr

/-- `SkylineOfDir` of `nodes/parsenodes.h`. -/
inductive SkylineOfDir where
  | default
  | min
  | max
  | diff
  | using
  deriving DecidableEq, Repr

/-- The `SKYLINE_CMP_*` codes. -/
inductive SkylineCmp where
  | firstDominates
  | incomparable
  | allEq
  | diffGrpDiff
  | secondDominates
  deriving DecidableEq, Repr

/-- What the executor knows about one skyline column: attribute number,
compare function of the sort operator, its flags, and the direction. -/
structure SkylineCol (D : Type) where
  skylineColIdx : Nat
  compareOpFn : D → D → Int
  compareFlags : SkFlags
  skylineOfDir : SkylineOfDir

variable {T D : Type}

/-- Apply a compare function and return a 3-way comparison result, with
reverse-sort and NULLs-ordering taken care of. -/
def inlineApplyCompareFunction (compFunction : D → D → Int) (skFlags : SkFlags) :
    Option D → Option D → Int
  | none, none => 0
  | none, some _ => if skFlags.nullsFirst then -1 else 1
  | some _, none => if skFlags.nullsFirst then 1 else -1
  | some datum1, some datum2 =>
      let compare := compFunction datum1 datum2
      if skFlags.desc then -compare else compare

/-- The comparison of two tuples on one skyline column. -/
def SkylineCol.compare (slotGetattr : T → Nat → Option D) (col : SkylineCol D)
    (innerSlot slot : T) : Int :=
  inlineApplyCompareFunction col.compareOpFn col.compareFlags
    (slotGetattr innerSlot col.skylineColIdx) (slotGetattr slot col.skylineColIdx)

/-- The loop of `ExecSkylineIsDominating` over the remaining columns, with the
three flags `cmp_all_eq`, `cmp_lt` and `cmp_gt`. -/
def isDominatingLoop (slotGetattr : T → Nat → Option D) (innerSlot slot : T) :
    List (SkylineCol D) → Bool → Bool → Bool → SkylineCmp
  | [], cmpAllEq, cmpLt, cmpGt =>
      if cmpAllEq then .allEq
      else if cmpLt then .firstDominates
      else if cmpGt then .secondDominates
      else .incomparable
  | col :: cols, cmpAllEq, cmpLt, cmpGt =>
      let cmp := col.compare slotGetattr innerSlot slot
      let cmpAllEq := cmpAllEq && cmp == 0
      match col.skylineOfDir with
      | .default | .min | .max | .using =>
          if cmp < 0 then
            if cmpGt then .incomparable
            else isDominatingLoop slotGetattr innerSlot slot cols cmpAllEq true cmpGt
          else if cmp > 0 then
            if cmpLt then .incomparable
            else isDominatingLoop slotGetattr innerSlot slot cols cmpAllEq cmpLt true
          else isDominatingLoop slotGetattr innerSlot slot cols cmpAllEq cmpLt cmpGt
      | .diff =>
          if cmp ≠ 0 then .incomparable
          else isDominatingLoop slotGetattr innerSlot slot cols cmpAllEq cmpLt cmpGt

/-- Is the tuple in `innerSlot` dominating the tuple in `slot`? -/
def execSkylineIsDominating (slotGetattr : T → Nat → Option D) (cols : List (SkylineCol D))
    (innerSlot slot : T) : SkylineCmp :=
  isDominatingLoop slotGetattr innerSlot slot cols true false false

end PgSkyline
