import PgSkyline.Lib.Comparison
import PgSkyline.Planner.Statistics
import Mathlib.Algebra.Order.Field.Basic
import Mathlib.Algebra.Order.Field.Rat
import Mathlib.Tactic.NormNum

/-!
# The normalisation of the ranking columns

`make_skyline` divides by the width of the recorded range of a column, and takes
`SKYLINE_RANK_EPSILON` instead of a smaller width.  This constant is zero, so the
divisor is positive only if the range has a width: the sort operator has to ascend, and
the recorded values must not all be one number.

`float8` is any ordered field here.
-/

namespace PgSkyline

open Comparison Leading

variable {O E D F : Type}

/-- The conversion of the values of a type to `float8`, if it is by a function or none is
needed. -/
def PlannerStats.asFloat8 (stats : PlannerStats E D F) (restype : Oid) : Option (D → F) :=
  match stats.findCoercionPathway restype with
  | .func coerceFunc =>
      some fun datum => stats.datumGetFloat8 (stats.oidFunctionCall1 coerceFunc datum)
  | .relabelType => some stats.datumGetFloat8
  | .arrayCoerce | .coerceViaIo | .none => none

/-- `min_as_double` and `max_as_double` of a column. -/
def PlannerStats.columnRange (stats : PlannerStats E D F) (skylineof : SkylineOf) (expr : E) :
    Option (F × F) :=
  match stats.asFloat8 skylineof.restype with
  | none => none
  | some toFloat8 =>
      (stats.getVariableRange expr skylineof.skylineop).map (Prod.map toFloat8 toFloat8)

section Entry

variable [Zero F] [One F] [Add F] [Sub F] [Div F] [LT F] [DecidableLT F]

/-- The divisor of `make_skyline`. -/
def flooredRange (range : F × F) : F :=
  if range.2 - range.1 < skylineRankEpsilon then skylineRankEpsilon else range.2 - range.1

/-- What `make_skyline` stores for a column. -/
theorem makeSkylineEntry_eq_ok {stats : PlannerStats E D F} {targetList : List (TargetEntry E)}
    {skylineof : SkylineOf} {entry : SkylineEntry F}
    (made : makeSkylineEntry stats targetList skylineof = .ok entry) :
    ∃ tle, getSkylineclauseTle skylineof targetList = .ok tle ∧
      match stats.columnRange skylineof tle.expr with
      | none => entry.colMin = 0 - skylineRankBoundMin ∧ entry.colScale = skylineRankRange
      | some range => entry.colMin = range.1 - skylineRankBoundMin ∧
          entry.colScale = skylineRankRange / flooredRange range := by
  rw [makeSkylineEntry, bind_eq_ok_iff] at made
  rcases made with ⟨tle, found, made⟩
  refine ⟨tle, found, ?_⟩
  unfold PlannerStats.columnRange PlannerStats.asFloat8
  cases path : stats.findCoercionPathway skylineof.restype with
  | none =>
      simp only [path, if_true] at made
      cases made
      exact ⟨rfl, rfl⟩
  | func | relabelType | arrayCoerce | coerceViaIo =>
      simp only [path, reduceCtorEq, if_false] at made
      cases range : stats.getVariableRange tle.expr skylineof.skylineop <;>
      · simp only [range] at made
        cases made
        exact ⟨rfl, rfl⟩

end Entry

section Field

variable [Field F]

private theorem skylineRankBoundMin_eq : (skylineRankBoundMin : F) = 0 := by
  simp [skylineRankBoundMin, skylineRankEpsilon]

theorem skylineRankRange_eq : (skylineRankRange : F) = 1 := by
  simp [skylineRankRange, skylineRankBoundMin, skylineRankEpsilon]

variable [LinearOrder F]

/-- What the normalisation of a column is for: the divisor and the scale are positive, and
every number between two recorded ones is mapped into the unit interval. -/
structure WellNormalised (numbers : List F) (range : Option (F × F)) (colMin colScale : F) :
    Prop where
  divisor_pos : ∀ found, range = some found → 0 < flooredRange found
  scale_pos : 0 < colScale
  unit_interval : ∀ value, ∀ smallest ∈ numbers, ∀ largest ∈ numbers, smallest ≤ value →
    value ≤ largest → 0 ≤ (value - colMin) * colScale ∧ (value - colMin) * colScale ≤ 1

variable [IsStrictOrderedRing F]

/-- The floor is of no help: it is zero. -/
theorem flooredRange_pos_iff (range : F × F) : 0 < flooredRange range ↔ range.1 < range.2 := by
  unfold flooredRange skylineRankEpsilon
  split
  next reversed =>
    have notLess : ¬ range.1 < range.2 := fun less => (sub_pos.mpr less).not_gt reversed
    simp [notLess]
  next => exact sub_pos

theorem flooredRange_eq_zero {range : F × F} (reversed : range.2 ≤ range.1) :
    flooredRange range = 0 := by
  unfold flooredRange skylineRankEpsilon
  split
  next => rfl
  next notLess => exact le_antisymm (sub_nonpos.mpr reversed) (not_lt.mp notLess)

theorem WellNormalised.less {numbers : List F} {range : F × F} {colMin colScale : F}
    (normalised : WellNormalised numbers (some range) colMin colScale) : range.1 < range.2 :=
  (flooredRange_pos_iff range).mp (normalised.divisor_pos range rfl)

private theorem wellNormalised_default :
    WellNormalised ([] : List F) none (0 - skylineRankBoundMin) skylineRankRange where
  divisor_pos := by simp
  scale_pos := by simp [skylineRankRange_eq]
  unit_interval := by simp

/-- A width that is positive scales exactly the range to the unit interval. -/
theorem normalised_mem_unit_iff {range : F × F} (less : range.1 < range.2) (value : F) :
    0 ≤ (value - range.1) * (1 / flooredRange range) ∧
        (value - range.1) * (1 / flooredRange range) ≤ 1 ↔
      range.1 ≤ value ∧ value ≤ range.2 := by
  have width := sub_pos.mpr less
  have floored : flooredRange range = range.2 - range.1 := if_neg width.not_gt
  rw [floored, mul_one_div, le_div_iff₀ width, zero_mul, sub_nonneg, div_le_one₀ width,
    sub_le_sub_iff_right]

private theorem wellNormalised_range_iff {numbers : List F} {range : F × F} :
    WellNormalised numbers (some range) (range.1 - skylineRankBoundMin)
        (skylineRankRange / flooredRange range) ↔
      range.1 < range.2 ∧ ∀ number ∈ numbers, range.1 ≤ number ∧ number ≤ range.2 := by
  rw [skylineRankBoundMin_eq, skylineRankRange_eq, sub_zero]
  constructor
  · intro normalised
    have less := normalised.less
    refine ⟨less, ?_⟩
    intro number mem
    have inUnit := normalised.unit_interval number number mem number mem le_rfl le_rfl
    exact (normalised_mem_unit_iff less number).mp inUnit
  · rintro ⟨less, within⟩
    have divisorPos := (flooredRange_pos_iff range).mpr less
    constructor
    · rintro found ⟨⟩
      exact divisorPos
    · exact one_div_pos.mpr divisorPos
    · intro value smallest smallestMem largest largestMem above below
      rw [normalised_mem_unit_iff less]
      exact ⟨(within smallest smallestMem).1.trans above,
        below.trans (within largest largestMem).2⟩

/-! ## The columns of a clause -/

/-- What `get_variable_range` looks at for a column. -/
def ServerStats.recorded (server : ServerStats E D F) (item : SkylineOf) (expr : E) :
    RecordedValues D :=
  recordedValues (server.statsTuple expr) item.skylineop

/-- The recorded values as numbers, if they can be converted. -/
def ServerStats.recordedNumbers (server : ServerStats E D F) (item : SkylineOf) (expr : E) :
    List F :=
  match server.plannerStats.asFloat8 item.restype with
  | none => []
  | some toFloat8 => (server.recorded item expr).all.map toFloat8

/-- If values are recorded and can be converted, then the sort operator's first value is
the smallest number and its last value the largest one, and these differ. -/
def ServerStats.EndsApart (server : ServerStats E D F) (item : SkylineOf) (expr : E) : Prop :=
  ∀ toFloat8, server.plannerStats.asFloat8 item.restype = some toFloat8 →
    (server.recorded item expr).all ≠ [] →
      ∃ range, IsRange (server.opcode item.skylineop) (server.recorded item expr).all
          ((server.recorded item expr).histogram.reverse ++ (server.recorded item expr).mostCommon)
          range ∧
        toFloat8 range.1 < toFloat8 range.2 ∧
        ∀ v ∈ (server.recorded item expr).all,
          toFloat8 range.1 ≤ toFloat8 v ∧ toFloat8 v ≤ toFloat8 range.2

/-- If values are recorded and can be converted, then the sort operator ascends and not all
values are one number. -/
def ServerStats.AscendsApart (server : ServerStats E D F) (reverse : Bool) (item : SkylineOf)
    (expr : E) : Prop :=
  ∀ toFloat8, server.plannerStats.asFloat8 item.restype = some toFloat8 →
    (server.recorded item expr).all ≠ [] →
      reverse = false ∧ ∃ v ∈ (server.recorded item expr).all,
        ∃ w ∈ (server.recorded item expr).all, toFloat8 v ≠ toFloat8 w

/-- The function of a sort operator answers by the compare function of its family. -/
def OpcodeCompares (opproc : D → D → Bool) (cmpfunc : D → D → Int) (reverse : Bool) : Prop :=
  ∀ x y, opproc x y = if reverse then decide (0 < cmpfunc x y) else decide (cmpfunc x y < 0)

/-- The sort operators and the rows of `pg_statistic` are what a server has. -/
structure ServerStats.Lawful (server : ServerStats E D F) (items : List SkylineOf) : Prop where
  valid : ∀ item ∈ items, item.skylineop ≠ invalidOid
  strictWeak : ∀ item ∈ items, StrictWeak (server.opcode item.skylineop)
  sorted : ∀ expr, ∀ statstuple ∈ server.statsTuple expr,
    HistogramsSorted server.opcode statstuple

section Column

variable {server : ServerStats E D F} {items : List SkylineOf} {item : SkylineOf} {expr : E}

omit [Field F] [LinearOrder F] [IsStrictOrderedRing F] in
/-- A column has a range exactly if values are recorded and can be converted. -/
theorem columnRange_spec (lawful : server.Lawful items) (itemMem : item ∈ items) (expr : E) :
    match server.plannerStats.columnRange item expr with
    | none => server.recordedNumbers item expr = [] ∧
        ∀ toFloat8, server.plannerStats.asFloat8 item.restype = some toFloat8 →
          (server.recorded item expr).all = []
    | some found => ∃ toFloat8 range,
        server.plannerStats.asFloat8 item.restype = some toFloat8 ∧
        found = (toFloat8 range.1, toFloat8 range.2) ∧
        IsRange (server.opcode item.skylineop) (server.recorded item expr).all
          ((server.recorded item expr).histogram.reverse ++ (server.recorded item expr).mostCommon)
          range := by
  have spec := getVariableRange_spec (lawful.strictWeak item itemMem) (lawful.sorted expr)
    (lawful.valid item itemMem)
  unfold PlannerStats.columnRange ServerStats.recordedNumbers
  cases conversion : server.plannerStats.asFloat8 item.restype with
  | none => simp
  | some toFloat8 =>
      change match Option.map (Prod.map toFloat8 toFloat8)
        (getVariableRange (server.opcode item.skylineop) (server.statsTuple expr) item.skylineop)
        with | none => _ | some found => _
      cases found : getVariableRange (server.opcode item.skylineop) (server.statsTuple expr)
          item.skylineop with
      | none =>
          rw [found] at spec
          have none : (server.recorded item expr).all = [] := spec
          simp [none]
      | some range =>
          rw [found] at spec
          exact ⟨toFloat8, range, rfl, rfl, spec⟩

/-- A column is normalised well exactly if the ends of its range are the smallest and the
largest recorded number and differ. -/
theorem wellNormalised_iff_endsApart (lawful : server.Lawful items) (itemMem : item ∈ items)
    {colMin colScale : F}
    (stored : match server.plannerStats.columnRange item expr with
      | none => colMin = 0 - skylineRankBoundMin ∧ colScale = skylineRankRange
      | some range => colMin = range.1 - skylineRankBoundMin ∧
          colScale = skylineRankRange / flooredRange range) :
    WellNormalised (server.recordedNumbers item expr) (server.plannerStats.columnRange item expr)
        colMin colScale ↔ server.EndsApart item expr := by
  have spec := columnRange_spec lawful itemMem expr
  cases found : server.plannerStats.columnRange item expr with
  | none =>
      rw [found] at spec stored
      rcases spec with ⟨noNumbers, noValues⟩
      rcases stored with ⟨rfl, rfl⟩
      rw [noNumbers]
      constructor
      · intro _ toFloat8 conversion some
        exact absurd (noValues toFloat8 conversion) some
      · intro _
        exact wellNormalised_default
  | some numbers =>
      rw [found] at spec stored
      rcases spec with ⟨toFloat8, range, conversion, rfl, isRange⟩
      rcases stored with ⟨rfl, rfl⟩
      rw [wellNormalised_range_iff]
      have numbersEq : server.recordedNumbers item expr =
          (server.recorded item expr).all.map toFloat8 := by
        rw [ServerStats.recordedNumbers, conversion]
      rw [numbersEq, List.forall_mem_map]
      constructor
      · rintro apart toFloat8' conversion' _
        cases conversion.symm.trans conversion'
        exact ⟨range, isRange, apart⟩
      · intro endsApart
        have recorded : (server.recorded item expr).all ≠ [] :=
          List.ne_nil_of_mem isRange.least.mem
        rcases endsApart toFloat8 conversion recorded with ⟨range', isRange', apart⟩
        have strictWeak := lawful.strictWeak item itemMem
        have same : range = range' :=
          Prod.ext (isRange.least.unique strictWeak isRange'.least)
            (isRange.greatest.unique strictWeak.flip isRange'.greatest)
        rw [same]
        exact apart

omit [Field F] [IsStrictOrderedRing F] in
/-- If the conversion keeps the order of the column, the ends are the smallest and the
largest number in an ascending column, and the other way round in a descending one. -/
theorem endsApart_iff_ascendsApart (lawful : server.Lawful items) (itemMem : item ∈ items)
    {cmpfunc : D → D → Int} {reverse : Bool}
    (compares : OpcodeCompares (server.opcode item.skylineop) cmpfunc reverse)
    (preserves : ∀ toFloat8, server.plannerStats.asFloat8 item.restype = some toFloat8 →
      Preserves cmpfunc toFloat8) :
    server.EndsApart item expr ↔ server.AscendsApart reverse item expr := by
  have strictWeak := lawful.strictWeak item itemMem
  have eitherEnd : ∀ v, v ∈ (server.recorded item expr).histogram.reverse ++
      (server.recorded item expr).mostCommon ↔ v ∈ (server.recorded item expr).all := by
    simp [RecordedValues.all]
  constructor
  · intro endsApart toFloat8 conversion recorded
    rcases endsApart toFloat8 conversion recorded with ⟨range, isRange, less, _⟩
    have greatestMem := (eitherEnd _).mp isRange.greatest.mem
    refine ⟨?_, range.1, isRange.least.mem, range.2, greatestMem, less.ne⟩
    by_contra descends
    have notBefore := isRange.least.not_before strictWeak greatestMem
    rw [compares, eq_true_of_ne_false descends] at notBefore
    simp only [if_true, decide_eq_false_iff_not, not_lt] at notBefore
    exact less.not_ge ((preserves toFloat8 conversion).le _ _ notBefore)
  · intro ascendsApart toFloat8 conversion recorded
    rcases ascendsApart toFloat8 conversion recorded with ⟨rfl, v, vMem, w, wMem, apart⟩
    have spec := columnRange_spec lawful itemMem expr
    cases found : server.plannerStats.columnRange item expr with
    | none =>
        rw [found] at spec
        exact absurd (spec.2 toFloat8 conversion) recorded
    | some numbers =>
        rw [found] at spec
        rcases spec with ⟨_, range, _, _, isRange⟩
        have keeps := preserves toFloat8 conversion
        have within : ∀ u ∈ (server.recorded item expr).all,
            toFloat8 range.1 ≤ toFloat8 u ∧ toFloat8 u ≤ toFloat8 range.2 := by
          intro u mem
          have above := isRange.least.not_before strictWeak mem
          have below := isRange.greatest.not_before strictWeak.flip ((eitherEnd u).mpr mem)
          simp only [compares u range.1, compares range.2 u, Bool.false_eq_true, if_false,
            decide_eq_false_iff_not, not_lt] at above below
          exact ⟨keeps.ge _ _ above, keeps.ge _ _ below⟩
        refine ⟨range, isRange, ?_, within⟩
        -- a range without a width leaves room for one number only
        by_contra noWidth
        have vWithin := within v vMem
        have wWithin := within w wMem
        apply apart
        apply le_antisymm
        · exact vWithin.2.trans ((not_lt.mp noWidth).trans wWithin.1)
        · exact wWithin.2.trans ((not_lt.mp noWidth).trans vWithin.1)

end Column

/-- `make_skyline` normalises a column well exactly if the ends of its recorded range are
the smallest and the largest recorded number and differ; where the conversion keeps the
order of the column, exactly if the sort operator ascends and two recorded values are
different numbers.  A column without a recorded range keeps the values for that case. -/
theorem makeSkylineNode_normalises_iff (server : ServerStats E D F)
    (targetList : List (TargetEntry E)) (clause : SkylineClause) (skylineMethod : SkylineMethod)
    (lawful : server.Lawful clause.skylineOfList) (node : SkylineNode O F)
    (made : makeSkylineNode server.plannerStats targetList clause skylineMethod = .ok node)
    (i : Nat) (item : SkylineOf) (isItem : clause.skylineOfList[i]? = some item) :
    ∃ tle colMin colScale, getSkylineclauseTle item targetList = .ok tle ∧
      node.colMin[i]? = some colMin ∧ node.colScale[i]? = some colScale ∧
      (WellNormalised (server.recordedNumbers item tle.expr)
          (server.plannerStats.columnRange item tle.expr) colMin colScale ↔
        server.EndsApart item tle.expr) ∧
      ∀ cmpfunc reverse, OpcodeCompares (server.opcode item.skylineop) cmpfunc reverse →
        (∀ toFloat8, server.plannerStats.asFloat8 item.restype = some toFloat8 →
          Preserves cmpfunc toFloat8) →
        (WellNormalised (server.recordedNumbers item tle.expr)
            (server.plannerStats.columnRange item tle.expr) colMin colScale ↔
          server.AscendsApart reverse item tle.expr) := by
  rw [makeSkylineNode, bind_eq_ok_iff] at made
  rcases made with ⟨entries, entriesMade, made⟩
  cases made
  rcases getElem?_of_mapM_eq_ok entriesMade isItem with ⟨entry, isEntry, entryMade⟩
  rcases makeSkylineEntry_eq_ok entryMade with ⟨tle, found, stored⟩
  have itemMem := List.mem_of_getElem? isItem
  have exact := wellNormalised_iff_endsApart lawful itemMem stored
  refine ⟨tle, entry.colMin, entry.colScale, found, by simp [isEntry], by simp [isEntry], exact, ?_⟩
  intro cmpfunc reverse compares preserves
  exact exact.trans (endsApart_iff_ascendsApart lawful itemMem compares preserves)

end Field

/-! ## Three integer columns -/

/-- Column 1 holds one number only, column 2 two of them, and column 3 so many that there
is a histogram as well. -/
def integerStats : ServerStats Nat Int ℚ where
  findCoercionPathway restype := if restype = 23 then .func 316 else .none
  statsTuple column :=
    match column with
    | 1 => some [⟨.mcv, 96, [7]⟩]
    | 2 => some [⟨.mcv, 96, [5, 3]⟩]
    | 3 => some [⟨.mcv, 96, [5]⟩, ⟨.histogram, 97, [2, 4, 9]⟩]
    | _ => none
  opcode opno x y := if opno = 97 then decide (x < y) else decide (y < x)
  oidFunctionCall1 _ datum := datum
  datumGetFloat8 datum := (datum : ℚ)

def integerTargets : List (TargetEntry Nat) :=
  [⟨1, 1, some "price", 1, false⟩, ⟨2, 2, some "rating", 2, false⟩,
    ⟨3, 3, some "distance", 3, false⟩]

theorem integerStats_lawful {items : List SkylineOf}
    (valid : ∀ item ∈ items, item.skylineop ≠ invalidOid) : integerStats.Lawful items where
  valid := valid
  strictWeak item _ := by
    by_cases ascends : item.skylineop = 97 <;>
    · simp only [integerStats, ascends, if_true, if_false]
      constructor
      · intro x y first
        simp only [decide_eq_true_eq, decide_eq_false_iff_not] at first ⊢
        omega
      · intro x y z first second
        simp only [decide_eq_false_iff_not] at first second ⊢
        omega
  sorted column statstuple row := by
    simp only [integerStats] at row
    split at row <;> cases row <;> simp [HistogramsSorted, integerStats]

private theorem integerStats_preserves (toFloat8 : Int → ℚ)
    (conversion : integerStats.plannerStats.asFloat8 23 = some toFloat8) :
    Preserves intCompare toFloat8 := by
  cases conversion
  constructor
  · intro x y inOrder
    simp only [intCompare, Int.sign_nonpos_iff] at inOrder
    change (x : ℚ) ≤ (y : ℚ)
    exact Int.cast_le.mpr (by omega)
  · intro x y inOrder
    simp only [intCompare, Int.sign_nonneg_iff] at inOrder
    change (y : ℚ) ≤ (x : ℚ)
    exact Int.cast_le.mpr (by omega)

/-- `SKYLINE OF distance MIN` is normalised well if and only if its numbers differ. -/
theorem makeSkylineNode_normalises_iff_distance :
    let item : SkylineOf := ⟨3, 23, 97, false, .min⟩
    ∃ node : SkylineNode Unit ℚ,
      makeSkylineNode integerStats.plannerStats integerTargets ⟨false, [item], []⟩ .sfs = .ok node ∧
      ∃ tle colMin colScale, getSkylineclauseTle item integerTargets = .ok tle ∧
        node.colMin[0]? = some colMin ∧ node.colScale[0]? = some colScale ∧
        (WellNormalised (integerStats.recordedNumbers item tle.expr)
            (integerStats.plannerStats.columnRange item tle.expr) colMin colScale ↔
          integerStats.EndsApart item tle.expr) ∧
        (WellNormalised (integerStats.recordedNumbers item tle.expr)
            (integerStats.plannerStats.columnRange item tle.expr) colMin colScale ↔
          integerStats.AscendsApart false item tle.expr) := by
  intro item
  have lawful : integerStats.Lawful [item] := integerStats_lawful (by simp [item, invalidOid])
  have compares : OpcodeCompares (integerStats.opcode item.skylineop) intCompare false := by
    intro x y
    simp [integerStats, item, intCompare, Int.sign_neg_iff]
  refine ⟨_, rfl, ?_⟩
  rcases makeSkylineNode_normalises_iff integerStats integerTargets ⟨false, [item], []⟩ .sfs lawful
    (_ : SkylineNode Unit ℚ) rfl 0 item rfl with
    ⟨tle, colMin, colScale, found, min, scale, ends, keeps⟩
  exact ⟨tle, colMin, colScale, found, min, scale, ends,
    keeps intCompare false compares integerStats_preserves⟩

/-- `SKYLINE OF price MIN, rating MAX`: both divisors are zero, the one because all prices
are 7, the other because the first rating by the operator `>` is the largest. -/
theorem makeSkylineNode_divides_by_zero :
    let items : List SkylineOf := [⟨1, 23, 97, false, .min⟩, ⟨2, 23, 521, true, .max⟩]
    integerStats.Lawful items ∧ ∃ node : SkylineNode Unit ℚ,
      makeSkylineNode integerStats.plannerStats integerTargets ⟨false, items, []⟩ .sfs = .ok node ∧
      ∀ (i : Nat) (item : SkylineOf), items[i]? = some item →
        ∃ tle colMin colScale range, getSkylineclauseTle item integerTargets = .ok tle ∧
          node.colMin[i]? = some colMin ∧ node.colScale[i]? = some colScale ∧
          integerStats.plannerStats.columnRange item tle.expr = some range ∧
          flooredRange range = 0 ∧
          ¬ WellNormalised (integerStats.recordedNumbers item tle.expr) (some range)
            colMin colScale := by
  intro items
  refine ⟨integerStats_lawful (by simp [items, invalidOid]), _, rfl, ?_⟩
  intro i item isItem
  match i with
  | 0 =>
      cases isItem
      have reversed : (7 : ℚ) ≤ 7 := le_rfl
      exact ⟨_, _, _, (7, 7), rfl, rfl, rfl, rfl, flooredRange_eq_zero reversed,
        fun normalised => normalised.less.not_ge reversed⟩
  | 1 =>
      cases isItem
      have reversed : (3 : ℚ) ≤ 5 := by norm_num
      exact ⟨_, _, _, (5, 3), rfl, rfl, rfl, rfl, flooredRange_eq_zero reversed,
        fun normalised => normalised.less.not_ge reversed⟩
  | i + 2 => simp [items] at isItem

end PgSkyline
