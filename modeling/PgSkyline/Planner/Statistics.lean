import PgSkyline.Lib.Leading
import PgSkyline.Nodes.Plan

/-!
# The recorded range of a column

Translation of `get_attstatsslot` (`utils/cache/lsyscache.c`) and
`get_variable_range` (`utils/adt/selfuncs.c`), from which `make_skyline` takes the
range of a column.

A row of `pg_statistic` is the list of its used slots.  `get_variable_range` looks at
a histogram only if it is sorted by the requested operator, and widens the range by
the most common values; `recordedValues` is what it looks at.
-/

namespace PgSkyline

open Leading

variable {E D F : Type}

/-- The codes `STATISTIC_KIND_*` of `catalog/pg_statistic.h`. -/
inductive StatisticKind where
  | mcv
  | histogram
  | correlation
  deriving DecidableEq, Repr

/-- A slot of a row of `pg_statistic`; `stanumbers` is not read here. -/
structure StatisticSlot (D : Type) where
  stakind : StatisticKind
  staop : Oid
  stavalues : List D

/-- The values of the first slot of this kind, and with this operator if one is asked
for: `get_attstatsslot`. -/
def getAttstatsslot (statstuple : List (StatisticSlot D)) (reqkind : StatisticKind)
    (reqop : Oid) : Option (List D) :=
  (statstuple.find? fun slot =>
    slot.stakind == reqkind && (reqop == invalidOid || slot.staop == reqop)).map
      StatisticSlot.stavalues

/-- The first and the last value of a histogram. -/
def histogramRange : List D → Option (D × D)
  | [] => none
  | first :: rest => some (first, (first :: rest).getLast (List.cons_ne_nil first rest))

/-- The loop of `get_variable_range` over the most common values. -/
def mcvLoop (opproc : D → D → Bool) : List D → Option (D × D) → Option (D × D)
  | [], range => range
  | value :: values, none => mcvLoop opproc values (some (value, value))
  | value :: values, some (tmin, tmax) =>
      mcvLoop opproc values
        (some (if opproc value tmin then value else tmin,
          if opproc tmax value then value else tmax))

/-- `get_variable_range`; `opproc` is the function of the operator `sortop`. -/
def getVariableRange (opproc : D → D → Bool) (statsTuple : Option (List (StatisticSlot D)))
    (sortop : Oid) : Option (D × D) :=
  match statsTuple with
  | none => none
  | some statstuple =>
      let values := (getAttstatsslot statstuple .mcv invalidOid).getD []
      match getAttstatsslot statstuple .histogram sortop with
      | some histogram => mcvLoop opproc values (histogramRange histogram)
      | none =>
          -- a histogram that is sorted with some other operator
          match getAttstatsslot statstuple .histogram invalidOid with
          | some _ => none
          | none => mcvLoop opproc values none

/-- What `make_skyline` takes from the catalog and from `pg_statistic`. -/
structure ServerStats (E D F : Type) where
  findCoercionPathway : Oid → CoercionPath
  /-- The row that `examine_variable` finds. -/
  statsTuple : E → Option (List (StatisticSlot D))
  /-- The function of an operator: `get_opcode`. -/
  opcode : Oid → D → D → Bool
  oidFunctionCall1 : Oid → D → D
  datumGetFloat8 : D → F

def ServerStats.plannerStats (server : ServerStats E D F) : PlannerStats E D F where
  findCoercionPathway := server.findCoercionPathway
  getVariableRange expr sortop :=
    getVariableRange (server.opcode sortop) (server.statsTuple expr) sortop
  oidFunctionCall1 := server.oidFunctionCall1
  datumGetFloat8 := server.datumGetFloat8

/-! ## What the range is taken from -/

/-- The values `get_variable_range` looks at. -/
structure RecordedValues (D : Type) where
  histogram : List D
  mostCommon : List D

def RecordedValues.all (recorded : RecordedValues D) : List D :=
  recorded.histogram ++ recorded.mostCommon

/-- The histogram of the operator with the most common values; nothing if there are
only histograms of other operators. -/
def recordedValues (statsTuple : Option (List (StatisticSlot D))) (sortop : Oid) :
    RecordedValues D :=
  match statsTuple with
  | none => ⟨[], []⟩
  | some statstuple =>
      let mostCommon := (getAttstatsslot statstuple .mcv invalidOid).getD []
      match getAttstatsslot statstuple .histogram sortop with
      | some histogram => ⟨histogram, mostCommon⟩
      | none =>
          match getAttstatsslot statstuple .histogram invalidOid with
          | some _ => ⟨[], []⟩
          | none => ⟨[], mostCommon⟩

/-- Each histogram is sorted by its operator. -/
def HistogramsSorted (opcode : Oid → D → D → Bool) (statstuple : List (StatisticSlot D)) : Prop :=
  ∀ slot ∈ statstuple, slot.stakind = .histogram →
    slot.stavalues.Pairwise fun x y => opcode slot.staop y x = false

variable {opcode : Oid → D → D → Bool} {statsTuple : Option (List (StatisticSlot D))}
  {sortop : Oid}

private theorem sorted_of_getAttstatsslot {statstuple : List (StatisticSlot D)}
    (sorted : HistogramsSorted opcode statstuple) (valid : sortop ≠ invalidOid) {histogram : List D}
    (found : getAttstatsslot statstuple .histogram sortop = some histogram) :
    histogram.Pairwise fun x y => opcode sortop y x = false := by
  simp only [getAttstatsslot, Option.map_eq_some_iff] at found
  rcases found with ⟨slot, search, rfl⟩
  have matched := List.find?_some search
  simp only [Bool.and_eq_true, Bool.or_eq_true, beq_iff_eq, valid, false_or] at matched
  have ordered := sorted slot (List.mem_of_find?_eq_some search) matched.1
  rw [matched.2] at ordered
  exact ordered

private theorem sorted_recordedValues
    (sorted : ∀ statstuple ∈ statsTuple, HistogramsSorted opcode statstuple)
    (valid : sortop ≠ invalidOid) :
    (recordedValues statsTuple sortop).histogram.Pairwise fun x y => opcode sortop y x = false := by
  cases statsTuple with
  | none => exact List.Pairwise.nil
  | some statstuple =>
      simp only [recordedValues]
      cases found : getAttstatsslot statstuple .histogram sortop with
      | some histogram => exact sorted_of_getAttstatsslot (sorted statstuple rfl) valid found
      | none => cases getAttstatsslot statstuple .histogram invalidOid <;> exact List.Pairwise.nil

/-- The range is that of the recorded values, first the histogram. -/
theorem getVariableRange_eq (opproc : D → D → Bool) :
    getVariableRange opproc statsTuple sortop =
      mcvLoop opproc (recordedValues statsTuple sortop).mostCommon
        (histogramRange (recordedValues statsTuple sortop).histogram) := by
  cases statsTuple with
  | none => rfl
  | some statstuple =>
      simp only [getVariableRange, recordedValues]
      cases getAttstatsslot statstuple .histogram sortop with
      | some histogram => rfl
      | none => cases getAttstatsslot statstuple .histogram invalidOid <;> rfl

/-! ## The ends of the range -/

section Ends

variable {before : D → D → Bool}

/-- The ends of a range are the leading values in the two directions; the histogram is
looked at from either end. -/
structure IsRange (before : D → D → Bool) (forwards backwards : List D) (range : D × D) : Prop where
  least : Leads before forwards range.1
  greatest : Leads (fun x y => before y x) backwards range.2

private theorem isRange_histogramRange {first : D} {rest : List D}
    (sorted : (first :: rest).Pairwise fun x y => before y x = false) :
    ∃ range, histogramRange (first :: rest) = some range ∧
      IsRange before (first :: rest) (first :: rest).reverse range := by
  refine ⟨_, rfl, leads_cons (List.pairwise_cons.mp sorted).1, ?_⟩
  have split := List.dropLast_append_getLast (List.cons_ne_nil first rest)
  have reversed : (first :: rest).reverse =
      (first :: rest).getLast (List.cons_ne_nil first rest) ::
        (first :: rest).dropLast.reverse := by
    rw [← List.reverse_concat, split]
  rw [reversed]
  apply leads_cons
  intro w mem
  rw [← split] at sorted
  exact (List.pairwise_append.mp sorted).2.2 w (List.mem_reverse.mp mem) _ List.mem_cons_self

/-- One value after the other may move either end. -/
theorem isRange_mcvLoop (strictWeak : StrictWeak before) (values : List D)
    {forwards backwards : List D} {range : D × D}
    (isRange : IsRange before forwards backwards range) :
    ∃ range', mcvLoop before values (some range) = some range' ∧
      IsRange before (forwards ++ values) (backwards ++ values) range' := by
  induction values generalizing forwards backwards range with
  | nil => exact ⟨range, rfl, by simpa using isRange⟩
  | cons value values ih =>
      have moved : IsRange before (forwards ++ [value]) (backwards ++ [value])
          (if before value range.1 then value else range.1,
            if before range.2 value then value else range.2) :=
        ⟨isRange.least.append strictWeak value, isRange.greatest.append strictWeak.flip value⟩
      rcases ih moved with ⟨range', looped, isRange'⟩
      refine ⟨range', looped, ?_⟩
      simpa using isRange'

/-- There is a range exactly if a value is recorded, and its ends are the leading values
in the order of the operator and against it. -/
theorem getVariableRange_spec (strictWeak : StrictWeak (opcode sortop))
    (sorted : ∀ statstuple ∈ statsTuple, HistogramsSorted opcode statstuple)
    (valid : sortop ≠ invalidOid) :
    match getVariableRange (opcode sortop) statsTuple sortop with
    | none => (recordedValues statsTuple sortop).all = []
    | some range =>
        IsRange (opcode sortop) (recordedValues statsTuple sortop).all
          ((recordedValues statsTuple sortop).histogram.reverse ++
            (recordedValues statsTuple sortop).mostCommon) range := by
  have ordered := sorted_recordedValues sorted valid
  rw [getVariableRange_eq]
  unfold RecordedValues.all
  generalize recordedValues statsTuple sortop = recorded at ordered ⊢
  rcases recorded with ⟨histogram, mostCommon⟩
  cases histogram with
  | cons first rest =>
      rcases isRange_histogramRange ordered with ⟨range, started, isRange⟩
      rcases isRange_mcvLoop strictWeak mostCommon isRange with ⟨range', looped, isRange'⟩
      simp only [started, looped]
      exact isRange'
  | nil =>
      cases mostCommon with
      | nil => rfl
      | cons value values =>
          have isRange : IsRange (opcode sortop) [value] [value] (value, value) :=
            ⟨leads_cons (by simp), leads_cons (by simp)⟩
          rcases isRange_mcvLoop strictWeak values isRange with ⟨range', looped, isRange'⟩
          simp only [histogramRange, mcvLoop, looped]
          exact isRange'

end Ends

end PgSkyline
