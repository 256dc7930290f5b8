import Mathlib.Algebra.Ring.Int.Defs
import Mathlib.Order.MinMax
import PgSkyline.Dominance.Reference
import PgSkyline.Executor.Node
import PgSkyline.Lib.Filtering

/-!
# The min-max filter

Translation of the loop of `minmaxfilter.pl`, which counts how many tuples an elimination
filter drops that keeps nothing but two numbers: of the tuple it holds, the smallest and
the largest value.  A line is the list of its values.

The script counts a tuple as dropped exactly if all of its values are above all values of
an earlier tuple, for values from 0 to 1, and the skyline of the tuples that it does not
drop is that of all tuples.
-/

namespace PgSkyline

open Covering

variable {V : Type} [LinearOrder V] [Zero V] [One V]

/-- The loop over the values of a tuple; `$qmin` and `$qmax`. -/
def minmaxValues : List V → V × V → V × V
  | [], bounds => bounds
  | value :: values, (qmin, qmax) =>
      minmaxValues values
        (if value < qmin then value else qmin, if qmax < value then value else qmax)

/-- `$qmin` and `$qmax` at the end of the loop. -/
def qmin (line : List V) : V :=
  (minmaxValues line (1, 0)).1

def qmax (line : List V) : V :=
  (minmaxValues line (1, 0)).2

structure MinMaxFilter (V : Type) where
  pmin : V
  pmax : V
  n : Nat
  dropped : Nat
  flushed : Nat
  improved : Nat
  deriving DecidableEq, Repr

namespace MinMaxFilter

/-- The variables before the first line. -/
def init : MinMaxFilter V where
  pmin := 1
  pmax := 1
  n := 0
  dropped := 0
  flushed := 0
  improved := 0

/-- One line. -/
def next (filter : MinMaxFilter V) (line : List V) : MinMaxFilter V :=
  let filter := { filter with n := filter.n + 1 }
  let filter :=
    if filter.pmax < qmin line then { filter with dropped := filter.dropped + 1 } else filter
  let filter :=
    if qmax line < filter.pmin then
      { filter with flushed := filter.flushed + 1, pmax := qmax line, pmin := qmin line }
    else filter
  if qmax line < filter.pmax then
    { filter with improved := filter.improved + 1, pmax := qmax line }
  else filter

/-- The lines that are not counted as dropped. -/
def kept : MinMaxFilter V → List (List V) → List (List V)
  | _, [] => []
  | filter, line :: lines =>
      if filter.pmax < qmin line then (filter.next line).kept lines
      else line :: (filter.next line).kept lines

end MinMaxFilter

/-! ## The bounds of a line -/

omit [Zero V] [One V] in
theorem minmaxValues_spec (values : List V) (bounds : V × V) :
    (minmaxValues values bounds).1 ≤ bounds.1 ∧ bounds.2 ≤ (minmaxValues values bounds).2 ∧
      ∀ value ∈ values, (minmaxValues values bounds).1 ≤ value ∧
        value ≤ (minmaxValues values bounds).2 := by
  induction values generalizing bounds with
  | nil => simp [minmaxValues]
  | cons value values ih =>
      rcases bounds with ⟨low, high⟩
      rcases ih (if value < low then value else low, if high < value then value else high) with
        ⟨lowLe, leHigh, within⟩
      rw [minmaxValues]
      have minLe : (if value < low then value else low) ≤ low ∧
          (if value < low then value else low) ≤ value := by
        split
        · exact ⟨le_of_lt ‹_›, le_rfl⟩
        · exact ⟨le_rfl, not_lt.mp ‹_›⟩
      have leMax : high ≤ (if high < value then value else high) ∧
          value ≤ (if high < value then value else high) := by
        split
        · exact ⟨le_of_lt ‹_›, le_rfl⟩
        · exact ⟨le_rfl, not_lt.mp ‹_›⟩
      refine ⟨lowLe.trans minLe.1, leMax.1.trans leHigh, fun other mem => ?_⟩
      rcases List.mem_cons.mp mem with rfl | mem
      · exact ⟨lowLe.trans minLe.2, leMax.2.trans leHigh⟩
      · exact within other mem

private theorem qmin_le_one (line : List V) : qmin line ≤ 1 :=
  (minmaxValues_spec line (1, 0)).1

theorem qmin_le {line : List V} {value : V} (mem : value ∈ line) : qmin line ≤ value :=
  ((minmaxValues_spec line (1, 0)).2.2 value mem).1

theorem le_qmax {line : List V} {value : V} (mem : value ∈ line) : value ≤ qmax line :=
  ((minmaxValues_spec line (1, 0)).2.2 value mem).2

theorem qmin_le_qmax {line : List V} (filled : line ≠ []) : qmin line ≤ qmax line := by
  rcases List.exists_mem_of_ne_nil line filled with ⟨value, mem⟩
  exact (qmin_le mem).trans (le_qmax mem)

/-- All values of the first tuple are below all values of the second one. -/
def Below (first second : List V) : Prop :=
  qmax first < qmin second

instance (first second : List V) : Decidable (Below first second) :=
  inferInstanceAs (Decidable (_ < _))

/-! ## One line -/

namespace MinMaxFilter

/-- What the filter knows of the lines `seen`: `pmax` is the smallest of their largest
values, and a line that is kept has it. -/
structure Inv (seen emitted : List (List V)) (filter : MinMaxFilter V) : Prop where
  ordered : filter.pmin ≤ filter.pmax
  le_one : filter.pmax ≤ 1
  le_seen : ∀ line ∈ seen, filter.pmax ≤ qmax line
  held : filter.pmax = 1 ∨ ∃ line ∈ emitted, qmax line = filter.pmax
  sub : emitted ⊆ seen
  counted : filter.n = seen.length ∧ filter.n = filter.dropped + emitted.length

variable {seen emitted : List (List V)} {filter : MinMaxFilter V} {line : List V}

private theorem inv_init : Inv [] [] (init : MinMaxFilter V) :=
  ⟨le_rfl, le_rfl, by simp, Or.inl rfl, by simp, rfl, rfl⟩

/-- The line with the value `pmax` is below every line that is counted as dropped. -/
theorem Inv.exists_below (inv : Inv seen emitted filter) (dropped : filter.pmax < qmin line) :
    ∃ earlier ∈ emitted, Below earlier line := by
  rcases inv.held with isOne | ⟨earlier, mem, isMax⟩
  · rw [isOne] at dropped
    exact absurd dropped (not_lt.mpr (qmin_le_one line))
  · exact ⟨earlier, mem, by rwa [Below, isMax]⟩

/-- A line is counted as dropped exactly if an earlier one is below it. -/
theorem Inv.dropped_iff (inv : Inv seen emitted filter) :
    filter.pmax < qmin line ↔ ∃ earlier ∈ seen, Below earlier line := by
  constructor
  · intro dropped
    rcases inv.exists_below dropped with ⟨earlier, mem, below⟩
    exact ⟨earlier, inv.sub mem, below⟩
  · rintro ⟨earlier, mem, below⟩
    exact lt_of_le_of_lt (inv.le_seen earlier mem) below

private theorem next_of_dropped (inv : Inv seen emitted filter) (filled : line ≠ [])
    (dropped : filter.pmax < qmin line) : filter.next line =
      { filter with n := filter.n + 1, dropped := filter.dropped + 1 } := by
  have above : filter.pmax < qmax line := lt_of_lt_of_le dropped (qmin_le_qmax filled)
  have notFlushed : ¬ qmax line < filter.pmin :=
    not_lt.mpr (inv.ordered.trans (le_of_lt above))
  simp [next, dropped, notFlushed, le_of_lt above]

theorem Inv.next_dropped (inv : Inv seen emitted filter) (filled : line ≠ [])
    (dropped : filter.pmax < qmin line) : Inv (seen ++ [line]) emitted (filter.next line) := by
  rw [next_of_dropped inv filled dropped]
  have above : filter.pmax < qmax line := lt_of_lt_of_le dropped (qmin_le_qmax filled)
  refine ⟨inv.ordered, inv.le_one, fun other mem => ?_, inv.held,
    fun other mem => List.mem_append_left _ (inv.sub mem), ?_, ?_⟩
  · rcases List.mem_append.mp mem with mem | mem
    · exact inv.le_seen other mem
    · cases List.mem_singleton.mp mem
      exact le_of_lt above
  · simp [inv.counted.1]
  · have counted := inv.counted.2
    simp only
    omega

/-- A kept line lowers `pmax` to its largest value, if that is smaller. -/
theorem next_of_kept (inv : Inv seen emitted filter) (filled : line ≠ [])
    (keeps : ¬ filter.pmax < qmin line) :
    (filter.next line).pmin ≤ (filter.next line).pmax ∧
      (filter.next line).pmax = min filter.pmax (qmax line) ∧
      (filter.next line).n = filter.n + 1 ∧ (filter.next line).dropped = filter.dropped := by
  have ordered := inv.ordered
  unfold next
  simp only [keeps, if_false]
  by_cases flushed : qmax line < filter.pmin
  · have below : qmax line ≤ filter.pmax := le_of_lt (lt_of_lt_of_le flushed ordered)
    simp [flushed, qmin_le_qmax filled, below]
  · by_cases improved : qmax line < filter.pmax
    · simp [flushed, improved, not_lt.mp flushed, le_of_lt improved]
    · simp [flushed, improved, ordered, not_lt.mp improved]

theorem Inv.next_kept (inv : Inv seen emitted filter) (filled : line ≠ [])
    (keeps : ¬ filter.pmax < qmin line) :
    Inv (seen ++ [line]) (emitted ++ [line]) (filter.next line) := by
  rcases next_of_kept inv filled keeps with ⟨ordered, isMin, n, dropped⟩
  constructor
  · exact ordered
  · exact isMin ▸ (min_le_left _ _).trans inv.le_one
  · intro other mem
    rw [isMin]
    rcases List.mem_append.mp mem with mem | mem
    · exact (min_le_left _ _).trans (inv.le_seen other mem)
    · cases List.mem_singleton.mp mem
      exact min_le_right _ _
  · rw [isMin]
    rcases min_choice filter.pmax (qmax line) with old | new
    · rw [old]
      rcases inv.held with isOne | ⟨earlier, mem, isMax⟩
      · exact Or.inl isOne
      · exact Or.inr ⟨earlier, List.mem_append_left _ mem, isMax⟩
    · rw [new]
      exact Or.inr ⟨line, by simp, rfl⟩
  · intro other mem
    rcases List.mem_append.mp mem with mem | mem
    · exact List.mem_append_left _ (inv.sub mem)
    · exact List.mem_append_right _ mem
  · have counted := inv.counted
    rw [n, dropped, List.length_append, List.length_append, List.length_singleton]
    omega

/-! ## All lines -/

/-- The lines that have no line below them among the earlier ones. -/
def aboveNone : List (List V) → List (List V) → List (List V)
  | _, [] => []
  | seen, line :: lines =>
      if ∃ earlier ∈ seen, Below earlier line then aboveNone (seen ++ [line]) lines
      else line :: aboveNone (seen ++ [line]) lines

/-- The run over the lines that are left. -/
theorem Inv.run {lines : List (List V)} (inv : Inv seen emitted filter)
    (filled : ∀ line ∈ lines, line ≠ []) :
    Inv (seen ++ lines) (emitted ++ filter.kept lines) (lines.foldl next filter) ∧
      filter.kept lines = aboveNone seen lines ∧
      Filters Below emitted lines (filter.kept lines) := by
  induction lines generalizing seen emitted filter with
  | nil => exact ⟨by simpa [kept] using inv, rfl, .nil _⟩
  | cons line lines ih =>
      have lineFilled := filled line List.mem_cons_self
      have restFilled := fun other mem => filled other (List.mem_cons_of_mem line mem)
      by_cases dropped : filter.pmax < qmin line
      · rcases ih (inv.next_dropped lineFilled dropped) restFilled with ⟨last, same, filters⟩
        rw [kept, if_pos dropped, aboveNone, if_pos (inv.dropped_iff.mp dropped)]
        exact ⟨by simpa using last, same, .drop (inv.exists_below dropped) filters⟩
      · rcases ih (inv.next_kept lineFilled dropped) restFilled with ⟨last, same, filters⟩
        rw [kept, if_neg dropped, aboveNone, if_neg (mt inv.dropped_iff.mpr dropped), same]
        rw [same] at last filters
        exact ⟨by simpa using last, rfl, .keep line filters⟩

end MinMaxFilter

/-! ## The skyline of the kept lines -/

/-- The values of a line by their number. -/
def lineGetattr (values : List V) (attnum : Nat) : Option V :=
  values[attnum - 1]?

/-- MIN columns over the values of lines of one length. -/
structure MinCols (width : Nat) (cols : List (SkylineCol V)) : Prop where
  nonempty : cols ≠ []
  lawful : LawfulCols cols
  attnum : ∀ col ∈ cols, 0 < col.skylineColIdx ∧ col.skylineColIdx ≤ width
  dir : ∀ col ∈ cols, col.skylineOfDir = .min ∧ col.compareFlags.desc = false
  less : ∀ col ∈ cols, ∀ value other, value < other → col.compareOpFn value other < 0

theorem MinCols.dominates_of_below {width : Nat} {cols : List (SkylineCol V)}
    (minCols : MinCols width cols) {first second : List V} (firstWidth : first.length = width)
    (secondWidth : second.length = width) (below : Below first second) :
    Dominates lineGetattr cols first second := by
  have less : ∀ col ∈ cols, col.compare lineGetattr first second < 0 := by
    intro col mem
    rcases minCols.attnum col mem with ⟨pos, inRange⟩
    have firstIn : col.skylineColIdx - 1 < first.length := by omega
    have secondIn : col.skylineColIdx - 1 < second.length := by omega
    have inOrder : first[col.skylineColIdx - 1] < second[col.skylineColIdx - 1] :=
      lt_of_le_of_lt (le_qmax (List.getElem_mem firstIn))
        (lt_of_lt_of_le below (qmin_le (List.getElem_mem secondIn)))
    simp only [SkylineCol.compare, lineGetattr, List.getElem?_eq_getElem firstIn,
      List.getElem?_eq_getElem secondIn, inlineApplyCompareFunction, (minCols.dir col mem).2,
      Bool.false_eq_true, if_false]
    exact minCols.less col mem _ _ inOrder
  rw [dominates_iff_noWorse_and_exists]
  constructor
  · intro col mem
    rw [(minCols.dir col mem).1]
    exact ⟨by simp, le_of_lt (less col mem)⟩
  · rcases List.exists_mem_of_ne_nil cols minCols.nonempty with ⟨col, mem⟩
    exact ⟨col, mem, less col mem⟩

/-- The script drops the tuples that have an earlier tuple below them, and the others have
the skyline of all, for any MIN columns. -/
theorem minmaxfilter_keeps_skyline (lines : List (List V)) (width : Nat) (pos : 0 < width)
    (sameWidth : ∀ line ∈ lines, line.length = width) :
    (lines.foldl MinMaxFilter.next MinMaxFilter.init).n = lines.length ∧
      (lines.foldl MinMaxFilter.next MinMaxFilter.init).dropped +
        (MinMaxFilter.init.kept lines).length = lines.length ∧
      MinMaxFilter.init.kept lines = MinMaxFilter.aboveNone [] lines ∧
      ∀ cols distinct out, MinCols width cols →
        IsSkyline lineGetattr cols distinct (MinMaxFilter.init.kept lines) out →
          IsSkyline lineGetattr cols distinct lines out := by
  have filled : ∀ line ∈ lines, line ≠ [] := by
    rintro line mem rfl
    exact absurd (sameWidth [] mem) (Nat.ne_of_lt pos)
  rcases MinMaxFilter.inv_init.run filled with ⟨inv, same, filters⟩
  rcases inv.counted with ⟨n, counted⟩
  rw [List.nil_append] at n counted
  refine ⟨n, counted.symm.trans n, same, fun cols distinct out minCols skyline => ?_⟩
  refine skyline.of_covers minCols.lawful ?_
  rcases filters.covers with ⟨gone, split, beaten⟩
  refine ⟨gone, split, fun line mem => ?_⟩
  rcases beaten line mem with ⟨earlier, keptMem, below⟩
  have earlierMem : earlier ∈ lines := filters.sublist.subset keptMem
  have lineMem : line ∈ lines := split.mem_iff.mpr (List.mem_append_right _ mem)
  exact ⟨earlier, keptMem, Beats.of_dominates distinct (minCols.dominates_of_below
    (sameWidth earlier earlierMem) (sameWidth line lineMem) below)⟩

/-- Two MIN columns of integers. -/
theorem minCols_integerCol :
    MinCols 2 ([(1, .min), (2, .min)].map fun column => integerCol column.1 column.2) where
  nonempty := by simp
  lawful := lawfulCols_integerCol _
  attnum := by decide
  dir := by decide
  less := by
    intro col mem value other less
    rcases List.mem_map.mp mem with ⟨column, _, rfl⟩
    exact Int.sign_neg_iff.mpr (Int.sub_neg_of_lt less)

/-- Of these three tuples the third one is dropped, and the second one is the skyline. -/
theorem minmaxfilter_keeps_skyline_three :
    ([[1, 0], [0, 0], [1, 1]].foldl MinMaxFilter.next
      (MinMaxFilter.init : MinMaxFilter Int)).dropped = 1 ∧
    (MinMaxFilter.init : MinMaxFilter Int).kept [[1, 0], [0, 0], [1, 1]] = [[1, 0], [0, 0]] ∧
    IsSkyline lineGetattr ([(1, .min), (2, .min)].map fun column => integerCol column.1 column.2)
      false [[1, 0], [0, 0], [1, 1]] [[0, 0]] := by
  rcases minmaxfilter_keeps_skyline [[1, 0], [0, 0], [1, (1 : Int)]] 2 (by decide) (by decide) with
    ⟨_, _, same, keeps⟩
  have keptTwo : (MinMaxFilter.init : MinMaxFilter Int).kept [[1, 0], [0, 0], [1, 1]] =
      [[1, 0], [0, 0]] := by
    rw [same]
    decide
  refine ⟨by decide, keptTwo, keeps _ false _ minCols_integerCol ?_⟩
  rw [keptTwo, IsSkyline, IsSkylineAll]
  decide

end PgSkyline
