import PgSkyline.Dominance.Lexicographic
import PgSkyline.Lib.Filtering
import PgSkyline.Passes.Admission
import PgSkyline.Passes.Scans

/-!
# The results of the presorted two-dimensional method

`ExecSkyline_2DimPreSort` compares each tuple only with the tuple it returned
last.  On a sorted input of at most two columns the last result stands for all
earlier ones, with one exception: behind a MIN or MAX column a DIFF column lets
groups interleave, and a result of another group hides the earlier ones.
-/

namespace PgSkyline

open Covering Resumable

variable {T D R : Type} {env : ExecEnv T D R} {node : Skyline D}

namespace Presort

/-! ## The drain of the method -/

/-- The next tuple is returned exactly if neither it nor the last result drops
the other. -/
theorem keepsSlot_iff (lawful : LawfulCols node.cols) (tuple result : T) :
    Scan.keepsSlot env node tuple result = true ↔
      ¬ Dominates env.slotGetattr node.cols tuple result ∧ ¬ NodeBeats env node result tuple := by
  have beats : NodeBeats env node result tuple ↔
      isDominating env node tuple result = .secondDominates ∨
        (isDominating env node tuple result = .allEq ∧ node.skylineDistinct = true) := by
    apply or_congr (secondDominates_iff lawful tuple result).symm
    apply and_congr_left'
    exact ⟨AllEq.symm lawful, AllEq.symm lawful⟩
  have first : Dominates env.slotGetattr node.cols tuple result ↔
      isDominating env node tuple result = .firstDominates := Iff.rfl
  have never : isDominating env node tuple result ≠ .diffGrpDiff :=
    execSkylineIsDominating_ne_diffGrpDiff env.slotGetattr node.cols tuple result
  rw [beats, first, Scan.keepsSlot, decide_eq_true_iff]
  cases verdict : isDominating env node tuple result with
  | diffGrpDiff => exact absurd verdict never
  | _ => simp

/-- In an input in which no tuple dominates an earlier one, the method drops what
its last result beats. -/
theorem drains_of_noLaterDominates (lawful : LawfulCols node.cols) {result : T}
    {pending : List T}
    (inOrder : NoLaterDominates env.slotGetattr node.cols (result :: pending)) :
    ∃ out, pending.destutter' (fun last x => ¬ NodeBeats env node last x) result = result :: out ∧
      Drains (Scan.presortPass env node) (.comparing result pending) out .done := by
  induction pending generalizing result with
  | nil => exact ⟨[], rfl, .finished rfl⟩
  | cons tuple rest ih =>
      rcases List.pairwise_cons.mp inOrder with ⟨notAfter, restOrder⟩
      have keeps := @keepsSlot_iff T D R env node lawful tuple result
      simp only [notAfter tuple List.mem_cons_self, not_false_eq_true, true_and] at keeps
      by_cases beaten : NodeBeats env node result tuple
      · have skips : Scan.keepsSlot env node tuple result = false :=
          Bool.eq_false_iff.mpr fun kept => keeps.mp kept beaten
        have restInOrder : NoLaterDominates env.slotGetattr node.cols (result :: rest) :=
          inOrder.sublist ((List.sublist_cons_self tuple rest).cons_cons result)
        rcases ih restInOrder with ⟨out, kept, drains⟩
        refine ⟨out, ?_, .again ?_ drains⟩
        · rw [List.destutter'_cons_neg _ (not_not_intro beaten), kept]
        · simp only [Scan.presortPass, skips, Bool.false_eq_true, if_false, pure_eq_ok]
      · rcases ih restOrder with ⟨out, kept, drains⟩
        refine ⟨tuple :: out, ?_, .emit ?_ drains⟩
        · rw [List.destutter'_cons_pos _ beaten, kept]
        · simp only [Scan.presortPass, keeps.mpr beaten, if_true, pure_eq_ok]

private theorem drains_lastKept (lawful : LawfulCols node.cols) {input : List T}
    (inOrder : NoLaterDominates env.slotGetattr node.cols input) :
    Drains (Scan.presortPass env node) (.start input) (lastKept (NodeBeats env node) input)
      .done := by
  cases input with
  | nil => exact .finished rfl
  | cons tuple rest =>
      rcases drains_of_noLaterDominates lawful inOrder with ⟨out, kept, drains⟩
      rw [lastKept, List.destutter_cons', kept]
      exact .emit rfl drains

/-- The results are a skyline if the input is ordered in a way that relays. -/
theorem sieved_lastKept (lawful : LawfulCols node.cols) {input : List T}
    (inOrder : NoLaterDominates env.slotGetattr node.cols input) {before : T → T → Prop}
    (relays : Relays (NodeBeats env node) before input) (ordered : input.Pairwise before) :
    NodeSieved env node input (lastKept (NodeBeats env node) input) := by
  have trans : IsTrans T (NodeBeats env node) := Beats.isTrans lawful _
  have filters := filters_lastKept (r := NodeBeats env node) input
  constructor
  · exact filters.covers
  · have keptInOrder := inOrder.sublist filters.sublist
    apply ((pairwise_lastKept relays ordered).and keptInOrder).imp
    rintro x y ⟨notBeats, notAfter⟩
    exact apart_of_not_beats lawful notBeats notAfter

/-! ## Sorted inputs -/

section Sorted

variable {slotGetattr : T → Nat → Option D} {cols : List (SkylineCol D)} {distinct : Bool}

theorem noWorse_pair (col1 col2 : SkylineCol D) (x y : T) :
    NoWorse slotGetattr [col1, col2] x y ↔
      ((col1.skylineOfDir = .diff → col1.compare slotGetattr x y = 0) ∧
        col1.compare slotGetattr x y ≤ 0) ∧
      ((col2.skylineOfDir = .diff → col2.compare slotGetattr x y = 0) ∧
        col2.compare slotGetattr x y ≤ 0) := by
  simp [NoWorse]

/-- What is no worse on one column but does not beat is no better on the other. -/
theorem nonneg_of_not_beats {col1 col2 : SkylineCol D} (ordinary1 : col1.skylineOfDir ≠ .diff)
    (ordinary2 : col2.skylineOfDir ≠ .diff) {x y : T}
    (notBeats : ¬ Beats slotGetattr [col1, col2] distinct x y)
    (noWorse : col1.compare slotGetattr x y ≤ 0) : 0 ≤ col2.compare slotGetattr x y := by
  by_contra better
  apply notBeats
  apply Beats.of_dominates
  rw [dominates_iff_noWorse_and_exists, noWorse_pair]
  constructor
  · exact ⟨⟨fun diff => absurd diff ordinary1, noWorse⟩, fun diff => absurd diff ordinary2,
      by omega⟩
  · exact ⟨col2, by simp, by omega⟩

/-- A result between two tuples of a sorted input is no worse than the second, if
the first is and does not beat the result. -/
theorem noWorse_pair_of_between {col1 col2 : SkylineCol D} (lawful : LawfulCols [col1, col2])
    {x last y : T} (noWorse : NoWorse slotGetattr [col1, col2] x y)
    (notBeats : ¬ Beats slotGetattr [col1, col2] distinct x last)
    (first : lexCompare slotGetattr [col1, col2] x last ≤ 0)
    (second : lexCompare slotGetattr [col1, col2] last y ≤ 0)
    (sameGroup : col1.skylineOfDir ≠ .diff → col2.skylineOfDir = .diff →
      col2.compare slotGetattr last y = 0) :
    NoWorse slotGetattr [col1, col2] last y := by
  have threeWay1 := SkylineCol.compare_threeWay slotGetattr (lawful col1 (by simp))
  have threeWay2 := SkylineCol.compare_threeWay slotGetattr (lawful col2 (by simp))
  rw [lexCompare_pair_nonpos_iff] at first second
  rcases (noWorse_pair col1 col2 x y).mp noWorse with ⟨⟨diff1, le1⟩, diff2, le2⟩
  rw [noWorse_pair]
  by_cases isDiff1 : col1.skylineOfDir = .diff
  · -- Within a group of the first column the second column is sorted.
    rcases threeWay1.eq_zero_of_between (x := x) (y := last) (z := y) (by omega) (by omega)
      (diff1 isDiff1) with ⟨equalFirst, equalSecond⟩
    have lastLe : col2.compare slotGetattr last y ≤ 0 := by omega
    refine ⟨⟨fun _ => equalSecond, by omega⟩, fun isDiff2 => ?_, lastLe⟩
    exact (threeWay2.eq_zero_of_between (by omega) lastLe (diff2 isDiff2)).2
  · have lastLe : col1.compare slotGetattr last y ≤ 0 := by omega
    refine ⟨⟨fun diff => absurd diff isDiff1, lastLe⟩, ?_⟩
    by_cases isDiff2 : col2.skylineOfDir = .diff
    · have equal := sameGroup isDiff1 isDiff2
      exact ⟨fun _ => equal, by omega⟩
    · have notBetter := nonneg_of_not_beats isDiff1 isDiff2 notBeats (by omega)
      exact ⟨fun diff => absurd diff isDiff2, threeWay2.le_zero_of_ge notBetter le2⟩

/-- Behind a MIN or MAX column a DIFF column changes only at undominated tuples. -/
def ChangesUndominated (slotGetattr : T → Nat → Option D) (cols : List (SkylineCol D))
    (input : List T) : Prop :=
  ∀ col1 col2, cols = [col1, col2] → col1.skylineOfDir ≠ .diff → col2.skylineOfDir = .diff →
    ∀ done p y rest, input = done ++ p :: y :: rest → col2.compare slotGetattr p y ≠ 0 →
      Undominated slotGetattr cols input y

/-- The last result belongs to the group of the next tuple. -/
theorem sameGroup_of_changesUndominated {col1 col2 : SkylineCol D}
    (lawful : LawfulCols [col1, col2]) {input : List T}
    (changes : ChangesUndominated slotGetattr [col1, col2] input)
    {done rest : List T} {p y : T} (inputEq : input = done ++ p :: y :: rest) {x last : T}
    (standsFor : StandsFor (Beats slotGetattr [col1, col2] distinct) last p)
    (doneMem : x ∈ done ++ [p]) (first : lexCompare slotGetattr [col1, col2] x last ≤ 0)
    (second : lexCompare slotGetattr [col1, col2] last y ≤ 0)
    (beats : Beats slotGetattr [col1, col2] distinct x y) (isOrdinary : col1.skylineOfDir ≠ .diff)
    (isDiff : col2.skylineOfDir = .diff) : col2.compare slotGetattr last y = 0 := by
  have threeWay1 := SkylineCol.compare_threeWay slotGetattr (lawful col1 (by simp))
  have threeWay2 := SkylineCol.compare_threeWay slotGetattr (lawful col2 (by simp))
  by_cases same : col2.compare slotGetattr p y = 0
  · rcases standsFor with rfl | lastBeats
    · exact same
    · have lastSame := (lastBeats.noWorse lawful col2 (by simp)).1 isDiff
      exact threeWay2.eq_zero_trans lastSame same
  · have undominated := changes col1 col2 rfl isOrdinary isDiff done p y rest inputEq same
    rcases beats with dominates | ⟨allEq, _⟩
    · have inputMem : x ∈ input := by
        rw [inputEq, List.append_cons]
        exact List.mem_append_left _ doneMem
      exact absurd dominates (undominated x inputMem)
    · rw [allEq_iff_forall] at allEq
      rw [lexCompare_pair_nonpos_iff] at first second
      rcases threeWay1.eq_zero_of_between (x := x) (y := last) (z := y) (by omega) (by omega)
        (allEq col1 (by simp)) with ⟨equalFirst, equalSecond⟩
      exact (threeWay2.eq_zero_of_between (by omega) (by omega) (allEq col2 (by simp))).2

/-- In a sorted input of at most two columns the last result stands for all. -/
theorem relays_of_sorted (lawful : LawfulCols cols) (narrow : cols.length ≤ 2) {input : List T}
    (changes : ChangesUndominated slotGetattr cols input) :
    Relays (Beats slotGetattr cols distinct) (fun x y => lexCompare slotGetattr cols x y ≤ 0)
      input := by
  intro done p y rest inputEq last standsFor second x doneMem first notBeats beats
  apply beats.of_noWorse lawful notBeats
  have noWorse := beats.noWorse lawful
  match cols, narrow with
  | [], _ => simp [NoWorse]
  | [col], _ =>
      have threeWay := SkylineCol.compare_threeWay slotGetattr (lawful col (by simp))
      rw [lexCompare_singleton] at first second
      intro other colMem
      rw [List.mem_singleton.mp colMem]
      constructor
      · intro isDiff
        exact (threeWay.eq_zero_of_between first second
          ((noWorse col List.mem_cons_self).1 isDiff)).2
      · exact second
  | [col1, col2], _ =>
      apply noWorse_pair_of_between lawful noWorse notBeats first second
      intro isOrdinary isDiff
      exact sameGroup_of_changesUndominated lawful changes inputEq standsFor doneMem first second
        beats isOrdinary isDiff

/-- A tuple at which the DIFF column changes is returned. -/
theorem changesUndominated_of_isSkyline (lawful : LawfulCols cols) {input : List T}
    (skyline : IsSkyline slotGetattr cols distinct input
      (lastKept (Beats slotGetattr cols distinct) input)) :
    ChangesUndominated slotGetattr cols input := by
  rintro col1 col2 rfl _ isDiff done p y rest rfl change
  apply skyline.undominated
  apply mem_lastKept
  intro last standsFor beats
  have threeWay := SkylineCol.compare_threeWay slotGetattr (lawful col2 (by simp))
  have reached := (beats.noWorse lawful col2 (by simp)).1 isDiff
  rcases standsFor with rfl | lastBeats
  · exact change reached
  · have passed := (lastBeats.noWorse lawful col2 (by simp)).1 isDiff
    have swapped := threeWay.swap last p
    exact change (threeWay.eq_zero_trans (by omega) reached)

end Sorted

end Presort

/-! ## The exact condition -/

variable [LE R] [DecidableLE R] [LT R] [DecidableLT R]

/-- From its start the method returns what `lastKept` keeps. -/
theorem presort_drains (lawful : LawfulCols node.cols)
    (method : node.skylineMethod = .twoDimPresort) {input : List T}
    (inOrder : NoLaterDominates env.slotGetattr node.cols input) {state : SkylineState T R}
    (start : AtStart state input) :
    ∃ last, Drains (execSkyline env node) state (lastKept (NodeBeats env node) input) last ∧
      last.status = .done := by
  have view : PresortView state (.start input) := start
  rcases presort_simulates.drains view (Presort.drains_lastKept lawful inOrder) with
    ⟨last, drains, done⟩
  rw [execSkyline_eq_twoDimPresort method]
  exact ⟨last, drains, done⟩

/-- On a sorted input `ExecSkyline_2DimPreSort` returns exactly the skyline, unless
a DIFF column behind a MIN or MAX column changes at a dominated tuple. -/
theorem execSkyline2DimPreSort_correct_iff (env : ExecEnv T D R) (node : Skyline D)
    (lawful : LawfulCols node.cols) (hasMatchingPath : Bool)
    (chosen : skylineChooseMethod node.cols.length node.skylineDistinct node.skylineOfOptions
      hasMatchingPath = .ok node.skylineMethod)
    (method : node.skylineMethod = .twoDimPresort) (input : List T)
    (sorted : SortedOn env.slotGetattr node.cols input) (drawn : Nat) (state : SkylineState T R)
    (init : execInitSkyline env node (OuterPlan.init input) drawn = .ok state) :
    (∃ out last, Drains (execSkyline env node) state out last ∧ last.status = .done ∧
        IsSkyline env.slotGetattr node.cols node.skylineDistinct input out) ↔
      ∀ col1 col2, node.cols = [col1, col2] →
        col1.skylineOfDir ≠ .diff → col2.skylineOfDir = .diff →
        ∀ done p tuple rest, input = done ++ p :: tuple :: rest →
          col2.compare env.slotGetattr p tuple ≠ 0 →
          Undominated env.slotGetattr node.cols input tuple := by
  have narrow := (eq_of_skylineChooseMethod chosen).2 method
  have unwindowed : ¬ node.skylineMethod.IsWindowed := by simp [SkylineMethod.IsWindowed, method]
  have start := (atStart_of_init unwindowed init).1
  have inOrder := sorted.noLaterDominates lawful
  rcases presort_drains lawful method inOrder start with ⟨last, drains, done⟩
  constructor
  · rintro ⟨out, last', drains', _, skyline⟩
    rw [(drains'.unique drains).1] at skyline
    exact Presort.changesUndominated_of_isSkyline lawful skyline
  · intro changes
    have sieved := Presort.sieved_lastKept lawful inOrder
      (Presort.relays_of_sorted lawful narrow changes) sorted
    exact ⟨_, last, drains, done, sieved.isSkyline lawful⟩

/-- Groups first, and NULLs first within a group. -/
theorem execSkyline2DimPreSort_correct_iff_groupFirst :
    let node : Skyline Int :=
      ⟨[(1, .diff), (2, .max)].map fun column => integerCol column.1 column.2, true,
        [⟨"presort", .integer 1⟩], .twoDimPresort, false⟩
    let input : List IntegerRow :=
      [[some 1, none], [some 1, some 3], [some 2, some 2], [some 2, some 2], [some 2, some 1]]
    ∃ state, execInitSkyline integerEnv node (OuterPlan.init input) 0 = .ok state ∧
      ((∃ out last, Drains (execSkyline integerEnv node) state out last ∧ last.status = .done ∧
          IsSkyline integerEnv.slotGetattr node.cols node.skylineDistinct input out) ↔
        ∀ col1 col2, node.cols = [col1, col2] →
          col1.skylineOfDir ≠ .diff → col2.skylineOfDir = .diff →
          ∀ done p tuple rest, input = done ++ p :: tuple :: rest →
            col2.compare integerEnv.slotGetattr p tuple ≠ 0 →
            Undominated integerEnv.slotGetattr node.cols input tuple) :=
  ⟨_, rfl, execSkyline2DimPreSort_correct_iff integerEnv _ (lawfulCols_integerCol _) false
    (by decide) rfl _ (by decide) 0 _ rfl⟩

/-- `SKYLINE OF a MIN, d DIFF`: the tuple of group 2 hides the first tuple of group
1 from the third, which it dominates. -/
theorem execSkyline2DimPreSort_diffSecond_returnsDominated :
    let node : Skyline Int :=
      ⟨[(1, .min), (2, .diff)].map fun column => integerCol column.1 column.2, false, [],
        .twoDimPresort, false⟩
    let input : List IntegerRow := [[some 1, some 1], [some 1, some 2], [some 2, some 1]]
    skylineChooseMethod 2 false [] true = .ok node.skylineMethod ∧
    SortedOn integerEnv.slotGetattr node.cols input ∧
    ∃ state, execInitSkyline integerEnv node (OuterPlan.init input) 0 = .ok state ∧
      (∃ last, Drains (execSkyline integerEnv node) state input last) ∧
      ¬ ∃ out last, Drains (execSkyline integerEnv node) state out last ∧ last.status = .done ∧
        IsSkyline integerEnv.slotGetattr node.cols node.skylineDistinct input out := by
  intro node input
  have drains : ∃ last, Drains (execSkyline integerEnv node)
      { makeSkylineState .append (OuterPlan.init input) 0 with windowsize := -1, windowslots := -1 }
      input last :=
    ⟨_, .emit rfl (.emit rfl (.emit rfl (.finished rfl)))⟩
  refine ⟨by decide, by decide, _, rfl, drains, ?_⟩
  rintro ⟨out, last, drains', _, skyline⟩
  rcases drains with ⟨_, drains⟩
  rw [(drains'.unique drains).1] at skyline
  have undominated := skyline.undominated (x := [some 2, some 1]) (by decide)
  exact absurd undominated (by decide)

end PgSkyline
