import PgSkyline.Passes.Admission
import PgSkyline.Passes.Scans

/-!
# The results of the materialized nested loop

The materialized nested loop reads the whole input for every tuple, so it needs
no order and no memory: it always drains into the reference skyline.
-/

namespace PgSkyline

open Covering Resumable

variable {T D R : Type} {env : ExecEnv T D R} {node : Skyline D}

namespace NestedLoop

/-- The tuple at the position `slInnerpos` of the inner loop drops the result. -/
def DropsAt (env : ExecEnv T D R) (node : Skyline D) (result : T) (slPos slInnerpos : Nat)
    (inner : T) : Prop :=
  Dominates env.slotGetattr node.cols inner result ∨
    node.skylineDistinct = true ∧ AllEq env.slotGetattr node.cols inner result ∧
      slInnerpos + 1 < slPos

theorem nestedLoopScan_cons_iff (result : T) (slPos slInnerpos : Nat) (inner : T) (rest : List T) :
    (nestedLoopScan env node result slPos slInnerpos (inner :: rest)).1 = true ↔
      DropsAt env node result slPos slInnerpos inner ∨
        (nestedLoopScan env node result slPos (slInnerpos + 1) rest).1 = true := by
  rw [nestedLoopScan]
  by_cases early : node.skylineDistinct = true ∧
      isDominating env node inner result = .allEq ∧ slInnerpos + 1 < slPos
  · have drops : DropsAt env node result slPos slInnerpos inner := Or.inr early
    simp only [early, drops, and_self, if_true, true_or]
  · by_cases dominates : isDominating env node inner result = .firstDominates
    · have drops : DropsAt env node result slPos slInnerpos inner := Or.inl dominates
      rw [if_neg early, if_pos dominates]
      simp only [drops, true_or]
    · have stays : ¬ DropsAt env node result slPos slInnerpos inner := by
        rintro (isDominated | isEqual)
        · exact dominates isDominated
        · exact early isEqual
      simp only [early, dominates, stays, if_false, false_or]

/-- The inner loop drops the result exactly if some tuple drops it. -/
theorem nestedLoopScan_append_iff (result : T) (slPos slInnerpos : Nat) (done rest : List T)
    (before : slPos = slInnerpos + done.length + 1) :
    (nestedLoopScan env node result slPos slInnerpos (done ++ rest)).1 = true ↔
      (∃ y ∈ done ++ rest, Dominates env.slotGetattr node.cols y result) ∨
        node.skylineDistinct = true ∧ ∃ y ∈ done, AllEq env.slotGetattr node.cols y result := by
  induction done generalizing slInnerpos with
  | nil =>
      -- From the position of the result on only domination counts.
      rw [List.length_nil] at before
      have beyond : ∀ position, slPos ≤ position + 1 →
          ((nestedLoopScan env node result slPos position rest).1 = true ↔
            ∃ y ∈ rest, Dominates env.slotGetattr node.cols y result) := by
        induction rest with
        | nil => simp [nestedLoopScan]
        | cons inner rest ih =>
            intro position late
            have notBefore : ¬ position + 1 < slPos := Nat.not_lt.mpr late
            rw [nestedLoopScan_cons_iff, ih (position + 1) (Nat.le_succ_of_le late)]
            simp [DropsAt, notBefore]
      rw [List.nil_append, beyond slInnerpos (by omega)]
      simp
  | cons inner done ih =>
      rw [List.length_cons] at before
      have early : slInnerpos + 1 < slPos := by omega
      rw [List.cons_append, nestedLoopScan_cons_iff, ih (slInnerpos + 1) (by omega)]
      simp only [DropsAt, early, and_true, List.mem_cons, exists_eq_or_imp]
      by_cases distinct : node.skylineDistinct = true
      · simp only [distinct, true_and]
        exact or_or_or_comm
      · simp only [distinct, Bool.false_eq_true, false_and, or_false]

/-! ## The invariant -/

/-- What the outer loop knows behind the tuples `done`. -/
structure Known (env : ExecEnv T D R) (node : Skyline D) (input sent done rest : List T) : Prop
    where
  covers : Covers (NodeBeats env node) (sent ++ rest) input
  apart : sent.Pairwise (Apart (NodeBeats env node))
  fromDone : ∀ x ∈ sent, x ∈ done
  undominated : ∀ x ∈ sent, Undominated env.slotGetattr node.cols input x
  represented : node.skylineDistinct = true → ∀ y ∈ done,
    Undominated env.slotGetattr node.cols input y →
      ∃ k ∈ sent, AllEq env.slotGetattr node.cols k y

variable {input sent done rest : List T} {result : T}

/-- Before the first tuple the outer loop knows that none is lost. -/
theorem known_start (env : ExecEnv T D R) (node : Skyline D) (input : List T) :
    Known env node input [] [] input := by
  constructor
  · exact Covers.refl _ _
  · exact List.Pairwise.nil
  · simp
  · simp
  · simp

/-- Some kept tuple beats a dropped one. -/
theorem Known.exists_beats (lawful : LawfulCols node.cols)
    (known : Known env node input sent done (result :: rest))
    (drops : (∃ y ∈ input, Dominates env.slotGetattr node.cols y result) ∨
      node.skylineDistinct = true ∧ ∃ y ∈ done, AllEq env.slotGetattr node.cols y result) :
    ∃ k ∈ sent ++ rest, NodeBeats env node k result := by
  have candidate : Covers (NodeBeats env node) (result :: (sent ++ rest)) input :=
    known.covers.perm List.perm_middle
  by_cases dominated : Undominated env.slotGetattr node.cols input result
  · rcases drops with ⟨y, inputMem, dominates⟩ | ⟨distinct, y, doneMem, allEq⟩
    · exact absurd dominates (dominated y inputMem)
    · rcases known.represented distinct y doneMem (dominated.of_allEq lawful (allEq.symm lawful))
        with ⟨k, sentMem, keptEq⟩
      exact ⟨k, List.mem_append_left _ sentMem, Or.inr ⟨keptEq.trans lawful allEq, distinct⟩⟩
  · have victor : ∃ y ∈ input, Dominates env.slotGetattr node.cols y result := by
      simpa [Undominated] using dominated
    rcases victor with ⟨y, inputMem, dominates⟩
    rcases candidate.mem_or_beaten inputMem with yMem | ⟨k, keptMem, beats⟩
    · rcases List.mem_cons.mp yMem with rfl | keptMem
      · exact absurd dominates (not_dominates_self lawful y)
      · exact ⟨y, keptMem, Beats.of_dominates _ dominates⟩
    · have dominatesToo := (beats.noWorse lawful).trans_dominates lawful dominates
      rcases List.mem_cons.mp keptMem with rfl | keptMem
      · exact absurd dominatesToo (not_dominates_self lawful k)
      · exact ⟨k, keptMem, Beats.of_dominates _ dominatesToo⟩

theorem Known.dropped (lawful : LawfulCols node.cols)
    (known : Known env node input sent done (result :: rest))
    (drops : (∃ y ∈ input, Dominates env.slotGetattr node.cols y result) ∨
      node.skylineDistinct = true ∧ ∃ y ∈ done, AllEq env.slotGetattr node.cols y result) :
    Known env node input sent (done ++ [result]) rest := by
  have trans : IsTrans T (NodeBeats env node) := Beats.isTrans lawful _
  rcases known.exists_beats lawful drops with ⟨k, keptMem, beats⟩
  have candidate : Covers (NodeBeats env node) (result :: (sent ++ rest)) input :=
    known.covers.perm List.perm_middle
  constructor
  · exact candidate.drop keptMem beats
  · exact known.apart
  · exact fun x sentMem => List.mem_append_left _ (known.fromDone x sentMem)
  · exact known.undominated
  · intro distinct y doneMem undominated
    rcases List.mem_append.mp doneMem with old | new
    · exact known.represented distinct y old undominated
    · rw [List.mem_singleton.mp new] at undominated ⊢
      rcases drops with ⟨z, inputMem, dominates⟩ | ⟨_, z, zMem, allEq⟩
      · exact absurd dominates (undominated z inputMem)
      · rcases known.represented distinct z zMem
          (undominated.of_allEq lawful (allEq.symm lawful)) with ⟨k, sentMem, keptEq⟩
        exact ⟨k, sentMem, keptEq.trans lawful allEq⟩

theorem Known.kept (lawful : LawfulCols node.cols)
    (known : Known env node input sent done (result :: rest)) (inputMem : ∀ x ∈ done, x ∈ input)
    (stays : ¬ ((∃ y ∈ input, Dominates env.slotGetattr node.cols y result) ∨
      node.skylineDistinct = true ∧ ∃ y ∈ done, AllEq env.slotGetattr node.cols y result)) :
    Known env node input (sent ++ [result]) (done ++ [result]) rest := by
  rcases not_or.mp stays with ⟨notDominated, notEqual⟩
  have undominated : Undominated env.slotGetattr node.cols input result :=
    fun y yMem dominates => notDominated ⟨y, yMem, dominates⟩
  constructor
  · simpa using known.covers
  · rw [List.pairwise_append]
    refine ⟨known.apart, List.pairwise_singleton _ _, ?_⟩
    intro x sentMem y new
    rw [List.mem_singleton.mp new]
    apply apart_of_not_beats lawful
    · rintro (dominates | ⟨allEq, distinct⟩)
      · exact undominated x (inputMem x (known.fromDone x sentMem)) dominates
      · exact notEqual ⟨distinct, x, known.fromDone x sentMem, allEq⟩
    · intro dominates
      have resultMem : result ∈ input :=
        known.covers.mem_of_kept (List.mem_append_right _ List.mem_cons_self)
      exact known.undominated x sentMem result resultMem dominates
  · intro x keptMem
    rcases List.mem_append.mp keptMem with old | new
    · exact List.mem_append_left _ (known.fromDone x old)
    · exact List.mem_append_right _ new
  · intro x keptMem
    rcases List.mem_append.mp keptMem with old | new
    · exact known.undominated x old
    · rw [List.mem_singleton.mp new]
      exact undominated
  · intro distinct y doneMem yUndominated
    rcases List.mem_append.mp doneMem with old | new
    · rcases known.represented distinct y old yUndominated with ⟨k, sentMem, keptEq⟩
      exact ⟨k, List.mem_append_left _ sentMem, keptEq⟩
    · rw [List.mem_singleton.mp new]
      exact ⟨result, List.mem_append_right _ List.mem_cons_self, AllEq.refl lawful result⟩

/-! ## The run -/

/-- The outer loop drains from any position. -/
theorem nestedLoopFrom_drains (inputEq : input = done ++ rest) {scan : Scan T}
    (position : Scan.nestedLoopPass env node scan =
      Scan.nestedLoopFrom env node input done.length) :
    ∃ out, Drains (Scan.nestedLoopPass env node) scan out .done ∧
      (LawfulCols node.cols → Known env node input sent done rest →
        NodeSieved env node input (sent ++ out)) := by
  induction rest generalizing sent done scan with
  | nil =>
      have beyond : input[done.length]? = none := by simp [inputEq]
      refine ⟨[], .finished ?_, fun lawful known => ?_⟩
      · rw [position, Scan.nestedLoopFrom, beyond]
        rfl
      · rw [List.append_nil]
        exact ⟨by simpa using known.covers, known.apart⟩
  | cons result rest ih =>
      have found : input[done.length]? = some result := by simp [inputEq]
      have nextEq : input = (done ++ [result]) ++ rest := by simp [inputEq]
      have nextPosition : Scan.nestedLoopPass env node (.nested input (done.length + 1)) =
          Scan.nestedLoopFrom env node input (done ++ [result]).length := by
        simp [Scan.nestedLoopPass]
      have drops := @nestedLoopScan_append_iff T D R env node result (done.length + 1) 0 done
        (result :: rest) (by omega)
      rw [← inputEq] at drops
      by_cases dropped : (nestedLoopScan env node result (done.length + 1) 0 input).1 = true
      · rcases @ih sent _ nextEq _ nextPosition with ⟨out, drains, sieved⟩
        refine ⟨out, .again ?_ drains, fun lawful known => ?_⟩
        · simp only [position, Scan.nestedLoopFrom, found, dropped, if_true, pure_eq_ok]
        · exact sieved lawful (known.dropped lawful (drops.mp dropped))
      · rcases @ih (sent ++ [result]) _ nextEq _ nextPosition with ⟨out, drains, sieved⟩
        refine ⟨result :: out, .emit ?_ drains, fun lawful known => ?_⟩
        · simp only [position, Scan.nestedLoopFrom, found, dropped, if_false, pure_eq_ok,
            Bool.false_eq_true]
        · have kept := known.kept lawful (fun x doneMem => by simp [inputEq, doneMem])
            (fun stays => dropped (drops.mpr stays))
          simpa using sieved lawful kept

end NestedLoop

variable [LE R] [DecidableLE R] [LT R] [DecidableLT R]

/-- From the start of its scan the materialized nested loop returns exactly the
skyline. -/
theorem nestedLoop_drains (lawful : LawfulCols node.cols)
    (method : node.skylineMethod = .materializedNestedLoop) {input : List T}
    {state : SkylineState T R} (start : AtStart state input) :
    ∃ out last, Drains (execSkyline env node) state out last ∧ last.status = .done ∧
      IsSkyline env.slotGetattr node.cols node.skylineDistinct input out := by
  rcases @NestedLoop.nestedLoopFrom_drains T D R env node input [] [] input rfl (.start input) rfl
    with ⟨out, drains, sieved⟩
  have view : NestedLoopView state (.start input) := start
  rcases nestedLoop_simulates.drains view drains with ⟨last, nodeDrains, done⟩
  have known := NestedLoop.known_start env node input
  rw [execSkyline_eq_materializedNestedLoop method]
  exact ⟨out, last, nodeDrains, done, (sieved lawful known).isSkyline lawful⟩

end PgSkyline
