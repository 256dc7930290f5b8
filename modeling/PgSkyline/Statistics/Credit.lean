import PgSkyline.BlockNestedLoop.Correctness
import PgSkyline.SortFilter.PassInfo
import Mathlib.Algebra.Order.BigOperators.Group.List
import Mathlib.Algebra.Order.Group.Nat
import Mathlib.Data.Nat.Choose.Basic

/-!
# The credit of a window method

A pass that reads a tuple compares it at most once with each tuple in the window.  The
credit of a pass bounds the comparisons that are still to come; it pays for those of
every pass.  It starts with one comparison for each pair of input tuples.
-/

namespace PgSkyline

open Resumable TupleWindowState

variable {T D R : Type}

/-- The comparisons that a pass may make at most. -/
def passCost (pass : Pass T R) : Nat :=
  match pass.status, pass.pending with
  | .process, _ :: _ => pass.window.slots.length
  | _, _ => 0

/-- A further tuple meets all the others. -/
theorem choose_two_succ (count : Nat) : (count + 1).choose 2 = count + count.choose 2 := by
  rw [Nat.choose_succ_succ', Nat.choose_one_right]

/-! ## Block nested loop -/

namespace BlockNestedLoop

/-- With how many tuples of this source and the next a window tuple is still compared.
One of the pass before waits for its stamp; one of this pass meets the rest of the source
and then what had overflowed before it was stored. -/
def meets (pending timestampIn : Nat) (slot : TupleWindowSlot T R) : Nat :=
  if timestampIn ≤ slot.timestamp then slot.timestamp - timestampIn
  else pending + slot.timestamp

/-- The comparisons to come; tuples outside the window have not met yet. -/
def credit (pass : Pass T R) : Nat :=
  match pass.status with
  | .init => pass.pending.length.choose 2
  | .process | .pipeout =>
      (pass.window.slots.map (meets pass.pending.length pass.timestampIn)).sum +
        (pass.pending.length + pass.overflow.length).choose 2
  | .finalPipeout | .done => 0

/-- What holds of the stamps and the cursor, whatever the compare functions do. -/
structure Paced (env : ExecEnv T D R) (start : TupleWindowState T R) (pass : Pass T R) :
    Prop where
  balanced : Balanced env.space pass.window
  limits : SameLimits start pass.window
  contents :
    match pass.status with
    | .init => pass.window.slots = []
    | .process => Clocked pass ∧ ∀ slot ∈ pass.window.slots, slot.timestamp ≠ pass.timestampIn
    | .pipeout => Clocked pass ∧ pass.window.current ≤ pass.window.slots.length ∧
        ∀ slot ∈ pass.window.slots.take pass.window.current, slot.timestamp ≠ pass.timestampIn
    | .finalPipeout => pass.window.current = 0
    | .done => True

/-- Each window tuple pays for its comparison with the tuple that was read. -/
theorem sum_meets_read {slots : List (TupleWindowSlot T R)} {pending timestampIn : Nat}
    (notNow : ∀ slot ∈ slots, slot.timestamp ≠ timestampIn) :
    slots.length + (slots.map (meets pending (timestampIn + 1))).sum =
      (slots.map (meets (pending + 1) timestampIn)).sum := by
  induction slots with
  | nil => rfl
  | cons slot slots ih =>
      have paid : 1 + meets pending (timestampIn + 1) slot =
          meets (pending + 1) timestampIn slot := by
        have different := notNow slot List.mem_cons_self
        unfold meets
        split <;> split <;> omega
      have rest := ih fun other otherMem => notNow other (List.mem_cons_of_mem slot otherMem)
      simp only [List.length_cons, List.map_cons, List.sum_cons]
      omega

/-- Between two passes no window tuple has to meet more. -/
theorem sum_meets_switch {slots : List (TupleWindowSlot T R)} {timestampIn : Nat}
    (early : ∀ slot ∈ slots, slot.timestamp < timestampIn) (overflow : Nat) :
    (slots.map (meets overflow 0)).sum = (slots.map (meets 0 timestampIn)).sum := by
  refine congrArg List.sum (List.map_congr_left fun slot slotMem => ?_)
  have behind := early slot slotMem
  rw [meets, meets, if_pos (Nat.zero_le _), if_neg (Nat.not_le.mpr behind), Nat.zero_add,
    Nat.sub_zero]

section Read

variable {env : ExecEnv T D R} {node : Skyline D} {start : TupleWindowState T R}
  {pass : Pass T R} {slot : T} {rest : List T} {kept : List (TupleWindowSlot T R)}
  {admission : Admission T R}

theorem credit_afterRead (pass : Pass T R) (admission : Admission T R) (rest : List T) :
    credit (afterRead pass admission rest) =
      (admission.window.slots.map (meets rest.length (pass.timestampIn + 1))).sum +
        (rest.length + pass.overflow.length).choose 2 :=
  rfl

/-- The window tuples that are left, and the comparisons that were paid. -/
theorem Paced.reading (paced : Paced env start pass) (process : pass.status = .process)
    (pending : pass.pending = slot :: rest) (sub : kept.Sublist pass.window.slots) :
    pass.timestampOut = pass.overflow.length ∧ pass.overflow.length ≤ pass.timestampIn ∧
      Timed kept rest pass.overflow (pass.timestampIn + 1) ∧
      passCost pass + ((kept.map (meets rest.length (pass.timestampIn + 1))).sum +
        (rest.length + 1 + pass.overflow.length).choose 2) ≤ credit pass := by
  have contents := paced.contents
  rw [process] at contents
  rcases contents with ⟨clocked, notNow⟩
  have timed := clocked.timed
  rw [pending] at timed
  refine ⟨clocked.timestampOut, timed.overflow_le,
    timed.read notNow fun other keptMem => sub.subset keptMem, ?_⟩
  have fewer := (sub.map (meets rest.length (pass.timestampIn + 1))).sum_le_sum
    fun _ _ => Nat.zero_le _
  have paid := @sum_meets_read T R pass.window.slots rest.length pass.timestampIn notNow
  simp only [passCost, credit, process, pending, List.length_cons]
  omega

theorem Paced.dropped (paced : Paced env start pass) (process : pass.status = .process)
    (pending : pass.pending = slot :: rest) (valid : ValidAdmission env pass.window admission)
    (sub : kept.Sublist pass.window.slots) (slots : admission.window.slots = kept) :
    Paced env start (afterRead pass admission rest) ∧
      passCost pass + credit (afterRead pass admission rest) ≤ credit pass := by
  rcases paced.reading process pending sub with ⟨timestampOut, _, timed, paid⟩
  rw [← slots] at timed paid
  constructor
  · exact ⟨balanced_rewind valid.balanced, paced.limits.trans valid.limits,
      ⟨timestampOut, timed⟩, Nat.zero_le _, by simp [afterRead, rewind]⟩
  · have fewer : (rest.length + pass.overflow.length).choose 2 ≤
        (rest.length + 1 + pass.overflow.length).choose 2 := Nat.choose_mono 2 (by omega)
    rw [credit_afterRead]
    omega

theorem Paced.stored (paced : Paced env start pass) (process : pass.status = .process)
    (pending : pass.pending = slot :: rest) (valid : ValidAdmission env pass.window admission)
    (sub : kept.Sublist pass.window.slots) {rank : R}
    (added : admission.window.slots.Perm (⟨slot, pass.timestampOut, rank⟩ :: kept)) :
    Paced env start (afterRead pass admission rest) ∧
      passCost pass + credit (afterRead pass admission rest) ≤ credit pass := by
  rcases paced.reading process pending sub with ⟨timestampOut, room, timed, paid⟩
  constructor
  · exact ⟨balanced_rewind valid.balanced, paced.limits.trans valid.limits,
      ⟨timestampOut, timed.store room timestampOut added⟩, Nat.zero_le _,
      by simp [afterRead, rewind]⟩
  · have further : (rest.length + 1 + pass.overflow.length).choose 2 =
        rest.length + pass.overflow.length + (rest.length + pass.overflow.length).choose 2 := by
      rw [← choose_two_succ]
      congr 1
      omega
    have new : meets rest.length (pass.timestampIn + 1) ⟨slot, pass.timestampOut, rank⟩ =
        rest.length + pass.overflow.length := by
      have early : pass.overflow.length < pass.timestampIn + 1 := Nat.lt_succ_of_le room
      simp only [meets, timestampOut, if_neg (Nat.not_le.mpr early)]
    have sum := (added.map (meets rest.length (pass.timestampIn + 1))).sum_eq
    rw [List.map_cons, List.sum_cons, new] at sum
    rw [credit_afterRead, sum]
    omega

theorem Paced.overflowed (paced : Paced env start pass) (process : pass.status = .process)
    (pending : pass.pending = slot :: rest) (valid : ValidAdmission env pass.window admission)
    (sub : kept.Sublist pass.window.slots) (slots : admission.window.slots = kept) :
    Paced env start ((afterRead pass admission rest).spill .overflows slot) ∧
      passCost pass + credit ((afterRead pass admission rest).spill .overflows slot) ≤
        credit pass := by
  rcases paced.reading process pending sub with ⟨timestampOut, room, timed, paid⟩
  rw [← slots] at timed paid
  simp only [Pass.spill, if_true]
  constructor
  · refine ⟨balanced_rewind valid.balanced, paced.limits.trans valid.limits, ⟨?_, ?_⟩,
      Nat.zero_le _, by simp [afterRead, rewind]⟩
    · simp [afterRead, timestampOut]
    · exact timed.spill room slot
  · have same : rest.length + (pass.overflow.length + 1) = rest.length + 1 + pass.overflow.length :=
      by omega
    simpa only [credit, afterRead, rewind, List.length_append, List.length_cons, List.length_nil,
      Nat.zero_add, same] using paid

end Read

section Step

variable [LE R] [DecidableLE R] [LT R] [DecidableLT R]
variable {env : ExecEnv T D R} {node : Skyline D} {start : TupleWindowState T R}
  {pass pass' : Pass T R} {outcome : Outcome T}

theorem tuple_pays {slot : T} {rest : List T} (paced : Paced env start pass)
    (process : pass.status = .process) (pending : pass.pending = slot :: rest)
    (step : blockNestedLoopStep env node (slFlagsOf start.policy) pass slot rest =
      .ok (pass', outcome)) :
    Paced env start pass' ∧ passCost pass + credit pass' ≤ credit pass := by
  rcases paced.limits with ⟨_, _, policy⟩
  rcases @offerToWindow_removeCurrent T D R _ _ _ _ env node pass.window paced.balanced
    pass.timestampOut slot pass.drawn none with ⟨admission, offerEq, valid, admitted⟩
  rw [policy] at offerEq
  simp only [blockNestedLoopStep, offerEq, ok_bind, pure_eq_ok, Except.ok.injEq,
    Prod.mk.injEq] at step
  have sub := @Elimination.scan_sublist _ (stopsTuple env node slot) (evictsSlot env node slot)
    pass.window.slots
  unfold Admitted at admitted
  rcases step with ⟨rfl, _⟩
  cases disposition : admission.disposition with
  | dropped =>
      rw [disposition] at admitted
      exact paced.dropped process pending valid sub admitted.2
  | stored =>
      rw [disposition] at admitted
      rcases admitted with ⟨_, ⟨rank, added⟩, _⟩
      exact paced.stored process pending valid sub added
  | overflows =>
      rw [disposition] at admitted
      exact paced.overflowed process pending valid sub admitted.2.1

private theorem endOfSource_pays (paced : Paced env start pass) (process : pass.status = .process)
    (pending : pass.pending = [])
    (step : blockNestedLoopPass env node (slFlagsOf start.policy) pass = .ok (pass', outcome)) :
    Paced env start pass' ∧ credit pass' ≤ credit pass := by
  have contents := paced.contents
  rw [process] at contents
  rcases contents with ⟨clocked, notNow⟩
  have timed := clocked.timed
  rw [pending] at timed
  have balanced := balanced_rewind paced.balanced
  simp only [blockNestedLoopPass, process, pending] at step
  split at step
  · cases step
    exact ⟨⟨balanced, paced.limits, rfl⟩, Nat.zero_le _⟩
  · cases step
    constructor
    · exact ⟨balanced, paced.limits, ⟨rfl, timed.switch notNow⟩, Nat.zero_le _, by simp [rewind]⟩
    · have same := sum_meets_switch (timed.lt_of_end notNow) pass.overflow.length
      simp only [credit, process, pending, rewind, List.length_nil, same, Nat.zero_add,
        Nat.add_zero, Nat.le_refl]

omit [LE R] [DecidableLE R] [LT R] [DecidableLT R] in
/-- Returning a window tuple takes its comparisons off the credit. -/
theorem pipeOut_pays (paced : Paced env start pass) {done rest : List (TupleWindowSlot T R)}
    {slot : TupleWindowSlot T R} (split : pass.window.slots = done ++ slot :: rest)
    (current : pass.window.current = done.length)
    (step : pass.pipeOut env = .ok (pass', outcome)) :
    ∃ window, pass' = { pass with window } ∧ window.slots = done ++ rest ∧
      window.current = done.length ∧ Balanced env.space window ∧ SameLimits start window ∧
      credit pass' ≤ credit pass := by
  rcases pipeOut_emits paced.balanced split current with
    ⟨window, emitted, slots, current', balanced, limits, perm⟩
  rw [emitted] at step
  cases step
  refine ⟨window, rfl, slots, current', balanced, paced.limits.trans limits, ?_⟩
  have sum := (perm.map (meets pass.pending.length pass.timestampIn)).sum_eq
  rw [List.map_cons, List.sum_cons] at sum
  unfold credit
  cases status : pass.status with
  | process | pipeout =>
      simp only
      omega
  | init | finalPipeout | done => simp

private theorem pipeout_pays (paced : Paced env start pass) (pipeout : pass.status = .pipeout)
    (step : blockNestedLoopPass env node (slFlagsOf start.policy) pass = .ok (pass', outcome)) :
    Paced env start pass' ∧ credit pass' ≤ credit pass := by
  have contents := paced.contents
  rw [pipeout] at contents
  rcases contents with ⟨clocked, inside, notNow⟩
  simp only [blockNestedLoopPass, pipeout] at step
  by_cases atEnd : atEof pass.window = true
  · have current : pass.window.current = pass.window.slots.length := by simpa [atEof] using atEnd
    rw [current, List.take_length] at notNow
    simp only [atEnd, if_true] at step
    cases step
    constructor
    · exact ⟨paced.balanced, paced.limits, ⟨clocked.timestampOut, clocked.timed⟩, notNow⟩
    · simp only [credit, pipeout, Nat.le_refl]
  · rcases exists_split_of_not_atEof inside atEnd with ⟨done, slot, rest, split, current⟩
    rw [split, current, List.take_left] at notNow
    have found : timestampCurrent pass.window = .ok slot.timestamp := by
      simp [timestampCurrent, split, current]
    simp only [atEnd, Bool.false_eq_true, if_false, found, ok_bind] at step
    by_cases now : slot.timestamp = pass.timestampIn
    · rw [if_pos now] at step
      rcases pipeOut_pays paced split current step with
        ⟨window, rfl, slots, current', balanced, limits, less⟩
      refine ⟨⟨balanced, limits, ?_⟩, less⟩
      simp only [pipeout]
      refine ⟨⟨clocked.timestampOut, clocked.timed.sublist fun other otherMem => ?_⟩, ?_, ?_⟩
      · rw [slots] at otherMem
        rw [split]
        exact (List.sublist_cons_self slot rest).append_left done |>.subset otherMem
      · simp [slots, current']
      · rw [slots, current', List.take_left]
        exact notNow
    · rw [if_neg now] at step
      cases step
      rcases moveNext_frame paced.balanced split current with ⟨slots, current', balanced, limits⟩
      constructor
      · refine ⟨balanced, paced.limits.trans limits, ?_⟩
        simp only
        refine ⟨⟨clocked.timestampOut, ?_⟩, ?_, ?_⟩
        · simpa only [slots] using clocked.timed
        · simp [slots, current', split]
        · have further : (done ++ slot :: rest).take (done.length + 1) = done ++ [slot] := by
            rw [List.take_length_add_append, List.take_succ_cons, List.take_zero]
          rw [slots, current', split, further]
          intro other otherMem
          rcases List.mem_append.mp otherMem with doneMem | new
          · exact notNow other doneMem
          · rw [List.mem_singleton.mp new]
            exact now
      · simp only [credit, pipeout, slots, Nat.le_refl]

/-- Every pass pays for its comparisons out of the credit. -/
theorem pass_pays (paced : Paced env start pass)
    (step : blockNestedLoopPass env node (slFlagsOf start.policy) pass = .ok (pass', outcome)) :
    Paced env start pass' ∧ passCost pass + credit pass' ≤ credit pass := by
  have contents := paced.contents
  cases status : pass.status with
  | init =>
      rw [status] at contents
      simp only [blockNestedLoopPass, status, pure_eq_ok] at step
      cases step
      constructor
      · refine ⟨paced.balanced, paced.limits, ⟨rfl, ?_⟩, by simp [contents]⟩
        rw [contents]
        exact timed_init _
      · simp [passCost, credit, status, contents]
  | process =>
      cases pending : pass.pending with
      | nil =>
          simpa [passCost, status, pending] using endOfSource_pays paced status pending step
      | cons slot rest =>
          simp only [blockNestedLoopPass, status, pending] at step
          exact tuple_pays paced status pending step
  | pipeout => simpa [passCost, status] using pipeout_pays paced status step
  | finalPipeout =>
      rw [status] at contents
      simp only [blockNestedLoopPass, status] at step
      by_cases atEnd : atEof pass.window = true
      · simp only [atEnd, if_true] at step
        cases step
        exact ⟨⟨paced.balanced, paced.limits, trivial⟩, by simp [passCost, credit, status]⟩
      · simp only [atEnd, Bool.false_eq_true, if_false] at step
        rcases exists_split_of_not_atEof (by omega) atEnd with ⟨done, slot, rest, split, current⟩
        rcases pipeOut_pays paced split current step with
          ⟨window, rfl, slots, current', balanced, limits, _⟩
        refine ⟨⟨balanced, limits, ?_⟩, by simp [passCost, credit, status]⟩
        simp only [status]
        omega
  | done =>
      simp only [blockNestedLoopPass, status, pure_eq_ok] at step
      cases step
      exact ⟨paced, by simp [passCost, status]⟩

end Step

end BlockNestedLoop

/-! ## Sort filter skyline -/

namespace SortFilter

/-- The comparisons to come.  The window is empty at the start of every pass. -/
def credit (pass : Pass T R) : Nat :=
  match pass.status with
  | .init => pass.pending.length.choose 2
  | .process => pass.window.slots.length * pass.pending.length +
      (pass.pending.length + pass.overflow.length).choose 2
  | .pipeout | .finalPipeout | .done => 0

variable [LE R] [DecidableLE R] [LT R] [DecidableLT R]
variable {env : ExecEnv T D R} {node : Skyline D} {start : TupleWindowState T R}
  {pass pass' : Pass T R} {outcome : Outcome T}

theorem tuple_pays {slot : T} {rest : List T} (keeps : KeepsFull env start pass)
    (process : pass.status = .process) (pending : pass.pending = slot :: rest)
    (step : sortFilterStep env node (slFlagsOf start.policy) pass slot rest =
      .ok (pass', outcome)) :
    passCost pass + credit pass' ≤ credit pass := by
  rcases sortFilterStep_effect keeps step with ⟨status', pending', effect⟩
  have further : (rest.length + 1 + pass.overflow.length).choose 2 =
      rest.length + pass.overflow.length + (rest.length + pass.overflow.length).choose 2 := by
    rw [← choose_two_succ]
    congr 1
    omega
  have before : credit pass = pass.window.slots.length * (rest.length + 1) +
      (rest.length + 1 + pass.overflow.length).choose 2 := by
    simp only [credit, process, pending, List.length_cons]
  have after : credit pass' = pass'.window.slots.length * rest.length +
      (rest.length + pass'.overflow.length).choose 2 := by
    simp only [credit, status'.trans process, pending']
  have cost : passCost pass = pass.window.slots.length := by simp only [passCost, process, pending]
  rw [cost, before, after, Nat.mul_succ]
  cases effect with
  | dropped held slots overflow =>
      rw [slots, overflow]
      omega
  | stored timestamp rank slots room overflow =>
      rw [slots.length_eq, overflow, List.length_cons, Nat.succ_mul]
      omega
  | overflows noRoom slots overflow =>
      have same : rest.length + (pass.overflow.length + 1) =
          rest.length + 1 + pass.overflow.length := by omega
      rw [slots, overflow, List.length_append, List.length_singleton, same]
      omega

/-- Every pass pays for its comparisons out of the credit. -/
theorem pass_pays (keeps : KeepsFull env start pass)
    (fresh : pass.status = .init → pass.window.slots = [])
    (step : sortFilterPass env node (slFlagsOf start.policy) pass = .ok (pass', outcome)) :
    passCost pass + credit pass' ≤ credit pass := by
  cases status : pass.status with
  | init =>
      simp only [sortFilterPass, status, pure_eq_ok] at step
      cases step
      simp [passCost, credit, status, fresh status]
  | process =>
      cases pending : pass.pending with
      | nil =>
          simp only [sortFilterPass, status, pending] at step
          split at step
          · cases step
            simp [passCost, credit, status, pending]
          · cases step
            simp [passCost, credit, status, pending, clean]
      | cons slot rest =>
          simp only [sortFilterPass, status, pending] at step
          exact tuple_pays keeps status pending step
  | pipeout | finalPipeout =>
      simp only [sortFilterPass, status] at step
      cases step
  | done =>
      simp only [sortFilterPass, status, pure_eq_ok] at step
      cases step
      simp [passCost, status]

/-- A scan does not come back to its start. -/
theorem status_ne_init (keeps : KeepsFull env start pass)
    (step : sortFilterPass env node (slFlagsOf start.policy) pass = .ok (pass', outcome)) :
    pass'.status ≠ .init := by
  cases status : pass.status with
  | init =>
      simp only [sortFilterPass, status, pure_eq_ok] at step
      cases step
      simp
  | process =>
      cases pending : pass.pending with
      | nil =>
          simp only [sortFilterPass, status, pending] at step
          split at step
          · cases step
            simp
          · cases step
            simp
      | cons slot rest =>
          simp only [sortFilterPass, status, pending] at step
          rw [(sortFilterStep_effect keeps step).1, status]
          simp
  | pipeout | finalPipeout =>
      simp only [sortFilterPass, status] at step
      cases step
  | done =>
      simp only [sortFilterPass, status, pure_eq_ok] at step
      cases step
      simp [status]

end SortFilter

end PgSkyline
