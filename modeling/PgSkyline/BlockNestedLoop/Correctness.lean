import PgSkyline.BlockNestedLoop.Timestamps
import PgSkyline.Passes.Admission
import Mathlib.Data.Prod.Lex

/-!
# Block nested loop: invariant and variant

The invariant of a run over the handle-free machine.  Its first half needs no
law of the compare functions; with the variant it gives termination.  Under
the laws the second half says that nothing is lost and that returned tuples
have met everything.
-/

namespace PgSkyline.BlockNestedLoop

open Covering Resumable TupleWindowState

variable {T D R : Type} (env : ExecEnv T D R) (node : Skyline D)

/-! ## The variant -/

/-- 0 while a window tuple of the last pass is left, which will be returned or
evicted in this pass; 2 if nothing is left to read and the window is empty. -/
def idleness (slots : List (TupleWindowSlot T R)) (pending : List T) (timestampIn : Nat) : Nat :=
  if slots.any fun slot => decide (timestampIn ≤ slot.timestamp) then 0
  else if slots.isEmpty && pending.isEmpty then 2
  else 1

def stage : SkylineStatus → Nat
  | .init => 2
  | .process | .pipeout => 1
  | .finalPipeout | .done => 0

/-- The slots a pipe-out loop has still to look at, and its last iteration. -/
def unscanned (pass : Pass T R) : Nat :=
  match pass.status with
  | .pipeout => pass.window.slots.length - pass.window.current + 1
  | _ => 0

/-- The tuples held in the window and in both files. -/
def held (pass : Pass T R) : Nat :=
  pass.window.slots.length + pass.pending.length + pass.overflow.length

/-- Every iteration makes this smaller in the lexicographic order.  The number
of tuples held can stay the same over a whole pass, but not over two. -/
def variant (pass : Pass T R) : ℕ ×ₗ ℕ ×ₗ ℕ ×ₗ ℕ ×ₗ ℕ :=
  toLex (stage pass.status, toLex (held pass,
    toLex (idleness pass.window.slots pass.pending pass.timestampIn,
      toLex (pass.pending.length, unscanned pass))))

theorem variant_lt {pass pass' : Pass T R}
    (smaller : stage pass'.status < stage pass.status ∨
      stage pass'.status = stage pass.status ∧ (held pass' < held pass ∨
        held pass' = held pass ∧
          (idleness pass'.window.slots pass'.pending pass'.timestampIn <
              idleness pass.window.slots pass.pending pass.timestampIn ∨
            idleness pass'.window.slots pass'.pending pass'.timestampIn =
                idleness pass.window.slots pass.pending pass.timestampIn ∧
              (pass'.pending.length < pass.pending.length ∨
                pass'.pending.length = pass.pending.length ∧
                  unscanned pass' < unscanned pass)))) :
    variant pass' < variant pass := by
  simp only [variant, Prod.Lex.toLex_lt_toLex]
  exact smaller

theorem idleness_eq_zero_iff {slots : List (TupleWindowSlot T R)} {pending : List T}
    {timestampIn : Nat} :
    idleness slots pending timestampIn = 0 ↔ ∃ slot ∈ slots, timestampIn ≤ slot.timestamp := by
  unfold idleness
  split
  · rename_i old
    simpa using old
  · rename_i noOld
    simp only [List.any_eq_true, decide_eq_true_eq] at noOld
    simp only [noOld, iff_false]
    split <;> simp

theorem idleness_le_one {slots : List (TupleWindowSlot T R)} {pending : List T}
    {timestampIn : Nat} (busy : slots ≠ [] ∨ pending ≠ []) :
    idleness slots pending timestampIn ≤ 1 := by
  have notIdle : (slots.isEmpty && pending.isEmpty) = false := by
    rcases busy with slotsBusy | pendingBusy
    · simp [slotsBusy]
    · simp [pendingBusy]
  unfold idleness
  split
  · exact Nat.zero_le 1
  · simp [notIdle]

/-- Between two passes the source turns from the end to the overflow, and what the window
holds becomes old.  Without overflowed window tuples the next pass reads, else it pipes out. -/
theorem idleness_switch_lt {slots : List (TupleWindowSlot T R)} {overflow : List T} {now : Nat}
    (early : ∀ slot ∈ slots, slot.timestamp < now) (overflowed : overflow ≠ []) :
    idleness slots overflow 0 < idleness slots [] now := by
  cases slots with
  | nil =>
      have busy : idleness ([] : List (TupleWindowSlot T R)) overflow 0 ≤ 1 :=
        idleness_le_one (Or.inr overflowed)
      exact Nat.lt_of_le_of_lt busy Nat.one_lt_two
  | cons slot others =>
      have nowOld : idleness (slot :: others) overflow 0 = 0 :=
        idleness_eq_zero_iff.mpr ⟨slot, List.mem_cons_self, Nat.zero_le _⟩
      rw [nowOld]
      apply Nat.pos_of_ne_zero
      intro old
      obtain ⟨other, otherMem, late⟩ := idleness_eq_zero_iff.mp old
      exact absurd (early other otherMem) (Nat.not_lt.mpr late)

/-! ## The invariant -/

variable (start : TupleWindowState T R) (input sent : List T)

/-- What holds without any law of the compare functions. -/
structure Clocked (pass : Pass T R) : Prop where
  timestampOut : pass.timestampOut = pass.overflow.length
  timed : Timed pass.window.slots pass.pending pass.overflow pass.timestampIn

/-- What the laws of the compare functions give on top. -/
structure Known (pass : Pass T R) : Prop where
  compared : Compared (NodeBeats env node) sent pass.window.slots pass.pending pass.overflow
    pass.timestampIn
  covers : HeldCovers (NodeBeats env node) input sent pass.window.slots pass.pending pass.overflow

/-- The invariant of a run that started with the empty window `start` and has
returned `sent`. -/
structure Inv (pass : Pass T R) : Prop where
  balanced : Balanced env.space pass.window
  limits : SameLimits start pass.window
  contents :
    match pass.status with
    | .init => pass.pending = input ∧ pass.window.slots = [] ∧ sent = []
    | .process => Clocked pass ∧ (∀ slot ∈ pass.window.slots, slot.timestamp ≠ pass.timestampIn) ∧
        (LawfulCols node.cols → Known env node input sent pass)
    | .pipeout => Clocked pass ∧ pass.window.current ≤ pass.window.slots.length ∧
        (∀ slot ∈ pass.window.slots.take pass.window.current,
          slot.timestamp ≠ pass.timestampIn) ∧
        (LawfulCols node.cols → Known env node input sent pass)
    | .finalPipeout => pass.pending = [] ∧ pass.overflow = [] ∧ pass.window.current = 0 ∧
        (LawfulCols node.cols → Known env node input sent pass)
    | .done => LawfulCols node.cols → NodeSieved env node input sent

variable {env} {node} {start} {input} {sent}

/-! ## Reading one tuple -/

section Tuple

variable {pass : Pass T R} {slot : T} {rest : List T} {kept stored : List (TupleWindowSlot T R)}

/-- What the pass knows after a tuple was dropped. -/
theorem Known.read_dropped (lawful : LawfulCols node.cols)
    (known : Known env node input sent pass) (pending : pass.pending = slot :: rest)
    (notNow : ∀ slot ∈ pass.window.slots, slot.timestamp ≠ pass.timestampIn)
    (scanned : Elimination.scan (stopsTuple env node slot) (evictsSlot env node slot)
      pass.window.slots = (false, kept)) :
    Compared (NodeBeats env node) sent kept rest pass.overflow (pass.timestampIn + 1) ∧
      HeldCovers (NodeBeats env node) input sent kept rest pass.overflow := by
  obtain ⟨compared, covers⟩ := known
  rw [pending] at compared covers
  have trans : IsTrans T (NodeBeats env node) := Beats.isTrans lawful _
  have sub := @Elimination.scan_sublist _ (stopsTuple env node slot) (evictsSlot env node slot)
    pass.window.slots
  have covered := Elimination.covers_scan_of_stopped TupleWindowSlot.tuple
    (fun _ => beats_of_evictsSlot lawful) (fun other => (stopsTuple_iff slot other).mp)
    (congrArg Prod.fst scanned) covers.candidate
  rw [scanned] at sub covered
  exact ⟨compared.read notNow sub, covered⟩

/-- What the pass knows after a tuple passed all window tuples. -/
theorem Known.read_survived (lawful : LawfulCols node.cols)
    (known : Known env node input sent pass) (pending : pass.pending = slot :: rest)
    (notNow : ∀ slot ∈ pass.window.slots, slot.timestamp ≠ pass.timestampIn)
    (scanned : Elimination.scan (stopsTuple env node slot) (evictsSlot env node slot)
      pass.window.slots = (true, kept)) :
    Compared (NodeBeats env node) sent kept rest pass.overflow (pass.timestampIn + 1) ∧
      (∀ y ∈ sent, Apart (NodeBeats env node) y slot) ∧
      (∀ other ∈ kept, Apart (NodeBeats env node) other.tuple slot) ∧
      Covers (NodeBeats env node)
        (slot :: (tuplesOf kept ++ (rest ++ (pass.overflow ++ sent)))) input := by
  obtain ⟨compared, covers⟩ := known
  rw [pending] at compared covers
  have trans : IsTrans T (NodeBeats env node) := Beats.isTrans lawful _
  have sub := @Elimination.scan_sublist _ (stopsTuple env node slot) (evictsSlot env node slot)
    pass.window.slots
  have met := apart_of_survived lawful (congrArg Prod.fst scanned)
  have covered := @Elimination.covers_scan _ (stopsTuple env node slot) (evictsSlot env node slot)
    _ _ _ TupleWindowSlot.tuple _ _ _ _ (fun _ => beats_of_evictsSlot lawful) covers.candidate
  rw [scanned] at sub met covered
  refine ⟨compared.read notNow sub, fun y sentMem => ?_, met, covered⟩
  exact compared.restApart y sentMem slot
    (List.mem_append_right _ (List.mem_append_left _ List.mem_cons_self))

/-- Either some tuple is gone, or all window tuples are kept. -/
theorem kept_eq_or_shorter (scanned : Elimination.scan (stopsTuple env node slot)
      (evictsSlot env node slot) pass.window.slots = (true, kept)) :
    kept = pass.window.slots ∨ kept.length < pass.window.slots.length := by
  have sub := @Elimination.scan_sublist _ (stopsTuple env node slot) (evictsSlot env node slot)
    pass.window.slots
  rw [scanned] at sub
  rcases Nat.lt_or_ge kept.length pass.window.slots.length with shorter | notShorter
  · exact Or.inr shorter
  · exact Or.inl (sub.eq_of_length_le notShorter)

/-- Reading a tuple makes the pass no idler. -/
theorem idleness_read_le (notNow : ∀ slot ∈ pass.window.slots, slot.timestamp ≠ pass.timestampIn)
    (keeps : ∀ slot ∈ pass.window.slots, slot ∈ stored)
    (nonempty : stored ≠ []) :
    idleness stored rest (pass.timestampIn + 1) ≤
      idleness pass.window.slots pass.pending pass.timestampIn := by
  rcases Nat.eq_zero_or_pos (idleness pass.window.slots pass.pending pass.timestampIn) with
    old | noOld
  · obtain ⟨held, heldMem, late⟩ := idleness_eq_zero_iff.mp old
    have different := notNow held heldMem
    rw [old]
    exact Nat.le_of_eq (idleness_eq_zero_iff.mpr ⟨held, keeps held heldMem, by omega⟩)
  · exact Nat.le_trans (idleness_le_one (Or.inl nonempty)) noOld

/-- A tuple that passed all window tuples is held on: the variant falls as window tuples
are gone, or as there is less to read and the pass is no idler. -/
theorem variant_lt_of_survived {pass' : Pass T R} (pending : pass.pending = slot :: rest)
    (notNow : ∀ slot ∈ pass.window.slots, slot.timestamp ≠ pass.timestampIn)
    (scanned : Elimination.scan (stopsTuple env node slot) (evictsSlot env node slot)
      pass.window.slots = (true, kept))
    (sameStage : stage pass'.status = stage pass.status)
    (heldOn : held pass' = kept.length + 1 + rest.length + pass.overflow.length)
    (pending' : pass'.pending = rest) (timestampIn' : pass'.timestampIn = pass.timestampIn + 1)
    (keeps : ∀ slot ∈ kept, slot ∈ pass'.window.slots) (nonempty : pass'.window.slots ≠ []) :
    variant pass' < variant pass := by
  have heldEq :
      held pass = pass.window.slots.length + (rest.length + 1) + pass.overflow.length := by
    simp [held, pending]
  refine variant_lt (Or.inr ⟨sameStage, ?_⟩)
  rcases kept_eq_or_shorter scanned with rfl | shorter
  · have notIdler := @idleness_read_le T R pass rest pass'.window.slots notNow keeps nonempty
    rw [← timestampIn'] at notIdler
    have fewer : pass'.pending.length < pass.pending.length := by simp [pending, pending']
    rw [pending'] at fewer ⊢
    omega
  · left
    omega

end Tuple

/-! ## Returning a window tuple -/

/-- Returning the current window tuple. -/
theorem pipeOut_emits {pass : Pass T R} (balanced : Balanced env.space pass.window)
    {done rest : List (TupleWindowSlot T R)} {slot : TupleWindowSlot T R}
    (split : pass.window.slots = done ++ slot :: rest)
    (current : pass.window.current = done.length) :
    ∃ window', pass.pipeOut env = .ok ({ pass with window := window' }, .emit slot.tuple) ∧
      window'.slots = done ++ rest ∧ window'.current = done.length ∧
      Balanced env.space window' ∧ SameLimits pass.window window' ∧
      pass.window.slots.Perm (slot :: window'.slots) := by
  obtain ⟨window', fetched, slots, current', balanced', limits⟩ :=
    getTupleSlot_true balanced split current
  refine ⟨window', by simp only [Pass.pipeOut, fetched, ok_bind, pure_eq_ok], slots, current',
    balanced', limits, ?_⟩
  rw [split, slots]
  exact List.perm_middle

theorem Known.emit {pass : Pass T R} (known : Known env node input sent pass)
    {slot : TupleWindowSlot T R} {window' : TupleWindowState T R}
    (split : pass.window.slots.Perm (slot :: window'.slots))
    (met : ∀ y ∈ pass.pending ++ pass.overflow, Apart (NodeBeats env node) slot.tuple y)
    (status : SkylineStatus) :
    Known env node input (sent ++ [slot.tuple]) { pass with status, window := window' } :=
  ⟨known.compared.emit split met, known.covers.emit split⟩

/-- A window tuple whose stamp is the read position has met everything. -/
theorem Known.met_of_now {pass : Pass T R} (known : Known env node input sent pass)
    {slot : TupleWindowSlot T R} (slotMem : slot ∈ pass.window.slots)
    (now : slot.timestamp = pass.timestampIn) :
    ∀ y ∈ pass.pending ++ pass.overflow, Apart (NodeBeats env node) slot.tuple y := by
  have met := known.compared.ofLastPass slot slotMem (Nat.le_of_eq now.symm)
  simpa [now] using met

/-- The cursor of a window that is not at its end is at a slot. -/
theorem exists_split_of_not_atEof {window : TupleWindowState T R}
    (inside : window.current ≤ window.slots.length) (notEnd : ¬ atEof window = true) :
    ∃ done slot rest, window.slots = done ++ slot :: rest ∧ window.current = done.length := by
  simp only [atEof, beq_iff_eq] at notEnd
  exact exists_split_at (Nat.lt_of_le_of_ne inside notEnd)

/-! ## The iterations -/

/-- The pass after a tuple is read, before an overflow is noted. -/
def afterRead (pass : Pass T R) (admission : Admission T R) (rest : List T) : Pass T R :=
  { pass with
    status := .pipeout
    window := rewind admission.window
    pending := rest
    timestampIn := pass.timestampIn + 1
    drawn := admission.drawn }

section Read

variable {pass : Pass T R} {slot : T} {rest : List T} {kept : List (TupleWindowSlot T R)}
  {admission : Admission T R}

/-- What is known of the pass while it reads a tuple. -/
theorem Inv.reading (inv : Inv env node start input sent pass) (process : pass.status = .process)
    (pending : pass.pending = slot :: rest) {survived : Bool}
    (scanned : Elimination.scan (stopsTuple env node slot) (evictsSlot env node slot)
      pass.window.slots = (survived, kept)) :
    pass.timestampOut = pass.overflow.length ∧
      (∀ slot ∈ pass.window.slots, slot.timestamp ≠ pass.timestampIn) ∧
      pass.overflow.length ≤ pass.timestampIn ∧
      Timed kept rest pass.overflow (pass.timestampIn + 1) ∧
      (LawfulCols node.cols → Known env node input sent pass) := by
  have contents := inv.contents
  rw [process] at contents
  obtain ⟨clocked, notNow, known⟩ := contents
  have timed := clocked.timed
  rw [pending] at timed
  have sub := @Elimination.scan_sublist _ (stopsTuple env node slot) (evictsSlot env node slot)
    pass.window.slots
  rw [scanned] at sub
  exact ⟨clocked.timestampOut, notNow, timed.overflow_le,
    timed.read notNow fun other keptMem => sub.subset keptMem, known⟩

theorem Inv.dropped (inv : Inv env node start input sent pass) (process : pass.status = .process)
    (pending : pass.pending = slot :: rest) (valid : ValidAdmission env pass.window admission)
    (scanned : Elimination.scan (stopsTuple env node slot) (evictsSlot env node slot)
      pass.window.slots = (false, kept)) (slots : admission.window.slots = kept) :
    Inv env node start input sent (afterRead pass admission rest) ∧
      variant (afterRead pass admission rest) < variant pass := by
  obtain ⟨timestampOut, notNow, _, timedRead, known⟩ := inv.reading process pending scanned
  have sub := @Elimination.scan_sublist _ (stopsTuple env node slot) (evictsSlot env node slot)
    pass.window.slots
  rw [scanned] at sub
  constructor
  · refine ⟨balanced_rewind valid.balanced, inv.limits.trans valid.limits, ⟨timestampOut, ?_⟩,
      Nat.zero_le _, ?_, fun lawful => ?_⟩
    · simpa [afterRead, rewind, slots] using timedRead
    · simp [afterRead, rewind]
    · obtain ⟨compared, covers⟩ := (known lawful).read_dropped lawful pending notNow scanned
      constructor
      · simpa [afterRead, rewind, slots] using compared
      · simpa [afterRead, rewind, slots] using covers
  · have shorter := sub.length_le
    refine variant_lt (Or.inr ⟨by simp [afterRead, stage, process], Or.inl ?_⟩)
    simp only [held, afterRead, rewind, slots, pending, List.length_cons] at shorter ⊢
    omega

theorem Inv.stored (inv : Inv env node start input sent pass) (process : pass.status = .process)
    (pending : pass.pending = slot :: rest) (valid : ValidAdmission env pass.window admission)
    (scanned : Elimination.scan (stopsTuple env node slot) (evictsSlot env node slot)
      pass.window.slots = (true, kept)) {rank : R}
    (added : admission.window.slots.Perm (⟨slot, pass.timestampOut, rank⟩ :: kept)) :
    Inv env node start input sent (afterRead pass admission rest) ∧
      variant (afterRead pass admission rest) < variant pass := by
  obtain ⟨timestampOut, notNow, room, timedRead, known⟩ := inv.reading process pending scanned
  constructor
  · refine ⟨balanced_rewind valid.balanced, inv.limits.trans valid.limits, ⟨timestampOut, ?_⟩,
      Nat.zero_le _, ?_, fun lawful => ?_⟩
    · exact timedRead.store room timestampOut added
    · simp [afterRead, rewind]
    · obtain ⟨compared, sentMet, slotsMet, covers⟩ :=
        (known lawful).read_survived lawful pending notNow scanned
      constructor
      · exact compared.store timestampOut (Nat.lt_succ_of_le room) sentMet slotsMet added
      · exact heldCovers_store added covers
  · have longer := added.length_eq
    simp only [List.length_cons] at longer
    have nonempty : admission.window.slots ≠ [] := by
      intro empty
      simp [empty] at longer
    apply variant_lt_of_survived pending notNow scanned
    · simp [afterRead, stage, process]
    · simp only [held, afterRead, rewind, longer]
    · rfl
    · rfl
    · intro other otherMem
      exact added.mem_iff.mpr (List.mem_cons_of_mem _ otherMem)
    · exact nonempty

/-- Without room in the window there is a window tuple, which keeps the pass busy. -/
theorem Inv.overflowed (inv : Inv env node start input sent pass)
    (process : pass.status = .process) (pending : pass.pending = slot :: rest)
    (valid : ValidAdmission env pass.window admission)
    (scanned : Elimination.scan (stopsTuple env node slot) (evictsSlot env node slot)
      pass.window.slots = (true, kept)) (slots : admission.window.slots = kept)
    (nonempty : kept ≠ []) :
    Inv env node start input sent ((afterRead pass admission rest).spill .overflows slot) ∧
      variant ((afterRead pass admission rest).spill .overflows slot) < variant pass := by
  obtain ⟨timestampOut, notNow, room, timedRead, known⟩ := inv.reading process pending scanned
  simp only [Pass.spill, if_true]
  constructor
  · refine ⟨balanced_rewind valid.balanced, inv.limits.trans valid.limits, ⟨?_, ?_⟩,
      Nat.zero_le _, ?_, fun lawful => ?_⟩
    · simp [afterRead, timestampOut]
    · simpa only [afterRead, rewind, slots] using timedRead.spill room slot
    · simp [afterRead, rewind]
    · obtain ⟨compared, sentMet, slotsMet, covers⟩ :=
        (known lawful).read_survived lawful pending notNow scanned
      have spilled := compared.spill timedRead.ofThisPass sentMet slotsMet
      constructor
      · simpa only [afterRead, rewind, slots] using spilled
      · simpa only [afterRead, rewind, slots] using heldCovers_spill covers
  · apply variant_lt_of_survived pending notNow scanned
    · simp [afterRead, stage, process]
    · simp only [held, afterRead, rewind, slots, List.length_append, List.length_cons,
        List.length_nil]
      omega
    · rfl
    · rfl
    · intro other otherMem
      simpa only [afterRead, rewind, slots] using otherMem
    · simpa only [afterRead, rewind, slots] using nonempty

end Read

variable [LE R] [DecidableLE R] [LT R] [DecidableLT R]

/-- One tuple of the source is read. -/
theorem tuple_step {pass : Pass T R} {slot : T} {rest : List T}
    (inv : Inv env node start input sent pass) (process : pass.status = .process)
    (pending : pass.pending = slot :: rest)
    (capacity : HasCapacity start.maxKBytes start.maxSlots) :
    ∃ pass', blockNestedLoopStep env node (slFlagsOf start.policy) pass slot rest =
        .ok (pass', .again) ∧
      Inv env node start input sent pass' ∧ variant pass' < variant pass := by
  obtain ⟨sizes, count, policy⟩ := inv.limits
  obtain ⟨admission, offerEq, valid, admitted⟩ :=
    @offerToWindow_removeCurrent T D R _ _ _ _ env node pass.window inv.balanced
      pass.timestampOut slot pass.drawn none
  rw [policy] at offerEq
  refine ⟨(afterRead pass admission rest).spill admission.disposition slot, ?_, ?_⟩
  · simp only [blockNestedLoopStep, offerEq, ok_bind, pure_eq_ok]
    rfl
  cases scanned : Elimination.scan (stopsTuple env node slot) (evictsSlot env node slot)
      pass.window.slots with
  | mk survived kept =>
      rw [scanned] at admitted
      unfold Admitted at admitted
      cases disposition : admission.disposition with
      | dropped =>
          rw [disposition] at admitted
          obtain ⟨rfl, slots⟩ := admitted
          exact inv.dropped process pending valid scanned slots
      | stored =>
          rw [disposition] at admitted
          obtain ⟨rfl, ⟨rank, added⟩, _⟩ := admitted
          exact inv.stored process pending valid scanned added
      | overflows =>
          rw [disposition] at admitted
          obtain ⟨rfl, slots, noRoom⟩ := admitted
          have nonempty : kept ≠ [] := by
            rintro rfl
            rw [sizes, count] at noRoom
            exact noRoom (hasRoom_nil_iff.mpr capacity)
          exact inv.overflowed process pending valid scanned slots nonempty

/-- The source is exhausted: the pass ends the scan or starts the next pass. -/
theorem endOfSource_step {pass : Pass T R} (inv : Inv env node start input sent pass)
    (process : pass.status = .process) (pending : pass.pending = []) :
    ∃ pass', blockNestedLoopPass env node (slFlagsOf start.policy) pass = .ok (pass', .again) ∧
      Inv env node start input sent pass' ∧ variant pass' < variant pass := by
  have contents := inv.contents
  rw [process] at contents
  obtain ⟨clocked, notNow, known⟩ := contents
  have balanced := balanced_rewind inv.balanced
  have timed := clocked.timed
  rw [pending] at timed
  simp only [blockNestedLoopPass, process, pending]
  by_cases nothing : pass.timestampOut = 0
  · have overflow : pass.overflow = [] :=
      List.length_eq_zero_iff.mp (clocked.timestampOut.symm.trans nothing)
    simp only [nothing, if_true, pure_eq_ok]
    refine ⟨_, rfl, ⟨balanced, inv.limits, rfl, overflow, rfl, fun lawful => ?_⟩, ?_⟩
    · obtain ⟨compared, covers⟩ := known lawful
      rw [pending] at compared covers
      exact ⟨compared, covers⟩
    exact variant_lt (Or.inl (by simp [stage, process]))
  · have overflow : pass.overflow ≠ [] := by
      intro empty
      exact nothing (clocked.timestampOut.trans (by simp [empty]))
    simp only [nothing, if_false, pure_eq_ok]
    refine ⟨_, rfl, ⟨balanced, inv.limits, ⟨rfl, timed.switch notNow⟩, Nat.zero_le _, ?_,
      fun lawful => ?_⟩, ?_⟩
    · simp [rewind]
    · obtain ⟨compared, covers⟩ := known lawful
      rw [pending] at compared covers
      exact ⟨compared.switch (timed.lt_of_end notNow), covers.switch⟩
    · have early := timed.lt_of_end notNow
      refine variant_lt (Or.inr ⟨by simp [stage, process], Or.inr ⟨?_, Or.inl ?_⟩⟩)
      · simp [held, rewind, pending]
      · simpa only [rewind, pending] using idleness_switch_lt early overflow

/-- What a drained block nested loop has done. -/
def Post (env : ExecEnv T D R) (node : Skyline D) (input sent : List T) (pass : Pass T R) : Prop :=
  pass.status = .done ∧ (LawfulCols node.cols → NodeSieved env node input sent)

/-- One iteration of the pipe-out loop between two tuples of the source. -/
theorem pipeout_step {pass : Pass T R} (inv : Inv env node start input sent pass)
    (pipeout : pass.status = .pipeout) :
    ∃ result, blockNestedLoopPass env node (slFlagsOf start.policy) pass = .ok result ∧
      Progresses (Inv env node start input) (Post env node input) variant sent pass result := by
  have contents := inv.contents
  rw [pipeout] at contents
  obtain ⟨clocked, inside, notNow, known⟩ := contents
  simp only [blockNestedLoopPass, pipeout]
  by_cases atEnd : atEof pass.window = true
  · simp only [atEnd, if_true, pure_eq_ok]
    have current : pass.window.current = pass.window.slots.length := by simpa [atEof] using atEnd
    rw [current, List.take_length] at notNow
    refine ⟨_, rfl, ⟨inv.balanced, inv.limits, ⟨clocked.timestampOut, clocked.timed⟩, notNow,
      fun lawful => ⟨(known lawful).compared, (known lawful).covers⟩⟩, ?_⟩
    refine variant_lt
      (Or.inr ⟨by simp [stage, pipeout], Or.inr ⟨rfl, Or.inr ⟨rfl, Or.inr ⟨rfl, ?_⟩⟩⟩⟩)
    simp [unscanned, pipeout]
  · obtain ⟨done, slot, rest, split, current⟩ := exists_split_of_not_atEof inside atEnd
    rw [split, current, List.take_left] at notNow
    have found : timestampCurrent pass.window = .ok slot.timestamp := by
      simp [timestampCurrent, split, current]
    simp only [atEnd, Bool.false_eq_true, if_false, found, ok_bind]
    have slotMem : slot ∈ pass.window.slots := by simp [split]
    by_cases now : slot.timestamp = pass.timestampIn
    · obtain ⟨window', emitted, slots, current', balanced', limits, perm⟩ :=
        pipeOut_emits inv.balanced split current
      simp only [now, if_true, emitted]
      have sub : ∀ other ∈ window'.slots, other ∈ pass.window.slots :=
        fun other otherMem => perm.mem_iff.mpr (List.mem_cons_of_mem slot otherMem)
      refine ⟨_, rfl, ⟨balanced', inv.limits.trans limits, ?_⟩, ?_⟩
      · simp only [pipeout]
        refine ⟨⟨clocked.timestampOut, clocked.timed.sublist sub⟩, ?_, ?_, fun lawful => ?_⟩
        · simp [current', slots]
        · simpa [current', slots] using notNow
        · exact (known lawful).emit perm ((known lawful).met_of_now slotMem now) _
      · have shorter := perm.length_eq
        simp only [List.length_cons] at shorter
        refine variant_lt (Or.inr ⟨rfl, Or.inl ?_⟩)
        simp only [held]
        omega
    · obtain ⟨slots, current', balanced', limits⟩ := moveNext_frame inv.balanced split current
      simp only [now, if_false, pure_eq_ok]
      refine ⟨_, rfl, ⟨balanced', inv.limits.trans limits, ?_⟩, ?_⟩
      · refine ⟨⟨clocked.timestampOut, ?_⟩, ?_, ?_, fun lawful => ?_⟩
        · simpa only [slots] using clocked.timed
        · simp [slots, current', split]
        · intro other otherMem
          rw [slots, current', split, List.take_append, List.take_of_length_le (by omega)]
            at otherMem
          simp only [Nat.add_sub_cancel_left, List.take_succ_cons, List.take_zero] at otherMem
          rcases List.mem_append.mp otherMem with doneMem | new
          · exact notNow other doneMem
          · rw [List.mem_singleton.mp new]
            exact now
        · exact ⟨by simpa only [slots] using (known lawful).compared,
            by simpa only [slots] using (known lawful).covers⟩
      · refine variant_lt (Or.inr ⟨by simp [stage, pipeout], Or.inr ⟨by simp only [held, slots],
          Or.inr ⟨by simp only [slots], Or.inr ⟨rfl, ?_⟩⟩⟩⟩)
        have below : pass.window.current < pass.window.slots.length := by simp [split, current]
        simp only [unscanned, pipeout, slots, current', current] at below ⊢
        omega

/-- One iteration behind the last pass. -/
theorem finalPipeout_step {pass : Pass T R} (inv : Inv env node start input sent pass)
    (finalPipeout : pass.status = .finalPipeout) :
    ∃ result, blockNestedLoopPass env node (slFlagsOf start.policy) pass = .ok result ∧
      Progresses (Inv env node start input) (Post env node input) variant sent pass result := by
  have contents := inv.contents
  rw [finalPipeout] at contents
  obtain ⟨pending, overflow, current, known⟩ := contents
  simp only [blockNestedLoopPass, finalPipeout]
  by_cases atEnd : atEof pass.window = true
  · simp only [atEnd, if_true, pure_eq_ok]
    have empty : pass.window.slots = [] := by
      refine List.length_eq_zero_iff.mp (Eq.symm ?_)
      simpa [atEof, current] using atEnd
    refine ⟨_, rfl, rfl, fun lawful => ?_⟩
    obtain ⟨compared, covers⟩ := known lawful
    refine ⟨?_, compared.sentApart⟩
    simpa [HeldCovers, empty, pending, overflow] using covers
  · obtain ⟨done, slot, rest, split, currentEq⟩ := exists_split_of_not_atEof (by omega) atEnd
    obtain ⟨window', emitted, slots, current', balanced', limits, perm⟩ :=
      pipeOut_emits inv.balanced split currentEq
    simp only [atEnd, Bool.false_eq_true, if_false, emitted]
    refine ⟨_, rfl, ⟨balanced', inv.limits.trans limits, ?_⟩, ?_⟩
    · simp only [finalPipeout]
      refine ⟨pending, overflow, by omega, fun lawful => ?_⟩
      exact (known lawful).emit perm (by simp [pending, overflow]) _
    · have shorter := perm.length_eq
      simp only [List.length_cons] at shorter
      refine variant_lt (Or.inr ⟨rfl, Or.inl ?_⟩)
      simp only [held]
      omega

/-! ## The run -/

/-- One iteration in any state. -/
theorem step (capacity : HasCapacity start.maxKBytes start.maxSlots) {pass : Pass T R}
    (inv : Inv env node start input sent pass) :
    ∃ result, blockNestedLoopPass env node (slFlagsOf start.policy) pass = .ok result ∧
      Progresses (Inv env node start input) (Post env node input) variant sent pass result := by
  cases status : pass.status with
  | init =>
      have contents := inv.contents
      rw [status] at contents
      obtain ⟨pending, slots, rfl⟩ := contents
      simp only [blockNestedLoopPass, status, pure_eq_ok]
      refine ⟨_, rfl,
        ⟨inv.balanced, inv.limits, ⟨rfl, ?_⟩, by simp [slots], fun _ => ⟨?_, ?_⟩⟩, ?_⟩
      · rw [slots, pending]
        exact timed_init input
      · rw [slots, pending]
        exact compared_init _ input
      · rw [slots, pending]
        exact heldCovers_init _ input
      · exact variant_lt (Or.inl (by simp [stage, status]))
  | process =>
      cases pending : pass.pending with
      | nil =>
          obtain ⟨pass', bodyEq, progress⟩ := endOfSource_step inv status pending
          exact ⟨(pass', .again), bodyEq, progress⟩
      | cons slot rest =>
          obtain ⟨pass', bodyEq, progress⟩ := tuple_step inv status pending capacity
          refine ⟨(pass', .again), ?_, progress⟩
          simp only [blockNestedLoopPass, status, pending, bodyEq]
  | pipeout => exact pipeout_step inv status
  | finalPipeout => exact finalPipeout_step inv status
  | done =>
      have contents := inv.contents
      rw [status] at contents
      refine ⟨(pass, .finished), ?_, status, contents⟩
      simp only [blockNestedLoopPass, status, pure_eq_ok]

/-- From an empty window that can take a tuple, every scan ends. -/
theorem drains (balanced : Balanced env.space start) (empty : start.slots = [])
    (capacity : HasCapacity start.maxKBytes start.maxSlots) (drawn : Nat) :
    ∃ out last, Drains (blockNestedLoopPass env node (slFlagsOf start.policy))
      (Pass.init start input drawn) out last ∧ Post env node input out last := by
  have inv : Inv env node start input [] (Pass.init start input drawn) :=
    ⟨balanced, SameLimits.refl start, rfl, empty, rfl⟩
  exact drains_of_variant (Inv env node start input) (Post env node input) variant
    (fun sent pass inv => step capacity inv) [] _ inv

end PgSkyline.BlockNestedLoop
