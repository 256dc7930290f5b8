import PgSkyline.InputOrder.Methods
import PgSkyline.Lib.Filling
import PgSkyline.SortFilter.Result
import Mathlib.Algebra.BigOperators.Group.List.Basic

/-!
# The passes of sort filter skyline

`EXPLAIN ANALYZE` shows how many passes a window method took and how many tuples each
of them read.  For sort filter skyline both follow from the results: they fill one
window after the other, and each window belongs to one pass.
-/

namespace PgSkyline

open Filling Resumable TupleWindowState

variable {T D R : Type}

/-! ## The statistics -/

/-- The counter `pass` and the numbers listed in `pass_info`. -/
structure PassInfo where
  pass : Nat
  passInfo : List Nat
  deriving DecidableEq, Repr

/-- As `ExecInitSkyline` and `ExecReScanSkyline` leave them. -/
def PassInfo.init : PassInfo :=
  ⟨1, []⟩

/-- What is added when the source is exhausted. -/
def PassInfo.endOfSource (info : PassInfo) (state : SkylineState T R) : PassInfo :=
  let info :=
    if state.source = .outer then
      { info with passInfo := info.passInfo ++ [state.timestampIn] }
    else info
  if state.timestampOut = 0 then info
  else { pass := info.pass + 1, passInfo := info.passInfo ++ [state.timestampOut] }

section Body

variable [LE R] [DecidableLE R] [LT R] [DecidableLT R]
variable (env : ExecEnv T D R) (node : Skyline D)

/-- `ExecSkyline_SortFilterSkyline` with the statistics it keeps. -/
def execSkylineSortFilterSkylineInfo : Body Fault (SkylineState T R × PassInfo) T :=
  fun (state, info) =>
    match state.status with
    | .init => return ((beginScan env state, info), .again)
    | .process => do
        let (slot, state) ← fetchSlot env state
        match slot with
        | none => do
            let (ended, outcome) ← sortFilterEndOfSource env state
            return ((ended, info.endOfSource state), outcome)
        | some tuple => do
            let (read, outcome) ← sortFilterTuple env node state tuple
            return ((read, info), outcome)
    | .done => return ((state, info), .finished)
    | _ => throw (.assertion "0")

/-- The statistics have no influence on the scan. -/
theorem sortFilterInfo_simulates :
    Simulates (execSkylineSortFilterSkylineInfo env node) (execSkylineSortFilterSkyline env node)
      (fun counted state => counted.1 = state) := by
  rintro ⟨state, info⟩ _ rfl
  unfold execSkylineSortFilterSkylineInfo execSkylineSortFilterSkyline
  cases status : state.status with
  | init =>
      simp only [status, pure_eq_ok]
      exact ⟨_, rfl, rfl⟩
  | process =>
      simp only [status]
      cases fetchSlot env state with
      | error fault => exact follows_error _ fault
      | ok fetched =>
          rcases fetched with ⟨slot, fetchedState⟩
          cases slot with
          | none =>
              simp only [ok_bind]
              cases sortFilterEndOfSource env fetchedState with
              | error fault => exact follows_error _ fault
              | ok ended => exact ⟨_, rfl, rfl⟩
          | some tuple =>
              simp only [ok_bind]
              cases sortFilterTuple env node fetchedState tuple with
              | error fault => exact follows_error _ fault
              | ok read => exact ⟨_, rfl, rfl⟩
  | done =>
      simp only [status, pure_eq_ok]
      exact ⟨_, rfl, rfl⟩
  | pipeout | finalPipeout =>
      simp only [status]
      exact follows_error _ _

end Body

/-! ## Free space and the results of a pass -/

/-- A window has free space beside these tuples. -/
def RoomFor (space : ChunkSpace T) (maxKBytes maxSlots : Int) (tuples : List T) : Prop :=
  if maxSlots = -1 then
    ((tuples.map fun tuple => space.tuple tuple + space.windowSlot).sum : Nat) ≤ maxKBytes * 1024
  else (tuples.length : Int) < maxSlots

instance (space : ChunkSpace T) (maxKBytes maxSlots : Int) :
    DecidablePred (RoomFor space maxKBytes maxSlots) := fun _ => by
  unfold RoomFor
  infer_instance

theorem hasRoom_iff_roomFor {space : ChunkSpace T} {maxKBytes maxSlots : Int}
    {slots : List (TupleWindowSlot T R)} {tuples : List T} (same : (tuplesOf slots).Perm tuples) :
    HasRoom space maxKBytes maxSlots slots ↔ RoomFor space maxKBytes maxSlots tuples := by
  have mem : heldMem space slots =
      (tuples.map fun tuple => space.tuple tuple + space.windowSlot).sum := by
    rw [← (same.map _).sum_eq, tuplesOf, List.map_map]
    rfl
  have count : slots.length = tuples.length := by
    rw [← same.length_eq, tuplesOf, List.length_map]
  rw [HasRoom, RoomFor, mem, count]

private theorem roomFor_nil {space : ChunkSpace T} {maxKBytes maxSlots : Int}
    (capacity : HasCapacity maxKBytes maxSlots) : RoomFor space maxKBytes maxSlots [] :=
  have same : (tuplesOf ([] : List (TupleWindowSlot T Unit))).Perm [] := .refl []
  (hasRoom_iff_roomFor same).mp (hasRoom_nil_iff.mpr capacity)

/-- From one pass to the next at least the tuples of the finished batch are done with:
`rows` are the tuples the passes read. -/
def PutAside (rows : List Nat) (batches : List (List T)) : Prop :=
  ∀ pass row next batch, rows[pass]? = some row → rows[pass + 1]? = some next →
    batches[pass]? = some batch → next + batch.length ≤ row

theorem PutAside.snoc {rows : List Nat} {batches : List (List T)} (putAside : PutAside rows batches)
    (aligned : rows.length = batches.length + 1) {last next : Nat}
    (isLast : rows.getLast? = some last)
    {batch : List T} (fewer : next + batch.length ≤ last) :
    PutAside (rows ++ [next]) (batches ++ [batch]) := by
  intro pass row later batch' rowEq nextEq batchEq
  rcases Nat.lt_or_ge pass batches.length with before | atEnd
  · rw [List.getElem?_append_left (by omega)] at rowEq nextEq
    rw [List.getElem?_append_left before] at batchEq
    exact putAside pass row later batch' rowEq nextEq batchEq
  · have position : pass = batches.length := by
      have bound := (List.getElem?_eq_some_iff.mp batchEq).1
      rw [List.length_append, List.length_singleton] at bound
      omega
    subst position
    rw [List.getElem?_append_left (by omega)] at rowEq
    rw [List.getLast?_eq_getElem?, aligned, Nat.add_sub_cancel, rowEq] at isLast
    rw [← aligned, List.getElem?_append_right (Nat.le_refl _)] at nextEq
    rw [List.getElem?_append_right (Nat.le_refl _)] at batchEq
    simp only [Nat.sub_self, List.getElem?_cons_zero, Option.some.injEq] at isLast nextEq batchEq
    subst isLast nextEq batchEq
    exact fewer

/-! ## What the scan does to the counters -/

namespace SortFilter

section Counters

variable {env : ExecEnv T D R} {node : Skyline D} {state state' : SkylineState T R}
  {outcome : Outcome T}

private theorem writeTempOut_counters {slot : T}
    (written : writeTempOut env state slot = .ok state') :
    state'.source = state.source ∧ state'.timestampIn = state.timestampIn := by
  rcases (bind_eq_ok_iff _ _ _).mp written with ⟨store, _, result⟩
  cases result
  exact ⟨rfl, rfl⟩

private theorem onWindow_counters {operation : TupleWindowState T R → TupleWindowState T R}
    (applied : onWindow state operation = .ok state') :
    state'.source = state.source ∧ state'.timestampIn = state.timestampIn := by
  rcases (bind_eq_ok_iff _ _ _).mp applied with ⟨window, _, result⟩
  cases result
  exact ⟨rfl, rfl⟩

private theorem endTempIn_counters (ended : endTempIn state = .ok state') :
    state'.source = state.source ∧ state'.timestampIn = state.timestampIn ∧
      state'.timestampOut = state.timestampOut := by
  unfold endTempIn at ended
  split at ended
  · cases ended
    exact ⟨rfl, rfl, rfl⟩
  · rcases (bind_eq_ok_iff _ _ _).mp ended with ⟨stores, _, result⟩
    cases result
    exact ⟨rfl, rfl, rfl⟩

private theorem endOfSource_counters
    (ended : sortFilterEndOfSource env state = .ok (state', outcome)) :
    state'.timestampIn = state.timestampIn ∧
      state'.source = if state.timestampOut = 0 then state.source else .temp := by
  rcases (bind_eq_ok_iff _ _ _).mp ended with ⟨closed, closedEq, ended⟩
  rcases endTempIn_counters closedEq with ⟨source, timestampIn, timestampOut⟩
  rw [timestampOut] at ended
  split at ended
  · rename_i nothing
    rcases (bind_eq_ok_iff _ _ _).mp ended with ⟨dropped, droppedEq, ended⟩
    rcases (bind_eq_ok_iff _ _ _).mp droppedEq with ⟨stores, _, result⟩
    cases result
    cases ended
    rw [if_pos nothing]
    exact ⟨timestampIn, source⟩
  · rename_i something
    rcases (bind_eq_ok_iff _ _ _).mp ended with ⟨cleaned, cleanedEq, ended⟩
    cases ended
    rcases onWindow_counters cleanedEq with ⟨source', timestampIn'⟩
    rw [if_neg something]
    exact ⟨timestampIn'.trans timestampIn, source'⟩

variable [LE R] [DecidableLE R] [LT R] [DecidableLT R]

private theorem tuple_counters {slot : T}
    (read : sortFilterTuple env node state slot = .ok (state', outcome)) :
    state'.source = state.source ∧ state'.timestampIn = state.timestampIn + 1 := by
  simp only [sortFilterTuple, bind_eq_ok_iff] at read
  rcases read with ⟨window, _, admission, _, read⟩
  split at read
  · cases read
    exact ⟨rfl, rfl⟩
  · rcases (bind_eq_ok_iff _ _ _).mp read with ⟨written, writtenEq, read⟩
    cases read
    exact writeTempOut_counters writtenEq
  · cases read
    exact ⟨rfl, rfl⟩

/-- What reading one tuple can do to a pass. -/
inductive TupleEffect (space : ChunkSpace T) (start : TupleWindowState T R)
    (pass pass' : Pass T R) (slot : T) : Outcome T → Prop
  | dropped (held : pass.window.slots ≠ []) (slots : pass'.window.slots = pass.window.slots)
      (overflow : pass'.overflow = pass.overflow) : TupleEffect space start pass pass' slot .again
  | stored (timestamp : Nat) (rank : R)
      (slots : pass'.window.slots.Perm (⟨slot, timestamp, rank⟩ :: pass.window.slots))
      (room : HasRoom space start.maxKBytes start.maxSlots pass.window.slots)
      (overflow : pass'.overflow = pass.overflow) :
      TupleEffect space start pass pass' slot (.emit slot)
  | overflows (noRoom : ¬ HasRoom space start.maxKBytes start.maxSlots pass.window.slots)
      (slots : pass'.window.slots = pass.window.slots)
      (overflow : pass'.overflow = pass.overflow ++ [slot]) :
      TupleEffect space start pass pass' slot .again

theorem sortFilterStep_effect {start : TupleWindowState T R} {pass pass' : Pass T R} {slot : T}
    {rest : List T} (keeps : KeepsFull env start pass)
    (step : sortFilterStep env node (slFlagsOf start.policy) pass slot rest =
      .ok (pass', outcome)) :
    pass'.status = pass.status ∧ pass'.pending = rest ∧
      TupleEffect env.space start pass pass' slot outcome := by
  rcases keeps.limits with ⟨sizes, count, policy⟩
  have offered := @offerToWindow_assertNotSecondDominates T D R _ _ _ _ env node
    pass.window keeps.balanced 0 slot pass.drawn none
  rw [policy] at offered
  rcases offered with ⟨_, _, failed⟩ | ⟨admission, offerEq, valid, admitted⟩
  · simp only [sortFilterStep, failed, error_bind, reduceCtorEq] at step
  · simp only [sortFilterStep, offerEq, ok_bind, pure_eq_ok] at step
    unfold Admitted at admitted
    rw [sizes, count] at admitted
    cases disposition : admission.disposition with
    | dropped =>
        rw [disposition] at admitted
        rcases admitted with ⟨stopped, slots⟩
        simp only [disposition, Pass.spill, reduceCtorEq, if_false, Except.ok.injEq,
          Prod.mk.injEq] at step
        rcases step with ⟨rfl, rfl⟩
        refine ⟨rfl, rfl, .dropped ?_ slots rfl⟩
        intro noSlots
        simp [noSlots] at stopped
    | stored =>
        rw [disposition] at admitted
        rcases admitted with ⟨_, ⟨rank, added⟩, room⟩
        simp only [disposition, Pass.spill, reduceCtorEq, if_false, if_true, Except.ok.injEq,
          Prod.mk.injEq] at step
        rcases step with ⟨rfl, rfl⟩
        exact ⟨rfl, rfl, .stored 0 rank added room rfl⟩
    | overflows =>
        rw [disposition] at admitted
        rcases admitted with ⟨_, slots, noRoom⟩
        simp only [disposition, Pass.spill, reduceCtorEq, if_false, if_true, Except.ok.injEq,
          Prod.mk.injEq] at step
        rcases step with ⟨rfl, rfl⟩
        exact ⟨rfl, rfl, .overflows noRoom slots rfl⟩

end Counters

/-! ## The invariant -/

/-- The room in the window of a run that began with the empty window `start`. -/
abbrev Room (env : ExecEnv T D R) (start : TupleWindowState T R) : List T → Prop :=
  RoomFor env.space start.maxKBytes start.maxSlots

/-- The run has finished the passes that returned `full` and is in the one that has
returned `current`; `rows` are the tuples that the passes had or have to read. -/
structure Recorded (env : ExecEnv T D R) (start : TupleWindowState T R) (input sent : List T)
    (full : List (List T)) (current : List T) (rows : List Nat) : Prop where
  sentEq : sent = full.flatten ++ current
  filled : ∀ batch ∈ full, Grown (Room env start) batch ∧ ¬ Room env start batch
  grown : Grown (Room env start) current
  aligned : rows.length = full.length + 1
  head : rows.head? = some input.length
  putAside : PutAside rows full

/-- The counters at the state of the run. -/
structure Counts (input : List T) (state : SkylineState T R) (info : PassInfo) (pass : Pass T R)
    (current : List T) (rows : List Nat) : Prop where
  passes : info.pass = rows.length
  last : ∃ last, rows.getLast? = some last ∧
    current.length + pass.overflow.length + pass.pending.length ≤ last
  read : match state.source with
    | .outer => info.passInfo = [] ∧ rows = [input.length] ∧
        state.timestampIn + pass.pending.length = input.length
    | .temp => info.passInfo = rows

/-- The invariant of a scan that is not done. -/
def InfoInv (env : ExecEnv T D R) (start : TupleWindowState T R) (input sent : List T)
    (counted : SkylineState T R × PassInfo) : Prop :=
  ∃ pass full current rows, SortFilterView start.policy counted.1 pass ∧
    KeepsFull env start pass ∧ pass.status ≠ .done ∧
    (pass.status = .init → pass.overflow = [] ∧ counted.1.source = .outer) ∧
    (tuplesOf pass.window.slots).Perm current ∧
    (current ≠ [] ∨ full = [] ∨ pass.pending ≠ []) ∧
    Recorded env start input sent full current rows ∧
    Counts input counted.1 counted.2 pass current rows

/-- What the statistics say when the scan is done. -/
structure InfoPost (env : ExecEnv T D R) (start : TupleWindowState T R) (input sent : List T)
    (counted : SkylineState T R × PassInfo) : Prop where
  pass : counted.2.pass = (fill (Room env start) [] sent).length
  length : counted.2.passInfo.length = counted.2.pass
  head : counted.2.passInfo.head? = some input.length
  putAside : PutAside (counted.2.passInfo ++ [0]) (fill (Room env start) [] sent)

section Step

variable {env : ExecEnv T D R} {node : Skyline D} {start : TupleWindowState T R}
  {input sent current : List T} {full : List (List T)} {rows : List Nat}
  {state state' : SkylineState T R} {info : PassInfo} {pass pass' : Pass T R}

/-- At the end of a source the numbers listed are those of all passes so far. -/
theorem Counts.endOfSource (counts : Counts input state info pass current rows)
    (pending : pass.pending = []) :
    info.endOfSource state =
      if state.timestampOut = 0 then ⟨rows.length, rows⟩
      else ⟨rows.length + 1, rows ++ [state.timestampOut]⟩ := by
  have passes := counts.passes
  have read := counts.read
  rcases info with ⟨number, listed⟩
  cases source : state.source with
  | outer =>
      rw [source, pending] at read
      rcases read with ⟨empty, rowsEq, timestampIn⟩
      simp only [List.length_nil, Nat.add_zero] at timestampIn
      simp only at empty passes
      subst empty rowsEq passes
      simp [PassInfo.endOfSource, source, timestampIn]
  | temp =>
      rw [source] at read
      simp only at read passes
      subst read passes
      simp [PassInfo.endOfSource, source]

/-- A finished pass adds its results and the number of tuples it has put aside. -/
theorem Recorded.nextPass (recorded : Recorded env start input sent full current rows)
    (noRoom : ¬ Room env start current) {last next : Nat} (isLast : rows.getLast? = some last)
    (fewer : next + current.length ≤ last) :
    Recorded env start input sent (full ++ [current]) [] (rows ++ [next]) where
  sentEq := by simp [recorded.sentEq]
  filled := by
    intro batch mem
    rcases List.mem_append.mp mem with old | new
    · exact recorded.filled batch old
    · rw [List.mem_singleton.mp new]
      exact ⟨recorded.grown, noRoom⟩
  grown := grown_nil
  aligned := by simp [recorded.aligned]
  head := by rw [List.head?_append, recorded.head, Option.some_or]
  putAside := recorded.putAside.snoc recorded.aligned isLast fewer

theorem Recorded.emit (recorded : Recorded env start input sent full current rows)
    (room : Room env start current) (slot : T) :
    Recorded env start input (sent ++ [slot]) full (current ++ [slot]) rows :=
  { recorded with
    sentEq := by rw [recorded.sentEq, List.append_assoc]
    grown := recorded.grown.snoc room slot }

variable [LE R] [DecidableLE R] [LT R] [DecidableLT R]

/-- The source is exhausted. -/
theorem endOfSource_keeps (capacity : HasCapacity start.maxKBytes start.maxSlots)
    (view : SortFilterView start.policy state pass) (keeps : KeepsFull env start pass)
    (process : pass.status = .process) (pending : pass.pending = [])
    (window : (tuplesOf pass.window.slots).Perm current) (begun : current ≠ [] ∨ full = [])
    (recorded : Recorded env start input sent full current rows)
    (counts : Counts input state info pass current rows) {outcome : Outcome T}
    (passStep : sortFilterPass env node (slFlagsOf start.policy) pass = .ok (pass', outcome))
    (view' : SortFilterView start.policy state' pass') (keeps' : KeepsFull env start pass')
    (source : state'.source = if state.timestampOut = 0 then state.source else .temp) :
    Keeps (InfoInv env start input) (InfoPost env start input) sent
      ((state', info.endOfSource state), outcome) := by
  rcases keeps.counted process with ⟨timestampOut, overflowed⟩
  rcases counts.last with ⟨last, isLast, left⟩
  have contents := view.contents
  rw [process] at contents
  have infoEq := counts.endOfSource pending
  rw [contents.2, timestampOut] at infoEq source
  rw [pending, List.length_nil, Nat.add_zero] at left
  simp only [sortFilterPass, process, pending, timestampOut] at passStep
  split at passStep
  · rename_i nothing
    cases passStep
    rw [if_pos nothing] at infoEq
    have filled : fill (Room env start) [] sent = full ++ [current] := by
      rw [recorded.sentEq]
      exact fill_flatten (roomFor_nil capacity) recorded.filled recorded.grown begun
    have fewer : 0 + current.length ≤ last := by omega
    rw [infoEq]
    constructor
    · rw [filled, List.length_append, List.length_singleton, recorded.aligned]
    · rfl
    · exact recorded.head
    · rw [filled]
      exact recorded.putAside.snoc recorded.aligned isLast fewer
  · rename_i something
    cases passStep
    rw [if_neg something] at infoEq source
    have overflow_ne : pass.overflow ≠ [] := fun empty => something (by simp [empty])
    have noRoom : ¬ Room env start current := fun room =>
      overflowed overflow_ne ((hasRoom_iff_roomFor window).mpr room)
    have fewer : pass.overflow.length + current.length ≤ last := by omega
    rw [infoEq]
    refine ⟨_, full ++ [current], [], _, view', keeps', ?_, ?_, List.Perm.refl _, ?_,
      recorded.nextPass noRoom isLast fewer, ?_, ?_, ?_⟩
    · simp
    · simp
    · exact Or.inr (Or.inr overflow_ne)
    · simp
    · exact ⟨pass.overflow.length, by simp, by simp⟩
    · rw [source]

omit [LE R] [DecidableLE R] [LT R] [DecidableLT R] in
/-- A tuple of the source is read. -/
theorem tuple_keeps (capacity : HasCapacity start.maxKBytes start.maxSlots)
    {slot : T} {rest : List T} (process : pass.status = .process)
    (pending : pass.pending = slot :: rest) (window : (tuplesOf pass.window.slots).Perm current)
    (recorded : Recorded env start input sent full current rows)
    (counts : Counts input state info pass current rows) {outcome : Outcome T}
    (view' : SortFilterView start.policy state' pass') (keeps' : KeepsFull env start pass')
    (status' : pass'.status = pass.status) (pending' : pass'.pending = rest)
    (effect : TupleEffect env.space start pass pass' slot outcome)
    (source : state'.source = state.source)
    (timestampIn : state'.timestampIn = state.timestampIn + 1) :
    Keeps (InfoInv env start input) (InfoPost env start input) sent
      ((state', info), outcome) := by
  rcases counts.last with ⟨last, isLast, left⟩
  rw [pending, List.length_cons] at left
  have notInit : pass'.status = .init → pass'.overflow = [] ∧ state'.source = .outer :=
      fun init => by
    cases process.symm.trans (status'.symm.trans init)
  have notDone : pass'.status ≠ .done := fun done => by
    cases process.symm.trans (status'.symm.trans done)
  have read : match state'.source with
      | .outer => info.passInfo = [] ∧ rows = [input.length] ∧
          state'.timestampIn + pass'.pending.length = input.length
      | .temp => info.passInfo = rows := by
    have before := counts.read
    rw [source, timestampIn, pending']
    rw [pending, List.length_cons] at before
    cases from_ : state.source with
    | outer =>
        rw [from_] at before
        exact ⟨before.1, before.2.1, by omega⟩
    | temp =>
        rw [from_] at before
        exact before
  have nonempty : pass.window.slots ≠ [] → current ≠ [] := by
    rintro held rfl
    exact held (List.map_eq_nil_iff.mp (List.perm_nil.mp window))
  cases effect with
  | dropped held slots overflow =>
      refine ⟨pass', full, current, rows, view', keeps', notDone, notInit, ?_,
        Or.inl (nonempty held), recorded, counts.passes, ⟨last, isLast, ?_⟩, read⟩
      · rw [slots]
        exact window
      · rw [overflow, pending']
        omega
  | stored timestamp rank slots room overflow =>
      have room' := (hasRoom_iff_roomFor window).mp room
      refine ⟨pass', full, current ++ [slot], rows, view', keeps', notDone, notInit, ?_,
        Or.inl (by simp), recorded.emit room' slot, counts.passes, ⟨last, isLast, ?_⟩, read⟩
      · have added := (slots.map TupleWindowSlot.tuple).trans (window.cons slot)
        have swapped : ([slot] ++ current).Perm (current ++ [slot]) := List.perm_append_comm
        exact added.trans swapped
      · rw [overflow, pending', List.length_append, List.length_singleton]
        omega
  | overflows noRoom slots overflow =>
      have held : pass.window.slots ≠ [] := fun empty =>
        noRoom (empty ▸ hasRoom_nil_iff.mpr capacity)
      refine ⟨pass', full, current, rows, view', keeps', notDone, notInit, ?_,
        Or.inl (nonempty held), recorded, counts.passes, ⟨last, isLast, ?_⟩, read⟩
      · rw [slots]
        exact window
      · rw [overflow, pending', List.length_append, List.length_singleton]
        omega

/-- One iteration. -/
theorem infoInv_step (capacity : HasCapacity start.maxKBytes start.maxSlots)
    (counted : SkylineState T R × PassInfo) (next : (SkylineState T R × PassInfo) × Outcome T)
    (inv : InfoInv env start input sent counted)
    (step : execSkylineSortFilterSkylineInfo env node counted = .ok next) :
    Keeps (InfoInv env start input) (InfoPost env start input) sent next := by
  rcases counted with ⟨state, info⟩
  rcases next with ⟨⟨state', info'⟩, outcome⟩
  rcases inv with
    ⟨pass, full, current, rows, view, keeps, notDone, fresh, window, begun, recorded, counts⟩
  rcases (sortFilterInfo_simulates env node).exists_ok rfl step with ⟨_, plain, rfl⟩
  rcases sortFilter_simulates.exists_ok view plain with ⟨pass', passStep, view'⟩
  have keeps' := (sortFilterPass_consumes pass _ keeps passStep).1
  have statusEq : state.status = pass.status := view.status
  have contents := view.contents
  unfold execSkylineSortFilterSkylineInfo at step
  cases status : pass.status with
  | init =>
      rw [status] at statusEq
      simp only [statusEq, pure_eq_ok] at step
      simp only [sortFilterPass, status, pure_eq_ok] at passStep
      cases step
      cases passStep
      rcases fresh status with ⟨overflow, source⟩
      rcases counts.last with ⟨last, isLast, left⟩
      have read := counts.read
      rw [source] at read
      refine ⟨_, full, current, rows, view', keeps', by simp, by simp, window, begun, recorded,
        counts.passes, ⟨last, isLast, ?_⟩, read⟩
      rw [overflow] at left
      exact left
  | process =>
      rw [status] at statusEq contents
      simp only [statusEq] at step
      cases pending : pass.pending with
      | nil =>
          have reading := contents.1
          rw [pending] at reading
          rcases fetchSlot_nil env reading with ⟨outerPlanState, stores, extraSlot, fetched, _⟩
          simp only [fetched, ok_bind] at step
          rcases (bind_eq_ok_iff _ _ _).mp step with ⟨⟨ended, outcome'⟩, endedEq, step⟩
          cases step
          have source := (endOfSource_counters endedEq).2
          exact endOfSource_keeps capacity view keeps status pending window
            (begun.imp_right fun more => more.resolve_right (absurd pending)) recorded counts
            passStep view' keeps' source
      | cons slot rest =>
          have reading := contents.1
          rw [pending] at reading
          rcases fetchSlot_cons env reading with ⟨outerPlanState, stores, extraSlot, fetched, _⟩
          simp only [fetched, ok_bind] at step
          rcases (bind_eq_ok_iff _ _ _).mp step with ⟨⟨read, outcome'⟩, readEq, step⟩
          cases step
          rcases tuple_counters readEq with ⟨source, timestampIn⟩
          simp only [sortFilterPass, status, pending] at passStep
          rcases sortFilterStep_effect keeps passStep with ⟨status', pending', effect⟩
          exact tuple_keeps capacity status pending window recorded counts view' keeps' status'
            pending' effect source timestampIn
  | pipeout | finalPipeout =>
      rw [status] at contents
      exact contents.elim
  | done => exact absurd status notDone

end Step

end SortFilter

/-! ## The run -/

variable [LE R] [DecidableLE R] [LT R] [DecidableLT R]
variable (env : ExecEnv T D R) (node : Skyline D)

/-- Sort filter skyline takes as many passes as its results fill windows, and from one
pass to the next it puts aside at least the tuples it has returned. -/
theorem execSkylineSortFilterSkyline_passes (method : node.skylineMethod = .sfs) (input : List T)
    (drawn : Nat) (state : SkylineState T R)
    (init : execInitSkyline env node (OuterPlan.init input) drawn = .ok state)
    (capacity : HasCapacity state.windowsize state.windowslots)
    (accepted : env.assertChecking = true →
      LawfulCols node.cols ∧ NoLaterDominates env.slotGetattr node.cols input) :
    ∃ out last info, Drains (execSkyline env node) state out last ∧
      Drains (execSkylineSortFilterSkylineInfo env node) (state, PassInfo.init) out (last, info) ∧
      let batches := fill (RoomFor env.space state.windowsize state.windowslots) [] out
      info.pass = batches.length ∧ info.passInfo.length = info.pass ∧
        info.passInfo.head? = some input.length ∧ PutAside (info.passInfo ++ [0]) batches ∧
        ∀ slots : Nat, state.windowslots = slots →
          info.pass = max 1 ((out.length + (slots - 1)) / slots) := by
  rcases windowMethodStart_of_init (Or.inr method) init with ⟨policy, _, options, start⟩
  rcases counters_of_init init with ⟨source, timestampIn⟩
  rcases sortFilter_drains_or_misuse_of_start env node method start capacity with
    ⟨out, last, drains, done, _⟩ | ⟨_, _, _, _, _, checking, notPresorted⟩
  · have plain := drains
    rw [execSkyline_eq_sfs method] at plain
    rcases (sortFilterInfo_simulates env node).drains (s := (state, PassInfo.init)) rfl plain with
      ⟨⟨last', info⟩, counted, rfl⟩
    have inv : SortFilter.InfoInv env
        (begin env.negDblMax state.windowsize state.windowslots policy) input []
        (state, PassInfo.init) := by
      refine ⟨Pass.init _ input drawn, [], [], [input.length], start.sortFilter, ?_,
        by simp [Pass.init], fun _ => ⟨rfl, source⟩, List.Perm.refl _,
        Or.inr (Or.inl rfl), ?_, rfl, ⟨input.length, rfl, by simp [Pass.init]⟩, ?_⟩
      · exact ⟨balanced_begin _ _ _ _, SameLimits.refl _, by simp [Pass.init]⟩
      · exact ⟨rfl, by simp, grown_nil, rfl, rfl, by simp [PutAside]⟩
      · rw [source]
        exact ⟨rfl, rfl, by simp [timestampIn, Pass.init]⟩
    have post := counted.of_invariant (fun sent => SortFilter.infoInv_step capacity) inv
    refine ⟨out, last', info, drains, counted, post.pass, post.length, post.head, post.putAside, ?_⟩
    intro slots limited
    have positive : 0 < slots := by
      rcases capacity with some_ | ⟨unlimited, _⟩ <;> omega
    have room : ∀ tuples : List T, RoomFor env.space state.windowsize state.windowslots tuples ↔
        tuples.length < slots := by
      intro tuples
      rw [RoomFor, if_neg (by omega), limited, Int.ofNat_lt]
    calc
      info.pass = (fill (RoomFor env.space state.windowsize state.windowslots) [] out).length :=
        post.pass
      _ = max 1 ((out.length + (slots - 1)) / slots) := by
        rw [fill_congr room, length_fill_nil positive]
  · exact absurd (accepted checking) notPresorted

/-- Three results in two passes of two slots; the second pass reads the two tuples that
found no room, one of which is dominated. -/
theorem execSkylineSortFilterSkyline_passes_twoSlots :
    let node : Skyline Int :=
      ⟨[(1, .min), (2, .min)].map fun column => integerCol column.1 column.2, false,
        [⟨"slots", .integer 2⟩], .sfs, false⟩
    let input : List IntegerRow :=
      [[some 1, some 4], [some 2, some 3], [some 3, some 1], [some 3, some 2]]
    ∃ state, execInitSkyline integerEnv node (OuterPlan.init input) 0 = .ok state ∧
      ∃ out last info, Drains (execSkyline integerEnv node) state out last ∧
        Drains (execSkylineSortFilterSkylineInfo integerEnv node) (state, PassInfo.init) out
          (last, info) ∧
        let batches := fill (RoomFor integerEnv.space state.windowsize state.windowslots) [] out
        info.pass = batches.length ∧ info.passInfo.length = info.pass ∧
          info.passInfo.head? = some input.length ∧ PutAside (info.passInfo ++ [0]) batches ∧
          ∀ slots : Nat, state.windowslots = slots →
            info.pass = max 1 ((out.length + (slots - 1)) / slots) :=
  ⟨_, rfl, execSkylineSortFilterSkyline_passes integerEnv _ rfl _ 0 _ rfl (by decide)
    fun _ => ⟨lawfulCols_integerCol _, by decide⟩⟩

end PgSkyline
