import PgSkyline.Lib.MarkedLog
import PgSkyline.Lib.Session
import PgSkyline.Storage.Fifo

/-!
# Tuplestores as marked logs

A tuplestore is a marked log of which a leading part may have been trimmed: its
three physical states keep the read and the marked position as array indexes,
as file positions or as the seek position of the file.  Every operation that
does not trim behind the mark acts on the log.
-/

namespace PgSkyline.Tuplestorestate

variable {T : Type} {space : ChunkSpace T}

/-- Where the tuples and the positions are in the three states, behind `base`
trimmed tuples. -/
def Positions (base : Nat) (state : Tuplestorestate T) (log : MarkedLog T) : Prop :=
  match state.status with
  | .inMem => state.memtuples = log.entries.drop base ∧
      state.current = (log.readPos - base : Nat) ∧ state.markposCurrent = (log.markPos - base : Nat)
  | .writeFile => state.myfile.records = log.entries.drop base ∧
      state.myfile.pos = state.myfile.records.length ∧
      (log.atEnd = false → state.readposOffset = log.readPos - base) ∧
      state.markposOffset = log.markPos - base
  | .readFile => state.myfile.records = log.entries.drop base ∧
      state.writeposOffset = state.myfile.records.length ∧
      state.myfile.pos = log.readPos - base ∧ state.markposOffset = log.markPos - base

/-- The tuplestore holds the log but for its first `base` tuples. -/
structure Represents (base : Nat) (state : Tuplestorestate T) (log : MarkedLog T) : Prop where
  base_le_readPos : base ≤ log.readPos
  base_le_markPos : base ≤ log.markPos
  eofReached : state.eofReached = log.atEnd
  positions : Positions base state log

theorem represents_beginHeap (randomAccess : Bool) (maxKBytes : Int) (eflags : ExecFlags) :
    Represents 0 { beginHeap space randomAccess maxKBytes with eflags } MarkedLog.empty := by
  constructor
  · exact Nat.le_refl _
  · exact Nat.le_refl _
  · rfl
  · exact ⟨rfl, rfl, rfl⟩

variable {base : Nat} {state : Tuplestorestate T} {log : MarkedLog T}

theorem Represents.base_le_length (rep : Represents base state log) : base ≤ log.entries.length :=
  Nat.le_trans rep.base_le_readPos log.readPos_le

theorem Represents.drop_append (rep : Represents base state log) (tuple : T) :
    (log.append tuple).entries.drop base = log.entries.drop base ++ [tuple] :=
  List.drop_append_of_le_length rep.base_le_length

theorem Represents.base_le_append (rep : Represents base state log) (tuple : T) :
    base ≤ (log.append tuple).readPos := by
  simp only [MarkedLog.append]
  split
  · exact Nat.le_succ_of_le rep.base_le_length
  · exact rep.base_le_readPos

/-! ## Writing -/

/-- Where an array index is noted in the file if it lies inside the array. -/
theorem notedPosition_of_le {len pos : Nat} (inside : pos ≤ len) (old : Nat) :
    notedPosition 0 len (pos : Int) old = pos := by
  have within :
      ((0 : Nat) : Int) ≤ (pos : Int) ∧ (pos : Int) ≤ ((0 : Nat) : Int) + (len : Int) := by
    omega
  rw [notedPosition, if_pos within, Int.toNat_natCast]

/-- An array that is full is dumped to the file, where both positions are noted. -/
theorem Represents.puttuple_inMem (rep : Represents base state log)
    (status : state.status = .inMem) (tuple : T) :
    Represents base (puttupleCommon space state tuple) (log.append tuple) := by
  have positions := rep.positions
  have dropped := rep.drop_append tuple
  have below := rep.base_le_length
  unfold Positions at positions
  rw [status] at positions
  rcases positions with ⟨memtuples, current, marked⟩
  have length : state.memtuples.length = log.entries.length - base := by
    rw [memtuples, List.length_drop]
  have current' : (if state.eofReached then (state.memtuples.length : Int) + 1
      else state.current) = ((log.append tuple).readPos - base : Nat) := by
    simp only [MarkedLog.append, rep.eofReached]
    split
    · omega
    · exact current
  rcases puttupleCommon_inMem space state tuple status with ⟨memtupsize, availMem, puts⟩
  rw [current'] at puts
  rcases puts with stored | dumped
  · rw [stored]
    constructor
    · exact rep.base_le_append tuple
    · exact rep.base_le_markPos
    · exact rep.eofReached
    · simp only [Positions, status]
      exact ⟨by rw [memtuples, dropped], trivial, marked⟩
  · rw [dumped, dumptuples_eq _ rfl]
    constructor
    · exact rep.base_le_append tuple
    · exact rep.base_le_markPos
    · exact rep.eofReached
    · -- Both positions lie inside the array, so the dump notes them.
      have readInside :
          (log.append tuple).readPos - base ≤ (state.memtuples ++ [tuple]).length := by
        have inside := (log.append tuple).readPos_le
        simp only [MarkedLog.append, List.length_append, List.length_singleton] at inside ⊢
        omega
      have markInside : log.markPos - base ≤ (state.memtuples ++ [tuple]).length := by
        have inside := log.markPos_le
        rw [List.length_append]
        omega
      simp only [Positions, marked, notedPosition_of_le readInside,
        notedPosition_of_le markInside]
      exact ⟨by rw [memtuples, dropped], trivial, fun _ => trivial, rfl⟩

theorem Represents.puttupleCommon (rep : Represents base state log) (tuple : T) :
    Represents base (puttupleCommon space state tuple) (log.append tuple) := by
  have positions := rep.positions
  have dropped := rep.drop_append tuple
  unfold Positions at positions
  cases status : state.status with
  | inMem => exact rep.puttuple_inMem status tuple
  | writeFile =>
      rw [status] at positions
      rcases positions with ⟨records, position, readPos, markPos⟩
      simp only [Tuplestorestate.puttupleCommon, status, writetup,
        records_write_at_end _ _ position]
      constructor
      · exact rep.base_le_append tuple
      · exact rep.base_le_markPos
      · exact rep.eofReached
      · simp only [Positions, List.length_append, List.length_singleton]
        refine ⟨by rw [records, dropped], trivial, fun notAtEnd => ?_, markPos⟩
        have notAtEnd' : log.atEnd = false := notAtEnd
        simp only [MarkedLog.append, notAtEnd', Bool.false_eq_true, if_false]
        exact readPos notAtEnd'
  | readFile =>
      rw [status] at positions
      rcases positions with ⟨records, writePos, readPos, markPos⟩
      have written := records_write_at_end (state.myfile.seek state.writeposOffset) tuple writePos
      simp only [Tuplestorestate.puttupleCommon, status, writetup, written]
      constructor
      · exact rep.base_le_append tuple
      · exact rep.base_le_markPos
      · exact rep.eofReached
      · simp only [Positions, BufFile.seek, List.length_append, List.length_singleton]
        refine ⟨by rw [records, dropped], trivial, fun notAtEnd => ?_, markPos⟩
        have notAtEnd' : log.atEnd = false := notAtEnd
        simp only [MarkedLog.append, rep.eofReached, notAtEnd', Bool.false_eq_true, if_false]
        exact readPos

theorem Represents.puttupleslot (space : ChunkSpace T) (rep : Represents base state log)
    (tuple : T) :
    Represents base (puttupleslot space state tuple) (log.append tuple) :=
  have charged :
      Represents base { state with availMem := state.availMem - space.tuple tuple } log :=
    ⟨rep.base_le_readPos, rep.base_le_markPos, rep.eofReached, rep.positions⟩
  charged.puttupleCommon tuple

/-! ## Reading -/

/-- Reading the file at a position of the log. -/
theorem readForward_eq {records : List T} {pos : Nat} (file : state.myfile = ⟨records, pos⟩) :
    readForward space state =
      match records[pos]? with
      | none => (none, { state with myfile := ⟨records, pos⟩, eofReached := true })
      | some tuple => (some tuple, { state with
          myfile := ⟨records, pos + 1⟩, availMem := state.availMem - space.tuple tuple }) := by
  rw [readForward, file, BufFile.read]
  cases records[pos]? <;> rfl

/-- What a read has to leave behind. -/
theorem Represents.of_next {state' : Tuplestorestate T} (rep : Represents base state log)
    (eofReached : state'.eofReached = log.next.2.atEnd)
    (positions : Positions base state' log.next.2) : Represents base state' log.next.2 := by
  constructor
  · exact Nat.le_trans rep.base_le_readPos log.readPos_le_next
  · rw [MarkedLog.markPos_next]
    exact rep.base_le_markPos
  · exact eofReached
  · exact positions

/-- In the reading state a read answers as the log does. -/
theorem readForward_represents (space : ChunkSpace T) (status : state.status = .readFile)
    (rep : Represents base state log) :
    (readForward space state).1 = log.next.1 ∧
      Represents base (readForward space state).2 log.next.2 ∧
      (readForward space state).2.eflags = state.eflags := by
  have positions := rep.positions
  unfold Positions at positions
  rw [status] at positions
  rcases positions with ⟨records, writePos, readPos, markPos⟩
  have file : state.myfile = ⟨log.entries.drop base, log.readPos - base⟩ := by
    rw [← records, ← readPos]
  have found : (log.entries.drop base)[log.readPos - base]? = log.entries[log.readPos]? := by
    rw [List.getElem?_drop, Nat.add_sub_cancel' rep.base_le_readPos]
  rw [readForward_eq file, found]
  rw [records] at writePos
  by_cases inside : log.readPos < log.entries.length
  · rcases MarkedLog.next_of_lt inside with ⟨answer, next, atEnd⟩
    rw [answer, List.getElem?_eq_getElem inside]
    refine ⟨rfl, rep.of_next ?_ ?_, rfl⟩
    · rw [atEnd]
      exact rep.eofReached
    · simp only [Positions, status, MarkedLog.entries_next, next, MarkedLog.markPos_next]
      exact ⟨trivial, writePos, (Nat.succ_sub rep.base_le_readPos).symm, markPos⟩
  · rcases MarkedLog.next_of_not_lt inside with ⟨answer, next, atEnd⟩
    rw [answer, List.getElem?_eq_none (Nat.not_lt.mp inside)]
    refine ⟨rfl, rep.of_next atEnd.symm ?_, rfl⟩
    simp only [Positions, status, MarkedLog.entries_next, next, MarkedLog.markPos_next]
    exact ⟨trivial, writePos, trivial, markPos⟩

theorem Represents.gettupleslot_inMem (space : ChunkSpace T) (rep : Represents base state log)
    (status : state.status = .inMem) :
    ∃ state', gettupleslot space state = .ok (log.next.1, state') ∧
      Represents base state' log.next.2 ∧ state'.eflags = state.eflags := by
  have positions := rep.positions
  unfold Positions at positions
  rw [status] at positions
  unfold Tuplestorestate.gettupleslot
  rw [status]
  rcases positions with ⟨memtuples, current, marked⟩
  have length : state.memtuples.length = log.entries.length - base := by
    rw [memtuples, List.length_drop]
  have below := rep.base_le_readPos
  simp only [current]
  by_cases inside : log.readPos < log.entries.length
  · rcases MarkedLog.next_of_lt inside with ⟨answer, next, atEnd⟩
    have within : ((log.readPos - base : Nat) : Int) < (state.memtuples.length : Int) := by
      omega
    have found : state.memtuples[log.readPos - base]? = log.entries[log.readPos]? := by
      rw [memtuples, List.getElem?_drop, Nat.add_sub_cancel' below]
    rw [if_pos within, if_pos (Int.natCast_nonneg _), Int.toNat_natCast, found, answer]
    refine ⟨_, rfl, rep.of_next ?_ ?_, rfl⟩
    · rw [atEnd]
      exact rep.eofReached
    · simp only [Positions, MarkedLog.entries_next, next, MarkedLog.markPos_next]
      exact ⟨memtuples, by omega, marked⟩
  · rcases MarkedLog.next_of_not_lt inside with ⟨answer, next, atEnd⟩
    have beyond : ¬ ((log.readPos - base : Nat) : Int) < (state.memtuples.length : Int) := by
      omega
    rw [if_neg beyond, answer]
    refine ⟨_, rfl, rep.of_next atEnd.symm ?_, rfl⟩
    simp only [Positions, MarkedLog.entries_next, next, MarkedLog.markPos_next]
    exact ⟨memtuples, trivial, marked⟩

/-- The first read after a write turns to reading the file, unless the end has been read. -/
theorem Represents.gettupleslot_writeFile (space : ChunkSpace T) (rep : Represents base state log)
    (status : state.status = .writeFile) :
    ∃ state', gettupleslot space state = .ok (log.next.1, state') ∧
      Represents base state' log.next.2 ∧ state'.eflags = state.eflags := by
  have positions := rep.positions
  unfold Positions at positions
  rw [status] at positions
  unfold Tuplestorestate.gettupleslot
  rw [status]
  rcases positions with ⟨records, position, readPos, markPos⟩
  by_cases met : state.eofReached = true
  · -- The reader stays at the write position.
    have atEnd : log.atEnd = true := by rw [← rep.eofReached, met]
    have beyond : ¬ log.readPos < log.entries.length := by
      rw [log.readPos_of_atEnd atEnd]
      exact Nat.lt_irrefl _
    rcases MarkedLog.next_of_not_lt beyond with ⟨answer, next, stays⟩
    simp only [met, if_true, answer]
    refine ⟨state, rfl, rep.of_next (met.trans stays.symm) ?_, rfl⟩
    simp only [Positions, status, MarkedLog.entries_next, next, MarkedLog.markPos_next]
    exact ⟨records, position, fun notAtEnd => by simp [stays] at notAtEnd, markPos⟩
  · have notAtEnd : log.atEnd = false := by
      rw [← rep.eofReached]
      simpa using met
    have reading : Represents base { state with
        writeposOffset := state.myfile.pos
        myfile := state.myfile.seek state.readposOffset
        status := .readFile } log := by
      constructor
      · exact rep.base_le_readPos
      · exact rep.base_le_markPos
      · exact rep.eofReached
      · exact ⟨records, position, readPos notAtEnd, markPos⟩
    rcases readForward_represents space rfl reading with ⟨answer, next, eflags⟩
    rw [if_neg met, ← answer]
    exact ⟨_, rfl, next, eflags⟩

/-- A read answers as the log does. -/
theorem Represents.gettupleslot (space : ChunkSpace T) (rep : Represents base state log) :
    ∃ state', gettupleslot space state = .ok (log.next.1, state') ∧
      Represents base state' log.next.2 ∧ state'.eflags = state.eflags := by
  cases status : state.status with
  | inMem => exact rep.gettupleslot_inMem space status
  | writeFile => exact rep.gettupleslot_writeFile space status
  | readFile =>
      unfold Tuplestorestate.gettupleslot
      rw [status]
      rcases readForward_represents space status rep with ⟨answer, next, eflags⟩
      rw [← answer]
      exact ⟨_, rfl, next, eflags⟩

/-! ## Moving -/

theorem Represents.rescan (rep : Represents 0 state log) (rewind : state.eflags.rewind = true) :
    ∃ state', rescan state = .ok state' ∧ Represents 0 state' log.rewind ∧
      state'.eflags = state.eflags := by
  have positions := rep.positions
  unfold Positions at positions
  simp only [Tuplestorestate.rescan, rewind, assertThat_true, ok_bind, pure_eq_ok]
  cases status : state.status with
  | inMem =>
      rw [status] at positions
      rcases positions with ⟨memtuples, _, marked⟩
      refine ⟨_, rfl, ⟨Nat.le_refl _, Nat.zero_le _, rfl, ?_⟩, rfl⟩
      exact ⟨memtuples, rfl, marked⟩
  | writeFile =>
      rw [status] at positions
      rcases positions with ⟨records, position, _, markPos⟩
      refine ⟨_, rfl, ⟨Nat.le_refl _, Nat.zero_le _, rfl, ?_⟩, rfl⟩
      exact ⟨records, position, fun _ => rfl, markPos⟩
  | readFile =>
      rw [status] at positions
      rcases positions with ⟨records, writePos, _, markPos⟩
      refine ⟨_, rfl, ⟨Nat.le_refl _, Nat.zero_le _, rfl, ?_⟩, rfl⟩
      exact ⟨records, writePos, rfl, markPos⟩

theorem Represents.restorepos (rep : Represents base state log) (mark : state.eflags.mark = true) :
    ∃ state', restorepos state = .ok state' ∧ Represents base state' log.restore ∧
      state'.eflags = state.eflags := by
  have positions := rep.positions
  unfold Positions at positions
  simp only [Tuplestorestate.restorepos, mark, assertThat_true, ok_bind, pure_eq_ok]
  cases status : state.status with
  | inMem =>
      rw [status] at positions
      rcases positions with ⟨memtuples, _, marked⟩
      refine ⟨_, rfl, ⟨rep.base_le_markPos, rep.base_le_markPos, rfl, ?_⟩, rfl⟩
      exact ⟨memtuples, marked, marked⟩
  | writeFile =>
      rw [status] at positions
      rcases positions with ⟨records, position, _, markPos⟩
      refine ⟨_, rfl, ⟨rep.base_le_markPos, rep.base_le_markPos, rfl, ?_⟩, rfl⟩
      exact ⟨records, position, fun _ => markPos, markPos⟩
  | readFile =>
      rw [status] at positions
      rcases positions with ⟨records, writePos, _, markPos⟩
      refine ⟨_, rfl, ⟨rep.base_le_markPos, rep.base_le_markPos, rfl, ?_⟩, rfl⟩
      exact ⟨records, writePos, markPos, markPos⟩

/-- Trimming leaves the log alone while it stays behind the mark. -/
theorem Represents.trim (space : ChunkSpace T) (rep : Represents base state log) (ntuples : Nat)
    (keeps : log.readPos ≤ log.markPos + ntuples) :
    ∃ state' base', trim space state ntuples = .ok state' ∧ Represents base' state' log ∧
      state'.eflags = state.eflags := by
  have positions := rep.positions
  unfold Positions at positions
  unfold Tuplestorestate.trim
  by_cases status : state.status = .inMem
  · rw [status] at positions
    rcases positions with ⟨memtuples, current, marked⟩
    have length : state.memtuples.length = log.entries.length - base := by
      rw [memtuples, List.length_drop]
    have below := rep.base_le_readPos
    have inside := log.readPos_le
    have markInside := rep.base_le_markPos
    simp only [status, ne_eq, not_true_eq_false, if_false, current]
    by_cases nothing : ((log.readPos - base : Nat) : Int) - (ntuples : Int) ≤ 0
    · exact ⟨state, base, by rw [if_pos nothing], rep, rfl⟩
    · have within :
          ((log.readPos - base : Nat) : Int) - (ntuples : Int) ≤ state.memtuples.length := by
        omega
      have removed : (((log.readPos - base : Nat) : Int) - (ntuples : Int)).toNat =
          log.readPos - ntuples - base := by
        omega
      simp only [nothing, if_false, within, decide_true, assertThat_true, ok_bind, pure_eq_ok,
        removed]
      refine ⟨_, log.readPos - ntuples, rfl, ?_, rfl⟩
      constructor
      · exact Nat.sub_le _ _
      · omega
      · exact rep.eofReached
      · simp only [Positions, marked, memtuples, List.drop_drop]
        have start : base + (log.readPos - ntuples - base) = log.readPos - ntuples := by omega
        rw [start]
        exact ⟨rfl, by omega, by omega⟩
  · exact ⟨state, base, by rw [if_pos status], rep, rfl⟩

/-- The truncation at the end of `tuplestore_markpos` and `tuplestore_catchup`. -/
theorem Represents.trim_if_canTrim (space : ChunkSpace T) (rep : Represents base state log)
    (ntuples : Nat) (keeps : log.readPos ≤ log.markPos + ntuples) :
    ∃ state' base', (if canTrim state then Tuplestorestate.trim space state ntuples
        else Except.ok state) = .ok state' ∧
      Represents base' state' log ∧ state'.eflags = state.eflags ∧
      (canTrim state = false → base' = base) := by
  by_cases trims : canTrim state = true
  · rcases rep.trim space ntuples keeps with ⟨state', base', trimmed, rep', eflags⟩
    simp only [trims, if_true]
    exact ⟨state', base', trimmed, rep', eflags, fun keeps => by simp at keeps⟩
  · simp only [trims]
    exact ⟨state, base, rfl, rep, rfl, fun _ => rfl⟩

theorem Represents.markpos (space : ChunkSpace T) (rep : Represents base state log)
    (mark : state.eflags.mark = true) :
    ∃ state' base', markpos space state = .ok state' ∧ Represents base' state' log.mark ∧
      state'.eflags = state.eflags ∧ (canTrim state = false → base' = base) := by
  have positions := rep.positions
  unfold Positions at positions
  simp only [Tuplestorestate.markpos, mark, assertThat_true, ok_bind, pure_eq_ok]
  cases status : state.status with
  | inMem =>
      rw [status] at positions
      rcases positions with ⟨memtuples, current, _⟩
      have marked : Represents base
          { state with status := .inMem, markposCurrent := state.current } log.mark :=
        ⟨rep.base_le_readPos, rep.base_le_readPos, rep.eofReached, memtuples, current, current⟩
      exact marked.trim_if_canTrim space 1 (Nat.le_succ _)
  | writeFile =>
      rw [status] at positions
      rcases positions with ⟨records, position, readPos, _⟩
      refine ⟨_, base, rfl, ⟨rep.base_le_readPos, rep.base_le_readPos, rep.eofReached, ?_⟩, rfl,
        fun _ => rfl⟩
      refine ⟨records, position, readPos, ?_⟩
      have eofReached := rep.eofReached
      by_cases met : state.eofReached = true
      · rw [met] at eofReached
        simp only [met, if_true, position, records, MarkedLog.mark, List.length_drop,
          log.readPos_of_atEnd eofReached.symm]
      · have notMet : state.eofReached = false := by simpa using met
        rw [notMet] at eofReached
        rw [if_neg met]
        exact readPos eofReached.symm
  | readFile =>
      rw [status] at positions
      rcases positions with ⟨records, writePos, readPos, _⟩
      refine ⟨_, base, rfl, ⟨rep.base_le_readPos, rep.base_le_readPos, rep.eofReached, ?_⟩, rfl,
        fun _ => rfl⟩
      exact ⟨records, writePos, readPos, readPos⟩

end PgSkyline.Tuplestorestate
