import PgSkyline.Storage.Tuplestore

/-!
# Tuplestores as queues

Whatever its memory budget, a tuplestore that is written first and read forward
afterwards is a FIFO queue: `Holds state queue` says that reading on from the
current position delivers the tuples `queue`.  The relation covers the three
physical states, so the spill to the temporary file may happen at any put.
-/

namespace PgSkyline.Tuplestorestate

variable {T : Type} {space : ChunkSpace T}

/-- The tuples from the read position to the end. -/
def Unread (state : Tuplestorestate T) (queue : List T) : Prop :=
  match state.status with
  | .inMem => ∃ n : Nat, state.current = n ∧ n ≤ state.memtuples.length ∧
      state.memtuples.drop n = queue
  | .writeFile => state.myfile.pos = state.myfile.records.length ∧
      (state.eofReached = false → state.readposOffset ≤ state.myfile.records.length ∧
        state.myfile.records.drop state.readposOffset = queue)
  | .readFile => state.writeposOffset = state.myfile.records.length ∧
      state.myfile.pos ≤ state.myfile.records.length ∧
      state.myfile.records.drop state.myfile.pos = queue

/-- The tuplestore still has to deliver `queue`. -/
structure Holds (state : Tuplestorestate T) (queue : List T) : Prop where
  unread : Unread state queue
  empty_of_eof : state.eofReached = true → queue = []

/-- A tuplestore whose reader has not met the end yet. -/
def Writable (state : Tuplestorestate T) : Prop :=
  state.eofReached = false

theorem holds_beginHeap (randomAccess : Bool) (maxKBytes : Int) :
    Holds (beginHeap space randomAccess maxKBytes) [] :=
  ⟨⟨0, rfl, by simp [beginHeap, beginCommon], by simp [beginHeap, beginCommon]⟩, fun _ => rfl⟩

theorem writable_beginHeap (randomAccess : Bool) (maxKBytes : Int) :
    Writable (beginHeap space randomAccess maxKBytes) :=
  rfl

/-! ## Writing -/

theorem records_write_at_end (file : BufFile T) (tuple : T)
    (atEnd : file.pos = file.records.length) :
    file.write tuple = ⟨file.records ++ [tuple], file.records.length + 1⟩ := by
  simp [BufFile.write, atEnd]

/-- The file position noted for an array position by a dump of the elements
`i, …, i + len - 1`. -/
def notedPosition (i len : Nat) (current : Int) (old : Nat) : Nat :=
  if (i : Int) ≤ current ∧ current ≤ i + len then current.toNat else old

theorem notePositions_eq (state : Tuplestorestate T) (i : Nat)
    (position : state.myfile.pos = i) :
    notePositions state i = { state with
      readposOffset := notedPosition i 0 state.current state.readposOffset
      markposOffset := notedPosition i 0 state.markposCurrent state.markposOffset } := by
  have noted : ∀ (current : Int) (old : Nat),
      (if (i : Int) = current then i else old) = notedPosition i 0 current old := by
    intro current old
    unfold notedPosition
    split <;> split <;> omega
  simp only [notePositions, position, noted]

private theorem notedPosition_succ (i len : Nat) (current : Int) (old : Nat) :
    notedPosition (i + 1) len current (notedPosition i 0 current old) =
      notedPosition i (len + 1) current old := by
  unfold notedPosition
  split <;> split <;> try split
  all_goals omega

/-- A dump appends the elements to the file and notes the read and the marked
position as file positions. -/
theorem dumpLoop_eq (state : Tuplestorestate T) (i : Nat) (tuples : List T)
    (position : state.myfile.pos = i) (size : state.myfile.records.length = i) :
    dumpLoop space state i tuples = { state with
      myfile := ⟨state.myfile.records ++ tuples, i + tuples.length⟩
      availMem := state.availMem + ((tuples.map space.tuple).sum : Nat)
      readposOffset := notedPosition i tuples.length state.current state.readposOffset
      markposOffset :=
        notedPosition i tuples.length state.markposCurrent state.markposOffset } := by
  induction tuples generalizing state i with
  | nil =>
      have file : state.myfile = ⟨state.myfile.records, i⟩ := by rw [← position]
      rw [dumpLoop, notePositions_eq state i position]
      simp [← file]
  | cons tuple rest ih =>
      have written : state.myfile.write tuple = ⟨state.myfile.records ++ [tuple], i + 1⟩ := by
        rw [records_write_at_end _ _ (position.trans size.symm), size]
      rw [dumpLoop, notePositions_eq state i position,
        ih _ (i + 1) (by simp [writetup, written]) (by simp [writetup, written, size])]
      simp [writetup, written, notedPosition_succ, Nat.add_assoc, Nat.add_comm 1, Int.add_assoc]

theorem dumptuples_eq (state : Tuplestorestate T) (fresh : state.myfile = BufFile.createTemp) :
    dumptuples space state = { state with
      memtuples := []
      myfile := ⟨state.memtuples, state.memtuples.length⟩
      availMem := state.availMem + ((state.memtuples.map space.tuple).sum : Nat)
      readposOffset := notedPosition 0 state.memtuples.length state.current state.readposOffset
      markposOffset :=
        notedPosition 0 state.memtuples.length state.markposCurrent state.markposOffset } := by
  rw [dumptuples, dumpLoop_eq state 0 state.memtuples (by rw [fresh]; rfl) (by rw [fresh]; rfl)]
  simp [fresh, BufFile.createTemp]

private theorem growMemtuples_eq (space : ChunkSpace T) (state : Tuplestorestate T) :
    ∃ memtupsize availMem, growMemtuples space state = { state with memtupsize, availMem } := by
  unfold growMemtuples
  split
  · exact ⟨_, _, rfl⟩
  · exact ⟨state.memtupsize, state.availMem, rfl⟩

/-- A put into the array leaves the tuple there or dumps the array; a reader at
the end moves along. -/
theorem puttupleCommon_inMem (space : ChunkSpace T) (state : Tuplestorestate T) (tuple : T)
    (status : state.status = .inMem) :
    ∃ memtupsize availMem,
      puttupleCommon space state tuple = { state with
        memtupsize, availMem, memtuples := state.memtuples ++ [tuple]
        current :=
          if state.eofReached then (state.memtuples.length : Int) + 1 else state.current } ∨
      puttupleCommon space state tuple = dumptuples space { state with
        memtupsize, availMem, memtuples := state.memtuples ++ [tuple]
        current := if state.eofReached then (state.memtuples.length : Int) + 1 else state.current
        myfile := BufFile.createTemp, status := .writeFile } := by
  rcases growMemtuples_eq space state with ⟨memtupsize, availMem, grown⟩
  refine ⟨memtupsize, availMem, ?_⟩
  have length :
      ((state.memtuples ++ [tuple]).length : Int) = (state.memtuples.length : Int) + 1 := by
    rw [List.length_append]
    rfl
  simp only [puttupleCommon, status, grown, length]
  split
  · exact Or.inl rfl
  · exact Or.inr rfl

/-- A put appends to the queue, whether or not it spills to the file. -/
theorem Holds.puttupleCommon {state : Tuplestorestate T} {queue : List T}
    (holds : Holds state queue) (writable : Writable state) (tuple : T) :
    Holds (puttupleCommon space state tuple) (queue ++ [tuple]) ∧
      Writable (puttupleCommon space state tuple) := by
  have notEof : state.eofReached = false := writable
  have unread := holds.unread
  unfold Unread at unread
  cases status : state.status with
  | inMem =>
      rw [status] at unread
      obtain ⟨n, current, inside, rest⟩ := unread
      have appended : (state.memtuples ++ [tuple]).drop n = queue ++ [tuple] := by
        rw [List.drop_append_of_le_length inside, rest]
      rcases puttupleCommon_inMem space state tuple status with ⟨memtupsize, availMem, puts⟩
      simp only [notEof, Bool.false_eq_true, if_false] at puts
      rcases puts with stored | dumped
      · rw [stored]
        refine ⟨⟨?_, fun eof => absurd eof (by simp)⟩, rfl⟩
        simp only [Unread, status]
        exact ⟨n, current, by simp only [List.length_append]; omega, appended⟩
      · rw [dumped, dumptuples_eq _ rfl]
        refine ⟨⟨?_, fun eof => absurd eof (by simp)⟩, rfl⟩
        have noted : notedPosition 0 (state.memtuples ++ [tuple]).length state.current
            state.readposOffset = n := by
          simp only [notedPosition, current, List.length_append, List.length_singleton]
          rw [if_pos (by omega), Int.toNat_natCast]
        simp only [Unread, noted]
        exact ⟨trivial, fun _ => ⟨by simp only [List.length_append]; omega, appended⟩⟩
  | writeFile =>
      rw [status] at unread
      obtain ⟨position, unreadFile⟩ := unread
      obtain ⟨inside, rest⟩ := unreadFile notEof
      simp only [Tuplestorestate.puttupleCommon, status, writetup,
        records_write_at_end _ _ position]
      refine ⟨⟨?_, fun eof => absurd (notEof.symm.trans eof) (by simp)⟩, notEof⟩
      simp only [Unread, List.length_append, List.length_singleton]
      exact ⟨trivial, fun _ => ⟨by omega, by rw [List.drop_append_of_le_length inside, rest]⟩⟩
  | readFile =>
      rw [status] at unread
      obtain ⟨atEnd, inside, rest⟩ := unread
      have written := records_write_at_end (state.myfile.seek state.writeposOffset) tuple atEnd
      simp only [Tuplestorestate.puttupleCommon, status, writetup, notEof, Bool.false_eq_true,
        if_false, written]
      refine ⟨⟨?_, fun eof => absurd eof (by simp)⟩, rfl⟩
      simp only [BufFile.seek, Unread, List.length_append, List.length_singleton]
      exact ⟨trivial, fun _ => ⟨by omega, by rw [List.drop_append_of_le_length inside, rest]⟩⟩

theorem Holds.puttupleslot (space : ChunkSpace T) {state : Tuplestorestate T} {queue : List T}
    (holds : Holds state queue) (writable : Writable state) (tuple : T) :
    Holds (puttupleslot space state tuple) (queue ++ [tuple]) ∧
      Writable (puttupleslot space state tuple) :=
  have charged : Holds { state with availMem := state.availMem - space.tuple tuple } queue :=
    ⟨holds.unread, holds.empty_of_eof⟩
  charged.puttupleCommon writable tuple

private theorem eflags_dumpLoop (state : Tuplestorestate T) (i : Nat) (tuples : List T) :
    (dumpLoop space state i tuples).eflags = state.eflags := by
  induction tuples generalizing state i with
  | nil => rfl
  | cons tuple rest ih => rw [dumpLoop, ih]; rfl

@[simp]
theorem eflags_puttupleslot (state : Tuplestorestate T) (tuple : T) :
    (puttupleslot space state tuple).eflags = state.eflags := by
  unfold Tuplestorestate.puttupleslot Tuplestorestate.puttupleCommon
  cases state.status with
  | inMem =>
      simp only [growMemtuples, dumptuples]
      split <;> split <;> simp [eflags_dumpLoop]
  | writeFile => rfl
  | readFile => rfl

/-! ## Reading -/

theorem BufFile.read_eq_some (file : BufFile T) {tuple : T} {queue : List T}
    (rest : file.records.drop file.pos = tuple :: queue) :
    file.read = (some tuple, { file with pos := file.pos + 1 }) ∧
      file.pos + 1 ≤ file.records.length ∧ file.records.drop (file.pos + 1) = queue := by
  have found : file.records[file.pos]? = some tuple := by
    rw [← List.head?_drop, rest, List.head?_cons]
  refine ⟨by simp only [BufFile.read, found], (List.getElem?_eq_some_iff.mp found).1, ?_⟩
  rw [← List.tail_drop, rest, List.tail_cons]

theorem BufFile.read_eq_none (file : BufFile T) (rest : file.records.drop file.pos = []) :
    file.read = (none, file) := by
  have beyond : file.records[file.pos]? = none := by
    rw [← List.head?_drop, rest, List.head?_nil]
  simp only [BufFile.read, beyond]

/-- The reader takes the oldest tuple of a nonempty queue. -/
theorem Holds.gettupleslot_cons (space : ChunkSpace T) {state : Tuplestorestate T} {tuple : T}
    {queue : List T} (holds : Holds state (tuple :: queue)) :
    ∃ state', gettupleslot space state = .ok (some tuple, state') ∧
      Holds state' queue ∧ Writable state' := by
  have notEof : state.eofReached = false := by
    by_contra eof
    exact absurd (holds.empty_of_eof (by simpa using eof)) (by simp)
  have unread := holds.unread
  unfold Unread at unread
  unfold Tuplestorestate.gettupleslot
  cases status : state.status with
  | inMem =>
      rw [status] at unread
      obtain ⟨n, current, _, rest⟩ := unread
      have found : state.memtuples[n]? = some tuple := by
        rw [← List.head?_drop, rest, List.head?_cons]
      have inside : n < state.memtuples.length := (List.getElem?_eq_some_iff.mp found).1
      refine ⟨{ state with current := state.current + 1 }, ?_, ⟨?_, ?_⟩, notEof⟩
      · simp only [current, Int.ofNat_lt, inside, if_true, Int.natCast_nonneg, Int.toNat_natCast,
          found, status]
      · simp only [Unread, status]
        exact ⟨n + 1, by simp [current], inside, by rw [← List.tail_drop, rest, List.tail_cons]⟩
      · exact fun eof => absurd (notEof.symm.trans eof) (by simp)
  | writeFile =>
      rw [status] at unread
      obtain ⟨position, unreadFile⟩ := unread
      obtain ⟨_, rest⟩ := unreadFile notEof
      obtain ⟨readEq, inside, after⟩ :=
        BufFile.read_eq_some (state.myfile.seek state.readposOffset) rest
      simp only [notEof, Bool.false_eq_true, if_false, readForward, readEq]
      refine ⟨_, rfl, ⟨?_, fun eof => absurd eof (by simp)⟩, rfl⟩
      exact ⟨position, inside, after⟩
  | readFile =>
      rw [status] at unread
      obtain ⟨atEnd, _, rest⟩ := unread
      obtain ⟨readEq, inside, after⟩ := BufFile.read_eq_some state.myfile rest
      simp only [readForward, readEq]
      refine ⟨_, rfl, ⟨?_, fun eof => absurd (notEof.symm.trans eof) (by simp)⟩, notEof⟩
      simp only [Unread, status]
      exact ⟨atEnd, inside, after⟩

/-- The reader of an empty queue gets no tuple. -/
theorem Holds.gettupleslot_nil (space : ChunkSpace T) {state : Tuplestorestate T}
    (holds : Holds state []) :
    ∃ state', gettupleslot space state = .ok (none, state') ∧ Holds state' [] := by
  have unread := holds.unread
  unfold Unread at unread
  unfold Tuplestorestate.gettupleslot
  cases status : state.status with
  | inMem =>
      rw [status] at unread
      obtain ⟨n, current, _, rest⟩ := unread
      have beyond : ¬ n < state.memtuples.length := by
        have empty := congrArg List.length rest
        simp only [List.length_drop, List.length_nil] at empty
        omega
      refine ⟨{ state with eofReached := true }, ?_, ⟨?_, fun _ => rfl⟩⟩
      · simp only [current, Int.ofNat_lt, beyond, if_false, status]
      · simp only [Unread, status]
        exact ⟨n, current, by omega, rest⟩
  | writeFile =>
      rw [status] at unread
      obtain ⟨position, unreadFile⟩ := unread
      by_cases eof : state.eofReached = true
      · exact ⟨state, by simp [eof], holds⟩
      · have notEof : state.eofReached = false := by simpa using eof
        obtain ⟨inside, rest⟩ := unreadFile notEof
        have readEq := BufFile.read_eq_none (state.myfile.seek state.readposOffset) rest
        simp only [notEof, Bool.false_eq_true, if_false, readForward, readEq]
        exact ⟨_, rfl, ⟨position, inside, rest⟩, fun _ => rfl⟩
  | readFile =>
      rw [status] at unread
      obtain ⟨atEnd, inside, rest⟩ := unread
      have readEq := BufFile.read_eq_none state.myfile rest
      simp only [readForward, readEq]
      refine ⟨_, rfl, ⟨?_, fun _ => rfl⟩⟩
      simp only [Unread, status]
      exact ⟨atEnd, inside, rest⟩

/-- Trimming behind a reader at the end leaves the empty array. -/
theorem trim_of_current_eq_length (space : ChunkSpace T) {state : Tuplestorestate T}
    (status : state.status = .inMem)
    (current : state.current = state.memtuples.length) :
    ∃ state', trim space state 0 = .ok state' ∧ Unread state' [] ∧
      state'.eofReached = state.eofReached ∧ state'.eflags = state.eflags := by
  unfold trim
  simp only [status, ne_eq, not_true_eq_false, if_false, current, Int.sub_zero]
  by_cases empty : ((state.memtuples.length : Int) ≤ 0)
  · refine ⟨state, by rw [if_pos empty], ?_, rfl, rfl⟩
    simp only [Unread, status]
    exact ⟨state.memtuples.length, current, Nat.le_refl _, List.drop_length⟩
  · rw [if_neg empty]
    simp only [Int.le_refl, decide_true, assertThat_true, ok_bind, pure_eq_ok]
    refine ⟨_, rfl, ?_, rfl, rfl⟩
    simp only [Unread]
    exact ⟨0, by omega, Nat.zero_le _, by simp⟩

/-- `tuplestore_catchup` forgets everything stored so far. -/
theorem Holds.catchup (space : ChunkSpace T) {state : Tuplestorestate T} {queue : List T}
    (holds : Holds state queue)
    (mark : state.eflags.mark = true) :
    ∃ state', catchup space state = .ok state' ∧ Holds state' [] ∧ Writable state' ∧
      state'.eflags = state.eflags := by
  have unread := holds.unread
  unfold Unread at unread
  unfold Tuplestorestate.catchup
  simp only [mark, assertThat_true, ok_bind, pure_eq_ok]
  cases status : state.status with
  | inMem =>
      simp only
      split
      · obtain ⟨state', trimmed, unread', eof, eflags⟩ := @trim_of_current_eq_length T space
          { state with
            status := .inMem, eofReached := false, current := (state.memtuples.length : Int) }
          rfl rfl
        exact ⟨state', trimmed, ⟨unread', fun _ => rfl⟩, eof, eflags⟩
      · refine ⟨_, rfl, ⟨?_, fun _ => rfl⟩, rfl, rfl⟩
        exact ⟨state.memtuples.length, rfl, Nat.le_refl _, List.drop_length⟩
  | writeFile =>
      rw [status] at unread
      refine ⟨_, rfl, ⟨?_, fun _ => rfl⟩, rfl, rfl⟩
      exact ⟨unread.1, fun _ => ⟨Nat.le_of_eq unread.1, by simp [unread.1]⟩⟩
  | readFile =>
      rw [status] at unread
      refine ⟨_, rfl, ⟨?_, fun _ => rfl⟩, rfl, rfl⟩
      exact ⟨unread.1, Nat.le_of_eq unread.1, by simp [BufFile.seek, unread.1]⟩

end PgSkyline.Tuplestorestate
