import PgSkyline.Storage.Refinement

/-!
# Sessions with a tuplestore

A tuplestore that only has to support marks answers every session as the log
does, whenever it spills, as long as `tuplestore_catchup` finds the mark at the
end of the array or the tuples in the file.  A catch-up at any other time trims
behind the mark.
-/

namespace PgSkyline.Tuplestorestate

variable {T : Type}

/-- A request to a tuplestore that is read forward. -/
inductive StoreRequest (T : Type) where
  | put (tuple : T)
  | get
  | markpos
  | restorepos
  | catchup
  deriving DecidableEq, Repr

/-- `EXEC_FLAG_MARK`. -/
def markOnly : ExecFlags :=
  ⟨false, false, true⟩

section Requests

variable (space : ChunkSpace T)

/-- A tuplestore whose flags were set to `EXEC_FLAG_MARK` before the first
put. -/
def beginMarkOnly (maxKBytes : Int) : Except Fault (Tuplestorestate T) :=
  (beginHeap space false maxKBytes).setEflags markOnly

/-- How the tuplestore answers; only a read has an answer of its own. -/
def answer : Session.Step Fault (Tuplestorestate T) (StoreRequest T) (Option (Option T)) :=
  fun state request =>
    match request with
    | .put tuple => .ok (none, puttupleslot space state tuple)
    | .get => do
        let (slot, state) ← gettupleslot space state
        return (some slot, state)
    | .markpos => do return (none, ← markpos space state)
    | .restorepos => do return (none, ← restorepos state)
    | .catchup => do return (none, ← catchup space state)

/-- How the log answers. -/
def logAnswer : Session.Step Fault (MarkedLog T) (StoreRequest T) (Option (Option T)) :=
  fun log request =>
    match request with
    | .put tuple => .ok (none, log.append tuple)
    | .get => .ok (some log.next.1, log.next.2)
    | .markpos => .ok (none, log.mark)
    | .restorepos => .ok (none, log.restore)
    | .catchup => .ok (none, log.skip)

/-- The catch-up finds the mark at the end of the array, or the tuples in the
file. -/
def KeepsMark (state : Tuplestorestate T) (request : StoreRequest T) : Prop :=
  request = .catchup → state.status = .inMem → state.markposCurrent = state.memtuples.length

/-- The store has the flags it began with and holds the log. -/
def Refines (state : Tuplestorestate T) (log : MarkedLog T) : Prop :=
  state.eflags = markOnly ∧ ∃ base, Represents base state log

/-- The session succeeds with the answers of the log, the positions in the store
are those of the log, and after a restore any number of reads delivers the
marked tuple and those behind it. -/
def AgreesWithLog (maxKBytes : Int) (requests : List (StoreRequest T)) : Prop :=
  ∃ begun answers state log,
    beginMarkOnly space maxKBytes = .ok begun ∧
      Session.run (answer space) begun requests = .ok (answers, state) ∧
      Session.run logAnswer MarkedLog.empty requests = .ok (answers, log) ∧
      Refines state log ∧
      ∀ n, ∃ last, Session.run (answer space) state (.restorepos :: List.replicate n .get) =
        .ok (none :: (List.range n).map fun i => some log.entries[log.markPos + i]?, last)

end Requests

variable {space : ChunkSpace T} {state : Tuplestorestate T} {log : MarkedLog T} {base : Nat}

/-! ## One request -/

/-- A catch-up with the mark at the end moves the log. -/
theorem Represents.catchup (space : ChunkSpace T) (rep : Represents base state log)
    (mark : state.eflags.mark = true) (keeps : KeepsMark state .catchup) :
    ∃ state' base', catchup space state = .ok state' ∧ Represents base' state' log.skip ∧
      state'.eflags = state.eflags := by
  have positions := rep.positions
  unfold Positions at positions
  simp only [Tuplestorestate.catchup, mark, assertThat_true, ok_bind, pure_eq_ok]
  cases status : state.status with
  | inMem =>
      rw [status] at positions
      rcases positions with ⟨memtuples, _, marked⟩
      have atEnd := keeps rfl status
      have length : state.memtuples.length = log.entries.length - base := by
        rw [memtuples, List.length_drop]
      have below := rep.base_le_length
      have markInside := rep.base_le_markPos
      have skipped : Represents base { state with
          status := .inMem, eofReached := false, current := (state.memtuples.length : Int) }
          log.skip := by
        constructor
        · exact below
        · exact rep.base_le_markPos
        · rfl
        · exact ⟨memtuples, by rw [length]; rfl, marked⟩
      have behind : log.skip.readPos ≤ log.skip.markPos + 0 := by
        have ends : log.entries.length ≤ log.markPos := by omega
        exact ends
      rcases skipped.trim_if_canTrim space 0 behind with ⟨state', base', trimmed, rep', eflags, _⟩
      exact ⟨state', base', trimmed, rep', eflags⟩
  | writeFile =>
      rw [status] at positions
      rcases positions with ⟨records, position, _, markPos⟩
      have length : state.myfile.records.length = log.entries.length - base := by
        rw [records, List.length_drop]
      refine ⟨_, base, rfl, ⟨rep.base_le_length, rep.base_le_markPos, rfl, ?_⟩, rfl⟩
      exact ⟨records, position, fun _ => position.trans length, markPos⟩
  | readFile =>
      rw [status] at positions
      rcases positions with ⟨records, writePos, _, markPos⟩
      have length : state.myfile.records.length = log.entries.length - base := by
        rw [records, List.length_drop]
      refine ⟨_, base, rfl, ⟨rep.base_le_length, rep.base_le_markPos, rfl, ?_⟩, rfl⟩
      exact ⟨records, writePos, writePos.trans length, markPos⟩

/-- Every request that keeps the mark is one of the log. -/
theorem answer_simulates (request : StoreRequest T) (refines : Refines state log)
    (keeps : KeepsMark state request) :
    ∃ reply state' log', answer space state request = .ok (reply, state') ∧
      logAnswer log request = .ok (reply, log') ∧ Refines state' log' := by
  rcases refines with ⟨eflags, base, rep⟩
  have mark : state.eflags.mark = true := by rw [eflags]; rfl
  cases request with
  | put tuple =>
      refine ⟨none, _, _, rfl, rfl, ?_, base, rep.puttupleslot space tuple⟩
      rw [eflags_puttupleslot, eflags]
  | get =>
      rcases rep.gettupleslot space with ⟨state', fetched, rep', same⟩
      refine ⟨some log.next.1, state', _, ?_, rfl, same.trans eflags, base, rep'⟩
      simp only [answer, fetched, ok_bind, pure_eq_ok]
  | markpos =>
      rcases rep.markpos space mark with ⟨state', base', marked, rep', same, _⟩
      refine ⟨none, state', _, ?_, rfl, same.trans eflags, base', rep'⟩
      simp only [answer, marked, ok_bind, pure_eq_ok]
  | restorepos =>
      rcases rep.restorepos mark with ⟨state', restored, rep', same⟩
      refine ⟨none, state', _, ?_, rfl, same.trans eflags, base, rep'⟩
      simp only [answer, restored, ok_bind, pure_eq_ok]
  | catchup =>
      rcases rep.catchup space mark keeps with ⟨state', base', caughtUp, rep', same⟩
      refine ⟨none, state', _, ?_, rfl, same.trans eflags, base', rep'⟩
      simp only [answer, caughtUp, ok_bind, pure_eq_ok]

/-- A catch-up in memory empties the array and shifts the mark. -/
theorem catchup_inMem (space : ChunkSpace T) (eflags : state.eflags = markOnly)
    (status : state.status = .inMem) :
    ∃ state', catchup space state = .ok state' ∧ state'.status = .inMem ∧
      state'.eflags = markOnly ∧
      state'.markposCurrent = state.markposCurrent - (state.memtuples.length : Int) := by
  simp only [Tuplestorestate.catchup, canTrim, Tuplestorestate.trim, eflags, markOnly, status,
    assertThat_true, ok_bind, pure_eq_ok, Int.sub_zero, ne_eq, not_true_eq_false, if_false,
    Bool.not_false, Bool.and_self, if_true]
  by_cases empty : (state.memtuples.length : Int) ≤ 0
  · have none : (state.memtuples.length : Int) = 0 := Int.le_antisymm empty (Int.natCast_nonneg _)
    refine ⟨_, if_pos empty, rfl, rfl, ?_⟩
    rw [none, Int.sub_zero]
  · simp only [empty, if_false, Int.le_refl, decide_true, assertThat_true, ok_bind]
    exact ⟨_, rfl, rfl, rfl, rfl⟩

/-- A restored position before the start of the array makes the next read
invalid. -/
theorem run_restorepos_get_of_negative (status : state.status = .inMem)
    (mark : state.eflags.mark = true) (negative : state.markposCurrent < 0) (rest : Nat) :
    Session.run (answer space) state (.restorepos :: .get :: List.replicate rest .get) =
      .error .invalidRead := by
  have inside : state.markposCurrent < (state.memtuples.length : Int) :=
    Int.lt_of_lt_of_le negative (Int.natCast_nonneg _)
  have before : ¬ 0 ≤ state.markposCurrent := Int.not_le.mpr negative
  have restored : answer space state .restorepos =
      .ok (none, { state with eofReached := false, current := state.markposCurrent }) := by
    simp only [answer, Tuplestorestate.restorepos, mark, status, assertThat_true, ok_bind,
      pure_eq_ok]
  rw [Session.run_cons_of_ok restored]
  simp only [Session.run, answer, Tuplestorestate.gettupleslot, status, inside, before, if_true,
    if_false, error_bind]

/-! ## Whole sessions -/

theorem run_get_eq (n : Nat) (log : MarkedLog T) :
    ∃ last, Session.run logAnswer log (List.replicate n .get) =
      .ok ((List.range n).map fun i => some log.unread[i]?, last) := by
  induction n generalizing log with
  | zero => exact ⟨log, rfl⟩
  | succ n ih =>
      rcases ih log.next.2 with ⟨last, rest⟩
      refine ⟨last, ?_⟩
      rw [List.replicate_succ, Session.run_cons_of_ok rfl, rest]
      simp only [List.range_succ_eq_map, List.map_cons, List.map_map]
      cases unread : log.unread with
      | nil =>
          rcases MarkedLog.next_of_unread_nil unread with ⟨answer, later⟩
          simp [answer, later, Function.comp_def]
      | cons entry later =>
          rcases MarkedLog.next_of_unread_cons unread with ⟨answer, later⟩
          simp [answer, later, Function.comp_def]

theorem refines_begin (space : ChunkSpace T) (maxKBytes : Int) :
    ∃ begun, beginMarkOnly space maxKBytes = .ok begun ∧ Refines begun MarkedLog.empty :=
  ⟨_, rfl, rfl, 0, represents_beginHeap false maxKBytes markOnly⟩

/-- Reads after a restore keep the mark. -/
theorem allowed_restorepos_get (state : Tuplestorestate T) (n : Nat) :
    Session.Allowed (answer space) KeepsMark state (.restorepos :: List.replicate n .get) := by
  rw [Session.allowed_iff]
  intro before request after answers s' split _ isCatchup
  have mem : (.catchup : StoreRequest T) ∈ .restorepos :: List.replicate n .get := by
    rw [split, isCatchup]
    exact List.mem_append_right _ List.mem_cons_self
  rcases List.mem_cons.mp mem with isRestore | isGet
  · cases isRestore
  · cases List.eq_of_mem_replicate isGet

/-- A session whose catch-ups keep the mark agrees with the log. -/
theorem agreesWithLog_of_allowed {maxKBytes : Int} {requests : List (StoreRequest T)}
    {begun : Tuplestorestate T} (begins : beginMarkOnly space maxKBytes = .ok begun)
    (allowed : Session.Allowed (answer space) KeepsMark begun requests) :
    AgreesWithLog space maxKBytes requests := by
  have simulates : ∀ (s : Tuplestorestate T) (t : MarkedLog T) request, Refines s t →
      KeepsMark s request → ∃ reply s' t', answer space s request = .ok (reply, s') ∧
        logAnswer t request = .ok (reply, t') ∧ Refines s' t' :=
    fun _ _ request refines keeps => answer_simulates request refines keeps
  rcases refines_begin space maxKBytes with ⟨begun', begins', start⟩
  cases begins.symm.trans begins'
  rcases Session.run_of_simulation Refines simulates start allowed with
    ⟨answers, state, log, stored, logged, refines⟩
  refine ⟨begun, answers, state, log, begins, stored, logged, refines, fun n => ?_⟩
  rcases Session.run_of_simulation Refines simulates refines
    (@allowed_restorepos_get T space state n) with ⟨later, last, _, restored, reads, _⟩
  rcases run_get_eq n log.restore with ⟨_, fromMark⟩
  rw [Session.run_cons_of_ok (show logAnswer log .restorepos = .ok (none, log.restore) from rfl),
    fromMark] at reads
  simp only [MarkedLog.unread_restore, List.getElem?_drop, Except.ok.injEq, Prod.mk.injEq] at reads
  exact ⟨last, by rw [restored, reads.1]⟩

/-- A session agrees with the log at each of its ends exactly if every catch-up
finds the mark at the end of the array, or the tuples in the file. -/
theorem tuplestore_agreesWithLog_iff (space : ChunkSpace T) (maxKBytes : Int)
    (requests : List (StoreRequest T)) :
    (∀ before, before <+: requests → AgreesWithLog space maxKBytes before) ↔
      ∃ begun, beginMarkOnly space maxKBytes = .ok begun ∧
        Session.Allowed (answer space) KeepsMark begun requests := by
  rcases refines_begin space maxKBytes with ⟨begun, begins, start⟩
  constructor
  · intro agrees
    refine ⟨begun, begins, ?_⟩
    rw [Session.allowed_iff]
    intro before request after answers state split reached isCatchup status
    by_contra loses
    rcases agrees before ⟨request :: after, split.symm⟩ with
      ⟨begun', answers', state', log, begins', reached', _, ⟨eflags, base, rep⟩, _⟩
    cases begins.symm.trans begins'
    cases reached.symm.trans reached'
    have behind : before ++ [request] <+: requests := ⟨after, by rw [split]; simp⟩
    rcases agrees _ behind with ⟨begun', answers', state', _, begins', caughtUp, _, _, resumes⟩
    cases begins.symm.trans begins'
    rcases catchup_inMem space eflags status with ⟨left, leftEq, leftStatus, leftEflags, leftMark⟩
    have stepEq : answer space state request = .ok (none, left) := by
      rw [isCatchup]
      simp only [answer, leftEq, ok_bind, pure_eq_ok]
    rw [Session.run_append reached, Session.run_cons_of_ok stepEq, Session.run_nil] at caughtUp
    cases caughtUp
    -- The mark was before the end, so it is now before the start.
    have positions := rep.positions
    unfold Positions at positions
    rw [status] at positions
    rcases positions with ⟨memtuples, _, marked⟩
    have length : state.memtuples.length = log.entries.length - base := by
      rw [memtuples, List.length_drop]
    have inside := log.markPos_le
    have negative : state'.markposCurrent < 0 := by omega
    rcases resumes 1 with ⟨last, resumed⟩
    have faulty := @run_restorepos_get_of_negative T space state' leftStatus
      (by rw [leftEflags]; rfl)
      negative 0
    cases faulty.symm.trans resumed
  · rintro ⟨begun', begins', allowed⟩ before ⟨after, split⟩
    rw [← split] at allowed
    exact agreesWithLog_of_allowed begins' allowed.append_left

/-- With the mark between two tuples in memory a catch-up makes the restored
read access the array before its start, where the log returns the marked
tuple. -/
theorem tuplestore_catchup_losesMark :
    let space : ChunkSpace Nat := ⟨fun _ => 24, 48, fun size => 8 * size⟩
    let requests : List (StoreRequest Nat) :=
      [.put 1, .put 2, .get, .markpos, .catchup, .restorepos, .get]
    (do Session.run (answer space) (← beginMarkOnly space 1024) requests) = .error .invalidRead ∧
      ∃ log, Session.run logAnswer MarkedLog.empty requests =
        .ok ([none, none, some (some 1), none, none, none, some (some 2)], log) :=
  ⟨rfl, _, rfl⟩

end PgSkyline.Tuplestorestate
