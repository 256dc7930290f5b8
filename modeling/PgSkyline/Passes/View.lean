import PgSkyline.Executor.Node
import PgSkyline.Passes.Core
import PgSkyline.Storage.Fifo

/-!
# What a node's pointers stand for

A window method owns at most one window and two temporary files.  The predicates
of this module say which objects are live, that the state points to each of
them, and what they hold; one lemma for each operation of the methods says how
they change.
-/

namespace PgSkyline

open TupleWindowState Tuplestorestate

variable {T D R : Type} (env : ExecEnv T D R)

/-! ## Pointers -/

section Pointers

variable {α : Type} {table : HandleTable α} {pointer other : Option Nat} {object : α}

/-- The pointer leads to a live object. -/
def PointsTo (table : HandleTable α) (pointer : Option Nat) (object : α) : Prop :=
  ∃ handle, pointer = some handle ∧ table.read handle = some object

theorem PointsTo.deref (found : PointsTo table pointer object) :
    deref table pointer = .ok object := by
  obtain ⟨handle, rfl, read⟩ := found
  exact deref_of_read read

theorem PointsTo.isSome (found : PointsTo table pointer object) : pointer.isSome = true := by
  obtain ⟨handle, rfl, _⟩ := found
  rfl

theorem PointsTo.assign (found : PointsTo table pointer object) (object' : α) :
    PointsTo (assign table pointer object') pointer object' := by
  obtain ⟨handle, rfl, read⟩ := found
  exact ⟨handle, rfl, by
    simp [PgSkyline.assign, HandleTable.read_write (HandleTable.live_of_read read)]⟩

theorem PointsTo.assign_other {object' : α} (found : PointsTo table pointer object)
    (kept : PointsTo table other object') (apart : pointer ≠ other) (object'' : α) :
    PointsTo (PgSkyline.assign table pointer object'') other object' := by
  obtain ⟨handle, rfl, read⟩ := found
  obtain ⟨otherHandle, rfl, otherRead⟩ := kept
  have different : otherHandle ≠ handle := fun same => apart (by rw [same])
  exact ⟨otherHandle, rfl, by simp [PgSkyline.assign,
    HandleTable.read_write (HandleTable.live_of_read read), different, otherRead]⟩

theorem PointsTo.live_of_assign {handle : Nat} {object' : α}
    (found : PointsTo table pointer object)
    (live : (PgSkyline.assign table pointer object').Live handle) : table.Live handle := by
  obtain ⟨target, rfl, read⟩ := found
  by_cases same : handle = target
  · exact same ▸ HandleTable.live_of_read read
  · simpa [HandleTable.Live, PgSkyline.assign,
      HandleTable.read_write (HandleTable.live_of_read read), same] using live

/-- Ending an object keeps the others, and leaves nothing behind its pointer. -/
theorem PointsTo.endObject (found : PointsTo table pointer object) :
    ∃ table', endObject table pointer = .ok table' ∧
      (∀ handle, table'.Live handle → table.Live handle ∧ pointer ≠ some handle) ∧
      ∀ other object', pointer ≠ other → PointsTo table other object' →
        PointsTo table' other object' := by
  obtain ⟨target, rfl, read⟩ := found
  refine ⟨table.release target, endObject_of_read read, fun handle live => ?_, ?_⟩
  · by_cases same : handle = target
    · simp [HandleTable.Live, HandleTable.read_release, same] at live
    · refine ⟨by simpa [HandleTable.Live, HandleTable.read_release, same] using live, ?_⟩
      exact fun contra => same (Option.some.inj contra).symm
  · rintro _ object' apart ⟨handle, rfl, otherRead⟩
    have different : handle ≠ target := fun same => apart (by rw [same])
    exact ⟨handle, rfl, by simp [HandleTable.read_release, different, otherRead]⟩

theorem pointsTo_alloc (table : HandleTable α) (object : α) :
    PointsTo (table.alloc object).2 (some (table.alloc object).1) object :=
  ⟨_, rfl, by simp [HandleTable.read_alloc]⟩

/-- Opening an object keeps the others, and its pointer is new. -/
theorem PointsTo.alloc (found : PointsTo table pointer object) (object' : α) :
    PointsTo (table.alloc object').2 pointer object ∧
      pointer ≠ some (table.alloc object').1 := by
  obtain ⟨handle, rfl, read⟩ := found
  have different := HandleTable.ne_alloc_of_live (HandleTable.live_of_read read) object'
  exact ⟨⟨handle, rfl, by simp [HandleTable.read_alloc, different, read]⟩,
    fun same => different (Option.some.inj same)⟩

theorem live_of_alloc {handle : Nat} (live : (table.alloc object).2.Live handle) :
    some (table.alloc object).1 = some handle ∨ table.Live handle := by
  by_cases same : handle = (table.alloc object).1
  · exact Or.inl (by rw [same])
  · exact Or.inr (by simpa [HandleTable.Live, HandleTable.read_alloc, same] using live)

end Pointers

/-! ## Windows -/

/-- The pointer leads to the window, and no other window is live. -/
structure HoldsWindow (windows : HandleTable (TupleWindowState T R)) (pointer : Option Nat)
    (window : TupleWindowState T R) : Prop where
  found : PointsTo windows pointer window
  owned : ∀ handle, windows.Live handle → pointer = some handle

theorem HoldsWindow.assign {windows : HandleTable (TupleWindowState T R)} {pointer : Option Nat}
    {window : TupleWindowState T R} (holds : HoldsWindow windows pointer window)
    (window' : TupleWindowState T R) :
    HoldsWindow (assign windows pointer window') pointer window' :=
  ⟨holds.found.assign window',
    fun handle live => holds.owned handle (holds.found.live_of_assign live)⟩

/-- Ending the window leaves none live. -/
theorem HoldsWindow.endObject {windows : HandleTable (TupleWindowState T R)}
    {pointer : Option Nat} {window : TupleWindowState T R}
    (holds : HoldsWindow windows pointer window) :
    ∃ windows', endObject windows pointer = .ok windows' ∧ ∀ handle, ¬ windows'.Live handle := by
  obtain ⟨windows', ended, live, _⟩ := holds.found.endObject
  exact ⟨windows', ended, fun handle stillLive =>
    (live handle stillLive).2 (holds.owned handle (live handle stillLive).1)⟩

/-- A window opened while none is live is the only one. -/
theorem holdsWindow_alloc {windows : HandleTable (TupleWindowState T R)}
    (none : ∀ handle, ¬ windows.Live handle) (window : TupleWindowState T R) :
    HoldsWindow (windows.alloc window).2 (some (windows.alloc window).1) window :=
  ⟨pointsTo_alloc windows window,
    fun handle live => (live_of_alloc live).resolve_right (none handle)⟩

theorem onWindow_eq {state : SkylineState T R} {window : TupleWindowState T R}
    (holds : HoldsWindow state.windows state.window window)
    (operation : TupleWindowState T R → TupleWindowState T R) :
    onWindow state operation = .ok { state with
      windows := assign state.windows state.window (operation window) } := by
  simp only [onWindow, holds.found.deref, ok_bind, pure_eq_ok]

/-! ## Temporary files -/

/-- The fields of the state that say where tuples come from and go to. -/
structure Files (T : Type) where
  source : SkylineSource
  outerPlanState : OuterPlan T
  tempIn : Option Nat
  tempOut : Option Nat
  stores : HandleTable (Tuplestorestate T)

def SkylineState.files (state : SkylineState T R) : Files T :=
  ⟨state.source, state.outerPlanState, state.tempIn, state.tempOut, state.stores⟩

namespace Files

/-- No temporary file is open. -/
structure Closed (files : Files T) : Prop where
  tempIn : files.tempIn = none
  tempOut : files.tempOut = none
  owned : ∀ handle, ¬ files.stores.Live handle

/-- The file `tempOut` is open for writing and holds `overflow`. -/
def OutHolds (files : Files T) (overflow : List T) : Prop :=
  ∃ store, PointsTo files.stores files.tempOut store ∧ store.Holds overflow ∧ store.Writable

/-- The only open file is `tempOut`, and it holds `overflow`. -/
structure Writing (files : Files T) (overflow : List T) : Prop where
  tempIn : files.tempIn = none
  tempOut : files.OutHolds overflow
  owned : ∀ handle, files.stores.Live handle → files.tempOut = some handle

/-- What the current source still delivers. -/
def SourceHolds (files : Files T) (pending : List T) : Prop :=
  match files.source with
  | .outer => files.tempIn = none ∧ files.outerPlanState.upcoming = pending
  | .temp => ∃ store, PointsTo files.stores files.tempIn store ∧ store.Holds pending

/-- The source still delivers `pending` and `tempOut` holds `overflow`. -/
structure Reading (files : Files T) (pending overflow : List T) : Prop where
  source : files.SourceHolds pending
  tempOut : files.OutHolds overflow
  apart : files.tempIn ≠ files.tempOut
  owned : ∀ handle, files.stores.Live handle →
    files.tempIn = some handle ∨ files.tempOut = some handle

end Files

theorem reading_beginScan {state : SkylineState T R} (closed : state.files.Closed) :
    (beginScan env state).files.Reading state.outerPlanState.upcoming [] where
  source := ⟨rfl, rfl⟩
  tempOut := ⟨_, pointsTo_alloc state.stores (beginHeap env.space false 0),
    holds_beginHeap false 0, writable_beginHeap false 0⟩
  apart := by simp [beginScan, beginTempOut, SkylineState.files]
  owned handle live := Or.inr ((live_of_alloc live).resolve_right (closed.owned handle))

/-- Fetching from an exhausted source. -/
theorem fetchSlot_nil {state : SkylineState T R} {overflow : List T}
    (reading : state.files.Reading [] overflow) :
    ∃ outerPlanState stores extraSlot,
      fetchSlot env state = .ok (none, { state with outerPlanState, stores, extraSlot }) ∧
        (Files.mk state.source outerPlanState state.tempIn state.tempOut stores).Reading []
          overflow := by
  obtain ⟨source, ⟨out, found, holds⟩, apart, owned⟩ := reading
  unfold fetchSlot
  unfold Files.SourceHolds at source
  simp only [SkylineState.files] at source found apart owned
  cases sourceEq : state.source with
  | outer =>
      rw [sourceEq] at source
      have fetched := OuterPlan.procNode_of_upcoming_nil source.2
      refine ⟨state.outerPlanState.refresh, state.stores, state.extraSlot, by
        simp only [fetched, pure_eq_ok], ?_⟩
      refine ⟨⟨source.1, ?_⟩, ⟨out, found, holds⟩, apart, owned⟩
      simpa [OuterPlan.upcoming] using source.2
  | temp =>
      rw [sourceEq] at source
      obtain ⟨store, foundIn, holdsIn⟩ := source
      obtain ⟨store', fetched, holds'⟩ := holdsIn.gettupleslot_nil env.space
      refine ⟨state.outerPlanState, assign state.stores state.tempIn store', none, by
        simp only [foundIn.deref, fetched, ok_bind, pure_eq_ok], ?_⟩
      exact ⟨⟨store', foundIn.assign store', holds'⟩,
        ⟨out, foundIn.assign_other found apart store', holds⟩, apart,
        fun handle live => owned handle (foundIn.live_of_assign live)⟩

/-- Fetching the next tuple of the source. -/
theorem fetchSlot_cons {state : SkylineState T R} {slot : T} {rest overflow : List T}
    (reading : state.files.Reading (slot :: rest) overflow) :
    ∃ outerPlanState stores extraSlot,
      fetchSlot env state = .ok (some slot, { state with outerPlanState, stores, extraSlot }) ∧
        (Files.mk state.source outerPlanState state.tempIn state.tempOut stores).Reading rest
          overflow := by
  obtain ⟨source, ⟨out, found, holds⟩, apart, owned⟩ := reading
  unfold fetchSlot
  unfold Files.SourceHolds at source
  simp only [SkylineState.files] at source found apart owned
  cases sourceEq : state.source with
  | outer =>
      rw [sourceEq] at source
      obtain ⟨fetched, upcoming⟩ := OuterPlan.procNode_of_upcoming_cons source.2
      refine ⟨state.outerPlanState.procNode.2, state.stores, state.extraSlot, by
        simp only [fetched, pure_eq_ok], ?_⟩
      exact ⟨⟨source.1, upcoming⟩, ⟨out, found, holds⟩, apart, owned⟩
  | temp =>
      rw [sourceEq] at source
      obtain ⟨store, foundIn, holdsIn⟩ := source
      obtain ⟨store', fetched, holds', _⟩ := holdsIn.gettupleslot_cons env.space
      refine ⟨state.outerPlanState, assign state.stores state.tempIn store', some slot, by
        simp only [foundIn.deref, fetched, ok_bind, pure_eq_ok], ?_⟩
      exact ⟨⟨store', foundIn.assign store', holds'⟩,
        ⟨out, foundIn.assign_other found apart store', holds⟩, apart,
        fun handle live => owned handle (foundIn.live_of_assign live)⟩

theorem writeTempOut_eq {state : SkylineState T R} {pending overflow : List T}
    (reading : state.files.Reading pending overflow) (slot : T) :
    ∃ stores, writeTempOut env state slot = .ok { state with
        stores, timestampOut := state.timestampOut + 1 } ∧
      (Files.mk state.source state.outerPlanState state.tempIn state.tempOut stores).Reading pending
        (overflow ++ [slot]) := by
  obtain ⟨source, ⟨out, found, holds, writable⟩, apart, owned⟩ := reading
  simp only [SkylineState.files] at found apart owned
  obtain ⟨holds', writable'⟩ := holds.puttupleslot env.space writable slot
  refine ⟨assign state.stores state.tempOut (out.puttupleslot env.space slot), by
    simp only [writeTempOut, found.deref, ok_bind, pure_eq_ok], ?_, ?_, apart, ?_⟩
  · unfold Files.SourceHolds at source ⊢
    simp only [SkylineState.files] at source ⊢
    cases sourceEq : state.source with
    | outer => simpa only [sourceEq] using source
    | temp =>
        simp only [sourceEq] at source
        obtain ⟨store, foundIn, holdsIn⟩ := source
        exact ⟨store, found.assign_other foundIn (Ne.symm apart) _, holdsIn⟩
  · exact ⟨_, found.assign _, holds', writable'⟩
  · exact fun handle live => owned handle (found.live_of_assign live)

/-- Closing an exhausted source. -/
theorem endTempIn_eq {state : SkylineState T R} {pending overflow : List T}
    (reading : state.files.Reading pending overflow) :
    ∃ stores, endTempIn state = .ok { state with stores, tempIn := none } ∧
      (Files.mk state.source state.outerPlanState none state.tempOut stores).Writing overflow := by
  obtain ⟨source, ⟨out, found, holds⟩, apart, owned⟩ := reading
  unfold endTempIn
  unfold Files.SourceHolds at source
  simp only [SkylineState.files] at source found apart owned
  cases sourceEq : state.source with
  | outer =>
      rw [sourceEq] at source
      have unchanged : { state with source := .outer, tempIn := none } = state := by
        rw [← sourceEq, ← source.1]
      refine ⟨state.stores, by rw [unchanged, pure_eq_ok], rfl, ⟨out, found, holds⟩,
        fun handle live => ?_⟩
      rcases owned handle live with contra | tempOut
      · exact absurd (source.1.symm.trans contra) (by simp)
      · exact tempOut
  | temp =>
      rw [sourceEq] at source
      obtain ⟨store, foundIn, _⟩ := source
      obtain ⟨stores, ended, live, kept⟩ := foundIn.endObject
      refine ⟨stores, by simp only [ended, ok_bind, pure_eq_ok], rfl,
        ⟨out, kept _ _ apart found, holds⟩, fun handle stillLive => ?_⟩
      exact (owned handle (live handle stillLive).1).resolve_left (live handle stillLive).2

/-- Closing `tempOut` leaves no file open. -/
theorem endTempOut_eq {state : SkylineState T R} {overflow : List T}
    (writing : state.files.Writing overflow) :
    ∃ stores, endTempOut state = .ok { state with stores, tempOut := none } ∧
      (Files.mk state.source state.outerPlanState state.tempIn none stores).Closed := by
  obtain ⟨tempIn, ⟨out, found, holds⟩, owned⟩ := writing
  obtain ⟨stores, ended, live, _⟩ := found.endObject
  simp only [SkylineState.files] at ended
  refine ⟨stores, by simp only [endTempOut, ended, ok_bind, pure_eq_ok], tempIn, rfl, ?_⟩
  exact fun handle stillLive =>
    (live handle stillLive).2 (owned handle (live handle stillLive).1)

/-- The overflow of one pass is the source of the next. -/
theorem reading_switchTemp {state : SkylineState T R} {overflow : List T}
    (writing : state.files.Writing overflow) :
    (switchTemp env state).files.Reading overflow [] := by
  obtain ⟨_, ⟨out, found, holds, _⟩, owned⟩ := writing
  simp only [SkylineState.files] at found owned
  obtain ⟨foundIn, apart⟩ := found.alloc (beginHeap env.space false 0)
  refine ⟨⟨out, foundIn, holds⟩, ?_, apart, fun handle live => ?_⟩
  · exact ⟨_, pointsTo_alloc state.stores (beginHeap env.space false 0),
      holds_beginHeap false 0, writable_beginHeap false 0⟩
  · rcases live_of_alloc live with new | old
    · exact Or.inr new
    · exact Or.inl (owned handle old)

end PgSkyline
