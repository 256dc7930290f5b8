import PgSkyline.Fault
import Mathlib.Algebra.Ring.Nat
import Mathlib.Data.List.Basic

/-!
# Tuplestores

Translation of `utils/sort/tuplestore.c` for forward reads: a tuplestore keeps
its tuples in an array until the memory budget is exceeded and in a temporary
file from then on, with separate read and write positions.

A file position is the number of records before it, since every seek of the
module goes to a record boundary.  `long` is taken to have 64 bits, so the
memory accounting does not overflow.  Backward reads are left out: no caller in
the skyline executor asks for one.
-/

namespace PgSkyline

/-- What `GetMemoryChunkSpace` answers for the chunks that count against a
memory budget: a minimal tuple, a window slot, and an array of pointers. -/
structure ChunkSpace (T : Type) where
  tuple : T → Nat
  windowSlot : Nat
  pointerArray : Nat → Nat

/-- The `EXEC_FLAG_*` bits a tuplestore looks at. -/
structure ExecFlags where
  rewind : Bool
  backward : Bool
  mark : Bool
  deriving DecidableEq, Repr

inductive TupStoreStatus where
  | inMem
  | writeFile
  | readFile
  deriving DecidableEq, Repr

/-- A temporary file of tuple records with its seek position. -/
structure BufFile (T : Type) where
  records : List T
  pos : Nat
  deriving DecidableEq, Repr

namespace BufFile

variable {T : Type}

/-- `BufFileCreateTemp`. -/
def createTemp : BufFile T :=
  ⟨[], 0⟩

/-- `BufFileSeek` to an absolute position. -/
def seek (file : BufFile T) (pos : Nat) : BufFile T :=
  { file with pos }

/-- Write one record at the seek position. -/
def write (file : BufFile T) (tuple : T) : BufFile T :=
  ⟨file.records.take file.pos ++ tuple :: file.records.drop (file.pos + 1), file.pos + 1⟩

/-- Read the record at the seek position. -/
def read (file : BufFile T) : Option T × BufFile T :=
  match file.records[file.pos]? with
  | none => (none, file)
  | some tuple => (some tuple, { file with pos := file.pos + 1 })

end BufFile

structure Tuplestorestate (T : Type) where
  status : TupStoreStatus
  eflags : ExecFlags
  availMem : Int
  myfile : BufFile T
  /-- The array; its length is `memtupcount`. -/
  memtuples : List T
  memtupsize : Nat
  eofReached : Bool
  current : Int
  readposOffset : Nat
  writeposOffset : Nat
  markposCurrent : Int
  markposOffset : Nat
  deriving DecidableEq, Repr

/-- `sizeof(void *)`. -/
def sizeofPointer : Nat := 8

/-- `MaxAllocSize` of `utils/memutils.h`. -/
def maxAllocSize : Nat := 0x3fffffff

namespace Tuplestorestate

variable {T : Type} (space : ChunkSpace T)

/-- `tuplestore_begin_common`. -/
def beginCommon (eflags : ExecFlags) (maxKBytes : Int) : Tuplestorestate T where
  status := .inMem
  eflags := eflags
  availMem := maxKBytes * 1024 - space.pointerArray 1024
  myfile := BufFile.createTemp
  memtuples := []
  memtupsize := 1024
  eofReached := false
  current := 0
  readposOffset := 0
  writeposOffset := 0
  markposCurrent := 0
  markposOffset := 0

/-- `tuplestore_begin_heap`. -/
def beginHeap (randomAccess : Bool) (maxKBytes : Int) : Tuplestorestate T :=
  beginCommon space ⟨true, randomAccess, true⟩ maxKBytes

/-- `tuplestore_set_eflags`. -/
def setEflags (state : Tuplestorestate T) (eflags : ExecFlags) :
    Except Fault (Tuplestorestate T) := do
  assertThat (state.status == .inMem) "state->status == TSS_INMEM"
  assertThat (state.memtuples.length == 0) "state->memtupcount == 0"
  return { state with eflags }

/-- `writetup_heap`: the memory of the written tuple becomes available. -/
def writetup (state : Tuplestorestate T) (tuple : T) : Tuplestorestate T :=
  { state with
    myfile := state.myfile.write tuple
    availMem := state.availMem + space.tuple tuple }

/-- Remember the file position of the array element `i` if it is the current or
the marked one. -/
def notePositions (state : Tuplestorestate T) (i : Nat) : Tuplestorestate T :=
  { state with
    readposOffset := if (i : Int) = state.current then state.myfile.pos else state.readposOffset
    markposOffset :=
      if (i : Int) = state.markposCurrent then state.myfile.pos else state.markposOffset }

/-- The loop of `dumptuples` from the array element `i` on. -/
def dumpLoop (state : Tuplestorestate T) (i : Nat) : List T → Tuplestorestate T
  | [] => notePositions state i
  | tuple :: rest => dumpLoop (writetup space (notePositions state i) tuple) (i + 1) rest

/-- `dumptuples`: remove the tuples from memory and write them to tape. -/
def dumptuples (state : Tuplestorestate T) : Tuplestorestate T :=
  { dumpLoop space state 0 state.memtuples with memtuples := [] }

/-- Grow the array while one free slot is left, if the budget allows it. -/
def growMemtuples (state : Tuplestorestate T) : Tuplestorestate T :=
  if state.memtupsize - 1 ≤ state.memtuples.length ∧
      (state.memtupsize * sizeofPointer : Int) < state.availMem ∧
      state.memtupsize * 2 < maxAllocSize / sizeofPointer then
    { state with
      memtupsize := state.memtupsize * 2
      availMem := state.availMem + space.pointerArray state.memtupsize -
        space.pointerArray (state.memtupsize * 2) }
  else state

/-- `tuplestore_puttuple_common`. -/
def puttupleCommon (state : Tuplestorestate T) (tuple : T) : Tuplestorestate T :=
  match state.status with
  | .inMem =>
      let state := growMemtuples space state
      let memtuples := state.memtuples ++ [tuple]
      let state := { state with
        memtuples
        current := if state.eofReached then (memtuples.length : Int) else state.current }
      if state.memtuples.length < state.memtupsize ∧ 0 ≤ state.availMem then state
      else dumptuples space { state with myfile := BufFile.createTemp, status := .writeFile }
  | .writeFile => writetup space state tuple
  | .readFile =>
      let readposOffset := if state.eofReached then state.readposOffset else state.myfile.pos
      writetup space
        { state with
          readposOffset, myfile := state.myfile.seek state.writeposOffset, status := .writeFile }
        tuple

/-- `tuplestore_puttupleslot`. -/
def puttupleslot (state : Tuplestorestate T) (tuple : T) : Tuplestorestate T :=
  puttupleCommon space { state with availMem := state.availMem - space.tuple tuple } tuple

/-- The TSS_READFILE case of `tuplestore_gettuple`, reading forward. -/
def readForward (state : Tuplestorestate T) : Option T × Tuplestorestate T :=
  match state.myfile.read with
  | (none, myfile) => (none, { state with myfile, eofReached := true })
  | (some tuple, myfile) =>
      (some tuple, { state with myfile, availMem := state.availMem - space.tuple tuple })

/-- `tuplestore_gettupleslot` reading forward: the next tuple, or `none` with
the slot cleared. -/
def gettupleslot (state : Tuplestorestate T) : Except Fault (Option T × Tuplestorestate T) :=
  match state.status with
  | .inMem =>
      if state.current < (state.memtuples.length : Int) then
        if 0 ≤ state.current then
          .ok (state.memtuples[state.current.toNat]?,
            { state with current := state.current + 1 })
        else .error .invalidRead
      else .ok (none, { state with eofReached := true })
  | .writeFile =>
      if state.eofReached then .ok (none, state)
      else
        .ok (readForward space { state with
          writeposOffset := state.myfile.pos
          myfile := state.myfile.seek state.readposOffset
          status := .readFile })
  | .readFile => .ok (readForward space state)

/-- `tuplestore_trim`: remove all but `ntuples` tuples before `current`. -/
def trim (state : Tuplestorestate T) (ntuples : Int) : Except Fault (Tuplestorestate T) :=
  if state.status ≠ .inMem then .ok state
  else
    let nremove := state.current - ntuples
    if nremove ≤ 0 then .ok state
    else do
      assertThat (nremove ≤ state.memtuples.length) "nremove <= state->memtupcount"
      let removed := state.memtuples.take nremove.toNat
      return { state with
        availMem := state.availMem + ((removed.map space.tuple).sum : Nat)
        memtuples := state.memtuples.drop nremove.toNat
        current := state.current - nremove
        markposCurrent := state.markposCurrent - nremove }

/-- Neither backward scan nor rewind is required. -/
def canTrim (state : Tuplestorestate T) : Bool :=
  !state.eflags.backward && !state.eflags.rewind

/-- `tuplestore_rescan`. -/
def rescan (state : Tuplestorestate T) : Except Fault (Tuplestorestate T) := do
  assertThat state.eflags.rewind "state->eflags & EXEC_FLAG_REWIND"
  match state.status with
  | .inMem => return { state with eofReached := false, current := 0 }
  | .writeFile => return { state with eofReached := false, readposOffset := 0 }
  | .readFile => return { state with eofReached := false, myfile := state.myfile.seek 0 }

/-- `tuplestore_catchup`: move the current position to the write position. -/
def catchup (state : Tuplestorestate T) : Except Fault (Tuplestorestate T) := do
  assertThat state.eflags.mark "state->eflags & EXEC_FLAG_MARK"
  match state.status with
  | .inMem =>
      let state := { state with eofReached := false, current := (state.memtuples.length : Int) }
      if canTrim state then trim space state 0 else return state
  | .writeFile => return { state with eofReached := false, readposOffset := state.myfile.pos }
  | .readFile =>
      return { state with eofReached := false, myfile := state.myfile.seek state.writeposOffset }

/-- `tuplestore_markpos`. -/
def markpos (state : Tuplestorestate T) : Except Fault (Tuplestorestate T) := do
  assertThat state.eflags.mark "state->eflags & EXEC_FLAG_MARK"
  match state.status with
  | .inMem =>
      let state := { state with markposCurrent := state.current }
      if canTrim state then trim space state 1 else return state
  | .writeFile =>
      return { state with
        markposOffset := if state.eofReached then state.myfile.pos else state.readposOffset }
  | .readFile => return { state with markposOffset := state.myfile.pos }

/-- `tuplestore_restorepos`. -/
def restorepos (state : Tuplestorestate T) : Except Fault (Tuplestorestate T) := do
  assertThat state.eflags.mark "state->eflags & EXEC_FLAG_MARK"
  match state.status with
  | .inMem => return { state with eofReached := false, current := state.markposCurrent }
  | .writeFile => return { state with eofReached := false, readposOffset := state.markposOffset }
  | .readFile =>
      return { state with eofReached := false, myfile := state.myfile.seek state.markposOffset }

end Tuplestorestate

end PgSkyline
