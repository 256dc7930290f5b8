import PgSkyline.Fault
import PgSkyline.Storage.Tuplestore

/-!
# Tuple windows

Translation of `utils/skyline/tuplewindow.c`.  The doubly linked list with its
sentinel `nil` is a list of slots; a pointer into it is a position, and the
position behind the last slot is `nil`.  Inserting or removing a slot renumbers
the positions behind it, so both cursors are moved along.

`int` and `long` fields are integers: a window never holds 2^31 slots, and the
memory accounting stays within 64 bits.
-/

namespace PgSkyline

inductive TupleWindowPolicy where
  | append
  | prepend
  | entropy
  | random
  deriving DecidableEq, Repr

structure TupleWindowSlot (T R : Type) where
  tuple : T
  timestamp : Nat
  rank : R
  deriving DecidableEq, Repr

/-- The tuples in these slots. -/
abbrev tuplesOf {T R : Type} (slots : List (TupleWindowSlot T R)) : List T :=
  slots.map TupleWindowSlot.tuple

structure TupleWindowState (T R : Type) where
  availMem : Int
  /-- If -1 only restrict mem. -/
  availSlots : Int
  maxKBytes : Int
  maxSlots : Int
  policy : TupleWindowPolicy
  slots : List (TupleWindowSlot T R)
  current : Nat
  insertrank : R
  /-- `none` is a pointer to a freed slot. -/
  rankinsert : Option Nat
  deriving DecidableEq, Repr

/-- The position of a pointer after the slot at `pos` was unlinked.  A pointer
to the unlinked slot itself is set to its successor. -/
def positionAfterRemove (pos pointer : Nat) : Nat :=
  if pos < pointer then pointer - 1 else pointer

/-- The position of a pointer after a slot was linked in before `pos`. -/
def positionAfterInsert (pos pointer : Nat) : Nat :=
  if pos ≤ pointer then pointer + 1 else pointer

theorem insertIdx_append_length {α : Type} (front back : List α) (a : α) :
    (front ++ back).insertIdx front.length a = front ++ a :: back := by
  induction front with
  | nil => rfl
  | cons b front ih => rw [List.cons_append, List.length_cons, List.insertIdx_succ_cons, ih]; rfl

/-- The entry at a position and those around it. -/
theorem exists_split_at {α : Type} {entries : List α} {pos : Nat} (inside : pos < entries.length) :
    ∃ front a back, entries = front ++ a :: back ∧ pos = front.length := by
  refine ⟨entries.take pos, entries[pos], entries.drop (pos + 1), ?_, ?_⟩
  · rw [List.getElem_cons_drop, List.take_append_drop]
  · rw [List.length_take_of_le (Nat.le_of_lt inside)]

/-- The policies that keep the window ordered by rank. -/
def TupleWindowPolicy.isRanked : TupleWindowPolicy → Bool
  | .append | .prepend => false
  | .entropy | .random => true

namespace TupleWindowState

variable {T R : Type} (space : ChunkSpace T)

/-- `tuplewindow_begin`; `negDblMax` is `-DBL_MAX`. -/
def begin (negDblMax : R) (maxKBytes maxSlots : Int) (policy : TupleWindowPolicy) :
    TupleWindowState T R where
  availMem := maxKBytes * 1024
  availSlots := maxSlots
  maxKBytes := maxKBytes
  maxSlots := maxSlots
  policy := policy
  slots := []
  current := 0
  insertrank := negDblMax
  rankinsert := some 0

/-- `tuplewindow_has_freespace`. -/
def hasFreespace (state : TupleWindowState T R) : Bool :=
  if state.availSlots ≠ -1 then decide (0 < state.availSlots)
  else !decide (state.availMem < 0)

/-- `tuplewindow_removeslot`. -/
def removeSlot (state : TupleWindowState T R) (pos : Nat) :
    Except Fault (TupleWindowState T R) :=
  match state.slots[pos]? with
  | none => .error (.assertion "slot != state->nil")
  | some slot => .ok { state with
      slots := state.slots.eraseIdx pos
      availMem := state.availMem + space.tuple slot.tuple + space.windowSlot
      availSlots := if state.availSlots ≠ -1 then state.availSlots + 1 else state.availSlots
      current := positionAfterRemove pos state.current
      rankinsert := state.rankinsert.map (positionAfterRemove pos) }

/-- `tuplewindow_rewind`. -/
def rewind (state : TupleWindowState T R) : TupleWindowState T R :=
  { state with current := 0, rankinsert := some 0 }

/-- `tuplewindow_ateof`. -/
def atEof (state : TupleWindowState T R) : Bool :=
  state.current == state.slots.length

/-- `tuplewindow_movenext`. -/
def moveNext [LE R] [DecidableLE R] (state : TupleWindowState T R) : TupleWindowState T R :=
  match state.slots[state.current]? with
  | none => state
  | some slot => { state with
      rankinsert :=
        if state.policy.isRanked = true ∧ state.rankinsert = some state.current ∧
            state.insertrank ≤ slot.rank then
          some (state.current + 1)
        else state.rankinsert
      current := state.current + 1 }

/-- `tuplewindow_timestampcurrent`. -/
def timestampCurrent (state : TupleWindowState T R) : Except Fault Nat :=
  match state.slots[state.current]? with
  | none => .error (.assertion "state->current != state->nil")
  | some slot => .ok slot.timestamp

/-- `tuplewindow_gettupleslot`. -/
def getTupleSlot (state : TupleWindowState T R) (removeit : Bool) :
    Except Fault (Option T × TupleWindowState T R) :=
  match state.slots[state.current]? with
  | none => .ok (none, state)
  | some slot =>
      if removeit then do
        let state ← removeSlot space state state.current
        return (some slot.tuple, state)
      else return (some slot.tuple, state)

/-- `tuplewindow_removecurrent`. -/
def removeCurrent (state : TupleWindowState T R) : Except Fault (TupleWindowState T R) := do
  assertThat (!atEof state) "state->current != state->nil"
  removeSlot space state state.current

/-- `tuplewindow_clean`.  The rank cursor is not reset. -/
def clean (state : TupleWindowState T R) : TupleWindowState T R :=
  { state with
    slots := []
    current := 0
    rankinsert := if state.rankinsert = some state.slots.length then some 0 else none
    availMem := state.maxKBytes * 1024
    availSlots := state.maxSlots }

/-- `tuplewindow_setinsertrank`. -/
def setInsertRank (state : TupleWindowState T R) (rank : R) :
    Except Fault (TupleWindowState T R) := do
  assertThat state.policy.isRanked "policy == TUP_WIN_POLICY_ENTROPY || TUP_WIN_POLICY_RANDOM"
  assertThat (state.current == 0) "state->current == state->nil->next"
  return { state with insertrank := rank }

/-- `tuplewindow_puttupleslot_impl`. -/
def putTupleSlotImpl (state : TupleWindowState T R) (tuple : T) (timestamp : Nat)
    (insertbefore : Nat) (rank : R) : Except Fault (TupleWindowState T R) := do
  assertThat (state.availSlots == -1 || decide (0 < state.availSlots)) "state->availSlots > 0"
  return { state with
    availMem := state.availMem - space.tuple tuple - space.windowSlot
    availSlots := if state.availSlots ≠ -1 then state.availSlots - 1 else state.availSlots
    slots := state.slots.insertIdx insertbefore ⟨tuple, timestamp, rank⟩
    current := positionAfterInsert insertbefore state.current
    rankinsert := state.rankinsert.map (positionAfterInsert insertbefore) }

/-- The unranked policies insert at a fixed place. -/
def putUnranked (negDblMax : R) (state : TupleWindowState T R) (tuple : T) (timestamp : Nat)
    (insertbefore : Nat) (forced : Bool) : Except Fault (TupleWindowState T R) :=
  if forced then
    if hasFreespace state then
      putTupleSlotImpl space state tuple timestamp insertbefore negDblMax
    else return state
  else do
    assertThat (hasFreespace state) "tuplewindow_has_freespace(state)"
    putTupleSlotImpl space state tuple timestamp insertbefore negDblMax

/-- Before a forced ranked insert into a full window: remove the slot with the
lowest ranking. -/
def makeRoom [LT R] [DecidableLT R] (state : TupleWindowState T R) (forced : Bool) :
    Except Fault (TupleWindowState T R) :=
  if forced && !hasFreespace state then
    match state.slots.getLast? with
    | none => .error (.assertion "state->nil->prev != state->nil")
    | some last =>
        if last.rank < state.insertrank then removeSlot space state (state.slots.length - 1)
        else return state
  else return state

/-- The ranked policies insert at the rank cursor, which keeps the window
ordered by the rank. -/
def putRanked [LT R] [DecidableLT R] (state : TupleWindowState T R) (tuple : T)
    (timestamp : Nat) (forced : Bool) : Except Fault (TupleWindowState T R) := do
  let state ← makeRoom space state forced
  if hasFreespace state then
    match state.rankinsert with
    | none => .error .invalidRead
    | some insertbefore =>
        putTupleSlotImpl space state tuple timestamp insertbefore state.insertrank
  else return state

/-- `tuplewindow_puttupleslot`. -/
def putTupleSlot [LT R] [DecidableLT R] (negDblMax : R) (state : TupleWindowState T R)
    (tuple : T) (timestamp : Nat) (forced : Bool) : Except Fault (TupleWindowState T R) :=
  match state.policy with
  | .append => putUnranked space negDblMax state tuple timestamp state.slots.length forced
  | .prepend => putUnranked space negDblMax state tuple timestamp 0 forced
  | .entropy | .random => putRanked space state tuple timestamp forced

end TupleWindowState

end PgSkyline
