import PgSkyline.Lib.Ring
import PgSkyline.Window.Core

/-!
# Tuple windows with pointers

Translation of `utils/skyline/tuplewindow.c` at the level of its pointers: the
slots are chunks of memory that are linked in a ring through the sentinel `nil`,
and `current` and `rankinsert` are addresses.  A chunk that was freed is never
handed out again here, so a pointer to it stays invalid.

The tuple in a slot belongs to the window from the copy that
`tuplewindow_puttupleslot_impl` makes until the slot is removed, so it is part
of the slot; freeing it does not change anything the window can see.
-/

namespace PgSkyline

/-- Follow a pointer into the memory, which is invalid behind `pfree`. -/
def follow {α : Type} : Option α → Except Fault α
  | none => .error .invalidRead
  | some object => .ok object

/-- Use a pointer that must not be `NULL`. -/
def nonNull {α : Type} : Option α → Except Fault α
  | none => .error .nullPointer
  | some object => .ok object

@[simp]
theorem follow_some {α : Type} (object : α) : follow (some object) = .ok object :=
  rfl

/-- `struct TupleWindowState`, and the memory of its slots. -/
structure LinkedWindow (T R : Type) where
  availMem : Int
  /-- If -1 only restrict mem. -/
  availSlots : Int
  maxKBytes : Int
  maxSlots : Int
  policy : TupleWindowPolicy
  nil : Nat
  current : Nat
  insertrank : R
  rankinsert : Nat
  /-- The chunks of type `TupleWindowSlot`; the sentinel has no tuple. -/
  slots : HandleTable (Ring.Cell (TupleWindowSlot (Option T) R))

namespace LinkedWindow

variable {T R : Type} (space : ChunkSpace T)

/-- `tuplewindow_begin`; `negDblMax` and `dblMax` are `-DBL_MAX` and `DBL_MAX`. -/
def begin (negDblMax dblMax : R) (maxKBytes maxSlots : Int) (policy : TupleWindowPolicy) :
    LinkedWindow T R where
  availMem := maxKBytes * 1024
  availSlots := maxSlots
  maxKBytes := maxKBytes
  maxSlots := maxSlots
  policy := policy
  nil := 0
  current := 0
  insertrank := negDblMax
  rankinsert := 0
  slots := (HandleTable.empty.alloc ⟨⟨none, 0, dblMax⟩, 0, 0⟩).2

/-- `tuplewindow_has_freespace`. -/
def hasFreespace (state : LinkedWindow T R) : Bool :=
  if state.availSlots ≠ -1 then decide (0 < state.availSlots)
  else !decide (state.availMem < 0)

/-- `tuplewindow_removeslot`.  Whether the tuple is freed here or by the slot it
was stored in makes no difference to the window. -/
def removeSlot (state : LinkedWindow T R) (slot : Nat) : Except Fault (LinkedWindow T R) := do
  assertThat (slot != state.nil) "slot != state->nil"
  let chunk ← follow (state.slots.read slot)
  let slots ← follow (Ring.unlink state.slots slot)
  let tuple ← nonNull chunk.value.tuple
  return { state with
    slots := slots.release slot
    availMem := state.availMem + space.tuple tuple + space.windowSlot
    availSlots := if state.availSlots ≠ -1 then state.availSlots + 1 else state.availSlots
    current := if state.current = slot then chunk.next else state.current
    rankinsert := if state.rankinsert = slot then chunk.next else state.rankinsert }

/-- `tuplewindow_rewind`. -/
def rewind (state : LinkedWindow T R) : Except Fault (LinkedWindow T R) := do
  let first ← follow (Ring.nextOf state.slots state.nil)
  return { state with current := first, rankinsert := first }

/-- `tuplewindow_ateof`. -/
def atEof (state : LinkedWindow T R) : Bool :=
  state.current == state.nil

/-- `tuplewindow_movenext`. -/
def moveNext [LE R] [DecidableLE R] (state : LinkedWindow T R) :
    Except Fault (LinkedWindow T R) :=
  if atEof state then return state
  else do
    let chunk ← follow (state.slots.read state.current)
    return { state with
      rankinsert :=
        if state.policy.isRanked = true ∧ state.current = state.rankinsert ∧
            state.insertrank ≤ chunk.value.rank then
          chunk.next
        else state.rankinsert
      current := chunk.next }

/-- `tuplewindow_timestampcurrent`. -/
def timestampCurrent (state : LinkedWindow T R) : Except Fault Nat := do
  assertThat (!atEof state) "state->current != state->nil"
  let chunk ← follow (state.slots.read state.current)
  return chunk.value.timestamp

/-- `tuplewindow_gettupleslot`. -/
def getTupleSlot (state : LinkedWindow T R) (removeit : Bool) :
    Except Fault (Option T × LinkedWindow T R) :=
  if atEof state then return (none, state)
  else do
    let chunk ← follow (state.slots.read state.current)
    let tuple ← nonNull chunk.value.tuple
    if removeit then do
      let state ← removeSlot space state state.current
      return (some tuple, state)
    else return (some tuple, state)

/-- `tuplewindow_removecurrent`. -/
def removeCurrent (state : LinkedWindow T R) : Except Fault (LinkedWindow T R) := do
  assertThat (!atEof state) "state->current != state->nil"
  removeSlot space state state.current

/-- The loop of `tuplewindow_clean` from `slot` on.  It frees one chunk in every
iteration, so it ends before there are none left. -/
def freeSlots (nil : Nat) : Nat → HandleTable (Ring.Cell (TupleWindowSlot (Option T) R)) → Nat →
    Except Fault (HandleTable (Ring.Cell (TupleWindowSlot (Option T) R)))
  | 0, _, _ => .error .loopBound
  | bound + 1, slots, slot =>
      if slot = nil then return slots
      else do
        let chunk ← follow (slots.read slot)
        let _ ← nonNull chunk.value.tuple
        freeSlots nil bound (slots.release slot) chunk.next

/-- `tuplewindow_clean`.  The rank cursor is not reset. -/
def clean (state : LinkedWindow T R) : Except Fault (LinkedWindow T R) := do
  let first ← follow (Ring.nextOf state.slots state.nil)
  let slots ← freeSlots state.nil state.slots.cells.length state.slots first
  let slots ← follow (Ring.setNext slots state.nil state.nil)
  let slots ← follow (Ring.setPrev slots state.nil state.nil)
  return { state with
    slots
    current := state.nil
    availMem := state.maxKBytes * 1024
    availSlots := state.maxSlots }

/-- `tuplewindow_setinsertrank`. -/
def setInsertRank (state : LinkedWindow T R) (rank : R) : Except Fault (LinkedWindow T R) := do
  assertThat state.policy.isRanked "policy == TUP_WIN_POLICY_ENTROPY || TUP_WIN_POLICY_RANDOM"
  let first ← follow (Ring.nextOf state.slots state.nil)
  assertThat (state.current == first) "state->current == state->nil->next"
  return { state with insertrank := rank }

/-- `tuplewindow_puttupleslot_impl`. -/
def putTupleSlotImpl (state : LinkedWindow T R) (tuple : T) (timestamp : Nat)
    (insertbefore : Nat) (rank : R) : Except Fault (LinkedWindow T R) := do
  assertThat (state.availSlots == -1 || decide (0 < state.availSlots)) "state->availSlots > 0"
  let slots ← follow (Ring.insertBefore state.slots insertbefore ⟨some tuple, timestamp, rank⟩)
  return { state with
    slots
    availMem := state.availMem - space.tuple tuple - space.windowSlot
    availSlots := if state.availSlots ≠ -1 then state.availSlots - 1 else state.availSlots }

/-- The unranked policies insert at a fixed place. -/
def putUnranked (negDblMax : R) (state : LinkedWindow T R) (tuple : T) (timestamp : Nat)
    (insertbefore : Nat) (forced : Bool) : Except Fault (LinkedWindow T R) :=
  if forced then
    if hasFreespace state then
      putTupleSlotImpl space state tuple timestamp insertbefore negDblMax
    else return state
  else do
    assertThat (hasFreespace state) "tuplewindow_has_freespace(state)"
    putTupleSlotImpl space state tuple timestamp insertbefore negDblMax

/-- Before a forced ranked insert into a full window: remove the slot with the
lowest ranking. -/
def makeRoom [LT R] [DecidableLT R] (state : LinkedWindow T R) (forced : Bool) :
    Except Fault (LinkedWindow T R) :=
  if forced && !hasFreespace state then do
    let last ← follow (Ring.prevOf state.slots state.nil)
    assertThat (last != state.nil) "state->nil->prev != state->nil"
    let chunk ← follow (state.slots.read last)
    if chunk.value.rank < state.insertrank then removeSlot space state last
    else return state
  else return state

/-- The ranked policies insert at the rank cursor, which keeps the window
ordered by the rank. -/
def putRanked [LT R] [DecidableLT R] (state : LinkedWindow T R) (tuple : T)
    (timestamp : Nat) (forced : Bool) : Except Fault (LinkedWindow T R) := do
  let state ← makeRoom space state forced
  if hasFreespace state then
    putTupleSlotImpl space state tuple timestamp state.rankinsert state.insertrank
  else return state

/-- `tuplewindow_puttupleslot`. -/
def putTupleSlot [LT R] [DecidableLT R] (negDblMax : R) (state : LinkedWindow T R)
    (tuple : T) (timestamp : Nat) (forced : Bool) : Except Fault (LinkedWindow T R) :=
  match state.policy with
  | .append => putUnranked space negDblMax state tuple timestamp state.nil forced
  | .prepend => do
      let first ← follow (Ring.nextOf state.slots state.nil)
      putUnranked space negDblMax state tuple timestamp first forced
  | .entropy | .random => putRanked space state tuple timestamp forced

end LinkedWindow

end PgSkyline
