import PgSkyline.Dominance.Core
import PgSkyline.Window.Core

/-!
# Probing a window with a tuple

The inner loop that `ExecSkyline_BlockNestedLoop`, `ExecSkyline_SortFilterSkyline`
and `ExecElimFilter` share: compare the window tuples with the tuple in `slot`
until one of them drops it or the end of the window is reached.  The callers
differ in what they do with a window tuple that the new tuple dominates.
-/

namespace PgSkyline.TupleWindowState

variable {T R : Type} (space : ChunkSpace T)

/-- The comparison result on which the tuple in `slot` is dropped. -/
def dropsSlot (distinct : Bool) (cmp : SkylineCmp) : Bool :=
  cmp == .firstDominates || (cmp == .allEq && distinct)

/-- The loop up to the end of the window (`true`) or to the window tuple that
drops the tuple in `slot` (`false`).  `isDominating` compares a window tuple with
it, and the last window tuple fetched stays in `inner_slot`. -/
def probeLoop [LE R] [DecidableLE R] (isDominating : T → SkylineCmp) (distinct : Bool)
    (secondDominates : TupleWindowState T R → Except Fault (TupleWindowState T R)) :
    Nat → TupleWindowState T R → Option T →
      Except Fault (Bool × TupleWindowState T R × Option T)
  | 0, _, _ => .error .loopBound
  | fuel + 1, window, innerSlot =>
      if atEof window then .ok (true, window, innerSlot)
      else do
        let (innerSlot, window) ← getTupleSlot space window false
        match innerSlot with
        | none => .error .invalidRead
        | some inner =>
            let cmp := isDominating inner
            if dropsSlot distinct cmp then .ok (false, window, innerSlot)
            else if cmp = .secondDominates then do
              let window ← secondDominates window
              probeLoop isDominating distinct secondDominates fuel window innerSlot
            else probeLoop isDominating distinct secondDominates fuel (moveNext window) innerSlot

/-- The loop from the start of the window; it makes at most one pass more than
there are slots. -/
def probe [LE R] [DecidableLE R] (isDominating : T → SkylineCmp) (distinct : Bool)
    (secondDominates : TupleWindowState T R → Except Fault (TupleWindowState T R))
    (window : TupleWindowState T R) (innerSlot : Option T) :
    Except Fault (Bool × TupleWindowState T R × Option T) :=
  probeLoop space isDominating distinct secondDominates (window.slots.length + 1) window innerSlot

/-- What `ExecSkyline_SortFilterSkyline` does with a window tuple that the new
tuple dominates. -/
def assertNotSecondDominates [LE R] [DecidableLE R] (assertChecking : Bool)
    (window : TupleWindowState T R) : Except Fault (TupleWindowState T R) := do
  assertThat (!assertChecking) "cmp != SYKLINE_CMP_SECOND_DOMINATES"
  return moveNext window

end PgSkyline.TupleWindowState
