import PgSkyline.Lib.Ensures
import PgSkyline.Window.Invariant
import PgSkyline.Window.Representation

/-!
# Requests to a tuple window

The operations of a window as the requests of a session, answered by the window
with pointers and by the window with positions.  Both give the same answers, and
the accounts and cursors of the latter stay valid unless a window is cleaned
while its rank cursor points to a slot.
-/

namespace PgSkyline

open Fallible

/-- A call of a function of `utils/skyline/tuplewindow.c`. -/
inductive WindowRequest (T R : Type) where
  | hasFreespace
  | rewind
  | ateof
  | movenext
  | timestampcurrent
  | gettupleslot (removeit : Bool)
  | removecurrent
  | clean
  | setinsertrank (rank : R)
  | puttupleslot (tuple : T) (timestamp : Nat) (forced : Bool)
  deriving DecidableEq, Repr

inductive WindowReply (T : Type) where
  | done
  | flag (value : Bool)
  | timestamp (value : Nat)
  | slot (tuple : Option T)
  deriving DecidableEq, Repr

variable {T R : Type} [LE R] [DecidableLE R] [LT R] [DecidableLT R]
variable (space : ChunkSpace T) (negDblMax : R)

/-- How a window with positions answers. -/
def TupleWindowState.answer :
    Session.Step Fault (TupleWindowState T R) (WindowRequest T R) (WindowReply T) :=
  fun window request =>
    match request with
    | .hasFreespace => .ok (.flag window.hasFreespace, window)
    | .rewind => .ok (.done, window.rewind)
    | .ateof => .ok (.flag window.atEof, window)
    | .movenext => .ok (.done, window.moveNext)
    | .timestampcurrent => do return (.timestamp (← window.timestampCurrent), window)
    | .gettupleslot removeit => do
        let (slot, window) ← window.getTupleSlot space removeit
        return (.slot slot, window)
    | .removecurrent => do return (.done, ← window.removeCurrent space)
    | .clean => .ok (.done, window.clean)
    | .setinsertrank rank => do return (.done, ← window.setInsertRank rank)
    | .puttupleslot tuple timestamp forced => do
        return (.done, ← window.putTupleSlot space negDblMax tuple timestamp forced)

/-- How a window with pointers answers. -/
def LinkedWindow.answer :
    Session.Step Fault (LinkedWindow T R) (WindowRequest T R) (WindowReply T) :=
  fun state request =>
    match request with
    | .hasFreespace => .ok (.flag state.hasFreespace, state)
    | .rewind => do return (.done, ← state.rewind)
    | .ateof => .ok (.flag state.atEof, state)
    | .movenext => do return (.done, ← state.moveNext)
    | .timestampcurrent => do return (.timestamp (← state.timestampCurrent), state)
    | .gettupleslot removeit => do
        let (slot, state) ← state.getTupleSlot space removeit
        return (.slot slot, state)
    | .removecurrent => do return (.done, ← state.removeCurrent space)
    | .clean => do return (.done, ← state.clean)
    | .setinsertrank rank => do return (.done, ← state.setInsertRank rank)
    | .puttupleslot tuple timestamp forced => do
        return (.done, ← state.putTupleSlot space negDblMax tuple timestamp forced)

/-! ## Both windows answer alike -/

namespace LinkedWindow

omit [LE R] [DecidableLE R] [LT R] [DecidableLT R] in
theorem reply_lockstep {first : Except Fault (LinkedWindow T R)}
    {second : Except Fault (TupleWindowState T R)} (lockstep : Lockstep Represented first second)
    (reply : WindowReply T) :
    Lockstep (Lockstep.SameAnswer Represented) (first >>= fun state => pure (reply, state))
      (second >>= fun window => pure (reply, window)) :=
  lockstep.bind fun _ _ represented => .ok ⟨rfl, represented⟩

/-- Every request is answered in lockstep. -/
theorem answer_lockstep {state : LinkedWindow T R} {window : TupleWindowState T R}
    (represented : Represented state window) (request : WindowRequest T R) :
    Lockstep (Lockstep.SameAnswer Represented) (answer space negDblMax state request)
      (TupleWindowState.answer space negDblMax window request) := by
  rcases represented with ⟨ring, represents⟩
  cases request with
  | hasFreespace =>
      rw [answer, TupleWindowState.answer, represents.hasFreespace_eq]
      exact .ok ⟨rfl, ring, represents⟩
  | rewind => exact reply_lockstep (rewind_lockstep represents) .done
  | ateof =>
      rw [answer, TupleWindowState.answer, represents.atEof_eq]
      exact .ok ⟨rfl, ring, represents⟩
  | movenext => exact reply_lockstep (moveNext_lockstep represents) .done
  | timestampcurrent =>
      apply (timestampCurrent_lockstep represents).bind
      rintro _ _ rfl
      exact .ok ⟨rfl, ring, represents⟩
  | gettupleslot removeit =>
      apply (getTupleSlot_lockstep space represents removeit).bind
      rintro ⟨slot, state'⟩ ⟨_, window'⟩ ⟨rfl, represented'⟩
      exact .ok ⟨rfl, represented'⟩
  | removecurrent => exact reply_lockstep (removeCurrent_lockstep space represents) .done
  | clean => exact reply_lockstep (clean_lockstep represents) .done
  | setinsertrank rank => exact reply_lockstep (setInsertRank_lockstep represents rank) .done
  | puttupleslot tuple timestamp forced =>
      exact reply_lockstep
        (putTupleSlot_lockstep space negDblMax represents tuple timestamp forced) .done

/-- A session with the window with pointers is one with the window with
positions: it has the same replies or the same fault. -/
theorem run_lockstep (dblMax : R) (maxKBytes maxSlots : Int) (policy : TupleWindowPolicy)
    (requests : List (WindowRequest T R)) :
    Lockstep (Lockstep.SameAnswer Represented)
      (Session.run (answer space negDblMax)
        (begin negDblMax dblMax maxKBytes maxSlots policy) requests)
      (Session.run (TupleWindowState.answer space negDblMax)
        (TupleWindowState.begin negDblMax maxKBytes maxSlots policy) requests) :=
  Lockstep.run (fun _ _ request related => answer_lockstep space negDblMax related request)
    ⟨[], represents_begin negDblMax dblMax maxKBytes maxSlots policy⟩ requests

end LinkedWindow

end PgSkyline
