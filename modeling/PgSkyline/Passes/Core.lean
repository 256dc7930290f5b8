import PgSkyline.Executor.Windowed

/-!
# The window methods without handles

`Pass` is what a window method works on during one pass: the window, the tuples
still to be read from the current source and the tuples already written to
`tempOut`.  The two machines of this module make the same decisions as the
methods of the executor, on lists instead of plans and files.
-/

namespace PgSkyline

open Resumable TupleWindowState

structure Pass (T R : Type) where
  status : SkylineStatus
  window : TupleWindowState T R
  /-- The unread tuples of the current source. -/
  pending : List T
  /-- The contents of `tempOut`. -/
  overflow : List T
  timestampIn : Nat
  timestampOut : Nat
  drawn : Nat

variable {T D R : Type} [LE R] [DecidableLE R] [LT R] [DecidableLT R]
variable (env : ExecEnv T D R) (node : Skyline D) (flags : SlFlags)

/-- The state of a window method before its first pass. -/
def Pass.init (window : TupleWindowState T R) (input : List T) (drawn : Nat) : Pass T R where
  status := .init
  window := window
  pending := input
  overflow := []
  timestampIn := 0
  timestampOut := 0
  drawn := drawn

/-- Append a tuple to the overflow of a pass if it was not stored. -/
def Pass.spill (pass : Pass T R) (disposition : Disposition) (slot : T) : Pass T R :=
  if disposition = .overflows then
    { pass with overflow := pass.overflow ++ [slot], timestampOut := pass.timestampOut + 1 }
  else pass

/-! ## Block nested loop -/

/-- The next tuple of a block nested loop pass. -/
def blockNestedLoopStep (pass : Pass T R) (slot : T) (rest : List T) :
    Except Fault (Pass T R × Outcome T) := do
  let admission ←
    offerToWindow env node (removeCurrent env.space) pass.timestampOut flags slot pass.window
      pass.drawn none
  return ({ pass with
    status := .pipeout
    window := rewind admission.window
    pending := rest
    timestampIn := pass.timestampIn + 1
    drawn := admission.drawn }.spill admission.disposition slot, .again)

/-- Return the current window tuple and remove it from the window. -/
def Pass.pipeOut (pass : Pass T R) : Except Fault (Pass T R × Outcome T) := do
  let (resultSlot, window) ← getTupleSlot env.space pass.window true
  match resultSlot with
  | none => return ({ pass with window }, .finished)
  | some result => return ({ pass with window }, .emit result)

def blockNestedLoopPass : Body Fault (Pass T R) T := fun pass =>
  match pass.status with
  | .init => return ({ pass with
      status := .process, overflow := [], timestampIn := 0, timestampOut := 0 }, .again)
  | .process =>
      match pass.pending with
      | [] =>
          if pass.timestampOut = 0 then
            return ({ pass with status := .finalPipeout, window := rewind pass.window }, .again)
          else
            return ({ pass with
              status := .pipeout, window := rewind pass.window, pending := pass.overflow
              overflow := [], timestampIn := 0, timestampOut := 0 }, .again)
      | slot :: rest => blockNestedLoopStep env node flags pass slot rest
  | .pipeout =>
      if atEof pass.window then return ({ pass with status := .process }, .again)
      else do
        let timestamp ← timestampCurrent pass.window
        if timestamp = pass.timestampIn then pass.pipeOut env
        else return ({ pass with window := moveNext pass.window }, .again)
  | .finalPipeout =>
      if atEof pass.window then return ({ pass with status := .done }, .finished)
      else pass.pipeOut env
  | .done => return (pass, .finished)

/-! ## Sort filter skyline -/

/-- The next tuple of a sort-filter-skyline pass. -/
def sortFilterStep (pass : Pass T R) (slot : T) (rest : List T) :
    Except Fault (Pass T R × Outcome T) := do
  let admission ← offerToWindow env node (assertNotSecondDominates env.assertChecking) 0 flags slot
    pass.window pass.drawn none
  let pass := { pass with
    window := admission.window
    pending := rest
    drawn := admission.drawn }.spill admission.disposition slot
  if admission.disposition = .stored then return (pass, .emit slot) else return (pass, .again)

def sortFilterPass : Body Fault (Pass T R) T := fun pass =>
  match pass.status with
  | .init => return ({ pass with status := .process, overflow := [], timestampOut := 0 }, .again)
  | .process =>
      match pass.pending with
      | [] =>
          if pass.timestampOut = 0 then return ({ pass with status := .done }, .finished)
          else
            return ({ pass with
              window := clean pass.window, pending := pass.overflow, overflow := []
              timestampOut := 0 }, .again)
      | slot :: rest => sortFilterStep env node flags pass slot rest
  | .done => return (pass, .finished)
  | .pipeout | .finalPipeout => throw (.assertion "0")

/-! ## The inner slot -/

omit [LT R] [DecidableLT R] in
/-- The inner slot is only ever written. -/
theorem probeLoop_innerSlot (compare : T → SkylineCmp) (distinct : Bool)
    (secondDominates : TupleWindowState T R → Except Fault (TupleWindowState T R)) (fuel : Nat)
    (window : TupleWindowState T R) (innerSlot : Option T) :
    match probeLoop env.space compare distinct secondDominates fuel window none with
    | .error fault => probeLoop env.space compare distinct secondDominates fuel window innerSlot =
        .error fault
    | .ok (atEnd, window', _) => ∃ innerSlot',
        probeLoop env.space compare distinct secondDominates fuel window innerSlot =
          .ok (atEnd, window', innerSlot') := by
  cases fuel with
  | zero => rfl
  | succ fuel =>
      simp only [probeLoop]
      by_cases atEnd : atEof window = true
      · simp [atEnd]
      · simp only [atEnd, Bool.false_eq_true, if_false]
        generalize (getTupleSlot env.space window false >>= _ : Except Fault _) = result
        cases result with
        | error fault => rfl
        | ok result => exact ⟨_, rfl⟩

/-- What `offerToWindow` decides does not depend on the inner slot. -/
theorem offerToWindow_innerSlot
    (secondDominates : TupleWindowState T R → Except Fault (TupleWindowState T R))
    (timestamp : Nat) (slot : T) (window : TupleWindowState T R) (drawn : Nat)
    (innerSlot : Option T) :
    match offerToWindow env node secondDominates timestamp flags slot window drawn none with
    | .error fault =>
        offerToWindow env node secondDominates timestamp flags slot window drawn innerSlot =
          .error fault
    | .ok admission => ∃ innerSlot',
        offerToWindow env node secondDominates timestamp flags slot window drawn innerSlot =
          .ok { admission with innerSlot := innerSlot' } := by
  unfold offerToWindow compareWithWindow
  cases ranked : setRank env node flags slot (rewind window) drawn with
  | error fault => rfl
  | ok ranking =>
      obtain ⟨window, drawn⟩ := ranking
      simp only [ok_bind, probe]
      have independent := probeLoop_innerSlot env (fun inner => isDominating env node inner slot)
        node.skylineDistinct secondDominates (window.slots.length + 1) window innerSlot
      revert independent
      cases probeLoop env.space (fun inner => isDominating env node inner slot)
          node.skylineDistinct secondDominates (window.slots.length + 1) window none with
      | error fault =>
          intro independent
          simp only [independent, error_bind]
      | ok result =>
          obtain ⟨atEnd, window', inner⟩ := result
          rintro ⟨innerSlot', independent⟩
          simp only [independent, ok_bind, pure_eq_ok]
          cases atEnd with
          | false => exact ⟨innerSlot', rfl⟩
          | true =>
              simp only [if_true]
              by_cases free : hasFreespace window' = true
              · simp only [free, if_true]
                cases putTupleSlot env.space env.negDblMax window' slot timestamp false with
                | error fault => rfl
                | ok stored => exact ⟨innerSlot', rfl⟩
              · simp only [free]
                exact ⟨innerSlot', rfl⟩

end PgSkyline
