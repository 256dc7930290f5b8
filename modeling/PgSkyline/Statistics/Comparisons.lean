import PgSkyline.Executor.Node
import PgSkyline.Lib.Metered

/-!
# The statistic `cmps_tuples`

Every call of `ExecSkylineIsDominating` adds one to the counter `cmps_tuples`, which
`EXPLAIN ANALYZE` shows.  This module counts the calls that one pass of a window method
makes; a tuple is compared at most once with each tuple in the window.
-/

namespace PgSkyline

open Resumable TupleWindowState

variable {T D R : Type}

/-! ## The calls of one pass -/

section Count

variable [LE R] [DecidableLE R] (space : ChunkSpace T)

/-- How often `probeLoop` calls `ExecSkylineIsDominating`. -/
def probeLoopCmps (isDominating : T → SkylineCmp) (distinct : Bool)
    (secondDominates : TupleWindowState T R → Except Fault (TupleWindowState T R)) :
    Nat → TupleWindowState T R → Nat
  | 0, _ => 0
  | fuel + 1, window =>
      if atEof window then 0
      else
        match getTupleSlot space window false with
        | .ok (some inner, window) =>
            let cmp := isDominating inner
            if dropsSlot distinct cmp then 1
            else if cmp = .secondDominates then
              match secondDominates window with
              | .ok window => 1 + probeLoopCmps isDominating distinct secondDominates fuel window
              | .error _ => 1
            else 1 + probeLoopCmps isDominating distinct secondDominates fuel (moveNext window)
        | _ => 0

/-- The slots from the cursor on. -/
def ahead (window : TupleWindowState T R) : Nat :=
  window.slots.length - window.current

omit [LE R] [DecidableLE R] in
theorem getTupleSlot_false {window window' : TupleWindowState T R} {inner : T}
    (fetched : getTupleSlot space window false = .ok (some inner, window')) :
    window' = window ∧ window.current < window.slots.length := by
  unfold getTupleSlot at fetched
  cases found : window.slots[window.current]? with
  | none => simp [found] at fetched
  | some slot =>
      simp only [found, Bool.false_eq_true, if_false, pure_eq_ok, Except.ok.injEq,
        Prod.mk.injEq] at fetched
      exact ⟨fetched.2.symm, (List.getElem?_eq_some_iff.mp found).1⟩

theorem ahead_moveNext {window : TupleWindowState T R}
    (inside : window.current < window.slots.length) :
    ahead (moveNext window) + 1 = ahead window := by
  simp only [moveNext, List.getElem?_eq_getElem inside, ahead]
  omega

/-- The loop compares the tuple with each slot ahead at most once, whatever becomes of the
slots that it dominates. -/
theorem probeLoopCmps_le {isDominating : T → SkylineCmp} {distinct : Bool}
    {secondDominates : TupleWindowState T R → Except Fault (TupleWindowState T R)}
    (goesOn : ∀ window window', window.current < window.slots.length →
      secondDominates window = .ok window' → ahead window' + 1 ≤ ahead window)
    (fuel : Nat) (window : TupleWindowState T R) :
    probeLoopCmps space isDominating distinct secondDominates fuel window ≤ ahead window := by
  induction fuel generalizing window with
  | zero => exact Nat.zero_le _
  | succ fuel ih =>
      rw [probeLoopCmps]
      split
      · exact Nat.zero_le _
      · split
        · rename_i inner fetchedWindow fetched
          rcases getTupleSlot_false space fetched with ⟨rfl, inside⟩
          have some_ : 1 ≤ ahead fetchedWindow := Nat.sub_pos_of_lt inside
          dsimp only
          split
          · exact some_
          · split
            · split
              · rename_i window' went
                have later := ih window'
                have fewer := goesOn _ _ inside went
                omega
              · exact some_
            · have later := ih (moveNext fetchedWindow)
              have fewer := ahead_moveNext inside
              omega
        · exact Nat.zero_le _

omit [LE R] [DecidableLE R] in
private theorem ahead_removeCurrent {window window' : TupleWindowState T R}
    (inside : window.current < window.slots.length)
    (removed : removeCurrent space window = .ok window') : ahead window' + 1 ≤ ahead window := by
  rcases (bind_eq_ok_iff _ _ _).mp removed with ⟨_, _, removed⟩
  simp only [removeSlot, List.getElem?_eq_getElem inside, Except.ok.injEq] at removed
  subst removed
  have shorter := List.length_eraseIdx_of_lt inside
  simp only [ahead, shorter, positionAfterRemove]
  split <;> omega

private theorem ahead_assertNotSecondDominates {assertChecking : Bool}
    {window window' : TupleWindowState T R} (inside : window.current < window.slots.length)
    (moved : assertNotSecondDominates assertChecking window = .ok window') :
    ahead window' + 1 ≤ ahead window := by
  rcases (bind_eq_ok_iff _ _ _).mp moved with ⟨_, _, moved⟩
  cases moved
  exact Nat.le_of_eq (ahead_moveNext inside)

end Count

section Node

variable [LE R] [DecidableLE R] (env : ExecEnv T D R) (node : Skyline D)

/-- How often `compareWithWindow` calls `ExecSkylineIsDominating`. -/
def compareWithWindowCmps
    (secondDominates : TupleWindowState T R → Except Fault (TupleWindowState T R))
    (flags : SlFlags) (slot : T) (window : TupleWindowState T R) (drawn : Nat) : Nat :=
  match setRank env node flags slot (rewind window) drawn with
  | .error _ => 0
  | .ok (window, _) =>
      probeLoopCmps env.space (fun inner => isDominating env node inner slot)
        node.skylineDistinct secondDominates (window.slots.length + 1) window

/-- What a window method does with a window tuple that the new tuple dominates. -/
def onSecondDominates : TupleWindowState T R → Except Fault (TupleWindowState T R) :=
  match node.skylineMethod with
  | .blockNestedLoop => removeCurrent env.space
  | _ => assertNotSecondDominates env.assertChecking

/-- What one pass of a window method adds to `cmps_tuples`. -/
def windowMethodCmps (state : SkylineState T R) : Nat :=
  match state.status with
  | .process =>
      match fetchSlot env state with
      | .ok (some slot, state) =>
          match deref state.windows state.window with
          | .ok window =>
              compareWithWindowCmps env node (onSecondDominates env node) state.flags slot window
                state.drawn
          | .error _ => 0
      | _ => 0
  | _ => 0

variable {env} {node}

omit [LE R] [DecidableLE R] in
private theorem setRank_slots {flags : SlFlags} {slot : T} {window window' : TupleWindowState T R}
    {drawn drawn' : Nat}
    (ranked : setRank env node flags slot window drawn = .ok (window', drawn')) :
    window'.slots = window.slots ∧ window'.current = window.current := by
  have inserted : ∀ {rank : R} {after : TupleWindowState T R},
      setInsertRank window rank = .ok after →
      after.slots = window.slots ∧ after.current = window.current := by
    intro rank after set
    simp only [setInsertRank, bind_eq_ok_iff] at set
    rcases set with ⟨_, _, _, _, set⟩
    cases set
    exact ⟨rfl, rfl⟩
  unfold setRank at ranked
  split at ranked
  · split at ranked
    · rcases (bind_eq_ok_iff _ _ _).mp ranked with ⟨after, set, result⟩
      cases result
      exact inserted set
    · split at ranked
      · rcases (bind_eq_ok_iff _ _ _).mp ranked with ⟨after, set, result⟩
        cases result
        exact inserted set
      · cases ranked
  · cases ranked
    exact ⟨rfl, rfl⟩

private theorem ahead_onSecondDominates {window window' : TupleWindowState T R}
    (inside : window.current < window.slots.length)
    (went : onSecondDominates env node window = .ok window') :
    ahead window' + 1 ≤ ahead window := by
  unfold onSecondDominates at went
  cases method : node.skylineMethod with
  | blockNestedLoop =>
      rw [method] at went
      exact ahead_removeCurrent env.space inside went
  | _ =>
      rw [method] at went
      exact ahead_assertNotSecondDominates inside went

/-- A tuple is compared at most once with each tuple in the window. -/
theorem compareWithWindowCmps_le (flags : SlFlags) (slot : T) (window : TupleWindowState T R)
    (drawn : Nat) :
    compareWithWindowCmps env node (onSecondDominates env node) flags slot window drawn ≤
      window.slots.length := by
  unfold compareWithWindowCmps
  cases ranked : setRank env node flags slot (rewind window) drawn with
  | error fault => exact Nat.zero_le _
  | ok ranking =>
      rcases ranking with ⟨ranked', drawn'⟩
      rcases setRank_slots ranked with ⟨slots, current⟩
      have aheadEq : ahead ranked' = window.slots.length := by
        simp only [ahead, slots, current, rewind, Nat.sub_zero]
      rw [← aheadEq]
      apply probeLoopCmps_le
      intro before after inside went
      exact ahead_onSecondDominates inside went

end Node

end PgSkyline
