import PgSkyline.ElimFilter.Result
import PgSkyline.Passes.Scans
import PgSkyline.Passes.Start
import PgSkyline.SortFilter.Correctness

/-!
# Results in the order of the input

Every method but block nested loop, and the elimination filter, hands out a
subsequence of its input.  This needs neither laws of the compare functions nor a
sorted input, and it holds for every part of a run.
-/

namespace PgSkyline

open Resumable TupleWindowState

variable {T D R : Type} {env : ExecEnv T D R} {node : Skyline D}

/-! ## The methods without a window -/

namespace Scan

/-- The tuples a scan may still return. -/
def remaining : Scan T → List T
  | .start tuples => tuples
  | .comparing _ pending => pending
  | .nested tuples pos => tuples.drop pos
  | .stored queue => queue
  | .done => []

theorem run_sublist {body : Body Fault (Scan T) T}
    (consumes : ∀ scan pass, body scan = .ok pass → Consumes remaining scan pass) (scan : Scan T)
    (n : Nat) : (run body n scan).1.Sublist scan.remaining :=
  run_sublist_of_consumes (fun _ => True) remaining
    (fun scan pass _ step => ⟨trivial, consumes scan pass step⟩) trivial n

theorem presortPass_consumes (scan : Scan T) (pass : Scan T × Outcome T)
    (step : presortPass env node scan = .ok pass) : Consumes remaining scan pass := by
  cases scan with
  | start tuples =>
      cases tuples with
      | nil =>
          cases step
          trivial
      | cons tuple rest =>
          cases step
          exact List.Sublist.refl _
  | comparing result pending =>
      cases pending with
      | nil =>
          cases step
          trivial
      | cons tuple rest =>
          rw [presortPass] at step
          split at step
          · cases step
            exact List.Sublist.refl _
          · cases step
            exact List.sublist_cons_self tuple rest
  | done =>
      cases step
      trivial
  | nested tuples pos => cases step
  | stored queue => cases step

theorem nestedLoopFrom_consumes (tuples : List T) (pos : Nat) {pass : Scan T × Outcome T}
    {scan : Scan T} (here : scan.remaining = tuples.drop pos)
    (step : nestedLoopFrom env node tuples pos = .ok pass) : Consumes remaining scan pass := by
  rw [nestedLoopFrom] at step
  cases found : tuples[pos]? with
  | none =>
      rw [found] at step
      cases step
      trivial
  | some result =>
      rcases List.getElem?_eq_some_iff.mp found with ⟨inside, rfl⟩
      have split := List.drop_eq_getElem_cons inside
      simp only [found] at step
      split at step
      · cases step
        rw [Consumes, here, split]
        exact List.sublist_cons_self _ _
      · cases step
        rw [Consumes, here, split]
        exact List.Sublist.refl _

theorem nestedLoopPass_consumes (scan : Scan T) (pass : Scan T × Outcome T)
    (step : nestedLoopPass env node scan = .ok pass) : Consumes remaining scan pass := by
  cases scan with
  | start tuples => exact nestedLoopFrom_consumes tuples 0 rfl step
  | nested tuples pos => exact nestedLoopFrom_consumes tuples pos rfl step
  | done =>
      cases step
      trivial
  | comparing result pending => cases step
  | stored queue => cases step

/-- The stored tuples are a subsequence of the tuples met so far. -/
theorem minimaLoop_sublist (col : SkylineCol D) (tuples : List T) (datum1 : Option (Option D))
    (queue : List T) :
    (minimaLoop env col tuples datum1 queue).2.Sublist (queue ++ tuples) := by
  induction tuples generalizing datum1 queue with
  | nil => simp [minimaLoop]
  | cons slot rest ih =>
      have stores := fun datum => ih datum (queue ++ [slot])
      simp only [List.append_assoc, List.singleton_append] at stores
      cases datum1 with
      | none => exact stores _
      | some datum1 =>
          simp only [minimaLoop]
          split
          · exact stores _
          · split
            · exact (ih _ [slot]).trans (List.sublist_append_right queue _)
            · exact (ih _ queue).trans ((List.sublist_cons_self slot rest).append_left queue)

theorem pipeoutFrom_consumes (queue : List T) {pass : Scan T × Outcome T} {scan : Scan T}
    (here : queue.Sublist scan.remaining) (step : pipeoutFrom queue = .ok pass) :
    Consumes remaining scan pass := by
  cases queue with
  | nil =>
      cases step
      trivial
  | cons tuple rest =>
      cases step
      exact here

theorem oneDimPass_consumes (scan : Scan T) (pass : Scan T × Outcome T)
    (step : oneDimPass env node scan = .ok pass) : Consumes remaining scan pass := by
  cases scan with
  | start tuples =>
      rcases (bind_eq_ok_iff _ _ _).mp step with ⟨col, _, looped⟩
      rcases (bind_eq_ok_iff _ _ _).mp looped with ⟨_, _, pipedOut⟩
      exact pipeoutFrom_consumes _ (minimaLoop_sublist col tuples none []) pipedOut
  | stored queue => exact pipeoutFrom_consumes queue (List.Sublist.refl _) step
  | done =>
      cases step
      trivial
  | comparing result pending => cases step
  | nested tuples pos => cases step

/-- The running minimum is one of the tuples met so far. -/
theorem oneDimDistinctLoop_mem {col : SkylineCol D} {tuples : List T} {resultSlot : Option T}
    {datum1 : Option (Option D)} {result : T}
    (looped : oneDimDistinctLoop env col tuples resultSlot datum1 = .ok (some result)) :
    resultSlot = some result ∨ result ∈ tuples := by
  induction tuples generalizing resultSlot datum1 with
  | nil =>
      rw [oneDimDistinctLoop, Except.ok.injEq] at looped
      exact Or.inl looped
  | cons slot rest ih =>
      have later : ∀ {resultSlot' : Option T} {datum' : Option (Option D)},
          oneDimDistinctLoop env col rest resultSlot' datum' = .ok (some result) →
          resultSlot' = resultSlot ∨ resultSlot' = some slot →
          resultSlot = some result ∨ result ∈ slot :: rest := by
        intro resultSlot' datum' continued from_
        rcases ih continued with stays | inRest
        · rcases from_ with same | new
          · exact Or.inl (same ▸ stays)
          · rw [new, Option.some.injEq] at stays
            exact Or.inr (stays ▸ List.mem_cons_self)
        · exact Or.inr (List.mem_cons_of_mem slot inRest)
      cases resultSlot with
      | none => exact later looped (Or.inr rfl)
      | some current =>
          cases datum1 with
          | none => cases looped
          | some datum1 =>
              rw [oneDimDistinctLoop] at looped
              split at looped
              · exact later looped (Or.inr rfl)
              · exact later looped (Or.inl rfl)

theorem oneDimDistinctPass_consumes (scan : Scan T) (pass : Scan T × Outcome T)
    (step : oneDimDistinctPass env node scan = .ok pass) : Consumes remaining scan pass := by
  cases scan with
  | start tuples =>
      rcases (bind_eq_ok_iff _ _ _).mp step with ⟨col, _, looped⟩
      rcases (bind_eq_ok_iff _ _ _).mp looped with ⟨resultSlot, loopEq, returned⟩
      cases resultSlot with
      | none =>
          cases returned
          trivial
      | some result =>
          cases returned
          have mem := (oneDimDistinctLoop_mem loopEq).resolve_left (by simp)
          exact List.singleton_sublist.mpr mem
  | done =>
      cases step
      trivial
  | comparing result pending => cases step
  | nested tuples pos => cases step
  | stored queue => cases step

end Scan

/-! ## Sort filter skyline -/

namespace SortFilter

variable [LE R] [DecidableLE R] [LT R] [DecidableLT R]

/-- What a run still may return: the overflow is read again before anything that
comes later. -/
def remaining (pass : Pass T R) : List T :=
  if pass.status = .init then pass.pending else pass.overflow ++ pass.pending

/-- Once a tuple has overflowed there is no room for another one. -/
structure KeepsFull (env : ExecEnv T D R) (start : TupleWindowState T R) (pass : Pass T R) :
    Prop where
  balanced : Balanced env.space pass.window
  limits : SameLimits start pass.window
  counted : pass.status = .process → Counted env start pass

variable {start : TupleWindowState T R}

/-- A tuple is put into the window only while the overflow is empty. -/
theorem sortFilterStep_consumes {pass : Pass T R} {slot : T} {rest : List T}
    (keeps : KeepsFull env start pass) (process : pass.status = .process)
    (pending : pass.pending = slot :: rest) {result : Pass T R × Outcome T}
    (step : sortFilterStep env node (slFlagsOf start.policy) pass slot rest = .ok result) :
    KeepsFull env start result.1 ∧ Consumes remaining pass result := by
  rcases keeps.counted process with ⟨timestampOut, full⟩
  rcases keeps.limits with ⟨sizes, count, policy⟩
  have offered := @offerToWindow_assertNotSecondDominates T D R _ _ _ _ env node
    pass.window keeps.balanced 0 slot pass.drawn none
  rw [policy] at offered
  rcases offered with ⟨_, _, failed⟩ | ⟨admission, offerEq, valid, admitted⟩
  · simp only [sortFilterStep, failed, error_bind, reduceCtorEq] at step
  · have limits := keeps.limits.trans valid.limits
    simp only [sortFilterStep, offerEq, ok_bind, pure_eq_ok] at step
    unfold Admitted at admitted
    rw [sizes, count] at admitted
    cases disposition : admission.disposition with
    | dropped =>
        rw [disposition] at admitted
        rcases admitted with ⟨_, slots⟩
        simp only [disposition, Pass.spill, reduceCtorEq, if_false, Except.ok.injEq] at step
        subst step
        constructor
        · exact ⟨valid.balanced, limits, fun _ => ⟨timestampOut, by simpa only [slots] using full⟩⟩
        · simp only [Consumes, remaining, process, pending, reduceCtorEq, if_false]
          exact (List.sublist_cons_self slot rest).append_left _
    | stored =>
        rw [disposition] at admitted
        rcases admitted with ⟨_, _, room⟩
        have noOverflow : pass.overflow = [] := by
          by_contra overflowed
          exact full overflowed room
        simp only [disposition, Pass.spill, reduceCtorEq, if_false, if_true,
          Except.ok.injEq] at step
        subst step
        constructor
        · exact ⟨valid.balanced, limits,
            fun _ => ⟨timestampOut, fun overflowed => absurd noOverflow overflowed⟩⟩
        · simp only [Consumes, remaining, process, pending, noOverflow, reduceCtorEq, if_false,
            List.nil_append]
          exact List.Sublist.refl _
    | overflows =>
        rw [disposition] at admitted
        rcases admitted with ⟨_, slots, noRoom⟩
        simp only [disposition, Pass.spill, reduceCtorEq, if_false, if_true,
          Except.ok.injEq] at step
        subst step
        constructor
        · exact ⟨valid.balanced, limits,
            fun _ => ⟨by simp [timestampOut], fun _ => by simpa only [slots] using noRoom⟩⟩
        · simp only [Consumes, remaining, process, pending, reduceCtorEq, if_false,
            List.append_assoc, List.singleton_append]
          exact List.Sublist.refl _

theorem sortFilterPass_consumes (pass : Pass T R) (result : Pass T R × Outcome T)
    (keeps : KeepsFull env start pass)
    (step : sortFilterPass env node (slFlagsOf start.policy) pass = .ok result) :
    KeepsFull env start result.1 ∧ Consumes remaining pass result := by
  unfold sortFilterPass at step
  cases status : pass.status with
  | init =>
      simp only [status, pure_eq_ok, Except.ok.injEq] at step
      subst step
      constructor
      · exact ⟨keeps.balanced, keeps.limits,
          fun _ => ⟨rfl, fun overflowed => absurd rfl overflowed⟩⟩
      · simp only [Consumes, remaining, status, reduceCtorEq, if_false, if_true, List.nil_append]
        exact List.Sublist.refl _
  | process =>
      cases pending : pass.pending with
      | nil =>
          simp only [status, pending, pure_eq_ok] at step
          split at step
          · cases step
            exact ⟨⟨keeps.balanced, keeps.limits, fun process => by cases process⟩, trivial⟩
          · cases step
            constructor
            · exact ⟨balanced_clean, keeps.limits,
                fun _ => ⟨rfl, fun overflowed => absurd rfl overflowed⟩⟩
            · simp only [Consumes, remaining, status, pending, reduceCtorEq, if_false,
                List.nil_append, List.append_nil]
              exact List.Sublist.refl _
      | cons slot rest =>
          simp only [status, pending] at step
          exact sortFilterStep_consumes keeps status pending step
  | done =>
      simp only [status, pure_eq_ok, Except.ok.injEq] at step
      subst step
      exact ⟨keeps, trivial⟩
  | pipeout | finalPipeout => simp [status] at step

theorem run_sublist {pass : Pass T R} (keeps : KeepsFull env start pass) (n : Nat) :
    (run (sortFilterPass env node (slFlagsOf start.policy)) n pass).1.Sublist (remaining pass) :=
  run_sublist_of_consumes (KeepsFull env start) remaining sortFilterPass_consumes keeps n

end SortFilter

/-! ## The elimination filter -/

namespace ElimFilter

variable [LE R] [DecidableLE R] [LT R] [DecidableLT R]

/-- The tuples that the filter has not read. -/
def remaining (state : SkylineState T R) : List T :=
  state.outerPlanState.upcoming

private theorem elimFilterTuple_consumes {state fetchedState : SkylineState T R} {slot : T}
    {pass : SkylineState T R × Outcome T}
    (upcoming : remaining state = slot :: remaining fetchedState)
    (step : elimFilterTuple env node fetchedState slot = .ok pass) :
    Consumes remaining state pass := by
  rcases (bind_eq_ok_iff _ _ _).mp step with ⟨window, _, compared⟩
  rcases (bind_eq_ok_iff _ _ _).mp compared with ⟨⟨atEnd, scannedWindow, drawn, innerSlot⟩, _, rest⟩
  cases atEnd with
  | false =>
      cases rest
      rw [Consumes, upcoming]
      exact List.sublist_cons_self slot _
  | true =>
      rcases (bind_eq_ok_iff _ _ _).mp rest with ⟨stored, _, returned⟩
      cases returned
      rw [Consumes, upcoming]
      exact List.Sublist.refl _

private theorem execElimFilter_consumes (state : SkylineState T R)
    (pass : SkylineState T R × Outcome T)
    (step : execElimFilter env node state = .ok pass) : Consumes remaining state pass := by
  unfold execElimFilter at step
  cases status : state.status with
  | init =>
      simp only [status, pure_eq_ok, Except.ok.injEq] at step
      subst step
      exact List.Sublist.refl _
  | process =>
      cases upcoming : state.outerPlanState.upcoming with
      | nil =>
          simp only [status, OuterPlan.procNode_of_upcoming_nil upcoming] at step
          cases step
          trivial
      | cons slot rest =>
          rcases OuterPlan.procNode_of_upcoming_cons upcoming with ⟨fetched, advanced⟩
          rw [fetched] at advanced
          simp only [status, fetched] at step
          apply elimFilterTuple_consumes _ step
          rw [remaining, upcoming, remaining, advanced]
  | done =>
      simp only [status, pure_eq_ok, Except.ok.injEq] at step
      subst step
      trivial
  | pipeout | finalPipeout => simp [status] at step

theorem run_sublist (state : SkylineState T R) (n : Nat) :
    (run (execElimFilter env node) n state).1.Sublist (remaining state) :=
  run_sublist_of_consumes (fun _ => True) remaining
    (fun state pass _ step => ⟨trivial, execElimFilter_consumes state pass step⟩) trivial n

end ElimFilter

end PgSkyline
