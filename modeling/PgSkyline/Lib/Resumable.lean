import Mathlib.Logic.Relation
import Mathlib.Order.WellFounded

/-!
# Resumable producers

A resumable producer is a routine that its caller invokes again and again: each
call loops over a body until the body hands one result to the caller or reports
the end.  The state survives between the calls, so a whole drain of the producer
is an iteration of the body in which some passes emit a result.

The module gives the drain relation, an executable bounded run, and the three
rules the clients use: total correctness from an invariant and a variant,
divergence from an invariant, and transfer along a simulation.
-/

namespace Resumable

universe u v w x

/-- What one pass of the body does: loop again, hand a result to the caller, or
report that there are no more results. -/
inductive Outcome (τ : Type w) where
  | again
  | emit (result : τ)
  | finished
  deriving DecidableEq, Repr

/-- A loop body over states `σ` with results `τ` and failures `ε`. -/
abbrev Body (ε : Type u) (σ : Type v) (τ : Type w) :=
  σ → Except ε (σ × Outcome τ)

variable {ε : Type u} {σ : Type v} {τ : Type w}

/-- Calling the producer until it reports the end returns the results `out`. -/
inductive Drains (body : Body ε σ τ) : σ → List τ → σ → Prop
  | again {s s' last : σ} {out : List τ} :
      body s = .ok (s', .again) → Drains body s' out last → Drains body s out last
  | emit {s s' last : σ} {result : τ} {out : List τ} :
      body s = .ok (s', .emit result) → Drains body s' out last →
      Drains body s (result :: out) last
  | finished {s last : σ} : body s = .ok (last, .finished) → Drains body s [] last

/-- Only the first pass looks at the first state. -/
theorem Drains.of_body_eq {body : Body ε σ τ} {s s' last : σ} {out : List τ}
    (drains : Drains body s out last) (samePass : body s' = body s) : Drains body s' out last := by
  cases drains with
  | again step rest => exact .again (samePass.trans step) rest
  | emit step rest => exact .emit (samePass.trans step) rest
  | finished step => exact .finished (samePass.trans step)

/-- How a bounded run of the body ended. -/
inductive Ending (ε : Type u) where
  | running
  | finished
  | failed (error : ε)
  deriving DecidableEq, Repr

/-- Run at most the given number of passes, collecting the results. -/
def run (body : Body ε σ τ) : Nat → σ → List τ × Ending ε
  | 0, _ => ([], .running)
  | n + 1, s =>
      match body s with
      | .error error => ([], .failed error)
      | .ok (s', .again) => run body n s'
      | .ok (s', .emit result) =>
          let rest := run body n s'
          (result :: rest.1, rest.2)
      | .ok (_, .finished) => ([], .finished)

variable {body : Body ε σ τ}

/-- A producer has at most one drain. -/
theorem Drains.unique {s last last' : σ} {out out' : List τ}
    (first : Drains body s out last) (second : Drains body s out' last') :
    out = out' ∧ last = last' := by
  induction first generalizing out' with
  | again step _ ih =>
      cases second with
      | again step' rest =>
          cases step.symm.trans step'
          exact ih rest
      | emit step' _ => cases step.symm.trans step'
      | finished step' => cases step.symm.trans step'
  | emit step _ ih =>
      cases second with
      | again step' _ => cases step.symm.trans step'
      | emit step' rest =>
          cases step.symm.trans step'
          obtain ⟨outEq, lastEq⟩ := ih rest
          exact ⟨congrArg _ outEq, lastEq⟩
      | finished step' => cases step.symm.trans step'
  | finished step =>
      cases second with
      | again step' _ => cases step.symm.trans step'
      | emit step' _ => cases step.symm.trans step'
      | finished step' =>
          cases step.symm.trans step'
          exact ⟨rfl, rfl⟩

/-- A drain is a bounded run that finishes, for some bound. -/
theorem exists_drains_iff_exists_run (s : σ) (out : List τ) :
    (∃ last, Drains body s out last) ↔ ∃ n, run body n s = (out, .finished) := by
  constructor
  · rintro ⟨last, drains⟩
    induction drains with
    | again step _ ih =>
        obtain ⟨n, runEq⟩ := ih
        exact ⟨n + 1, by simp [run, step, runEq]⟩
    | emit step _ ih =>
        obtain ⟨n, runEq⟩ := ih
        exact ⟨n + 1, by simp [run, step, runEq]⟩
    | finished step => exact ⟨1, by simp [run, step]⟩
  · rintro ⟨n, runEq⟩
    induction n generalizing s out with
    | zero => simp [run] at runEq
    | succ n ih =>
        cases step : body s with
        | error error => simp [run, step] at runEq
        | ok result =>
            obtain ⟨s', outcome⟩ := result
            cases outcome with
            | again =>
                obtain ⟨last, drains⟩ := ih s' out (by simpa [run, step] using runEq)
                exact ⟨last, .again step drains⟩
            | emit result =>
                simp only [run, step, Prod.mk.injEq] at runEq
                obtain ⟨rfl, ending⟩ := runEq
                obtain ⟨last, drains⟩ := ih s' _ (Prod.ext rfl ending)
                exact ⟨last, .emit step drains⟩
            | finished =>
                have outEq : [] = out := by simpa [run, step] using runEq
                exact ⟨s', outEq ▸ .finished step⟩

/-! ## Observations -/

section Observe

universe y

variable {υ : Type y} (f : τ → Option υ)

/-- What of an outcome is handed to the caller. -/
def Outcome.observe : Outcome τ → Outcome υ
  | .again => .again
  | .emit result =>
      match f result with
      | none => .again
      | some observed => .emit observed
  | .finished => .finished

/-- The producer that hands over only the observed results. -/
def observe (body : Body ε σ τ) : Body ε σ υ := fun s =>
  match body s with
  | .error error => .error error
  | .ok (s', outcome) => .ok (s', outcome.observe f)

theorem observe_of_ok {s s' : σ} {outcome : Outcome τ} (step : body s = .ok (s', outcome)) :
    observe f body s = .ok (s', outcome.observe f) := by
  rw [observe, step]

/-- An observed drain delivers the observed results. -/
theorem Drains.observe {s last : σ} {out : List τ} (drains : Drains body s out last) :
    Drains (observe f body) s (out.filterMap f) last := by
  induction drains with
  | again step _ ih => exact .again (observe_of_ok f step) ih
  | @emit s s' last result out step _ ih =>
      have observed := observe_of_ok f step
      rw [List.filterMap_cons]
      cases kept : f result with
      | none => exact .again (by rw [observed, Outcome.observe, kept]) ih
      | some result' => exact .emit (by rw [observed, Outcome.observe, kept]) ih
  | finished step => exact .finished (observe_of_ok f step)

end Observe

/-! ## Total correctness and divergence -/

/-- A pass keeps the invariant over the results sent so far and decreases the
variant, or it finishes in the postcondition. -/
def Progresses {β : Type x} [LT β] (Inv Post : List τ → σ → Prop) (variant : σ → β)
    (sent : List τ) (s : σ) : σ × Outcome τ → Prop
  | (s', .again) => Inv sent s' ∧ variant s' < variant s
  | (s', .emit result) => Inv (sent ++ [result]) s' ∧ variant s' < variant s
  | (s', .finished) => Post sent s'

/-- If every pass progresses, the producer drains into the postcondition unless a
pass fails in a foreseen way. -/
theorem drains_or_fails_of_variant {β : Type x} [LT β] [WellFoundedLT β] (Failure : ε → Prop)
    (Inv Post : List τ → σ → Prop) (variant : σ → β)
    (step : ∀ sent s, Inv sent s → (∃ error, body s = .error error ∧ Failure error) ∨
      ∃ pass, body s = .ok pass ∧ Progresses Inv Post variant sent s pass)
    (sent : List τ) (s : σ) (inv : Inv sent s) :
    (∃ out last, Drains body s out last ∧ Post (sent ++ out) last) ∨
      ∃ n out error, run body n s = (out, .failed error) ∧ Failure error := by
  rcases (⟨_, rfl⟩ : ∃ b, variant s = b) with ⟨b, variantEq⟩
  induction b using WellFoundedLT.induction generalizing sent s with
  | ind b ih =>
      rcases step sent s inv with ⟨error, bodyEq, foreseen⟩ | ⟨⟨s', outcome⟩, bodyEq, effect⟩
      · exact Or.inr ⟨1, [], error, by simp [run, bodyEq], foreseen⟩
      · cases outcome with
        | again =>
            rcases effect with ⟨inv', smaller⟩
            rcases ih _ (variantEq ▸ smaller) sent s' inv' rfl with
              ⟨out, last, drains, post⟩ | ⟨n, out, error, runEq, foreseen⟩
            · exact Or.inl ⟨out, last, .again bodyEq drains, post⟩
            · exact Or.inr ⟨n + 1, out, error, by simp [run, bodyEq, runEq], foreseen⟩
        | emit result =>
            rcases effect with ⟨inv', smaller⟩
            rcases ih _ (variantEq ▸ smaller) _ s' inv' rfl with
              ⟨out, last, drains, post⟩ | ⟨n, out, error, runEq, foreseen⟩
            · exact Or.inl ⟨result :: out, last, .emit bodyEq drains, by simpa using post⟩
            · exact Or.inr ⟨n + 1, result :: out, error, by simp [run, bodyEq, runEq], foreseen⟩
        | finished =>
            have post : Post sent s' := effect
            exact Or.inl ⟨[], s', .finished bodyEq, by simpa using post⟩

/-- Without failures the producer drains into the postcondition. -/
theorem drains_of_variant {β : Type x} [LT β] [WellFoundedLT β]
    (Inv Post : List τ → σ → Prop) (variant : σ → β)
    (step : ∀ sent s, Inv sent s →
      ∃ pass, body s = .ok pass ∧ Progresses Inv Post variant sent s pass)
    (sent : List τ) (s : σ) (inv : Inv sent s) :
    ∃ out last, Drains body s out last ∧ Post (sent ++ out) last := by
  rcases drains_or_fails_of_variant (fun _ => False) Inv Post variant
    (fun sent s inv => Or.inr (step sent s inv)) sent s inv with
    drained | ⟨_, _, _, _, impossible⟩
  · exact drained
  · exact impossible.elim

/-- A pass keeps the invariant over the results sent so far, or it finishes in the
postcondition. -/
def Keeps (Inv Post : List τ → σ → Prop) (sent : List τ) : σ × Outcome τ → Prop
  | (s', .again) => Inv sent s'
  | (s', .emit result) => Inv (sent ++ [result]) s'
  | (s', .finished) => Post sent s'

/-- Partial correctness: a drain under an invariant ends in the postcondition. -/
theorem Drains.of_invariant {Inv Post : List τ → σ → Prop}
    (step : ∀ sent s pass, Inv sent s → body s = .ok pass → Keeps Inv Post sent pass)
    {s last : σ} {out : List τ} (drains : Drains body s out last) {sent : List τ}
    (inv : Inv sent s) : Post (sent ++ out) last := by
  induction drains generalizing sent with
  | again bodyEq _ ih => exact ih (step _ _ _ inv bodyEq)
  | emit bodyEq _ ih =>
      have continued := ih (step _ _ _ inv bodyEq)
      rwa [List.append_assoc] at continued
  | finished bodyEq =>
      rw [List.append_nil]
      exact step _ _ _ inv bodyEq

/-- Under an invariant with which the body always loops again, it runs forever. -/
theorem run_eq_of_invariant (Inv : σ → Prop)
    (step : ∀ s, Inv s → ∃ s', body s = .ok (s', .again) ∧ Inv s') {s : σ} (inv : Inv s)
    (n : Nat) : run body n s = ([], .running) := by
  induction n generalizing s with
  | zero => rfl
  | succ n ih =>
      rcases step s inv with ⟨s', bodyEq, inv'⟩
      simp only [run, bodyEq, ih inv']

/-- A pass takes its result from the front of what remains, dropping some entries. -/
def Consumes (remaining : σ → List τ) (s : σ) : σ × Outcome τ → Prop
  | (s', .again) => (remaining s').Sublist (remaining s)
  | (s', .emit result) => (result :: remaining s').Sublist (remaining s)
  | (_, .finished) => True

/-- If every pass consumes what remains, the results of a run are a subsequence of
it. -/
theorem run_sublist_of_consumes (Inv : σ → Prop) (remaining : σ → List τ)
    (step : ∀ s pass, Inv s → body s = .ok pass → Inv pass.1 ∧ Consumes remaining s pass) {s : σ}
    (inv : Inv s) (n : Nat) : (run body n s).1.Sublist (remaining s) := by
  induction n generalizing s with
  | zero => exact List.nil_sublist _
  | succ n ih =>
      rw [run]
      cases stepEq : body s with
      | error error => exact List.nil_sublist _
      | ok pass =>
          rcases pass with ⟨s', outcome⟩
          rcases step s (s', outcome) inv stepEq with ⟨inv', consumes⟩
          cases outcome with
          | again => exact (ih inv').trans consumes
          | emit result => exact ((ih inv').cons_cons result).trans consumes
          | finished => exact List.nil_sublist _

/-- A producer that runs forever has no drain. -/
theorem not_drains_of_run_eq {s last : σ} {out : List τ}
    (running : ∀ n, run body n s = ([], .running)) : ¬ Drains body s out last := by
  intro drains
  rcases (exists_drains_iff_exists_run s out).mp ⟨last, drains⟩ with ⟨n, finished⟩
  rw [running n] at finished
  simp at finished

/-! ## Reachable states -/

/-- One pass leads from one state to the other, whatever it hands over. -/
def Moves (body : Body ε σ τ) (s s' : σ) : Prop :=
  ∃ outcome, body s = .ok (s', outcome)

/-- What every pass keeps holds in every state that passes lead to. -/
theorem invariant_of_moves (Inv : σ → Prop)
    (step : ∀ s s' outcome, Inv s → body s = .ok (s', outcome) → Inv s') {s s' : σ} (inv : Inv s)
    (moves : Relation.ReflTransGen (Moves body) s s') : Inv s' := by
  induction moves with
  | refl => exact inv
  | tail _ pass ih =>
      rcases pass with ⟨outcome, bodyEq⟩
      exact step _ _ outcome ih bodyEq

/-! ## Simulation -/

/-- A pass from one state follows a pass from another: both fail alike, or they
have the same outcome and end in related states. -/
def Follows {α : Type x} (R : σ → α → Prop) (pass : Except ε (σ × Outcome τ)) :
    Except ε (α × Outcome τ) → Prop
  | .error error => pass = .error error
  | .ok (a', outcome) => ∃ s', pass = .ok (s', outcome) ∧ R s' a'

theorem follows_error {α : Type x} (R : σ → α → Prop) (error : ε) :
    Follows (τ := τ) R (.error error) (.error error) :=
  rfl

theorem follows_ok {α : Type x} {R : σ → α → Prop} {s : σ} {a : α} (related : R s a)
    (outcome : Outcome τ) : Follows (ε := ε) R (.ok (s, outcome)) (.ok (a, outcome)) :=
  ⟨s, rfl, related⟩

/-- From related states the passes of one body follow those of the other. -/
def Simulates {α : Type x} (body : Body ε σ τ) (abstract : Body ε α τ)
    (R : σ → α → Prop) : Prop :=
  ∀ s a, R s a → Follows R (body s) (abstract a)

namespace Simulates

variable {α : Type x} {abstract : Body ε α τ} {R : σ → α → Prop}

theorem error (simulates : Simulates body abstract R) {s : σ} {a : α} (related : R s a)
    {error : ε} (step : abstract a = .error error) : body s = .error error := by
  have simulated := simulates s a related
  rw [step] at simulated
  exact simulated

theorem ok (simulates : Simulates body abstract R) {s : σ} {a a' : α} (related : R s a)
    {outcome : Outcome τ} (step : abstract a = .ok (a', outcome)) :
    ∃ s', body s = .ok (s', outcome) ∧ R s' a' := by
  have simulated := simulates s a related
  rw [step] at simulated
  exact simulated

/-- A successful pass of the concrete body is one of the abstract body. -/
theorem exists_ok (simulates : Simulates body abstract R) {s s' : σ} {a : α} (related : R s a)
    {outcome : Outcome τ} (step : body s = .ok (s', outcome)) :
    ∃ a', abstract a = .ok (a', outcome) ∧ R s' a' := by
  have simulated := simulates s a related
  rw [step] at simulated
  cases abstractStep : abstract a with
  | error error =>
      rw [abstractStep] at simulated
      cases simulated
  | ok result =>
      rw [abstractStep] at simulated
      rcases simulated with ⟨s'', same, related'⟩
      cases same
      exact ⟨result.1, rfl, related'⟩

/-- Where the concrete body fails, the abstract one fails alike. -/
theorem exists_error (simulates : Simulates body abstract R) {s : σ} {a : α} (related : R s a)
    {error : ε} (step : body s = .error error) : abstract a = .error error := by
  have simulated := simulates s a related
  rw [step] at simulated
  cases abstractStep : abstract a with
  | error error' =>
      rw [abstractStep] at simulated
      cases simulated
      rfl
  | ok result =>
      rw [abstractStep] at simulated
      rcases simulated with ⟨s'', same, _⟩
      cases same

/-- Related states produce the same results in the same number of passes. -/
theorem run_eq (simulates : Simulates body abstract R) (n : Nat) {s : σ} {a : α}
    (related : R s a) : run body n s = run abstract n a := by
  induction n generalizing s a with
  | zero => rfl
  | succ n ih =>
      cases step : abstract a with
      | error error => simp [run, step, simulates.error related step]
      | ok result =>
          obtain ⟨a', outcome⟩ := result
          obtain ⟨s', bodyEq, related'⟩ := simulates.ok related step
          cases outcome <;> simp [run, step, bodyEq, ih related']

/-- A drain of the abstract producer is a drain of the related concrete one. -/
theorem drains (simulates : Simulates body abstract R) {s : σ} {a a' : α} {out : List τ}
    (related : R s a) (abstractDrains : Drains abstract a out a') :
    ∃ last, Drains body s out last ∧ R last a' := by
  induction abstractDrains generalizing s with
  | again step _ ih =>
      obtain ⟨s', bodyEq, related'⟩ := simulates.ok related step
      obtain ⟨last, drains, relatedLast⟩ := ih related'
      exact ⟨last, .again bodyEq drains, relatedLast⟩
  | emit step _ ih =>
      obtain ⟨s', bodyEq, related'⟩ := simulates.ok related step
      obtain ⟨last, drains, relatedLast⟩ := ih related'
      exact ⟨last, .emit bodyEq drains, relatedLast⟩
  | finished step =>
      obtain ⟨s', bodyEq, related'⟩ := simulates.ok related step
      exact ⟨s', .finished bodyEq, related'⟩

end Simulates

end Resumable
