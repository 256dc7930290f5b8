import PgSkyline.Lib.Session

/-!
# Computations in lockstep

Two fallible computations are in lockstep if they fail with the same error or
succeed with related results.  Sequencing keeps this, and so does a session of
requests, so a representation is related to its model operation by operation.
-/

universe u v w x y z

/-- The computations fail alike, or succeed with related results. -/
inductive Lockstep {ε : Type u} {α : Type v} {β : Type w} (R : α → β → Prop) :
    Except ε α → Except ε β → Prop
  | ok {a : α} {b : β} : R a b → Lockstep R (.ok a) (.ok b)
  | error (error : ε) : Lockstep R (.error error) (.error error)

namespace Lockstep

variable {ε : Type u}

section Sequences

variable {α β γ δ : Type v} {R : α → β → Prop} {S : γ → δ → Prop}

/-- Related continuations stay in lockstep. -/
theorem bind {first : Except ε α} {second : Except ε β} {f : α → Except ε γ} {g : β → Except ε δ}
    (lockstep : Lockstep R first second) (continued : ∀ a b, R a b → Lockstep S (f a) (g b)) :
    Lockstep S (first >>= f) (second >>= g) := by
  cases lockstep with
  | ok related => exact continued _ _ related
  | error error => exact .error error

theorem mono {R' : α → β → Prop} {first : Except ε α} {second : Except ε β}
    (lockstep : Lockstep R first second) (weaker : ∀ a b, R a b → R' a b) :
    Lockstep R' first second := by
  cases lockstep with
  | ok related => exact .ok (weaker _ _ related)
  | error error => exact .error error

/-- A successful computation has its counterpart. -/
theorem exists_first {first : Except ε α} {second : Except ε β}
    (lockstep : Lockstep R first second) {b : β} (succeeded : second = .ok b) :
    ∃ a, first = .ok a ∧ R a b := by
  cases lockstep with
  | ok related =>
      cases succeeded
      exact ⟨_, rfl, related⟩
  | error error => cases succeeded

theorem exists_second {first : Except ε α} {second : Except ε β}
    (lockstep : Lockstep R first second) {a : α} (succeeded : first = .ok a) :
    ∃ b, second = .ok b ∧ R a b := by
  cases lockstep with
  | ok related =>
      cases succeeded
      exact ⟨_, rfl, related⟩
  | error error => cases succeeded

theorem error_of_error {first : Except ε α} {second : Except ε β}
    (lockstep : Lockstep R first second) {error : ε} (failed : second = .error error) :
    first = .error error := by
  cases lockstep with
  | ok related => cases failed
  | error error' =>
      cases failed
      rfl

end Sequences

section Sessions

variable {σ : Type v} {τ : Type w} {ι : Type x} {ω : Type y} {R : σ → τ → Prop}
variable {step : Session.Step ε σ ι ω} {modelStep : Session.Step ε τ ι ω}

/-- The answers are the same and the objects are related. -/
def SameAnswer {ο : Type z} (R : σ → τ → Prop) (first : ο × σ) (second : ο × τ) : Prop :=
  first.1 = second.1 ∧ R first.2 second.2

/-- If every answer is given in lockstep, then so is a session. -/
theorem run (steps : ∀ s t request, R s t →
      Lockstep (SameAnswer R) (step s request) (modelStep t request))
    {s : σ} {t : τ} (related : R s t) (requests : List ι) :
    Lockstep (SameAnswer R) (Session.run step s requests) (Session.run modelStep t requests) := by
  induction requests generalizing s t with
  | nil => exact .ok ⟨rfl, related⟩
  | cons request rest ih =>
      have answered := steps s t request related
      rw [Session.run, Session.run]
      generalize step s request = first at answered
      generalize modelStep t request = second at answered
      cases answered with
      | error error => exact .error error
      | @ok a b same =>
          rcases a with ⟨answer, s'⟩
          rcases b with ⟨answer', t'⟩
          rcases same with ⟨rfl, related'⟩
          have continued := ih related'
          simp only
          generalize Session.run step s' rest = first at continued
          generalize Session.run modelStep t' rest = second at continued
          cases continued with
          | error error => exact .error error
          | @ok a b same =>
              rcases a with ⟨answers, last⟩
              rcases b with ⟨answers', last'⟩
              rcases same with ⟨rfl, relatedLast⟩
              exact .ok ⟨rfl, relatedLast⟩

end Sessions

end Lockstep
