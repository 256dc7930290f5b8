import PgSkyline.Lib.Resumable

/-!
# Metered producers

A metered producer adds up what its passes cost.  The potential method bounds the total
in every state of every run: each pass pays for itself out of a credit that the
invariant keeps.
-/

namespace Resumable

universe u v w

variable {ε : Type u} {σ : Type v} {τ : Type w}

/-- The producer with a counter beside its state. -/
def metered (body : Body ε σ τ) (cost : σ → Nat) : Body ε (σ × Nat) τ := fun (s, total) =>
  match body s with
  | .error error => .error error
  | .ok (s', outcome) => .ok ((s', total + cost s), outcome)

variable {body : Body ε σ τ} {cost : σ → Nat}

theorem exists_of_metered {s s' : σ} {total total' : Nat} {outcome : Outcome τ}
    (step : metered body cost (s, total) = .ok ((s', total'), outcome)) :
    body s = .ok (s', outcome) ∧ total' = total + cost s := by
  rw [metered] at step
  cases bodyEq : body s with
  | error error => simp [bodyEq] at step
  | ok result =>
      rcases result with ⟨next, outcome'⟩
      simp only [bodyEq, Except.ok.injEq, Prod.mk.injEq] at step
      rcases step with ⟨⟨rfl, rfl⟩, rfl⟩
      exact ⟨rfl, rfl⟩

/-- The potential method: if every pass pays its cost out of the credit of its state, a run
costs at most the credit of its first state. -/
theorem total_le_of_credit (Inv : σ → Nat → Prop)
    (pays : ∀ s s' outcome credit, Inv s credit → body s = .ok (s', outcome) →
      ∃ credit', Inv s' credit' ∧ cost s + credit' ≤ credit)
    {s s' : σ} {total total' credit : Nat} (inv : Inv s credit)
    (moves : Relation.ReflTransGen (Moves (metered body cost)) (s, total) (s', total')) :
    total' ≤ total + credit := by
  let Paid : σ × Nat → Prop := fun counted =>
    ∃ left, Inv counted.1 left ∧ counted.2 + left ≤ total + credit
  have paid : Paid (s', total') := by
    refine invariant_of_moves Paid ?_ ⟨credit, inv, Nat.le_refl _⟩ moves
    rintro ⟨t, spent⟩ ⟨t', spent'⟩ outcome ⟨left, invHere, enough⟩ step
    rcases exists_of_metered step with ⟨bodyEq, rfl⟩
    rcases pays t t' outcome left invHere bodyEq with ⟨left', inv', pay⟩
    exact ⟨left', inv', by omega⟩
  rcases paid with ⟨left, _, enough⟩
  omega

end Resumable
