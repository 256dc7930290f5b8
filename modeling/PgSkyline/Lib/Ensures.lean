import Mathlib.Init

/-!
# Postconditions of fallible computations

`Ensures x post failing` says what holds of the result of a computation and of
its error.  Both sides compose along sequences, so a fact about a routine is
assembled from the facts about its parts.
-/

namespace Fallible

universe u v

variable {ε : Type u} {α β : Type v} {post post' : α → Prop} {failing failing' : ε → Prop}

/-- The computation returns a result with the postcondition or fails in the
described way. -/
def Ensures (x : Except ε α) (post : α → Prop) (failing : ε → Prop) : Prop :=
  match x with
  | .ok a => post a
  | .error error => failing error

@[simp]
theorem ensures_ok_iff (a : α) : Ensures (.ok a : Except ε α) post failing ↔ post a :=
  Iff.rfl

@[simp]
theorem ensures_error_iff (error : ε) :
    Ensures (.error error : Except ε α) post failing ↔ failing error :=
  Iff.rfl

@[simp]
theorem ensures_pure_iff (a : α) : Ensures (pure a : Except ε α) post failing ↔ post a :=
  Iff.rfl

@[simp]
theorem ensures_throw_iff (error : ε) :
    Ensures (throw error : Except ε α) post failing ↔ failing error :=
  Iff.rfl

namespace Ensures

variable {x : Except ε α}

theorem ok {a : α} (ensures : Ensures x post failing) (xEq : x = .ok a) : post a := by
  rw [xEq] at ensures
  exact ensures

theorem error {e : ε} (ensures : Ensures x post failing) (xEq : x = .error e) : failing e := by
  rw [xEq] at ensures
  exact ensures

/-- What the first part returns is what the second part starts from. -/
theorem bind {middle : α → Prop} {result : β → Prop} {f : α → Except ε β}
    (first : Ensures x middle failing) (second : ∀ a, middle a → Ensures (f a) result failing) :
    Ensures (x >>= f) result failing := by
  cases x with
  | ok a => exact second a first
  | error e => exact first

theorem mono (ensures : Ensures x post failing) (weaken : ∀ a, post a → post' a) :
    Ensures x post' failing := by
  cases x with
  | ok a => exact weaken a ensures
  | error e => exact ensures

/-- The failures may be described less exactly. -/
theorem weaken (ensures : Ensures x post failing) (implies : ∀ e, failing e → failing' e) :
    Ensures x post failing' := by
  cases x with
  | ok a => exact ensures
  | error e => exact implies e ensures

theorem trivial (x : Except ε α) : Ensures x (fun _ => True) fun _ => True := by
  cases x with
  | ok a => exact True.intro
  | error e => exact True.intro

end Ensures

end Fallible
