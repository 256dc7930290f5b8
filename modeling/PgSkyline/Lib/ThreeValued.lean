import Mathlib.Data.List.Basic

/-!
# Three-valued logic

The truth values of SQL and the connectives of Kleene's strong logic.  A row passes a
condition only if the condition is true, so what matters of a condition is when it is.
-/

namespace ThreeValued

/-- A truth value; `none` is unknown. -/
abbrev Truth :=
  Option Bool

def conjunction : Truth → Truth → Truth
  | some false, _ => some false
  | _, some false => some false
  | some true, some true => some true
  | _, _ => none

def disjunction : Truth → Truth → Truth
  | some true, _ => some true
  | _, some true => some true
  | some false, some false => some false
  | _, _ => none

/-- The conditions joined with AND. -/
def allOf (conditions : List Truth) : Truth :=
  conditions.foldr conjunction (some true)

/-- The conditions joined with OR. -/
def anyOf (conditions : List Truth) : Truth :=
  conditions.foldr disjunction (some false)

theorem conjunction_eq_true_iff (first second : Truth) :
    conjunction first second = some true ↔ first = some true ∧ second = some true := by
  rcases first with _ | _ | _ <;> rcases second with _ | _ | _ <;> simp [conjunction]

theorem disjunction_eq_true_iff (first second : Truth) :
    disjunction first second = some true ↔ first = some true ∨ second = some true := by
  rcases first with _ | _ | _ <;> rcases second with _ | _ | _ <;> simp [disjunction]

theorem allOf_eq_true_iff (conditions : List Truth) :
    allOf conditions = some true ↔ ∀ condition ∈ conditions, condition = some true := by
  induction conditions with
  | nil => simp [allOf]
  | cons condition conditions ih =>
      rw [List.forall_mem_cons, ← ih]
      exact conjunction_eq_true_iff condition _

theorem anyOf_eq_true_iff (conditions : List Truth) :
    anyOf conditions = some true ↔ ∃ condition ∈ conditions, condition = some true := by
  induction conditions with
  | nil => simp [anyOf]
  | cons condition conditions ih =>
      rw [List.exists_mem_cons_iff, ← ih]
      exact disjunction_eq_true_iff condition _

end ThreeValued
